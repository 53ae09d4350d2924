import Mathlib.Tactic.Common
import UsbSession.Overlap.Schedule

/-!
# Schedules come to rest

The moves that the threads on a session make end by themselves, and `Schedule.run` makes them all
(`Schedule.move?_run`).

Every move takes effort away (`Schedule.effort_of_shift`). A thread has the more effort before it
the farther it is from the end of its operation. It is sent back only after a transfer of no bytes,
which a copy on a queue has answered, and another thread is started only by a copy too. So the
copies on the queues have effort in them as well, and a move that uses one up may spend it.
-/

namespace UsbSession

/-! ## Effort in copies -/

/-- The moves that a copy can cause: eight, and those of another thread, where one is started. -/
def Item.effort {α : Type} (i : Item α) : Nat := if i.during.isSome then 600 else 8

/-- The moves that a transfer which has used up a copy can cause. -/
def Ticket.effort (k : Ticket) : Nat := if k.during.isSome then 600 else 8

namespace Queue

variable {α : Type}

/-- The moves that the copies on a queue can cause. -/
def effort : Queue α → Nat
  | [] => 0
  | i :: q => (i.again + 1) * i.effort + effort q

theorem effort_pop? {q rest : Queue α} {i : Item α} (h : q.pop? = some (i, rest)) :
    q.effort = i.effort + rest.effort := by
  cases q with
  | nil => cases h
  | cons j q =>
    simp only [pop?] at h
    split at h
    · rename_i hlast
      cases h
      rw [effort, hlast, Nat.zero_add, Nat.one_mul]
    · rename_i n hmore
      cases h
      have hsame : Item.effort { i with again := n } = i.effort := rfl
      simp only [effort, hmore, hsame, Nat.succ_eq_add_one, Nat.add_one_mul]
      omega

theorem effort_append (q more : Queue α) : (q ++ more).effort = q.effort + more.effort := by
  induction q with
  | nil => exact (Nat.zero_add _).symm
  | cons i q ih => rw [List.cons_append, effort, effort, ih, Nat.add_assoc]

theorem effort_le (q : Queue α) : q.effort ≤ 600 * q.copies := by
  induction q with
  | nil => exact Nat.le_refl _
  | cons i q ih =>
    have hi : i.effort ≤ 600 := by
      unfold Item.effort
      split <;> omega
    rw [effort, copies, Nat.mul_add, Nat.mul_comm 600]
    exact Nat.add_le_add (Nat.mul_le_mul_left _ hi) ih

end Queue

namespace Device

variable (d : Device) (t : Transfer)

/-- The moves that the copies on the queues of a device can cause. -/
def effort (d : Device) : Nat := d.inbound.effort + d.outbound.effort

/-- A transfer uses up a copy, or the queue of its direction is empty. -/
theorem effort_enter :
    (d.enter t).1.during = none ∧ (d.enter t).2 = d ∨
      d.effort = (d.enter t).1.effort + (d.enter t).2.effort := by
  cases t with
  | read size =>
    simp only [enter, beginRead]
    split
    · exact .inl ⟨rfl, rfl⟩
    · rename_i hpop
      refine .inr ?_
      rw [effort, Queue.effort_pop? hpop, Nat.add_assoc]
      rfl
  | write bytes =>
    simp only [enter, beginWrite]
    split
    · exact .inl ⟨rfl, rfl⟩
    · rename_i hpop
      refine .inr ?_
      rw [effort, Queue.effort_pop? hpop, Nat.add_left_comm]
      rfl

/-- A transfer of no bytes into a buffer that has room has used up a copy. -/
theorem effort_enter_of_zero (hsize : 0 < t.size) (h : (d.enter t).1.answer = .ok []) :
    (d.enter t).2.effort + 8 ≤ d.effort := by
  rcases d.effort_enter t with ⟨-, hsame⟩ | heffort
  · exact absurd (copies_enter_of_zero hsize h) (by rw [hsame]; exact Nat.lt_irrefl _)
  · unfold Ticket.effort at heffort
    split at heffort <;> omega

/-- What is written comes back in one copy at most. -/
theorem effort_leave (answer : HostAnswer) :
    (d.leave t answer).effort ≤ d.effort + 8 ∧ (answer = .ok [] → d.leave t answer = d) := by
  refine ⟨?_, fun h => ?_⟩
  · unfold leave
    split
    · split
      · rw [effort, effort, Queue.effort_append, Nat.add_right_comm]
        exact Nat.le_refl _
      · exact Nat.le_add_right _ _
    · exact Nat.le_add_right _ _
  · rw [h]
    cases t <;> rfl

end Device

/-! ## Effort of threads -/

namespace Point

/-- The moves that a thread at the point has before it, but for those that copies cause. -/
def effort : Point → Nat
  | finished _ => 0
  | leaving .. | looking _ | storing => 1
  | moved _ none | handleClosed => 2
  | moved x (some (.ok [])) => if 0 < x.what.size then 15 else 2
  | moved _ _ => 2
  | moving x (.ok []) => if 0 < x.what.size then 16 else 3
  | moving _ _ => 11
  | starting _ => 12
  | sharing _ => 13
  | checking _ => 14
  | queued .. => 15
  | handleClosing => 3
  | attaching _ => 4
  | attachStarting => 5
  | releasing _ => 6
  | releaseStarting => 7
  | took => 8
  | taking => 9
  | drainLeaving _ => 10
  | drained _ => 11
  | draining reads _ => 12 + 2 * (Session.drainLimit - 1 - reads)
  | drainStarting reads => 13 + 2 * (Session.drainLimit - 1 - reads)
  | drainSharing => 524
  | drainQueued => 525
  | cancelled => 526
  | cancelling _ => 527
  | cancelStarting => 528
  | cancelSharing => 529
  | flipping _ => 530

/-- A thread that begins has no more before it than one that closes. -/
theorem effort_ofRequest (s : Session) (r : Request) : (ofRequest s r).effort ≤ 530 := by
  cases r <;> simp [ofRequest, effort]

/-- Whether a transfer enters the host in the next step of a thread at the point. -/
def enters : Point → Bool
  | starting _ | drainStarting _ => true
  | _ => false

variable {s : Session} {c : Common} {m : Moment} {p : Point} {mv : Move}

theorem effort_of_enterHandle {there gone : Point} {n : Nat}
    (h : enterHandle c m there gone = some mv) (hthere : there.effort < n)
    (hgone : gone.effort < n) : mv.point.effort < n := by
  unfold enterHandle at h
  split at h
  · cases h
  · cases h
    dsimp only
    split
    · exact hthere
    · exact hgone

theorem two_le_effort_moved (x : Exchange) (answer : HostAnswer) :
    2 ≤ (moved x (some answer)).effort := by
  rcases answer with code | _ | ⟨b, bytes⟩ <;> simp only [effort]
  · exact Nat.le_refl _
  · split <;> omega
  · exact Nat.le_refl _

/-- A transfer of no bytes into a buffer that has room is the one with a long way behind it. -/
theorem effort_moving_le (x : Exchange) (answer : HostAnswer) :
    (moving x answer).effort ≤ 16 ∧
      ((answer = .ok [] → ¬(0 < x.what.size)) → (moving x answer).effort ≤ 11) := by
  rcases answer with code | _ | ⟨b, bytes⟩ <;> simp only [effort]
  · exact ⟨by omega, fun _ => Nat.le_refl _⟩
  · exact ⟨by split <;> omega, fun h => by rw [if_neg (h trivial)]; omega⟩
  · exact ⟨by omega, fun _ => Nat.le_refl _⟩

theorem effort_of_step (h : p.step? s c m = some mv) (hp : p.enters = false) :
    mv.point.effort < p.effort := by
  cases p with
  | queued what timeout | drainQueued | taking =>
    simp only [step?] at h
    split at h <;> cases h
    simp [effort]
  | checking x =>
    simp only [step?] at h
    split at h <;> cases h <;> simp [effort]
  | sharing x | cancelSharing => exact effort_of_enterHandle h (by simp [effort]) (by simp [effort])
  | drainSharing => exact effort_of_enterHandle h (by decide) (by decide)
  | moving x answer =>
    cases h
    rcases answer with code | _ | ⟨b, bytes⟩ <;> simp only [effort]
    · omega
    · split <;> omega
    · omega
  | moved x answer =>
    cases answer with
    | none => cases h; simp [effort]
    | some answer =>
      simp only [step?, Option.some.injEq] at h
      subst h
      cases hjudged : (s.judge x.what x.deadline m.now answer).value with
      | done result => exact Nat.lt_of_succ_le (two_le_effort_moved x answer)
      | again rest =>
        -- The thread is sent back by a transfer of no bytes only.
        obtain ⟨rfl, hsize⟩ := Session.judge_again hjudged
        simp only [effort, if_pos hsize]
        omega
  | flipping disconnected =>
    simp only [step?] at h
    split at h <;> cases h
    · cases disconnected <;> simp [effort]
    · simp [effort]
  | draining reads answer =>
    cases answer with
    | ok bytes =>
      simp only [step?] at h
      split at h <;> cases h
      · simp only [effort]
        omega
      · simp only [effort]
        omega
    | error code =>
      cases h
      simp only [effort]
      omega
  | took =>
    simp only [step?, Option.some.injEq] at h
    subst h
    cases c.handle <;> simp [effort]
  | releasing answer =>
    simp only [step?, Option.some.injEq] at h
    subst h
    cases s.reattach <;> simp [effort]
  | attaching answer => cases answer <;> cases h <;> simp [effort]
  | looking request => cases request <;> cases h <;> simp [effort]
  | finished reply => cases h
  | starting x => cases hp
  | drainStarting reads => cases hp
  | leaving | cancelStarting | cancelling | cancelled | drained | drainLeaving | releaseStarting
  | attachStarting | handleClosing | handleClosed | storing => cases h; simp [effort]

end Point

/-! ## What a move does -/

/-- What is asked of the session meanwhile. -/
def Interlude.request : Interlude → Request
  | run r | queue r => r

/-- What the transfer waits for while the thread at the place makes the request. -/
def Interlude.hold (thread : Nat) : Interlude → Hold
  | run (.close _) => .leftOpen
  | run _ => .finished thread
  | queue _ => .pause

namespace Schedule

variable {sch next : Schedule} {i : Nat} {p : Point} {mv : Move} {entries : List Entry}

/-- What the thread at a place does with a schedule when it moves. -/
inductive Shift (sch : Schedule) (i : Nat) (next : Schedule) : Prop
  /-- Its transfer is let go. -/
  | freed {t : Thread} (thread : sch.threads[i]? = some t) (held : t.hold.isSome = true)
      (session : next.session = sch.session) (common : next.common = sch.common)
      (device : next.here.device = sch.here.device)
      (threads : next.threads = sch.threads.set i ⟨t.point, none⟩)
  /-- It makes a step. -/
  | stepped {t : Thread} {mv : Move} (thread : sch.threads[i]? = some t) (free : t.hold = none)
      (step : t.point.step? sch.session sch.common
        { now := sch.here.now, answer := (sch.serve t.point).1 } = some mv)
      (session : next.session = sch.session) (common : next.common = mv.common)
      (device : next.here.device = (sch.serve t.point).2.2.here.device)
      (threads : next.threads = sch.threads.set i ⟨mv.point, none⟩)
  /-- It makes a step during which another thread is started, and has to wait. -/
  | interrupted {t : Thread} {mv : Move} {x : Interlude} (thread : sch.threads[i]? = some t)
      (free : t.hold = none)
      (step : t.point.step? sch.session sch.common
        { now := sch.here.now, answer := (sch.serve t.point).1 } = some mv)
      (during : (sch.serve t.point).2.1 = some x)
      (session : next.session = sch.session) (common : next.common = mv.common)
      (device : next.here.device = (sch.serve t.point).2.2.here.device)
      (threads : next.threads = sch.threads.set i ⟨mv.point, some (x.hold sch.threads.length)⟩ ++
        [⟨.ofRequest sch.session x.request, none⟩])

theorem session_serve (p : Point) : (sch.serve p).2.2.session = sch.session := by
  cases p <;> rfl

theorem threads_interrupt (sch : Schedule) (i : Nat) (point : Point) (x : Interlude) :
    (sch.interrupt i point x).threads =
      sch.threads.set i ⟨point, some (x.hold sch.threads.length)⟩ ++
        [⟨.ofRequest sch.session x.request, none⟩] := by
  rcases x with r | r <;> cases r <;> rfl

theorem shift_of_letGo? {t : Thread} {hold : Hold} (ht : sch.threads[i]? = some t)
    (hhold : t.hold = some hold) (h : sch.letGo? i t.point hold = some next) :
    sch.Shift i next := by
  have hheld : t.hold.isSome = true := by rw [hhold]; rfl
  cases hold with
  | leftOpen =>
    simp only [letGo?] at h
    split at h <;> cases h
    exact .freed ht hheld rfl rfl rfl rfl
  | finished thread =>
    simp only [letGo?, Option.bind_eq_bind, Option.bind_eq_some_iff] at h
    obtain ⟨other, -, reply, -, h⟩ := h
    cases h
    exact .freed ht hheld rfl rfl rfl rfl
  | pause =>
    cases h
    exact .freed ht hheld rfl rfl rfl rfl

theorem shift_of_move? (h : sch.move? i = some (next, entries)) : sch.Shift i next := by
  simp only [move?, Option.bind_eq_bind, Option.bind_eq_some_iff] at h
  obtain ⟨t, ht, h⟩ := h
  cases hhold : t.hold with
  | some hold =>
    simp only [hhold, Option.bind_eq_some_iff] at h
    obtain ⟨freed, hfreed, h⟩ := h
    cases h
    exact shift_of_letGo? ht hhold hfreed
  | none =>
    simp only [hhold, Option.bind_eq_some_iff] at h
    obtain ⟨mv, hstep, h⟩ := h
    split at h
    · cases h
      exact .stepped ht hhold hstep (session_serve _) rfl rfl rfl
    · rename_i x hduring
      cases h
      have hthreads := threads_interrupt { (sch.serve t.point).2.2 with
        common := mv.common, threads := sch.threads.set i ⟨mv.point, none⟩ } i mv.point x
      rw [List.set_set, session_serve, List.length_set] at hthreads
      exact .interrupted ht hhold hstep hduring (session_serve _) rfl rfl hthreads

/-! ## Effort of schedules -/

end Schedule

/-- The moves that a thread has before it: it also has to be let go, if its transfer waits. -/
def Thread.effort (t : Thread) : Nat := t.point.effort + t.hold.isSome.toNat

/-- The moves that threads have before them. -/
def effortOf : List Thread → Nat
  | [] => 0
  | t :: ts => t.effort + effortOf ts

theorem effortOf_append (ts us : List Thread) :
    effortOf (ts ++ us) = effortOf ts + effortOf us := by
  induction ts with
  | nil => exact (Nat.zero_add _).symm
  | cons t ts ih => rw [List.cons_append, effortOf, effortOf, ih, Nat.add_assoc]

/-- One thread is replaced. -/
theorem effortOf_set {ts : List Thread} {i : Nat} {t : Thread} (h : ts[i]? = some t) (u : Thread) :
    effortOf (ts.set i u) + t.effort = effortOf ts + u.effort := by
  induction ts generalizing i with
  | nil => cases h
  | cons first ts ih =>
    cases i with
    | zero =>
      cases h
      rw [List.set_cons_zero, effortOf, effortOf]
      omega
    | succ i =>
      have := ih h
      rw [List.set_cons_succ, effortOf, effortOf]
      omega

namespace Schedule

variable {sch next : Schedule} {i : Nat} {p : Point} {mv : Move} {entries : List Entry}

/-- The moves that the threads have before them and the copies can cause. -/
def effort (sch : Schedule) : Nat :=
  sch.here.device.effort + effortOf sch.threads

/-- The moves that are caused by starting another thread and waiting for it. -/
def interludeEffort (during : Option Interlude) : Nat := if during.isSome then 531 else 0

/-- A step takes effort away from the thread or from the copies, and more than that if another
    thread is started with it. -/
theorem effort_serve
    (h : p.step? sch.session sch.common { now := sch.here.now, answer := (sch.serve p).1 } =
      some mv) :
    mv.point.effort + (sch.serve p).2.2.here.device.effort + interludeEffort (sch.serve p).2.1 <
      p.effort + sch.here.device.effort := by
  -- Where a copy is used up its effort is enough for the way back and for another thread.
  have hcopy {t : Transfer} {n : Nat}
      (hcopy : sch.here.device.effort =
        (sch.here.device.enter t).1.effort + (sch.here.device.enter t).2.effort)
      (hn : n < p.effort + 8) :
      n + (sch.here.device.enter t).2.effort + interludeEffort (sch.here.device.enter t).1.during <
        p.effort + sch.here.device.effort := by
    rw [hcopy, Ticket.effort, interludeEffort]
    split <;> omega
  cases p with
  | starting x =>
    cases h
    change (Point.moving x (sch.here.device.enter x.what).1.answer).effort +
      (sch.here.device.enter x.what).2.effort +
      interludeEffort (sch.here.device.enter x.what).1.during < 12 + sch.here.device.effort
    obtain ⟨hback, hend⟩ := Point.effort_moving_le x (sch.here.device.enter x.what).1.answer
    rcases sch.here.device.effort_enter x.what with ⟨hduring, hsame⟩ | hused
    · have hshort := hend fun hzero hsize => by
        have := sch.here.device.effort_enter_of_zero x.what hsize hzero
        rw [hsame] at this
        omega
      rw [hduring, hsame, interludeEffort, if_neg nofun]
      omega
    · exact hcopy hused (Nat.lt_of_le_of_lt hback (by simp only [Point.effort]; omega))
  | drainStarting reads =>
    cases h
    change (Point.draining reads _).effort +
      (sch.here.device.enter (.read Session.drainSize)).2.effort +
      interludeEffort (sch.here.device.enter (.read Session.drainSize)).1.during < _
    rcases sch.here.device.effort_enter (.read Session.drainSize) with ⟨hduring, hsame⟩ | hused
    · rw [hduring, hsame, interludeEffort, if_neg nofun]
      simp only [Point.effort]
      omega
    · exact hcopy hused (by simp only [Point.effort]; omega)
  | moving x answer =>
    cases h
    change (Point.moved x (some answer)).effort + (sch.here.device.leave x.what answer).effort < _
    obtain ⟨hecho, hnone⟩ := sch.here.device.effort_leave x.what answer
    rcases answer with code | _ | ⟨b, bytes⟩ <;> simp only [Point.effort]
    · omega
    · rw [hnone rfl]
      split <;> omega
    · omega
  | _ => exact Nat.add_lt_add_right (Point.effort_of_step h rfl) _

/-- Every move takes effort away. -/
theorem effort_of_shift (h : sch.Shift i next) : next.effort < sch.effort := by
  cases h with
  | @freed t thread held session common device threads =>
    have hsum := effortOf_set thread ⟨t.point, none⟩
    have hfreed : Thread.effort ⟨t.point, none⟩ < t.effort := by
      rw [Thread.effort, Thread.effort, held]
      exact Nat.lt_succ_self _
    rw [effort, effort, device, threads]
    omega
  | @stepped t mv thread free step session common device threads =>
    have hsum := effortOf_set thread ⟨mv.point, none⟩
    have hstep := effort_serve step
    have hfree : t.effort = t.point.effort := by rw [Thread.effort, free]; rfl
    have hnew : Thread.effort ⟨mv.point, none⟩ = mv.point.effort := rfl
    rw [effort, effort, device, threads]
    omega
  | @interrupted t mv x thread free step during session common device threads =>
    have hsum := effortOf_set thread ⟨mv.point, some (x.hold sch.threads.length)⟩
    have hstep := effort_serve step
    have hfree : t.effort = t.point.effort := by rw [Thread.effort, free]; rfl
    have hnew : Thread.effort ⟨mv.point, some (x.hold sch.threads.length)⟩ = mv.point.effort + 1 :=
      rfl
    have hother := Point.effort_ofRequest sch.session x.request
    rw [during, show interludeEffort (some x) = 531 from rfl] at hstep
    rw [effort, effort, device, threads, effortOf_append]
    change _ + (_ + ((Point.ofRequest sch.session x.request).effort + 0)) < _
    omega

/-- Every thread has its turn. -/
theorem mem_order (h : i < sch.threads.length) : i ∈ sch.order := by
  have hi : i ∈ List.range sch.threads.length := List.mem_range.2 h
  rw [order, List.rotateLeft]
  dsimp only
  split
  · exact hi
  · rw [List.mem_append, or_comm, ← List.mem_append, List.take_append_drop]
    exact hi

/-- Where the first that can move is nobody, nobody can. -/
theorem move?_of_findSome? (h : sch.order.findSome? sch.move? = none) (i : Nat) :
    sch.move? i = none := by
  by_cases hi : i < sch.threads.length
  · exact List.findSome?_eq_none_iff.1 h i (mem_order hi)
  · rw [move?, List.getElem?_eq_none (Nat.le_of_not_lt hi)]
    rfl

/-- Nothing moves any more once all the effort is spent. -/
theorem move?_run {fuel : Nat} (h : sch.effort ≤ fuel) (i : Nat) :
    (sch.run fuel).1.move? i = none := by
  induction fuel generalizing sch with
  | zero =>
    -- A move would have to take effort away that is not there.
    cases hmove : sch.move? i with
    | none => exact hmove
    | some moved =>
      have := effort_of_shift (shift_of_move? hmove)
      omega
  | succ fuel ih =>
    rw [run]
    cases hfirst : sch.order.findSome? sch.move? with
    | none => exact move?_of_findSome? hfirst i
    | some moved =>
      obtain ⟨j, -, hmove⟩ := List.exists_of_findSome?_eq_some hfirst
      have := effort_of_shift (shift_of_move? hmove)
      exact ih (by omega)

theorem effort_start (s : Session) (p : Clocked) (c : Common) (r : Request) :
    effort { session := s, here := p, common := c, threads := [⟨.ofRequest s r, none⟩] } ≤
      enough p.device := by
  have hin := p.device.inbound.effort_le
  have hout := p.device.outbound.effort_le
  have hbegin := Point.effort_ofRequest s r
  change p.device.inbound.effort + p.device.outbound.effort +
    ((Point.ofRequest s r).effort + 0 + 0) ≤ 2000 * (p.device.inbound.copies +
      p.device.outbound.copies + 1)
  omega

end Schedule

end UsbSession
