import UsbSession.Proofs.Guise.Session
import UsbSession.Overlap.Schedule

/-!
# Actions that start later

What time it is decides nothing: an action that starts later does the same, later (`Act.Timeless`).
For requests that are performed from beginning to end, and for letting go of a session, to see the
time as a later one is a guise (`Session.timeless_perform`, `Session.timeless_drop`).

A request that others overlap runs as one of several threads, and what they remember of the time
are the deadlines of the transfers under way. With the deadlines moved as the time is
(`Schedule.later`), every step does the same (`Point.step?_later`, `Schedule.move?_later`), and so
do all of them together (`Schedule.run_later`, `Session.timeless_overlapping`).
-/

namespace UsbSession

/-! ## Time -/

/-- The device at a later time. -/
def Clocked.later (k : Nat) (p : Clocked) : Clocked := ⟨p.device, p.now + k⟩

/-- Where the action starts later, it does the same, later. -/
def Act.Timeless {α : Type} (x : Act α) : Prop :=
  ∀ k p, x.run (p.later k) = { x.run p with state := (x.run p).state.later k }

namespace Session

variable (s : Session)

/-- What does the same in the guise of a later time is timeless. -/
theorem timeless_of_mirrors {α : Type} {x : Act α} {A : α → α} (hA : ∀ a, A a = a)
    (h : ∀ k, Guise.Mirrors { later := k } A x x) : x.Timeless := by
  intro k p
  have hclocked : Guise.clocked { later := k } = Clocked.later k := by
    funext p
    rw [Guise.clocked, Guise.device_eq rfl]
    rfl
  have hentry : Guise.entry { later := k } = some := by
    funext e
    cases e with
    | call c => exact congrArg (fun c => some (Entry.call c)) (congrFun (Guise.call_eq rfl) c)
    | log e => rfl
  have hrun := h k p
  rw [Traced.Mirrors, hclocked, hentry] at hrun
  rw [hrun, Outcome.image, List.filterMap_some, hA]

theorem suits_later (k : Nat) (debug : Bool) : Guise.Suits { later := k } debug := by
  have hplain (e : Log.Event) :
      announce debug e = (announce debug e).filterMap (Guise.entry { later := k }) := by
    cases debug <;> rfl
  constructor
  all_goals
    intro address bs
    rw [Guise.bytes_eq rfl]
    exact hplain _

theorem timeless_perform (r : Request) : (s.perform r).Timeless := by
  refine timeless_of_mirrors (A := fun o => (Guise.reply {} o.1, o.2)) (fun o => ?_) fun k => ?_
  · rw [Guise.reply_eq rfl]
    rfl
  · have hperform := Guise.perform { later := k } (s := s) r fun _ => suits_later k _
    rw [Guise.request_eq rfl] at hperform
    exact hperform

theorem timeless_drop : s.drop.Timeless :=
  timeless_of_mirrors (A := id) (fun _ => rfl) fun k => Guise.drop { later := k } s

end Session

/-! ## Threads -/

/-- The exchange with its deadline moved. -/
def Exchange.later (k : Nat) (x : Exchange) : Exchange :=
  { x with deadline := x.deadline.map (· + k) }

namespace Point

variable (k : Nat)

/-- The point with the deadline of its exchange moved. -/
def later : Point → Point
  | checking x => checking (x.later k)
  | sharing x => sharing (x.later k)
  | starting x => starting (x.later k)
  | moving x answer => moving (x.later k) answer
  | moved x answer => moved (x.later k) answer
  | p => p

@[simp] theorem reply?_later (p : Point) : (p.later k).reply? = p.reply? := by
  cases p <;> rfl

@[simp] theorem later_ofRequest (s : Session) (r : Request) :
    (ofRequest s r).later k = ofRequest s r := by
  cases r <;> rfl

/-- The time that is left until the deadline is the same. -/
theorem judge_later (s : Session) (x : Exchange) (now : Nat) (answer : HostAnswer) :
    s.judge x.what (x.later k).deadline (now + k) answer =
      s.judge x.what x.deadline now answer := by
  rcases answer with code | _ | _
  · rfl
  · unfold Session.judge Exchange.later
    cases x.deadline with
    | none => rfl
    | some due =>
      dsimp only [Option.map_some]
      rw [Nat.add_sub_add_right]
  · rfl

theorem enterHandle_later (c : Common) (m : Moment) (there gone : Point) :
    enterHandle c { m with now := m.now + k } (there.later k) (gone.later k) =
      (enterHandle c m there gone).map fun mv => { mv with point := mv.point.later k } := by
  unfold enterHandle
  dsimp only
  split
  · rfl
  · split <;> rfl

/-- A step at a later time is the same step. -/
theorem step?_later (s : Session) (c : Common) (m : Moment) (p : Point) :
    step? s c { m with now := m.now + k } (p.later k) =
      (step? s c m p).map fun mv => { mv with point := mv.point.later k } := by
  cases p with
  | queued what timeout =>
    unfold step? later
    dsimp only
    split
    · rfl
    · split
      · rfl
      · rw [Nat.add_right_comm]
        rfl
  | moved x answer =>
    cases answer with
    | none => rfl
    | some answer =>
      unfold step? later
      dsimp only
      rw [show (x.later k).what = x.what from rfl, judge_later]
      generalize s.judge x.what x.deadline m.now answer = judged
      obtain ⟨verdict, events⟩ := judged
      cases verdict <;> rfl
  | sharing x => exact enterHandle_later k c m (.starting x) (.moved x none)
  | cancelSharing => exact enterHandle_later k c m .cancelStarting .cancelled
  | drainSharing => exact enterHandle_later k c m (.drainStarting 0) (.drained 0)
  | attaching answer => cases answer <;> rfl
  | looking request => cases request <;> rfl
  | draining reads answer =>
    cases answer with
    | error code => rfl
    | ok bytes =>
      unfold step? later
      dsimp only
      split <;> rfl
  | checking | flipping | drainQueued | taking | took | releasing =>
    unfold step? later
    dsimp only
    repeat' split
    all_goals rfl
  | _ => rfl

end Point

/-- The thread with the deadline of its exchange moved. -/
def Thread.later (k : Nat) (t : Thread) : Thread := { t with point := t.point.later k }

namespace Schedule

variable (k : Nat) (sch : Schedule)

/-- The schedule at a later time. -/
def later : Schedule :=
  { sch with here := sch.here.later k, threads := sch.threads.map (Thread.later k) }

theorem getElem?_later (i : Nat) :
    (sch.later k).threads[i]? = sch.threads[i]?.map (Thread.later k) :=
  List.getElem?_map ..

/-- The host does the same in a step. -/
theorem serve_later (p : Point) : (sch.later k).serve (p.later k) =
    ((sch.serve p).1, (sch.serve p).2.1, (sch.serve p).2.2.later k) := by
  have henter (t : Transfer) : (sch.later k).enter t =
      ((sch.enter t).1, (sch.enter t).2.1, (sch.enter t).2.2.later k) := by
    unfold enter later Clocked.later
    simp only [Nat.add_right_comm _ k]
  cases p with
  | starting x => exact henter x.what
  | drainStarting reads => exact henter (.read Session.drainSize)
  | _ => rfl

theorem set_later (i : Nat) (t : Thread) :
    (sch.later k).threads.set i (t.later k) = (sch.threads.set i t).map (Thread.later k) :=
  List.map_set.symm

theorem interrupt_later (i : Nat) (point : Point) (during : Interlude) :
    (sch.later k).interrupt i (point.later k) during = (sch.interrupt i point during).later k := by
  have hlength : (sch.later k).threads.length = sch.threads.length := List.length_map _
  have hthreads (hold : Hold) (request : Request) :
      (sch.later k).threads.set i ⟨point.later k, some hold⟩ ++
          [⟨.ofRequest sch.session request, none⟩] =
        List.map (Thread.later k) (sch.threads.set i ⟨point, some hold⟩ ++
          [⟨.ofRequest sch.session request, none⟩]) := by
    rw [List.map_append, ← set_later, List.map_singleton, Thread.later, Thread.later,
      Point.later_ofRequest]
  unfold interrupt
  rw [hlength]
  rcases during with request | request
  · cases request <;> exact congrArg (fun threads => Schedule.mk _ _ _ threads _ _) (hthreads _ _)
  · exact congrArg (fun threads => Schedule.mk _ _ _ threads _ _) (hthreads _ _)

theorem letGo?_later (i : Nat) (point : Point) (hold : Hold) :
    (sch.later k).letGo? i (point.later k) hold = (sch.letGo? i point hold).map (later k) := by
  have hset := sch.set_later k i ⟨point, none⟩
  cases hold with
  | leftOpen =>
    change (if sch.common.state = .open then none else _) =
      (if sch.common.state = .open then none else _ : Option Schedule).map _
    split
    · rfl
    · exact congrArg (fun threads => some (Schedule.mk _ _ _ threads _ _)) hset
  | finished thread =>
    simp only [letGo?, getElem?_later, Option.bind_eq_bind]
    cases sch.threads[thread]? with
    | none => rfl
    | some other =>
      simp only [Option.map_some, Option.bind_some, Thread.later, Point.reply?_later]
      cases other.point.reply? with
      | none => rfl
      | some reply => exact congrArg (fun threads => some (Schedule.mk _ _ _ threads _ _)) hset
  | pause =>
    have hnow : sch.here.now + k + pauseTime = sch.here.now + pauseTime + k :=
      Nat.add_right_comm _ _ _
    change some (Schedule.mk _ ⟨_, sch.here.now + k + pauseTime⟩ _ _ _ _) = some _
    rw [hnow]
    exact congrArg (fun threads => some (Schedule.mk _ _ _ threads _ _)) hset

/-- A move at a later time is the same move. -/
theorem move?_later (i : Nat) :
    (sch.later k).move? i = (sch.move? i).map fun moved => (moved.1.later k, moved.2) := by
  unfold move?
  rw [getElem?_later]
  cases sch.threads[i]? with
  | none => rfl
  | some t =>
    obtain ⟨point, hold⟩ := t
    simp only [Option.map_some, Option.bind_eq_bind, Option.bind_some, Thread.later]
    cases hold with
    | some hold =>
      dsimp only
      rw [letGo?_later]
      cases sch.letGo? i point hold <;> rfl
    | none =>
      have hstep := Point.step?_later k sch.session sch.common
        { now := sch.here.now, answer := (sch.serve point).1 } point
      have hnext (mv : Move) : ({ (sch.serve point).2.2.later k with
            common := mv.common
            threads := (sch.later k).threads.set i ⟨mv.point.later k, none⟩ } : Schedule) =
          later k { (sch.serve point).2.2 with
            common := mv.common
            threads := sch.threads.set i ⟨mv.point, none⟩ } :=
        congrArg (fun threads => Schedule.mk _ _ _ threads _ _) (sch.set_later k i ⟨mv.point, none⟩)
      dsimp only
      rw [serve_later, show Point.step? (sch.later k).session (sch.later k).common
        { now := (sch.later k).here.now, answer := (sch.serve point).1 } (point.later k) = _
          from hstep]
      cases Point.step? sch.session sch.common
        { now := sch.here.now, answer := (sch.serve point).1 } point with
      | none => rfl
      | some mv =>
        simp only [Option.map_some, Option.bind_some, hnext]
        cases (sch.serve point).2.1 with
        | none => rfl
        | some during =>
          dsimp only
          rw [interrupt_later]
          rfl

theorem run_later (fuel : Nat) :
    (sch.later k).run fuel = ((sch.run fuel).1.later k, (sch.run fuel).2) := by
  induction fuel generalizing sch with
  | zero => rfl
  | succ fuel ih =>
    have horder : (sch.later k).order = sch.order :=
      congrArg (fun n => (List.range n).rotateLeft 1) (List.length_map _)
    have hfirst : (sch.later k).order.findSome? (sch.later k).move? =
        (sch.order.findSome? sch.move?).map fun moved => (moved.1.later k, moved.2) := by
      rw [horder, show (sch.later k).move? = _ from funext (sch.move?_later k)]
      rw [List.map_findSome?]
      rfl
    rw [run, run, hfirst]
    cases sch.order.findSome? sch.move? with
    | none => rfl
    | some moved =>
      dsimp only [Option.map_some]
      rw [ih]

theorem replies_later (places : List Nat) : (sch.later k).replies places = sch.replies places := by
  unfold replies
  refine congrArg (List.filterMap · places) (funext fun i => ?_)
  rw [getElem?_later]
  cases sch.threads[i]? with
  | none => rfl
  | some t => exact t.point.reply?_later k

end Schedule

namespace Session

/-- A request that others overlap does the same later. -/
theorem timeless_overlapping (s : Session) (r : Request) : (s.overlapping r).Timeless := by
  intro k p
  let start : Schedule := {
    session := s
    here := p
    common := { state := s.state, handle := s.state == .open }
    threads := [⟨.ofRequest s r, none⟩] }
  have hstart : start.later k = { start with here := p.later k } := by
    change Schedule.mk _ _ _ [Thread.later k ⟨.ofRequest s r, none⟩] _ _ = _
    rw [Thread.later, Point.later_ofRequest]
  have hrun := start.run_later k (Schedule.enough p.device)
  rw [hstart] at hrun
  change s.overlapping r (p.later k) = Outcome.mk (s.overlapping r p).value
    ((s.overlapping r p).state.later k) (s.overlapping r p).trace
  unfold overlapping
  dsimp only
  rw [show Schedule.run (Schedule.enough (p.later k).device) _ = _ from hrun]
  dsimp only
  rw [Schedule.replies_later, Schedule.replies_later]
  rfl

end Session

end UsbSession
