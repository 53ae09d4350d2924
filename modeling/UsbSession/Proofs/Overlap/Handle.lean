import UsbSession.Proofs.Life.Conduct
import UsbSession.Proofs.Overlap.Closing
import UsbSession.Proofs.Overlap.Rest

/-!
# The handle of a session

What becomes of the handle of a session that several threads use at once: it is closed once, if and
when the session is (`Session.openHandles_overlapping`).

A handle that is gone was taken away by the one thread that closes the session (`Crowd.Dismantled`).
Between closing the handle and marking the session as closed that thread stands at one of two points
(`Point.parted`), from which it can always go on, so no schedule comes to rest with a thread there.

* `Schedule.Backed`: the threads of a schedule are a crowd, and together they answer for one handle;
* `Schedule.Backed.shift`: one move.
-/

namespace UsbSession

/-! ## The handle in a crowd -/

namespace Point

/-- Whether the next step of a thread at the point closes the handle. -/
def parts : Point → Bool
  | handleClosing => true
  | _ => false

/-- Whether a thread at the point has closed the handle and not yet marked the session as closed. -/
def parted : Point → Bool
  | handleClosed | storing => true
  | _ => false

variable {s : Session} {c : Common} {m : Moment} {p : Point} {mv : Move}

theorem closes_of_owns (h : p.owns = true) : p.closes = true := by
  cases p <;> first | rfl | cases h

theorem closes_of_parts (h : p.parts = true) : p.closes = true := by
  cases p <;> first | rfl | cases h

/-- The handle is closed while it is torn down. -/
theorem parted_eq_false (h : p.dismantles = false) : p.parts = false ∧ p.parted = false := by
  cases p <;> first | exact ⟨rfl, rfl⟩ | cases h

/-- A step of a thread that neither owns the handle nor tears it down leaves the handle alone. -/
theorem aloof_of_step (h : p.step? s c m = some mv) (howns : p.owns = false)
    (hdismantles : p.dismantles = false) :
    mv.point.dismantles = false ∧ mv.common.handle = c.handle ∧
      mv.common.state.handles = c.state.handles := by
  have hpassage := passage_of_step h
  generalize mv.point = q, mv.common = c' at hpassage
  cases hpassage with
  | keep _ _ _ _ _ dismantles =>
    refine ⟨?_, rfl, rfl⟩
    by_contra hq
    rw [dismantles (Bool.not_eq_false _ ▸ hq)] at hdismantles
    cases hdismantles
  | lock _ _ _ _ _ _ dismantles | unlock _ _ _ _ _ dismantles =>
    rw [Common.handle_setHeld, Common.state_setHeld]
    exact ⟨dismantles, rfl, rfl⟩
  | share _ _ _ _ _ _ dismantles | unshare _ _ _ _ dismantles => exact ⟨dismantles, rfl, rfl⟩
  | seize => exact ⟨rfl, rfl, rfl⟩
  | take => cases howns
  | flip _ isOpen _ _ _ _ dismantles => exact ⟨dismantles, rfl, by rw [isOpen]; rfl⟩
  | store => cases hdismantles

/-- What is taken away, closed and marked as closed goes with where the thread stands. -/
theorem teardown_of_step (h : p.step? s c m = some mv) (hhandle : p.owns = true → c.handle = true)
    (hclosing : p.closes = true → c.state = .closing) :
    (!mv.common.handle).toNat + mv.common.state.handles + p.dismantles.toNat =
        (!c.handle).toNat + c.state.handles + mv.point.dismantles.toNat ∧
      mv.point.parted.toNat + c.state.handles =
        p.parted.toNat + p.parts.toNat + mv.common.state.handles := by
  by_cases haloof : p.owns = false ∧ p.dismantles = false
  · obtain ⟨hq, hsame, hstate⟩ := aloof_of_step h haloof.1 haloof.2
    obtain ⟨hparts, hparted⟩ := parted_eq_false haloof.2
    rw [hq, hsame, hstate, haloof.2, hparted, hparts, (parted_eq_false hq).2]
    exact ⟨rfl, rfl⟩
  · -- The owner and the seven points of the teardown are left.
    cases p with
    | took =>
      have hc := hhandle rfl
      simp only [step?, hc, Option.some.injEq] at h
      subst h
      rw [hclosing rfl, hc]
      exact ⟨rfl, rfl⟩
    | releasing answer =>
      simp only [step?, Option.some.injEq] at h
      subst h
      cases s.reattach <;> exact ⟨rfl, rfl⟩
    | attaching answer => cases answer <;> cases h <;> exact ⟨rfl, rfl⟩
    | releaseStarting | attachStarting => cases h; exact ⟨rfl, rfl⟩
    | handleClosing | handleClosed => cases h; exact ⟨rfl, rfl⟩
    | storing => cases h; rw [hclosing rfl]; exact ⟨rfl, rfl⟩
    | _ => exact absurd ⟨rfl, rfl⟩ haloof

theorem inside?_of_parted (h : p.parted = true) : p.inside? = none := by
  cases p <;> first | rfl | cases h

/-- Who has closed the handle waits for nobody. -/
theorem step?_of_parted (h : p.parted = true) (s : Session) (c : Common) (m : Moment) :
    ∃ mv, p.step? s c m = some mv := by
  cases p with
  | handleClosed | storing => exact ⟨_, rfl⟩
  | _ => cases h

end Point

namespace Crowd

variable {s : Session} {past : List Stride} {c : Crowd} {v : Visit}

/-- Kinds of points that exclude each other are counted apart. -/
theorem count_add_le (c : Crowd) {f g k : Point → Bool}
    (h : ∀ p, (f p).toNat + (g p).toNat ≤ (k p).toNat) : c.count f + c.count g ≤ c.count k := by
  unfold count
  induction c.visits with
  | nil => exact Nat.le_refl _
  | cons v visits ih =>
    have hv := h v.point
    have hcons (f : Point → Bool) : (v :: visits).countP (fun v => f v.point) =
        visits.countP (fun v => f v.point) + (f v.point).toNat := by
      rw [List.countP_cons]
      cases f v.point <;> rfl
    rw [hcons, hcons, hcons]
    omega

/-- The handle is gone when a thread tears it down or the session is closed, and not otherwise. -/
def Dismantled (c : Crowd) : Prop :=
  (!c.common.handle).toNat + c.common.state.handles = c.count Point.dismantles + 1

/-- The owner of the handle finds it. -/
theorem Sound.handle_of_owns (hc : c.Sound) (hgone : c.Dismantled) (hv : v ∈ c.visits)
    (howns : v.point.owns = true) : c.common.handle = true := by
  have hle := c.count_add_le (f := Point.owns) (g := Point.dismantles) (k := Point.closes)
    fun p => by cases p <;> first | exact Nat.zero_le _ | exact Nat.le_refl _
  have hpos := count_pos hv howns
  have hclosers := hc.closers
  have hbool := Bool.toNat_le (c.common.state == .closing)
  have hclosing := hc.closing_of_closes hv (Point.closes_of_owns howns)
  -- The one thread that closes the session does not tear the handle down yet.
  have hnone : c.count Point.dismantles = 0 := by omega
  rw [Dismantled, hnone, hclosing] at hgone
  cases hhandle : c.common.handle with
  | true => rfl
  | false => rw [hhandle] at hgone; cases hgone

theorem Dismantled.arrive (h : c.Dismantled) (s : Session) (r : Request) :
    (c.arrive s r).Dismantled := by
  have hcount : (c.arrive s r).count Point.dismantles = c.count Point.dismantles := by
    rw [count_arrive]
    cases r <;> rfl
  rw [Dismantled, hcount]
  exact h

theorem Dismantled.advance (h : c.Dismantled) (hc : c.Sound) {i : Nat} {m : Moment} {mv : Move}
    (hv : c.visits[i]? = some v) (hstep : v.point.step? s c.common m = some mv) :
    (c.advance i v mv).Dismantled := by
  have hmem := List.mem_of_getElem? hv
  have hteardown := (Point.teardown_of_step hstep (hc.handle_of_owns h hmem)
    (hc.closing_of_closes hmem)).1
  have hcount := count_advance mv hv Point.dismantles
  simp only [Dismantled] at h
  change (!mv.common.handle).toNat + mv.common.state.handles = _ + 1
  omega

end Crowd

/-! ## The handle in a schedule -/

namespace Schedule

variable {sch next : Schedule} {n i : Nat} {t : Thread} {entries : List Entry} {c : Crowd}

theorem openHandles_serve (p : Point) :
    (sch.serve p).2.2.here.device.openHandles = sch.here.device.openHandles - p.parts.toNat := by
  cases p with
  | starting x => exact sch.here.device.openHandles_enter x.what
  | drainStarting reads => exact sch.here.device.openHandles_enter (.read Session.drainSize)
  | moving x answer => exact sch.here.device.openHandles_leave x.what answer
  | _ => rfl

/-- What happens meanwhile happens during a transfer. -/
theorem inside?_of_during {p : Point} {mv : Move} {x : Interlude}
    (h : p.step? sch.session sch.common { now := sch.here.now, answer := (sch.serve p).1 } =
      some mv)
    (hduring : (sch.serve p).2.1 = some x) : mv.point.inside?.isSome = true := by
  cases p with
  | starting x | drainStarting reads => cases h; rfl
  | _ => cases hduring

/-- A thread that waits for nothing moves if it can make its step. -/
theorem move?_ne_none {mv : Move} (ht : sch.threads[i]? = some t) (hfree : t.hold = none)
    (hstep : t.point.step? sch.session sch.common
      { now := sch.here.now, answer := (sch.serve t.point).1 } = some mv) :
    sch.move? i ≠ none := by
  simp only [move?, ht, hfree, hstep, Option.bind_eq_bind, Option.bind_some]
  split <;> exact Option.some_ne_none _

/-- The crowd is the one of the threads, and they answer for the handle of the session. The device
    has `n` others open. -/
structure Backed (sch : Schedule) (n : Nat) (c : Crowd) : Prop where
  sound : c.Sound
  dismantled : c.Dismantled
  common : c.common = sch.common
  points : c.visits.map (·.point) = sch.threads.map (·.point)
  /-- A thread that waits has a transfer inside the host. -/
  held : ∀ t ∈ sch.threads, t.hold.isSome = true → t.point.inside?.isSome = true
  handles : sch.here.device.openHandles + c.count Point.parted = n + sch.common.state.handles

namespace Backed

variable (h : sch.Backed n c)

include h

/-- A thread makes a visit. -/
theorem visit (ht : sch.threads[i]? = some t) :
    ∃ v, c.visits[i]? = some v ∧ v.point = t.point := by
  have hpoint : (c.visits.map (·.point))[i]? = some t.point := by
    rw [h.points, List.getElem?_map, ht]
    rfl
  rw [List.getElem?_map] at hpoint
  exact Option.map_eq_some_iff.1 hpoint

theorem step {mv : Move} {v : Visit} (hv : c.visits[i]? = some v)
    (hstep : v.point.step? sch.session sch.common
      { now := sch.here.now, answer := (sch.serve v.point).1 } = some mv) :
    (c.advance i v mv).Sound ∧ (c.advance i v mv).Dismantled ∧
      (sch.serve v.point).2.2.here.device.openHandles + (c.advance i v mv).count Point.parted =
        n + mv.common.state.handles := by
  rw [← h.common] at hstep
  refine ⟨h.sound.advance hv (Point.passage_of_step hstep),
    h.dismantled.advance h.sound hv hstep, ?_⟩
  have hmem := List.mem_of_getElem? hv
  have hteardown := (Point.teardown_of_step hstep
    (h.sound.handle_of_owns h.dismantled hmem) (h.sound.closing_of_closes hmem)).2
  have hcount := Crowd.count_advance mv hv Point.parted
  have hhandles := h.handles
  rw [← h.common] at hhandles
  -- Whoever is about to close the handle finds it open.
  have hopen : v.point.parts.toNat ≤ sch.here.device.openHandles := by
    cases hparts : v.point.parts with
    | false => exact Nat.zero_le _
    | true =>
      have hle := c.count_add_le (f := Point.parts) (g := Point.parted) (k := Point.closes)
        fun p => by cases p <;> first | exact Nat.zero_le _ | exact Nat.le_refl _
      have hclosers := h.sound.closers
      have hpos := Crowd.count_pos hmem hparts
      have hclosing := h.sound.closing_of_closes hmem (Point.closes_of_parts hparts)
      rw [hclosing] at hhandles hclosers
      simp only [Session.State.handles, beq_self_eq_true, Bool.toNat_true] at hhandles hclosers
      change 1 ≤ _
      omega
  rw [openHandles_serve]
  omega

/-- Every thread but the one that moves waits as before. -/
theorem held_set {new : Thread} (hnew : new.hold.isSome = true → new.point.inside?.isSome = true) :
    ∀ t ∈ sch.threads.set i new, t.hold.isSome = true → t.point.inside?.isSome = true := by
  intro t ht
  rcases List.mem_or_eq_of_mem_set ht with ht | rfl
  · exact h.held t ht
  · exact hnew

/-- The crowd moves as the threads do. -/
theorem shift (hshift : sch.Shift i next) : ∃ c', next.Backed n c' := by
  cases hshift with
  | @freed t thread held session common device threads =>
    refine ⟨c, h.sound, h.dismantled, common ▸ h.common, ?_, ?_, ?_⟩
    · obtain ⟨hi, rfl⟩ := List.getElem?_eq_some_iff.1 thread
      rw [threads, h.points, List.map_set]
      have hlength : i < (sch.threads.map (·.point)).length := by rwa [List.length_map]
      have hsame := List.set_getElem_self hlength
      rw [List.getElem_map] at hsame
      exact hsame.symm
    · rw [threads]
      exact h.held_set fun hwaits => absurd hwaits Bool.false_ne_true
    · rw [device, common, h.handles]
  | @stepped t mv thread free step session common device threads =>
    obtain ⟨v, hv, hpoint⟩ := h.visit thread
    rw [← hpoint] at step device
    obtain ⟨hsound, hdismantled, hhandles⟩ := h.step hv step
    refine ⟨c.advance i v mv, hsound, hdismantled, common ▸ rfl, ?_, ?_, ?_⟩
    · rw [threads, List.map_set, ← h.points, Crowd.advance, List.map_set]
    · rw [threads]
      exact h.held_set fun hwaits => absurd hwaits Bool.false_ne_true
    · rw [device, common, hhandles]
  | @interrupted t mv x thread free step during session common device threads =>
    obtain ⟨v, hv, hpoint⟩ := h.visit thread
    rw [← hpoint] at step device during
    obtain ⟨hsound, hdismantled, hhandles⟩ := h.step hv step
    refine ⟨(c.advance i v mv).arrive sch.session x.request, hsound.arrive _ _,
      hdismantled.arrive _ _, common ▸ rfl, ?_, ?_, ?_⟩
    · rw [threads, List.map_append, List.map_set, ← h.points, Crowd.arrive, List.map_append,
        Crowd.advance, List.map_set]
      rfl
    · rw [threads]
      intro t ht
      rcases List.mem_append.1 ht with ht | ht
      · exact h.held_set (fun _ => inside?_of_during step during) t ht
      · rw [List.mem_singleton.1 ht]
        exact fun hwaits => absurd hwaits Bool.false_ne_true
    · rw [device, common, Crowd.count_arrive, ← hhandles]
      cases x.request <;> rfl

/-- Who is counted among the visits is among the threads. -/
theorem exists_thread {f : Point → Bool} (hf : 0 < c.count f) :
    ∃ t ∈ sch.threads, f t.point = true := by
  obtain ⟨v, hv, hpoint⟩ := List.countP_pos_iff.1 hf
  have hmem : v.point ∈ sch.threads.map (·.point) := h.points ▸ List.mem_map_of_mem hv
  obtain ⟨t, ht, hsame⟩ := List.mem_map.1 hmem
  exact ⟨t, ht, hsame ▸ hpoint⟩

/-- A thread that has no transfer inside the host waits for none. -/
theorem hold_eq_none (ht : t ∈ sch.threads) (hinside : t.point.inside? = none) : t.hold = none := by
  cases hhold : t.hold with
  | none => rfl
  | some hold =>
    have hsome := h.held t ht (by rw [hhold]; rfl)
    rw [hinside] at hsome
    cases hsome

/-- Where nobody moves any more, nobody stands between closing the handle and marking the session as
    closed. -/
theorem rest (hrest : ∀ i, sch.move? i = none) :
    sch.here.device.openHandles = n + sch.common.state.handles := by
  have hnone : c.count Point.parted = 0 := by
    by_contra hsome
    obtain ⟨t, ht, hparted⟩ := h.exists_thread (Nat.pos_of_ne_zero hsome)
    obtain ⟨i, hi⟩ := List.getElem?_of_mem ht
    obtain ⟨mv, hstep⟩ := Point.step?_of_parted hparted sch.session sch.common
      { now := sch.here.now, answer := (sch.serve t.point).1 }
    exact move?_ne_none hi (h.hold_eq_none ht (Point.inside?_of_parted hparted)) hstep (hrest i)
  have := h.handles
  omega

/-- Where all threads have finished, nobody is still closing the session. -/
theorem state_ne_closing (hdone : ∀ t ∈ sch.threads, t.point.reply?.isSome = true) :
    sch.common.state ≠ .closing := by
  intro hclosing
  have hclosers := h.sound.closers
  rw [h.common, hclosing] at hclosers
  have hpos : 0 < c.count Point.closes := by
    rw [hclosers]
    exact Nat.one_pos
  obtain ⟨t, ht, hcloses⟩ := h.exists_thread hpos
  have hreply := hdone t ht
  rw [Crowd.reply?_of_closes hcloses] at hreply
  cases hreply

end Backed

/-! ### Runs -/

/-- What every move keeps is kept to the end. -/
theorem run_induction {P : Schedule → Prop}
    (hP : ∀ sch i next, P sch → Shift sch i next → P next) (fuel : Nat) (h : P sch) :
    P (sch.run fuel).1 := by
  induction fuel generalizing sch with
  | zero => exact h
  | succ fuel ih =>
    rw [run]
    cases hfirst : sch.order.findSome? sch.move? with
    | none => exact h
    | some moved =>
      obtain ⟨j, -, hmove⟩ := List.exists_of_findSome?_eq_some hfirst
      exact ih (hP _ j _ h (shift_of_move? hmove))

end Schedule

namespace Session

variable (s : Session) (r : Request) (p : Clocked)

/-- The schedule that an operation starts with. -/
def begun : Schedule where
  session := s
  here := p
  common := { state := s.state, handle := s.state == .open }
  threads := [⟨.ofRequest s r, none⟩]

/-- The schedule at the end, where no thread can move. -/
def rested : Schedule := ((s.begun r p).run (Schedule.enough p.device)).1

theorem move?_rested (i : Nat) : (s.rested r p).move? i = none :=
  Schedule.move?_run (Schedule.effort_start s p _ r) i

theorem device_overlapping : ((s.overlapping r).run p).value.session.device = s.device := rfl

variable {s p}

theorem backed_begun (hwhole : s.state ≠ .closing) (h : s.state.handles ≤ p.device.openHandles) :
    (s.begun r p).Backed (p.device.openHandles - s.state.handles)
      (Crowd.arrive { common := (s.begun r p).common } s r) := by
  have hsound : Crowd.Sound { common := (s.begun r p).common } := {
    locks := fun d => by cases d <;> rfl
    sharers := rfl
    owners := rfl
    unshared := nofun
    present := fun _ hv => absurd hv List.not_mem_nil
    gone := fun _ hv => absurd hv List.not_mem_nil
    closers := by
      cases hstate : s.state with
      | closing => exact absurd hstate hwhole
      | «open» | closed => rw [begun, hstate]; rfl }
  have hdismantled : Crowd.Dismantled { common := (s.begun r p).common } := by
    cases hstate : s.state with
    | closing => exact absurd hstate hwhole
    | «open» | closed => rw [begun, hstate]; rfl
  refine ⟨hsound.arrive s r, hdismantled.arrive s r, rfl, rfl, fun t ht => ?_, ?_⟩
  · rw [List.mem_singleton.1 ht]
    exact nofun
  · have hparted : (Point.ofRequest s r).parted = false := by cases r <;> rfl
    rw [Crowd.count_arrive, hparted]
    exact (Nat.sub_add_cancel h).symm

theorem backed_rested (hwhole : s.state ≠ .closing) (h : s.state.handles ≤ p.device.openHandles) :
    ∃ c, (s.rested r p).Backed (p.device.openHandles - s.state.handles) c :=
  Schedule.run_induction
    (P := fun sch => ∃ c, sch.Backed (p.device.openHandles - s.state.handles) c)
    (fun _ _ _ ⟨_, h⟩ hshift => h.shift hshift) _ ⟨_, backed_begun r hwhole h⟩

/-- However the threads take turns, the device has afterwards one open handle less if the session is
    closed then and was not before, and as many as before otherwise. -/
theorem openHandles_overlapping (hwhole : s.state ≠ .closing)
    (h : s.state.handles ≤ p.device.openHandles) :
    let o := (s.overlapping r).run p
    o.state.device.openHandles + s.state.handles =
      p.device.openHandles + o.value.session.state.handles := by
  intro o
  obtain ⟨c, hbacked⟩ := backed_rested r hwhole h
  have hrest := hbacked.rest (s.move?_rested r p)
  change (s.rested r p).here.device.openHandles + s.state.handles =
    p.device.openHandles + (s.rested r p).common.state.handles
  omega

/-- Where all threads come to the end of their operations, none leaves the session half closed. -/
theorem overlapping_ne_closing (hwhole : s.state ≠ .closing)
    (h : s.state.handles ≤ p.device.openHandles)
    (hdone : ∀ t ∈ (s.rested r p).threads, t.point.reply?.isSome = true) :
    ((s.overlapping r).run p).value.session.state ≠ .closing := by
  obtain ⟨c, hbacked⟩ := backed_rested r hwhole h
  exact hbacked.state_ne_closing hdone

end Session

end UsbSession
