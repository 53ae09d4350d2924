import UsbSession.Proofs.Overlap.Progress

/-!
# Freedom from deadlock

Threads that each make calls of one session, one call after the other, never come to stand still
with a call that has not returned (`Team.Run.never_stuck`). The handle may be refused to a thread
that comes to share it while another one waits to have it for itself (`Crowd.Admits`); where nobody
waits for it, it is not refused.

Some thread can always go on, whatever it meets. It is the owner of the handle if there is one. Else
it is one that shares the handle, since it has not to be let in any more. Else whoever waits for the
handle can have it. Else nobody waits for the handle, nobody is refused, and a thread that waits for
a lock waits for one that can go on.

* `Crowd.Sound.exists_step`: some visit that has not ended can make its step under every moment;
* `Team`: threads with the calls that they have yet to make.
-/

namespace UsbSession

namespace Point

/-- A thread that shares the handle waits for nobody. -/
theorem step?_of_shares {p : Point} (h : p.shares = true) (s : Session) (c : Common) (m : Moment) :
    ∃ mv, p.step? s c m = some mv := by
  cases p with
  | moved x answer | draining reads answer => cases answer <;> exact ⟨_, rfl⟩
  | starting | moving | cancelStarting | cancelling | cancelled | drainStarting | drained =>
    exact ⟨_, rfl⟩
  | _ => cases h

/-- The handle can be had when nobody has it and nobody shares it. -/
theorem step?_of_awaitsHandle {p : Point} (h : p.awaitsHandle = true) {c : Common}
    (hexclusive : c.exclusive = false) (hsharers : c.sharers = 0) (s : Session) (m : Moment) :
    ∃ mv, p.step? s c m = some mv := by
  cases p with
  | taking => exact ⟨_, if_neg (by simp [hexclusive, hsharers])⟩
  | _ => cases h

theorem reply?_of_owns {p : Point} (h : p.owns = true) : p.reply? = none := by
  cases p <;> first | rfl | cases h

theorem reply?_of_awaitsHandle {p : Point} (h : p.awaitsHandle = true) : p.reply? = none := by
  cases p <;> first | rfl | cases h

end Point

namespace Crowd

variable {s : Session} {past : List Stride} {c : Crowd} {i : Nat} {v : Visit}

/-- The handle is refused to a thread that comes to share it only while another one waits to have it
    for itself. -/
def Admits (c : Crowd) (m : Moment) : Prop :=
  m.admits = true ∨ ∃ v ∈ c.visits, v.point.awaitsHandle = true

/-- The visit at a place has not ended, and can make its step whatever it meets. -/
def Ready (s : Session) (c : Crowd) (i : Nat) : Prop :=
  ∃ v, c.visits[i]? = some v ∧ v.point.reply? = none ∧
    ∀ m, c.Admits m → ∃ mv, v.point.step? s c.common m = some mv

theorem exists_visit {f : Point → Bool} (h : 0 < c.count f) :
    ∃ (i : Nat) (v : Visit), c.visits[i]? = some v ∧ f v.point = true := by
  obtain ⟨v, hv, hf⟩ := List.countP_pos_iff.1 h
  obtain ⟨i, hi⟩ := List.getElem?_of_mem hv
  exact ⟨i, v, hi, hf⟩

/-- While nobody waits for the handle, whoever waits for no lock either goes on. -/
theorem ready_of_unowned (hexclusive : c.common.exclusive = false)
    (hnobody : ∀ v ∈ c.visits, v.point.awaitsHandle = false) (hv : c.visits[i]? = some v)
    (hreply : v.point.reply? = none)
    (hlock : ∀ d, v.point.lock? = some d → c.common.held d = false) : c.Ready s i := by
  refine ⟨v, hv, hreply, fun m hm => ?_⟩
  have hadmits : m.admits = true := by
    rcases hm with hadmits | ⟨w, hw, hawaits⟩
    · exact hadmits
    · rw [hnobody w hw] at hawaits
      cases hawaits
  refine Point.step?_of_free hexclusive hadmits hlock (fun hawaits => ?_) hreply
  rw [hnobody v (List.mem_of_getElem? hv)] at hawaits
  cases hawaits

/-- While a visit has not ended, some visit that has not ended can make its step. -/
theorem Sound.exists_step (hc : c.Sound) (s : Session) (hv : v ∈ c.visits)
    (hreply : v.point.reply? = none) : ∃ i, c.Ready s i := by
  by_cases howned : c.common.exclusive = true
  · obtain ⟨i, w, hw, howns⟩ := exists_visit (f := Point.owns)
      (by rw [hc.owners, howned]; exact Nat.one_pos)
    exact ⟨i, w, hw, Point.reply?_of_owns howns, fun m _ => Point.step?_of_owns howns s _ m⟩
  · have hexclusive : c.common.exclusive = false := Bool.eq_false_iff.2 howned
    by_cases hshared : 0 < c.common.sharers
    · obtain ⟨i, w, hw, hshares⟩ := exists_visit (f := Point.shares) (hc.sharers ▸ hshared)
      exact ⟨i, w, hw, (Point.busy_of_shares hshares).reply, fun m _ =>
        Point.step?_of_shares hshares s _ m⟩
    · have hsharers : c.common.sharers = 0 := Nat.eq_zero_of_not_pos hshared
      by_cases hwaiting : ∃ w ∈ c.visits, w.point.awaitsHandle = true
      · obtain ⟨w, hw, hawaits⟩ := hwaiting
        obtain ⟨i, hi⟩ := List.getElem?_of_mem hw
        exact ⟨i, w, hi, Point.reply?_of_awaitsHandle hawaits, fun m _ =>
          Point.step?_of_awaitsHandle hawaits hexclusive hsharers s m⟩
      · have hnobody : ∀ w ∈ c.visits, w.point.awaitsHandle = false := fun w hw =>
          Bool.eq_false_iff.2 fun hawaits => hwaiting ⟨w, hw, hawaits⟩
        by_cases hlocked : ∃ d, v.point.lock? = some d ∧ c.common.held d = true
        · -- The holder of the lock waits for no lock itself.
          obtain ⟨d, -, hheld⟩ := hlocked
          obtain ⟨i, w, hw, hholds⟩ := exists_visit (f := Point.holds d)
            (by rw [hc.locks, hheld]; exact Nat.one_pos)
          have hbusy := Point.busy_of_holds hholds
          exact ⟨i, ready_of_unowned hexclusive hnobody hw hbusy.reply
            (by rw [hbusy.lock]; exact nofun)⟩
        · obtain ⟨i, hi⟩ := List.getElem?_of_mem hv
          exact ⟨i, ready_of_unowned hexclusive hnobody hi hreply fun d hd =>
            Bool.eq_false_iff.2 fun hheld => hlocked ⟨d, hd, hheld⟩⟩

end Crowd

/-! ## Teams -/

/-- A thread that makes calls of a session, one after the other. -/
structure Worker where
  /-- The place of the visit that is its call, unless it stands between two calls. -/
  call? : Option Nat := none
  /-- What it has yet to ask for. -/
  todo : List Request

/-- Threads that make calls of a session, and the visits that are their calls. -/
structure Team where
  crowd : Crowd := {}
  workers : List Worker

namespace Team

/-- The threads before their first calls. -/
def ofPrograms (programs : List (List Request)) : Team where
  workers := programs.map fun todo => { todo }

/-- The next step of a thread, if it can take one: it makes its next call, goes on with the call
    that it has made, or returns from it. -/
def step? (s : Session) (team : Team) (i : Nat) (m : Moment) : Option Team := do
  let worker ← team.workers[i]?
  match worker with
  | ⟨none, []⟩ => none
  | ⟨none, request :: todo⟩ =>
    some ⟨team.crowd.arrive s request,
      team.workers.set i ⟨some team.crowd.visits.length, todo⟩⟩
  | ⟨some k, todo⟩ =>
    let visit ← team.crowd.visits[k]?
    if visit.point.reply?.isSome then
      some { team with workers := team.workers.set i ⟨none, todo⟩ }
    else
      let mv ← visit.point.step? s team.crowd.common m
      some { team with crowd := team.crowd.advance k visit mv }

/-- Where threads come to by steps of theirs in some order, from when the session was opened. A step
    may meet any time, any answer of the host, and the handle refused or not. -/
inductive Run (s : Session) (programs : List (List Request)) : Team → Prop
  | start : Run s programs (.ofPrograms programs)
  | step {team next : Team} (i : Nat) (m : Moment) :
      Run s programs team → team.step? s i m = some next → Run s programs next

/-- Lets threads take steps, in turn; a thread that cannot take its step loses its turn. -/
def play (s : Session) : List (Nat × Moment) → Team → Team
  | [], team => team
  | (i, m) :: turns, team => play s turns ((team.step? s i m).getD team)

variable {s : Session} {programs : List (List Request)} {team next : Team} {i k : Nat} {m : Moment}
  {w : Worker}

/-- Every schedule gives a run. -/
theorem Run.play (turns : List (Nat × Moment)) (h : Run s programs team) :
    Run s programs (Team.play s turns team) := by
  induction turns generalizing team with
  | nil => exact h
  | cons turn turns ih =>
    obtain ⟨i, m⟩ := turn
    refine ih ?_
    cases hstep : team.step? s i m with
    | none => exact h
    | some next => exact h.step i m hstep

/-- What a step of a thread is. -/
theorem step?_cases (h : team.step? s i m = some next) :
    (∃ request todo, team.workers[i]? = some ⟨none, request :: todo⟩ ∧
      next = ⟨team.crowd.arrive s request,
        team.workers.set i ⟨some team.crowd.visits.length, todo⟩⟩) ∨
    (∃ k todo v, team.workers[i]? = some ⟨some k, todo⟩ ∧ team.crowd.visits[k]? = some v ∧
      v.point.reply?.isSome = true ∧
      next = { team with workers := team.workers.set i ⟨none, todo⟩ }) ∨
    (∃ k todo v mv, team.workers[i]? = some ⟨some k, todo⟩ ∧ team.crowd.visits[k]? = some v ∧
      v.point.step? s team.crowd.common m = some mv ∧
      next = { team with crowd := team.crowd.advance k v mv }) := by
  simp only [step?, Option.bind_eq_bind, Option.bind_eq_some_iff] at h
  obtain ⟨worker, hworker, h⟩ := h
  split at h
  · cases h
  · cases h
    exact .inl ⟨_, _, hworker, rfl⟩
  · obtain ⟨v, hv, h⟩ := Option.bind_eq_some_iff.1 h
    split at h
    · rename_i hreply
      cases h
      exact .inr (.inl ⟨_, _, v, hworker, hv, hreply, rfl⟩)
    · obtain ⟨mv, hmv, h⟩ := Option.bind_eq_some_iff.1 h
      cases h
      exact .inr (.inr ⟨_, _, v, mv, hworker, hv, hmv, rfl⟩)

/-- The calls of the threads are the visits that have not ended, and visits that have. -/
structure Staffed (s : Session) (team : Team) : Prop where
  /-- The visits are what threads do on the session. -/
  run : ∃ past, Crowd.Run s past team.crowd
  /-- A call that was made is a visit. -/
  called : ∀ w ∈ team.workers, ∀ k, w.call? = some k → k < team.crowd.visits.length
  /-- A visit that has not ended is the call of some thread. -/
  served : ∀ (k : Nat) (v : Visit), team.crowd.visits[k]? = some v → v.point.reply? = none →
    ∃ (i : Nat) (w : Worker), team.workers[i]? = some w ∧ w.call? = some k

theorem staffed_ofPrograms (s : Session) (programs : List (List Request)) :
    Staffed s (.ofPrograms programs) where
  run := ⟨[], .start⟩
  called w hw k hk := by
    obtain ⟨todo, -, rfl⟩ := List.mem_map.1 hw
    cases hk
  served k v hv := by cases hv

theorem Staffed.step (h : Staffed s team) (hstep : team.step? s i m = some next) :
    Staffed s next := by
  obtain ⟨past, hrun⟩ := h.run
  rcases step?_cases hstep with ⟨request, todo, hi, rfl⟩ | ⟨k, todo, v, hi, hv, hreply, rfl⟩ |
    ⟨k, todo, v, mv, hi, hv, hmv, rfl⟩
  · have hlength : (team.crowd.arrive s request).visits.length = team.crowd.visits.length + 1 :=
      List.length_append
    refine ⟨⟨past, hrun.arrive request⟩, fun w hw k hk => ?_, fun k v hv hreply => ?_⟩
    · rcases List.mem_or_eq_of_mem_set hw with hw | rfl
      · have := h.called w hw k hk
        show k < (team.crowd.arrive s request).visits.length
        omega
      · cases hk
        show _ < (team.crowd.arrive s request).visits.length
        omega
    · have hlt := (List.getElem?_eq_some_iff.1 hi).1
      by_cases hold : k < team.crowd.visits.length
      · -- A call that was under way is that of the same thread.
        have hv : team.crowd.visits[k]? = some v := by
          rwa [Crowd.arrive, List.getElem?_append_left hold] at hv
        obtain ⟨j, w, hj, hw⟩ := h.served k v hv hreply
        have hij : i ≠ j := fun hij => by
          rw [← hij, hi] at hj
          cases hj
          cases hw
        exact ⟨j, w, by rw [List.getElem?_set_ne hij, hj], hw⟩
      · have hk : k < (team.crowd.arrive s request).visits.length :=
          (List.getElem?_eq_some_iff.1 hv).1
        refine ⟨i, _, List.getElem?_set_self hlt, congrArg some ?_⟩
        omega
  · refine ⟨h.run, fun w hw k' hk' => ?_, fun k' v' hv' hreply' => ?_⟩
    · rcases List.mem_or_eq_of_mem_set hw with hw | rfl
      · exact h.called w hw k' hk'
      · cases hk'
    · -- The call that returns has ended.
      obtain ⟨j, w, hj, hw⟩ := h.served k' v' hv' hreply'
      have hij : i ≠ j := fun hij => by
        rw [← hij, hi] at hj
        cases hj
        cases hw
        rw [hv] at hv'
        cases hv'
        rw [hreply'] at hreply
        cases hreply
      exact ⟨j, w, by rw [List.getElem?_set_ne hij, hj], hw⟩
  · have hlength : (team.crowd.advance k v mv).visits.length = team.crowd.visits.length :=
      List.length_set
    refine ⟨⟨_, hrun.move hv hmv⟩, fun w hw k' hk' => hlength ▸ h.called w hw k' hk',
      fun k' v' hv' hreply' => ?_⟩
    by_cases hk : k = k'
    · exact ⟨i, _, hi, congrArg some hk⟩
    · rw [Crowd.advance, List.getElem?_set_ne hk] at hv'
      exact h.served k' v' hv' hreply'

theorem Run.staffed (h : Run s programs team) : Staffed s team := by
  induction h with
  | start => exact staffed_ofPrograms s programs
  | step i m _ hstep ih => exact ih.step hstep

/-- A thread can take a step, whatever time, host answer and admission to the handle it meets. -/
def CanStep (s : Session) (team : Team) (i : Nat) : Prop :=
  ∀ m, team.crowd.Admits m → ∃ next, team.step? s i m = some next

/-- A thread returns from a call that has ended. -/
theorem canStep_of_reply (hi : team.workers[i]? = some w) (hw : w.call? = some k) {v : Visit}
    (hv : team.crowd.visits[k]? = some v) (hreply : v.point.reply?.isSome = true) :
    CanStep s team i := by
  obtain ⟨call?, todo⟩ := w
  cases hw
  intro m _
  refine ⟨{ team with workers := team.workers.set i ⟨none, todo⟩ }, ?_⟩
  simp [step?, hi, hv, hreply]

/-- A thread goes on with a call that can go on. -/
theorem canStep_of_ready (hi : team.workers[i]? = some w) (hw : w.call? = some k)
    (h : team.crowd.Ready s k) : CanStep s team i := by
  obtain ⟨call?, todo⟩ := w
  cases hw
  obtain ⟨v, hv, hreply, hstep⟩ := h
  intro m hm
  obtain ⟨mv, hmv⟩ := hstep m hm
  refine ⟨{ team with crowd := team.crowd.advance k v mv }, ?_⟩
  simp [step?, hi, hv, hreply, hmv]

/-- A thread that stands between two calls makes the next one. -/
theorem canStep_of_todo (hi : team.workers[i]? = some w) (hw : w.call? = none)
    (htodo : w.todo ≠ []) : CanStep s team i := by
  obtain ⟨call?, todo⟩ := w
  cases hw
  obtain ⟨request, todo, rfl⟩ := List.exists_cons_of_ne_nil htodo
  intro m _
  refine ⟨⟨team.crowd.arrive s request,
    team.workers.set i ⟨some team.crowd.visits.length, todo⟩⟩, ?_⟩
  simp [step?, hi]

/-- While a call has not returned some thread can go on with its call or return from it. While
    threads have calls to make or to return from, some thread can take a step. -/
theorem Run.never_stuck (h : Run s programs team) :
    ((∃ w ∈ team.workers, w.call?.isSome = true) →
      ∃ (i : Nat) (w : Worker), team.workers[i]? = some w ∧ w.call?.isSome = true ∧
        CanStep s team i) ∧
    ((∃ w ∈ team.workers, w.call?.isSome = true ∨ w.todo ≠ []) → ∃ i, CanStep s team i) := by
  have hcall : (∃ w ∈ team.workers, w.call?.isSome = true) →
      ∃ (i : Nat) (w : Worker), team.workers[i]? = some w ∧ w.call?.isSome = true ∧
        CanStep s team i := by
    rintro ⟨w, hw, hsome⟩
    obtain ⟨k, hk⟩ := Option.isSome_iff_exists.1 hsome
    obtain ⟨i, hi⟩ := List.getElem?_of_mem hw
    obtain ⟨v, hv⟩ : ∃ v, team.crowd.visits[k]? = some v :=
      ⟨_, List.getElem?_eq_getElem (h.staffed.called w hw k hk)⟩
    by_cases hended : v.point.reply?.isSome = true
    · exact ⟨i, w, hi, hsome, canStep_of_reply hi hk hv hended⟩
    · -- The call has not ended, so one that can go on is under way.
      obtain ⟨past, hrun⟩ := h.staffed.run
      obtain ⟨k', hready⟩ := hrun.sound.exists_step s (List.mem_of_getElem? hv)
        (by simpa using hended)
      obtain ⟨v', hv', hreply', -⟩ := id hready
      obtain ⟨j, w', hj, hw'⟩ := h.staffed.served k' v' hv' hreply'
      exact ⟨j, w', hj, by rw [hw']; rfl, canStep_of_ready hj hw' hready⟩
  refine ⟨hcall, ?_⟩
  rintro ⟨w, hw, hrest⟩
  by_cases hsome : w.call?.isSome = true
  · obtain ⟨i, -, -, -, hstep⟩ := hcall ⟨w, hw, hsome⟩
    exact ⟨i, hstep⟩
  · obtain ⟨i, hi⟩ := List.getElem?_of_mem hw
    exact ⟨i, canStep_of_todo hi (by simpa using hsome) (hrest.resolve_left hsome)⟩

/-- A read that has seen the session open is refused the handle, since a close waits for it; the
    close waits for a write that is inside the host. The write goes on. -/
theorem never_stuck_refused :
    let programs : List (List Request) := [[.write [1], .state], [.read 4 0], [.close true]]
    let turns := ([0, 0, 0, 0, 0, 1, 1, 1, 2, 2] : List Nat).map fun i => (i, ({} : Moment))
    let team := play Crowd.plainSession turns (.ofPrograms programs)
    let refusal : Moment := { admits := false }
    team.crowd.Admits refusal ∧ team.step? Crowd.plainSession 1 refusal = none ∧
      team.step? Crowd.plainSession 2 refusal = none ∧
      Run Crowd.plainSession programs team ∧ (∃ w ∈ team.workers, w.call?.isSome = true) ∧
      ∃ (i : Nat) (w : Worker), team.workers[i]? = some w ∧ w.call?.isSome = true ∧
        CanStep Crowd.plainSession team i := by
  intro programs turns team refusal
  have h : Run Crowd.plainSession programs team := .play turns .start
  have hcalled : ∃ w ∈ team.workers, w.call?.isSome = true := by decide
  have hawaits : ∃ v ∈ team.crowd.visits, v.point.awaitsHandle = true := by decide
  have hread : team.step? Crowd.plainSession 1 refusal = none :=
    Option.isNone_iff_eq_none.1 (by decide)
  have hclose : team.step? Crowd.plainSession 2 refusal = none :=
    Option.isNone_iff_eq_none.1 (by decide)
  exact ⟨.inr hawaits, hread, hclose, h, hcalled, h.never_stuck.1 hcalled⟩

end Team

end UsbSession
