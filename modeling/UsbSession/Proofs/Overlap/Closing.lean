import Mathlib.Data.List.Chain
import Mathlib.Tactic.Common
import UsbSession.Proofs.Overlap.Trail

/-!
# The closing protocol

What closing does to the threads that use a session at the same time (`Crowd.Run.closingProtocol`):
one thread closes and the others find it done, who comes too late is turned away without a call to
the host, and who is already on the way gets one more transfer through at most.

How far a read or write has come, and how many of its transfers can be late, is an invariant of its
trail alone (`Crowd.Admission`, `Crowd.Progress`), and so is how far a close has come
(`Crowd.Closure`).
-/

namespace UsbSession

namespace Crowd

variable {s : Session} {past l : List Stride} {c : Crowd} {i : Nat} {v : Visit} {st : Stride}

/-! ## Reads and writes: being let in -/

/-- The first look at the state met the session open. -/
def Admitted (l : List Stride) : Prop := ∃ st, l.find? Stride.checks = some st ∧ st.late = false

/-- The first look at the state came too late. -/
def TurnedAway (l : List Stride) : Prop := ∃ st, l.find? Stride.checks = some st ∧ st.late = true

/-- What the first look at the state has to do with the point that a read or write has come to. -/
def Admission (t : Transfer) (l : List Stride) : Point → Prop
  | .queued what _ => what = t ∧ l = []
  | .checking x => x.what = t ∧ (l.find? Stride.checks = none ∧ callsOf l = [] ∨ Admitted l)
  | .sharing x | .starting x | .moving x _ | .moved x _ => x.what = t ∧ Admitted l
  | .leaving d r =>
    d = t.direction ∧ (Admitted l ∨ TurnedAway l ∧ callsOf l = [] ∧ r = .error .closed)
  | .finished reply => ∃ r, reply = .ofTransfer r t.direction ∧
      (Admitted l ∨ TurnedAway l ∧ callsOf l = [] ∧ r = .error .closed)
  | _ => False

theorem Admitted.append (h : Admitted l) (st : Stride) : Admitted (l ++ [st]) := by
  obtain ⟨first, hfirst, hopen⟩ := h
  exact ⟨first, by rw [List.find?_append, hfirst]; rfl, hopen⟩

theorem TurnedAway.append (h : TurnedAway l) (st : Stride) : TurnedAway (l ++ [st]) := by
  obtain ⟨first, hfirst, hlate⟩ := h
  exact ⟨first, by rw [List.find?_append, hfirst]; rfl, hlate⟩

theorem not_admitted_of_turnedAway (h : TurnedAway l) : ¬Admitted l := by
  rintro ⟨st, hst, hopen⟩
  obtain ⟨st', hst', hlate⟩ := h
  rw [hst] at hst'
  cases hst'
  rw [hopen] at hlate
  cases hlate

/-- A first look decides. -/
theorem find?_checks_append (hl : l.find? Stride.checks = none) (hst : st.checks = true) :
    (l ++ [st]).find? Stride.checks = some st := by
  rw [List.find?_append, hl, Option.none_or, List.find?_singleton, if_pos hst]

theorem Stride.calls_of_step (h : st.point.step? s st.common st.moment = some st.move) :
    st.calls = st.point.calls s :=
  Point.calls_of_step h

/-- A step takes a read or write on from one point to the next. -/
theorem Admission.step {t : Transfer} (h : Admission t l st.point)
    (hstep : st.point.step? s st.common st.moment = some st.move) :
    Admission t (l ++ [st]) st.move.point := by
  have hcalls := Stride.calls_of_step hstep
  obtain ⟨i, q, common, m, mv⟩ := st
  simp only at h hstep hcalls ⊢
  cases q with
  | queued what timeout =>
    obtain ⟨rfl, rfl⟩ := h
    simp only [Point.step?] at hstep
    split at hstep <;> cases hstep
    exact ⟨rfl, .inl ⟨rfl, by simp [callsOf, hcalls, Point.calls]⟩⟩
  | checking x =>
    obtain ⟨hwhat, hbefore⟩ := h
    simp only [Point.step?] at hstep
    split at hstep
    · rename_i hopen
      cases hstep
      refine ⟨hwhat, ?_⟩
      -- The first look decides; after a retry the visit has been admitted already.
      rcases hbefore with ⟨hnone, -⟩ | hadmitted
      · exact ⟨_, find?_checks_append hnone rfl, by simp [Stride.late, hopen]⟩
      · exact hadmitted.append _
    · rename_i hopen
      cases hstep
      refine ⟨congrArg _ hwhat, ?_⟩
      rcases hbefore with ⟨hnone, hquiet⟩ | hadmitted
      · refine .inr
          ⟨⟨_, find?_checks_append hnone rfl, by simpa [Stride.late] using hopen⟩, ?_, rfl⟩
        rw [callsOf_append, hquiet, hcalls]
        rfl
      · exact .inl (hadmitted.append _)
  | sharing x =>
    simp only [Point.step?, Point.enterHandle] at hstep
    split at hstep <;> cases hstep
    -- Whether or not the handle is still there, the visit was admitted.
    split <;> exact ⟨h.1, h.2.append _⟩
  | starting x | moving x answer => cases hstep; exact ⟨h.1, h.2.append _⟩
  | moved x answer =>
    cases answer with
    | none => cases hstep; exact ⟨congrArg _ h.1, .inl (h.2.append _)⟩
    | some answer =>
      simp only [Point.step?, Option.some.injEq] at hstep
      subst hstep
      dsimp only
      -- The judgement ends the operation or sends it back to look at the state again.
      split
      · exact ⟨congrArg _ h.1, .inl (h.2.append _)⟩
      · exact ⟨h.1, .inr (h.2.append _)⟩
  | leaving d r =>
    obtain ⟨rfl, hbefore⟩ := h
    cases hstep
    refine ⟨r, rfl, ?_⟩
    rcases hbefore with hadmitted | ⟨hturned, hquiet, hr⟩
    · exact .inl (hadmitted.append _)
    · -- Giving the lock back is no call.
      refine .inr ⟨hturned.append _, ?_, hr⟩
      rw [callsOf_append, hquiet, hcalls]
      rfl
  | finished reply => cases hstep
  | _ => exact h.elim

theorem Trail.admission {t : Transfer} {timeout : Nat} {q : Point}
    (h : Trail s (.queued t timeout) l q) : Admission t l q := by
  induction h with
  | start => exact ⟨rfl, rfl⟩
  | step _ hstep ih => exact ih.step hstep

/-! ## Reads and writes: what comes of it -/

/-- How a read or write ends by the answer of its last transfer, and by whether its time was spent
    then. -/
inductive Ends (s : Session) (t : Transfer) (spent : Bool) :
    Option HostAnswer → Except Error (List UInt8) → Prop
  /-- The transfer failed. -/
  | failed (code : Failure) : Ends s t spent (some (.error code)) (.error (.ofTransfer code))
  /-- The transfer moved bytes, or none where none will do. -/
  | moved (bytes : List UInt8) (enough : bytes ≠ [] ∨ s.retries t = false) :
      Ends s t spent (some (.ok bytes)) (.ok bytes)
  /-- The transfer moved no bytes, and there is no time for another. -/
  | timedOut (retries : s.retries t = true) (late : spent = true) :
      Ends s t spent (some (.ok [])) (.error (.usb .timeout))
  /-- The transfer moved no bytes, and the session does not take another. -/
  | cutOff (retries : s.retries t = true) (early : spent = false) :
      Ends s t spent (some (.ok [])) (.error .closed)
  /-- There was no transfer. -/
  | untried : Ends s t spent none (.error .closed)

/-- The last transfer, if there was one, is not the end of a read or write. -/
structure Unsettled (s : Session) (t : Transfer) (l : List Stride) : Prop where
  answer : last? l = none ∨ last? l = some (.ok []) ∧ s.retries t = true
  early : l.any Stride.overdue = false

/-- No call started late. -/
def Quiet (l : List Stride) : Prop :=
  ∀ st ∈ l, st.late = true → st.calls = [] ∧ st.answer? = none

/-- At most one transfer started late, and there was none after it. -/
structure Bounded (l : List Stride) : Prop where
  calls : (lateCalls l).length ≤ 1
  answer : ∀ st ∈ l, st.late = true → ∀ answer, st.answer? = some answer → last? l = some answer

/-- How far a read or write has come when it has got to a point. -/
def Progress (s : Session) (t : Transfer) (l : List Stride) : Point → Prop
  | .queued what _ => what = t ∧ l = []
  | .checking x | .moved x none => x.what = t ∧ Unsettled s t l ∧ Bounded l
  | .sharing x | .starting x => x.what = t ∧ Unsettled s t l ∧ Quiet l
  | .moving x answer | .moved x (some answer) =>
    x.what = t ∧ (last? l = some answer ∧ l.any Stride.overdue = false) ∧ Bounded l
  | .leaving d r => d = t.direction ∧ Ends s t (l.any Stride.overdue) (last? l) r ∧ Bounded l
  | .finished reply => ∃ r, reply = .ofTransfer r t.direction ∧
      Ends s t (l.any Stride.overdue) (last? l) r ∧ Bounded l
  | _ => False

theorem any_overdue_append (l : List Stride) (st : Stride) :
    (l ++ [st]).any Stride.overdue = (l.any Stride.overdue || st.overdue) := by
  rw [List.any_append, List.any_cons, List.any_nil, Bool.or_false]

theorem any_overdue_append_of_false (h : st.overdue = false) :
    (l ++ [st]).any Stride.overdue = l.any Stride.overdue := by
  rw [any_overdue_append, h, Bool.or_false]

theorem Quiet.append (h : Quiet l) (hcalls : st.calls = []) (hanswer : st.answer? = none) :
    Quiet (l ++ [st]) := by
  intro a ha hlate
  rcases List.mem_append.1 ha with ha | ha
  · exact h a ha hlate
  · rw [List.mem_singleton.1 ha]
    exact ⟨hcalls, hanswer⟩

/-- Before a step that meets the session open nothing was late. -/
theorem quiet_of_open (h : LateLast (l ++ [st])) (hst : st.late = false) : Quiet (l ++ [st]) := by
  intro a ha hlate
  rcases List.mem_append.1 ha with ha | ha
  · have := (List.pairwise_append.1 h).2.2 a ha st (List.mem_singleton_self _) hlate
    rw [hst] at this
    cases this
  · rw [List.mem_singleton.1 ha, hst] at hlate
    cases hlate

theorem Quiet.lateCalls (h : Quiet l) : lateCalls l = [] := by
  refine List.flatMap_eq_nil_iff.2 fun st hst => ?_
  obtain ⟨hmem, hlate⟩ := List.mem_filter.1 hst
  exact (h st hmem hlate).1

theorem Bounded.append (h : Bounded l) (hcalls : st.calls = []) (hanswer : st.answer? = none) :
    Bounded (l ++ [st]) where
  calls := by
    rw [lateCalls_append, hcalls, ite_self, List.append_nil]
    exact h.calls
  answer a ha hlate answer hstart := by
    rw [last?_append_of_none hanswer]
    rcases List.mem_append.1 ha with ha | ha
    · exact h.answer a ha hlate answer hstart
    · rw [List.mem_singleton.1 ha, hanswer] at hstart
      cases hstart

/-- A transfer may start where none was late. -/
theorem Quiet.bounded (h : Quiet l) (hcalls : st.calls.length ≤ 1) : Bounded (l ++ [st]) where
  calls := by
    rw [lateCalls_append, h.lateCalls, List.nil_append]
    split
    · exact hcalls
    · exact Nat.zero_le _
  answer a ha hlate answer hstart := by
    rcases List.mem_append.1 ha with ha | ha
    · rw [(h a ha hlate).2] at hstart
      cases hstart
    · rw [List.mem_singleton.1 ha] at hstart
      rw [last?_append, hstart, Option.some_or]

theorem Unsettled.append {t : Transfer} (h : Unsettled s t l) (hanswer : st.answer? = none)
    (hoverdue : st.overdue = false) : Unsettled s t (l ++ [st]) where
  answer := by
    rw [last?_append_of_none hanswer]
    exact h.answer
  early := by
    rw [any_overdue_append_of_false hoverdue]
    exact h.early

theorem Unsettled.ends {t : Transfer} (h : Unsettled s t l) :
    Ends s t (l.any Stride.overdue) (last? l) (.error .closed) := by
  rcases h.answer with hnone | ⟨hempty, hretries⟩
  · rw [hnone]
    exact .untried
  · rw [hempty]
    exact .cutOff hretries h.early

/-- A judgement that ends a read or write ends it by the answer and by the time. -/
theorem ends_of_judge {t : Transfer} {deadline : Option Nat} {now : Nat} {answer : HostAnswer}
    {r : Except Error (List UInt8)} (h : (s.judge t deadline now answer).value = .done r) :
    Ends s t (deadline.any fun due => due - now < 1000) (some answer) r := by
  unfold Session.judge at h
  split at h
  · cases h
    exact .failed _
  · cases h
    exact .moved _ (.inl (List.cons_ne_nil _ _))
  · split at h
    · rename_i hretries
      split at h
      · cases h
      · split at h
        · rename_i hshort
          cases h
          exact .timedOut hretries (decide_eq_true hshort)
        · cases h
    · rename_i hretries
      cases h
      exact .moved [] (.inr (by simpa [Session.retries] using hretries))

/-- A judgement that asks for another transfer does so after a transfer of no bytes, in time. -/
theorem unsettled_of_judge {t : Transfer} {deadline : Option Nat} {now rest : Nat}
    {answer : HostAnswer} (h : (s.judge t deadline now answer).value = .again rest) :
    answer = .ok [] ∧ s.retries t = true ∧
      (deadline.any fun due => due - now < 1000) = false := by
  unfold Session.judge at h
  split at h
  · cases h
  · cases h
  · split at h
    · rename_i hretries
      split at h
      · exact ⟨rfl, hretries, rfl⟩
      · split at h
        · cases h
        · rename_i hlong
          exact ⟨rfl, hretries, decide_eq_false hlong⟩
    · cases h

/-- A step takes a read or write on, if the steps that met the session no longer open come last. -/
theorem Progress.step {t : Transfer} (h : Progress s t l st.point) (hlate : LateLast (l ++ [st]))
    (hstep : st.point.step? s st.common st.moment = some st.move) :
    Progress s t (l ++ [st]) st.move.point := by
  have hcalls := Stride.calls_of_step hstep
  obtain ⟨i, q, common, m, mv⟩ := st
  simp only at h hstep hcalls ⊢
  cases q with
  | queued what timeout =>
    obtain ⟨rfl, rfl⟩ := h
    simp only [Point.step?] at hstep
    split at hstep <;> cases hstep
    have hquiet : Quiet ([] : List Stride) := fun st hst => absurd hst List.not_mem_nil
    exact ⟨rfl, ⟨.inl rfl, rfl⟩, hquiet.bounded (by rw [hcalls]; exact Nat.zero_le _)⟩
  | checking x =>
    obtain ⟨hwhat, hunsettled, hbounded⟩ := h
    simp only [Point.step?] at hstep
    split at hstep
    · rename_i hopen
      cases hstep
      -- The session is open at this step, so nothing before it was late.
      exact ⟨hwhat, hunsettled.append rfl rfl, quiet_of_open hlate (by simp [Stride.late, hopen])⟩
    · cases hstep
      exact ⟨congrArg _ hwhat, (hunsettled.append rfl rfl).ends, hbounded.append hcalls rfl⟩
  | sharing x =>
    obtain ⟨hwhat, hunsettled, hquiet⟩ := h
    simp only [Point.step?, Point.enterHandle] at hstep
    split at hstep <;> cases hstep
    dsimp only
    -- The handle is there, or a close has taken it away and there is no transfer.
    split
    · exact ⟨hwhat, hunsettled.append rfl rfl, hquiet.append hcalls rfl⟩
    · exact ⟨hwhat, hunsettled.append rfl rfl, hquiet.bounded (Nat.zero_le 1)⟩
  | starting x =>
    obtain ⟨hwhat, hunsettled, hquiet⟩ := h
    cases hstep
    -- This transfer may be late, but none was before it.
    refine ⟨hwhat, ⟨?_, (any_overdue_append_of_false rfl).trans hunsettled.early⟩,
      hquiet.bounded (by rw [hcalls]; exact Nat.le_refl _)⟩
    rw [last?_append]
    rfl
  | moving x answer =>
    obtain ⟨hwhat, ⟨hlast, hearly⟩, hbounded⟩ := h
    cases hstep
    exact ⟨hwhat, ⟨(last?_append_of_none rfl).trans hlast,
      (any_overdue_append_of_false rfl).trans hearly⟩, hbounded.append hcalls rfl⟩
  | moved x answer =>
    cases answer with
    | none =>
      obtain ⟨hwhat, hunsettled, hbounded⟩ := h
      cases hstep
      exact ⟨congrArg _ hwhat, (hunsettled.append rfl rfl).ends, hbounded.append hcalls rfl⟩
    | some answer =>
      obtain ⟨hwhat, ⟨hlast, hearly⟩, hbounded⟩ := h
      simp only [Point.step?, Option.some.injEq] at hstep
      subst hstep
      dsimp only
      split
      · rename_i r hdone
        refine ⟨congrArg _ hwhat, ?_, hbounded.append hcalls rfl⟩
        rw [last?_append_of_none rfl, hlast, ← hwhat, any_overdue_append, hearly,
          Bool.false_or]
        exact ends_of_judge hdone
      · rename_i rest hagain
        obtain ⟨rfl, hretries, hintime⟩ := unsettled_of_judge hagain
        refine ⟨hwhat, ⟨.inr ⟨(last?_append_of_none rfl).trans hlast, hwhat ▸ hretries⟩, ?_⟩,
          hbounded.append hcalls rfl⟩
        rw [any_overdue_append, hearly, Bool.false_or]
        exact hintime
  | leaving d r =>
    obtain ⟨rfl, hends, hbounded⟩ := h
    cases hstep
    refine ⟨r, rfl, ?_, hbounded.append hcalls rfl⟩
    rw [last?_append_of_none rfl, any_overdue_append_of_false rfl]
    exact hends
  | finished reply => cases hstep
  | _ => exact h.elim

theorem Trail.progress {t : Transfer} {timeout : Nat} {q : Point}
    (h : Trail s (.queued t timeout) l q) (hlate : LateLast l) : Progress s t l q := by
  induction h with
  | start => exact ⟨rfl, rfl⟩
  | step _ hstep ih => exact (ih (List.pairwise_append.1 hlate).1).step hlate hstep

/-! ## Closes -/

/-- Whether one of the steps took the open session into closing. -/
def Flipped (l : List Stride) : Prop := ∃ st ∈ l, st.flips = true

/-- How far a close has come when it has got to a point. -/
def Closure (disconnected : Bool) (l : List Stride) (p : Point) : Prop :=
  p = .flipping disconnected ∧ l = [] ∨
  Flipped l ∧ (p.closes = true ∨ p = .finished (.closed .closed)) ∨
  ¬Flipped l ∧ callsOf l = [] ∧ ∃ state, state ≠ .open ∧ p = .finished (.closed state)

theorem Flipped.append (h : Flipped l) (st : Stride) : Flipped (l ++ [st]) := by
  obtain ⟨first, hmem, hflips⟩ := h
  exact ⟨first, List.mem_append_left _ hmem, hflips⟩

/-- Who closes goes on to close, or has closed. -/
theorem closes_of_step {cm : Common} {m : Moment} {p : Point} {mv : Move}
    (hstep : p.step? s cm m = some mv) (hp : p.closes = true) :
    mv.point.closes = true ∨ mv.point = .finished (.closed .closed) := by
  rcases (Point.passage_of_step hstep).closes hp with hcloses | rfl
  · exact .inl hcloses
  · cases hstep
    exact .inr rfl

theorem Closure.step {disconnected : Bool} (h : Closure disconnected l st.point)
    (hstep : st.point.step? s st.common st.moment = some st.move) :
    Closure disconnected (l ++ [st]) st.move.point := by
  have hcalls := Stride.calls_of_step hstep
  obtain ⟨i, q, cm, m, mv⟩ := st
  simp only at h hstep hcalls ⊢
  -- A close that is over makes no step, so only two of the four cases are left.
  rcases h with ⟨rfl, rfl⟩ | ⟨hflipped, hcloses | rfl⟩ | ⟨-, -, state, -, rfl⟩
  · simp only [Point.step?] at hstep
    split at hstep
    · rename_i hopen
      cases hstep
      refine .inr (.inl ⟨⟨_, List.mem_singleton_self _, ?_⟩, .inl ?_⟩)
      · simp [Stride.flips, Stride.late, hopen]
      · cases disconnected <;> rfl
    · rename_i hopen
      cases hstep
      refine .inr (.inr ⟨?_, ?_, cm.state, hopen, rfl⟩)
      · rintro ⟨st, hst, hflips⟩
        rw [List.nil_append, List.mem_singleton] at hst
        simp [hst, Stride.flips, Stride.late, hopen] at hflips
      · rw [callsOf_append, hcalls]
        rfl
  · exact .inr (.inl ⟨hflipped.append _, closes_of_step hstep hcloses⟩)
  · cases hstep
  · cases hstep

theorem Trail.closure {disconnected : Bool} {q : Point}
    (h : Trail s (.flipping disconnected) l q) : Closure disconnected l q := by
  induction h with
  | start => exact .inl ⟨rfl, rfl⟩
  | step _ hstep ih => exact ih.step hstep

theorem reply?_of_closes {p : Point} (h : p.closes = true) : p.reply? = none := by
  cases p <;> first | rfl | cases h

/-- A step that takes the session into closing meets it open, and leaves it no longer so. -/
theorem flips_spec (h : st.point.step? s st.common st.moment = some st.move)
    (hflips : st.flips = true) : st.common.state = .open ∧ st.move.common.state = .closing := by
  obtain ⟨i, p, cm, m, mv⟩ := st
  cases p <;> simp only [Stride.flips, Bool.false_eq_true] at hflips
  simp only [Stride.late, Bool.not_eq_true', bne_eq_false_iff_eq] at hflips
  simp only [Point.step?, hflips, if_true, Option.some.injEq] at h
  subst h
  exact ⟨hflips, rfl⟩

theorem Run.countP_flips (h : Run s past c) :
    past.countP Stride.flips ≤ (c.common.state != .open).toNat := by
  induction h with
  | start => exact Nat.le_refl _
  | arrive r _ ih => exact ih
  | @move past c i v m mv hrun hv hstep ih =>
    have hgoes := (hrun.move hv hstep).goes (List.mem_append_right _ (List.mem_singleton_self _))
    rw [List.countP_append, List.countP_singleton]
    simp only [Crowd.advance]
    split
    · rename_i hflips
      obtain ⟨hopen, hclosing⟩ := flips_spec hstep hflips
      simp only at hopen hclosing
      rw [hopen] at ih
      rw [hclosing]
      exact Nat.add_le_add_right ih 1
    · refine Nat.le_trans ih ?_
      -- Before the session leaves the open state there is nothing to count.
      by_cases hopen : c.common.state = .open
      · rw [hopen]
        exact Nat.zero_le _
      · rw [bne_iff_ne.2 hopen, bne_iff_ne.2 (hgoes.ne_open hopen)]

/-! ## The protocol -/

/-- How many steps a read or write still makes at most, from a point where it waits for nobody, when
    the session is no longer open. -/
def toGo : Point → Nat
  | .moving .. => 4
  | .moved .. => 3
  | .checking _ => 2
  | .leaving .. => 1
  | _ => 0

/-- What closing comes to. -/
structure ClosingProtocol (s : Session) (past : List Stride) (c : Crowd) : Prop where
  /-- The session goes from open to closing and from closing to closed, and no other way. -/
  forward : List.IsChain Session.State.Goes (.open :: past.map (·.move.common.state))
  /-- One close at most takes the session into closing. -/
  single : past.countP Stride.flips ≤ 1
  /-- Any other makes no call, and finds at its only step that the session is closing or closed. -/
  close : ∀ (i : Nat) (v : Visit) (disconnected : Bool), c.visits[i]? = some v →
    v.request = .close disconnected →
    Flipped (ofVisit i past) ∧ (∀ reply, v.point.reply? = some reply → reply = .closed .closed) ∨
    callsOf (ofVisit i past) = [] ∧ ¬Flipped (ofVisit i past) ∧
      (v.point = .flipping disconnected ∨
        ∃ state, state ≠ .open ∧ v.point = .finished (.closed state))
  /-- It needs to wait for nobody to find that. -/
  find : ∀ (i : Nat) (v : Visit) (disconnected : Bool), c.visits[i]? = some v →
    v.point = .flipping disconnected → c.common.state ≠ .open →
    ∀ m, ∃ mv, v.point.step? s c.common m = some mv ∧
      mv.point = .finished (.closed c.common.state)
  /-- A read or write that first looks at the state too late makes no call. -/
  turnedAway : ∀ (i : Nat) (v : Visit) (t : Transfer), c.visits[i]? = some v →
    v.request.transfer? = some t → TurnedAway (ofVisit i past) →
    callsOf (ofVisit i past) = [] ∧
      ∀ reply, v.point.reply? = some reply → reply = .ofTransfer (.error .closed) t.direction
  /-- One that looks at it in time starts at most one transfer afterwards. -/
  bounded : ∀ (i : Nat) (v : Visit) (t : Transfer), c.visits[i]? = some v →
    v.request.transfer? = some t → (lateCalls (ofVisit i past)).length ≤ 1
  /-- It ends by the answer of that transfer. -/
  outcome : ∀ (i : Nat) (v : Visit) (t : Transfer), c.visits[i]? = some v →
    v.request.transfer? = some t → ∀ st ∈ ofVisit i past, st.late = true →
    ∀ answer, st.answer? = some answer → ∀ reply, v.point.reply? = some reply →
    ∃ r, reply = .ofTransfer r t.direction ∧
      Ends s t ((ofVisit i past).any Stride.overdue) (some answer) r
  /-- Neither waits for another thread again. -/
  returns : ∀ (i : Nat) (v : Visit) (t : Transfer), c.visits[i]? = some v →
    v.request.transfer? = some t →
    (TurnedAway (ofVisit i past) ∨ ∃ st ∈ ofVisit i past, st.late = true ∧ st.calls ≠ []) →
    v.point.reply?.isSome = true ∨
      ∀ m, ∃ mv, v.point.step? s c.common m = some mv ∧ toGo mv.point < toGo v.point

/-- The states that the steps leave, the last of them the one that the crowd is in. -/
theorem Run.isChain_goes (h : Run s past c) :
    List.IsChain Session.State.Goes (.open :: past.map (·.move.common.state)) ∧
      (Session.State.open :: past.map (·.move.common.state)).getLast? = some c.common.state := by
  induction h with
  | start => exact ⟨List.isChain_singleton _, rfl⟩
  | arrive r _ ih => exact ih
  | @move past c i v m mv hrun hv hstep ih =>
    have hgoes := (hrun.move hv hstep).goes (List.mem_append_right _ (List.mem_singleton_self _))
    rw [List.map_append, ← List.cons_append]
    refine ⟨ih.1.append (List.isChain_singleton _) fun a ha b hb => ?_, List.getLast?_concat⟩
    rw [ih.2, Option.mem_some_iff] at ha
    rw [List.map_singleton, List.head?_cons, Option.mem_some_iff] at hb
    exact ha ▸ hb ▸ hgoes

/-- Where nobody is waited for, there is a step, and it comes closer to the end. -/
theorem step_of_toGo {cm : Common} {p : Point} (hp : 0 < toGo p) (hopen : cm.state ≠ .open)
    (m : Moment) : ∃ mv, p.step? s cm m = some mv ∧ toGo mv.point < toGo p := by
  cases p with
  | moving x answer => exact ⟨_, rfl, (by decide : 3 < 4)⟩
  | moved x answer =>
    cases answer with
    | none => exact ⟨_, rfl, (by decide : 1 < 3)⟩
    | some answer =>
      refine ⟨_, rfl, ?_⟩
      dsimp only
      split
      · exact (by decide : 1 < 3)
      · exact (by decide : 2 < 3)
  | checking x => exact ⟨_, if_neg hopen, (by decide : 1 < 2)⟩
  | leaving d r => exact ⟨_, rfl, (by decide : 0 < 1)⟩
  | _ => cases hp

theorem mem_of_mem_ofVisit (h : st ∈ ofVisit i past) : st ∈ past := (List.mem_filter.1 h).1

section Transfer

variable {t : Transfer} {p : Point}

/-- Who was turned away is on the way out. -/
theorem Admission.of_turnedAway (h : Admission t l p) (hturned : TurnedAway l) :
    callsOf l = [] ∧ (p = .leaving t.direction (.error .closed) ∨
      p = .finished (.ofTransfer (.error .closed) t.direction)) := by
  -- Beyond the first look only those are found who were admitted.
  have hnot := not_admitted_of_turnedAway hturned
  cases p with
  | queued what timeout =>
    obtain ⟨st, hst, -⟩ := hturned
    rw [h.2] at hst
    cases hst
  | checking x =>
    obtain ⟨st, hst, -⟩ := hturned
    rcases h.2 with ⟨hnone, -⟩ | hadmitted
    · rw [hnone] at hst
      cases hst
    · exact absurd hadmitted hnot
  | sharing x | starting x | moving x answer | moved x answer => exact absurd h.2 hnot
  | leaving d r =>
    obtain ⟨rfl, hadmitted | ⟨-, hcalls, rfl⟩⟩ := h
    · exact absurd hadmitted hnot
    · exact ⟨hcalls, .inl rfl⟩
  | finished reply =>
    obtain ⟨r, rfl, hadmitted | ⟨-, hcalls, rfl⟩⟩ := h
    · exact absurd hadmitted hnot
    · exact ⟨hcalls, .inr rfl⟩
  | _ => exact h.elim

theorem Bounded.of_quiet (h : Quiet l) : Bounded l where
  calls := by
    rw [h.lateCalls]
    exact Nat.zero_le 1
  answer st hst hlate answer hstart := by
    rw [(h st hst hlate).2] at hstart
    cases hstart

theorem Progress.bounded (h : Progress s t l p) : Bounded l := by
  cases p with
  | queued what timeout =>
    rw [h.2]
    exact .of_quiet fun st hst => absurd hst List.not_mem_nil
  | sharing x | starting x => exact .of_quiet h.2.2
  | checking x | moving x answer | leaving d r => exact h.2.2
  | moved x answer => cases answer <;> exact h.2.2
  | finished reply => obtain ⟨r, -, -, hbounded⟩ := h; exact hbounded
  | _ => exact h.elim

/-- A read or write that started a transfer late waits for nobody. -/
theorem Progress.toGo_pos (h : Progress s t l p) (hst : st ∈ l) (hlate : st.late = true)
    (hcalls : st.calls ≠ []) : p.reply?.isSome = true ∨ 0 < toGo p := by
  -- Before a transfer starts nothing is late, so the visit is past that.
  have hnot : ¬Quiet l := fun hquiet => hcalls (hquiet st hst hlate).1
  cases p with
  | queued what timeout => rw [h.2] at hst; cases hst
  | sharing x | starting x => exact absurd h.2.2 hnot
  | checking x | moving x answer | moved x answer | leaving d r => exact .inr (Nat.succ_pos _)
  | finished reply => exact .inl rfl
  | _ => exact h.elim

/-- A read or write has come to its point from the line for its lock. -/
theorem Run.trail_transfer (h : Run s past c) (hv : c.visits[i]? = some v)
    (ht : v.request.transfer? = some t) :
    ∃ timeout, Trail s (.queued t timeout) (ofVisit i past) v.point := by
  obtain ⟨timeout, hstart⟩ : ∃ timeout, Point.ofRequest s v.request = .queued t timeout := by
    cases hr : v.request <;> rw [hr] at ht <;> cases ht <;> exact ⟨_, rfl⟩
  exact ⟨timeout, hstart ▸ h.trail hv⟩

theorem Run.admission (h : Run s past c) (hv : c.visits[i]? = some v)
    (ht : v.request.transfer? = some t) : Admission t (ofVisit i past) v.point := by
  obtain ⟨timeout, htrail⟩ := h.trail_transfer hv ht
  exact htrail.admission

theorem Run.progress (h : Run s past c) (hv : c.visits[i]? = some v)
    (ht : v.request.transfer? = some t) : Progress s t (ofVisit i past) v.point := by
  obtain ⟨timeout, htrail⟩ := h.trail_transfer hv ht
  exact htrail.progress (h.lateLast_ofVisit i)

end Transfer

/-- Under every schedule, one thread closes the session and the others find it done; who comes too
    late is turned away, and who is on the way already gets one transfer through at most. -/
theorem Run.closingProtocol (h : Run s past c) : ClosingProtocol s past c where
  forward := h.isChain_goes.1
  single := Nat.le_trans h.countP_flips (Bool.toNat_le _)
  close i v disconnected hv hr := by
    have htrail : Trail s (.flipping disconnected) (ofVisit i past) v.point := by
      have := h.trail hv
      rwa [hr] at this
    rcases htrail.closure with ⟨hpoint, hnil⟩ | ⟨hflipped, hcloses | hpoint⟩ |
      ⟨hnot, hcalls, hpoint⟩
    · refine .inr ⟨by rw [hnil]; rfl, ?_, .inl hpoint⟩
      rintro ⟨st, hst, -⟩
      rw [hnil] at hst
      cases hst
    · refine .inl ⟨hflipped, fun reply hreply => ?_⟩
      rw [reply?_of_closes hcloses] at hreply
      cases hreply
    · refine .inl ⟨hflipped, fun reply hreply => ?_⟩
      rw [hpoint] at hreply
      exact (Option.some.inj hreply).symm
    · exact .inr ⟨hcalls, hnot, .inr hpoint⟩
  find i v disconnected hv hpoint hclosed m := by
    rw [hpoint]
    exact ⟨_, if_neg hclosed, rfl⟩
  turnedAway i v t hv ht hturned := by
    obtain ⟨hcalls, hpoint⟩ := (h.admission hv ht).of_turnedAway hturned
    refine ⟨hcalls, fun reply hreply => ?_⟩
    rcases hpoint with hpoint | hpoint
    · rw [hpoint] at hreply
      cases hreply
    · rw [hpoint] at hreply
      exact (Option.some.inj hreply).symm
  bounded i v t hv ht := (h.progress hv ht).bounded.calls
  outcome i v t hv ht st hst hlate answer hanswer reply hreply := by
    have hprogress := h.progress hv ht
    have hlast := hprogress.bounded.answer st hst hlate answer hanswer
    -- Only a visit that has finished has a reply.
    cases hp : v.point <;> rw [hp] at hreply hprogress <;> cases hreply
    obtain ⟨r, rfl, hends, -⟩ := hprogress
    exact ⟨r, rfl, hlast ▸ hends⟩
  returns i v t hv ht hwhy := by
    have hgo : v.point.reply?.isSome = true ∨ 0 < toGo v.point := by
      rcases hwhy with hturned | ⟨st, hst, hlate, hcalls⟩
      · obtain ⟨-, hpoint | hpoint⟩ := (h.admission hv ht).of_turnedAway hturned
        · exact .inr (hpoint ▸ Nat.succ_pos _)
        · exact .inl (hpoint ▸ rfl)
      · exact (h.progress hv ht).toGo_pos hst hlate hcalls
    -- Either way a late step was made, and the session does not open again.
    have hopen : c.common.state ≠ .open := by
      rcases hwhy with ⟨st, hst, hlate⟩ | ⟨st, hst, hlate, -⟩
      · exact h.not_open_of_late (mem_of_mem_ofVisit (List.mem_of_find?_eq_some hst)) hlate
      · exact h.not_open_of_late (mem_of_mem_ofVisit hst) hlate
    exact hgo.imp_right fun hpos => step_of_toGo hpos hopen

/-- A write that moves no bytes and would be tried again is cut off by a close, and a read that
    comes later is turned away. -/
theorem closingProtocol_retry_close :
    let s := { plainSession with options := { retryZeroLength := true } }
    let start := ((({} : Crowd).arrive s (.write [1])).arrive s (.close true)).arrive s (.read 8 0)
    let turns := ([0, 0, 1, 0, 0, 0, 0, 0, 0, 2, 2, 2, 1, 1, 1] : List Nat).map
      fun i => (i, ({} : Moment))
    let r := play s turns ([], start)
    (lateCalls (ofVisit 0 r.1)).length = 1 ∧ callsOf (ofVisit 2 r.1) = [] ∧ Run s r.1 r.2 ∧
      ClosingProtocol s r.1 r.2 := by
  intro s start turns r
  have h : Run s r.1 r.2 := .play turns (.arrive _ (.arrive _ (.arrive _ .start)))
  exact ⟨by decide, by decide, h, h.closingProtocol⟩

end Crowd

end UsbSession
