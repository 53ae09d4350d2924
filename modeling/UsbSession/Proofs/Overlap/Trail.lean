import Mathlib.Tactic.Common
import UsbSession.Proofs.Overlap.Exclusion

/-!
# Trails

What one visit does in a run, and what it can know of the others. Each visit leaves a *trail*, the
steps that it made (`Crowd.Trail`, `Crowd.Run.trail`); what the other threads do shows in it only
through what it meets at each step. Since the state of the session goes forward only
(`Session.State.Goes`), the steps that meet it no longer open, the *late* ones, come last.

* `Crowd.Run.lateLast`: the session never opens again.
-/

namespace UsbSession

/-! ## The state of the session -/

/-- A state and the state after it. -/
inductive Session.State.Goes : Session.State → Session.State → Prop
  | stay (state : Session.State) : Goes state state
  | close : Goes .open .closing
  | finish : Goes .closing .closed

theorem Session.State.Goes.ne_open {a b : Session.State} (h : Goes a b) (ha : a ≠ .open) :
    b ≠ .open := by
  cases h with
  | stay => exact ha
  | close => exact absurd rfl ha
  | finish => nofun

/-- The state goes forward, if the session is closing while a thread closes it. -/
theorem Passage.goes {c c' : Common} {p q : Point} (h : Passage c p q c')
    (hp : p.closes = true → c.state = .closing) : c.state.Goes c'.state := by
  cases h with
  | lock d | unlock d => rw [Common.state_setHeld]; exact .stay _
  | flip _ isOpen => rw [isOpen]; exact .close
  | store => rw [hp rfl]; exact .finish
  | _ => exact .stay _

/-- The transfer that a request is for. -/
def Request.transfer? : Request → Option Transfer
  | .read size _ => some (.read size)
  | .write bytes => some (.write bytes)
  | _ => none

/-- Whether a transfer of no bytes is tried again. -/
def Session.retries (s : Session) (t : Transfer) : Bool :=
  s.options.retryZeroLength && decide (0 < t.size)

namespace Stride

/-- Whether the step met the session no longer open. -/
def late (st : Stride) : Bool := st.common.state != .open

/-- Whether the step looked at the state for a read or write. -/
def checks (st : Stride) : Bool :=
  match st.point with
  | .checking _ => true
  | _ => false

/-- The answer that the host has for the transfer of a read or write that starts with the step. -/
def answer? (st : Stride) : Option HostAnswer :=
  match st.point with
  | .starting _ => some st.moment.answer
  | _ => none

/-- Whether the step judged a transfer of a read or write that has no millisecond left. -/
def overdue (st : Stride) : Bool :=
  match st.point with
  | .moved x (some _) => x.deadline.any fun due => due - st.moment.now < 1000
  | _ => false

/-- Whether the step took the open session into closing. -/
def flips (st : Stride) : Bool :=
  match st.point with
  | .flipping _ => !st.late
  | _ => false

end Stride

namespace Crowd

/-! ## Trails -/

/-- The steps of a visit. -/
def ofVisit (i : Nat) (past : List Stride) : List Stride := past.filter (·.visit == i)

/-- The calls that started with the steps. -/
def callsOf (l : List Stride) : List Call := l.flatMap Stride.calls

/-- The calls that started with the late steps. -/
def lateCalls (l : List Stride) : List Call := callsOf (l.filter Stride.late)

/-- The answer of the last transfer of a read or write. -/
def last? (l : List Stride) : Option HostAnswer := (l.filterMap Stride.answer?).getLast?

/-- The steps of one thread from a point to another. -/
inductive Trail (s : Session) (p : Point) : List Stride → Point → Prop
  | start : Trail s p [] p
  | step {l : List Stride} {st : Stride} : Trail s p l st.point →
      st.point.step? s st.common st.moment = some st.move → Trail s p (l ++ [st]) st.move.point

variable {s : Session} {past l : List Stride} {c : Crowd} {i : Nat} {v : Visit} {st : Stride}

theorem ofVisit_append (i : Nat) (past : List Stride) (st : Stride) :
    ofVisit i (past ++ [st]) = if st.visit = i then ofVisit i past ++ [st] else ofVisit i past := by
  by_cases h : st.visit = i <;> simp [ofVisit, h]

theorem callsOf_append (l : List Stride) (st : Stride) :
    callsOf (l ++ [st]) = callsOf l ++ st.calls := by
  simp [callsOf]

theorem lateCalls_append (l : List Stride) (st : Stride) :
    lateCalls (l ++ [st]) = lateCalls l ++ if st.late then st.calls else [] := by
  cases h : st.late <;> simp [lateCalls, callsOf, h]

theorem last?_append (l : List Stride) (st : Stride) :
    last? (l ++ [st]) = st.answer?.or (last? l) := by
  cases h : st.answer? <;> simp [last?, h]

theorem last?_append_of_none (h : st.answer? = none) : last? (l ++ [st]) = last? l := by
  rw [last?_append, h, Option.none_or]

theorem Run.visit_lt (h : Run s past c) (hst : st ∈ past) : st.visit < c.visits.length := by
  induction h with
  | start => cases hst
  | arrive r _ ih => exact Nat.lt_of_lt_of_le (ih hst) (by simp [Crowd.arrive])
  | @move past c i v m mv _ hv _ ih =>
    simp only [Crowd.advance, List.length_set]
    rcases List.mem_append.1 hst with hst | hst
    · exact ih hst
    · rw [List.mem_singleton.1 hst]
      exact (List.getElem?_eq_some_iff.1 hv).1

/-- A visit has come to its point by its own steps. -/
theorem Run.trail (h : Run s past c) (hv : c.visits[i]? = some v) :
    Trail s (.ofRequest s v.request) (ofVisit i past) v.point := by
  induction h generalizing v with
  | start => simp at hv
  | @arrive past c r hrun ih =>
    simp only [Crowd.arrive, List.getElem?_append] at hv
    split at hv
    · exact ih hv
    · -- The new visit has made no step yet.
      obtain ⟨hi, rfl⟩ := List.getElem?_eq_some_iff.1 hv
      have hnone : ofVisit i past = [] := by
        refine List.filter_eq_nil_iff.2 fun st hst => ?_
        have := hrun.visit_lt hst
        simp only [beq_iff_eq]
        omega
      rw [hnone]
      simpa using Trail.start
  | @move past c j w m mv hrun hw hstep ih =>
    -- The step is one of this visit, or leaves it where it was.
    rw [ofVisit_append]
    simp only [Crowd.advance, List.getElem?_set] at hv
    split at hv
    · rename_i hij
      subst hij
      split at hv
      · cases hv
        rw [if_pos rfl]
        exact Trail.step (ih hw) hstep
      · cases hv
    · rename_i hij
      rw [if_neg hij]
      exact ih hv

/-! ## Late steps come last -/

/-- The session never opens again. -/
def LateLast (l : List Stride) : Prop := l.Pairwise fun a b => a.late = true → b.late = true

theorem Run.goes (h : Run s past c) (hst : st ∈ past) :
    st.common.state.Goes st.move.common.state := by
  induction h with
  | start => cases hst
  | arrive r _ ih => exact ih hst
  | @move past c i v m mv hrun hv hstep ih =>
    rcases List.mem_append.1 hst with hst | hst
    · exact ih hst
    · rw [List.mem_singleton.1 hst]
      exact (Point.passage_of_step hstep).goes
        (hrun.sound.closing_of_closes (List.mem_of_getElem? hv))

theorem Run.not_open_of_late (h : Run s past c) (hst : st ∈ past) (hlate : st.late = true) :
    c.common.state ≠ .open := by
  induction h with
  | start => cases hst
  | arrive r _ ih => exact ih hst
  | @move past c i v m mv hrun hv hstep ih =>
    have hgoes := (hrun.move hv hstep).goes (List.mem_append_right _ (List.mem_singleton_self _))
    refine hgoes.ne_open ?_
    rcases List.mem_append.1 hst with hst | hst
    · exact ih hst
    · rw [List.mem_singleton.1 hst] at hlate
      simpa [Stride.late] using hlate

theorem Run.lateLast (h : Run s past c) : LateLast past := by
  induction h with
  | start => exact .nil
  | arrive r _ ih => exact ih
  | @move past c i v m mv hrun hv hstep ih =>
    refine List.pairwise_append.2 ⟨ih, List.pairwise_singleton _ _, fun a ha b hb hlate => ?_⟩
    rw [List.mem_singleton.1 hb]
    simpa [Stride.late] using hrun.not_open_of_late ha hlate

theorem Run.lateLast_ofVisit (h : Run s past c) (i : Nat) : LateLast (ofVisit i past) :=
  h.lateLast.filter _

end Crowd

end UsbSession
