import Mathlib.Data.Nat.Basic
import Mathlib.Order.Monotone.Basic
import UsbSession.Proofs.Transfer.Turns

/-!
# Deadlines

How the time that an operation has is shared out among its transfers. The first transfer is given
all of it and each later one what is left when the one before has returned (`Granted`), so that all
of them together take no longer than one might (`Paced`). An operation whose time is spent fails.

Both are said of the timeouts that were given and of what was seen when transfers returned
(`Look`), and not of how these came about, so they can be said of an operation that runs alone
(`Session.paced_read`) and of one that runs among others.
-/

namespace UsbSession

open Traced (Does)

/-! ## Timeouts and looks -/

/-- The timeout that a call gives to a transfer. -/
def Call.timeout? : Call → Option Nat
  | transfer _ _ _ timeout _ => some timeout
  | _ => none

/-- The timeouts of the transfers among calls. -/
def timeoutsOf (calls : List Call) : List Nat := calls.filterMap Call.timeout?

/-- What was seen of a transfer that had returned. -/
structure Look where
  answer : HostAnswer
  /-- The time on the clock then. -/
  now : Nat
  deriving DecidableEq

/-- The timeouts of an operation that has a span of time from `start` on; zero is no limit. Times
    are in microseconds. -/
structure Granted (span start : Nat) (timeouts : List Nat) (looks : List Look) : Prop where
  /-- The first transfer is given the whole span, and each later one exactly what is left of it at
      the look that comes before. -/
  each : timeouts <+: span :: looks.map fun look => if span = 0 then 0 else start + span - look.now
  /-- No later transfer is given less than a millisecond. -/
  least : 0 < span → ∀ timeout ∈ timeouts.tail, 1000 ≤ timeout

/-- The transfers of an operation that tries again what moved nothing, by a clock that does not run
    backwards, and the result, if there is one yet. -/
structure Paced (span start : Nat) (timeouts : List Nat) (looks : List Look)
    (result : Option (Except Error (List UInt8))) : Prop extends
    Granted span start timeouts looks where
  /-- No transfer is given more than one before it. -/
  falling : timeouts.Pairwise (· ≥ ·)
  /-- If less than a millisecond is left after a transfer that moved nothing, it is the last one,
      and the operation times out. -/
  spent : 0 < span → ∀ (i : Nat) (look : Look), looks[i]? = some look → look.answer = .ok [] →
    start + span - look.now < 1000 →
    timeouts.length = i + 1 ∧ result = some (.error (.usb .timeout))
  /-- It does not end with nothing moved. -/
  moves : result ≠ some (.ok [])
  /-- It does not time out otherwise, unless its last transfer did. -/
  timedOut : result = some (.error (.usb .timeout)) → ∃ look, looks.getLast? = some look ∧
    (look.answer = .error .timeout ∨ look.answer = .ok [] ∧ 0 < span ∧
      start + span - look.now < 1000)

/-! ## Operations under way -/

section Looks

variable {s : Session} {t : Transfer} {span start : Nat} {timeouts : List Nat}
  {looks before : List Look} {look : Look} {result : Option (Except Error (List UInt8))}

/-- After each of the looks another transfer was due. -/
def Going (span start : Nat) (looks : List Look) : Prop :=
  ∀ look ∈ looks, look.answer = .ok [] ∧ spentAt span start look.now = false

/-- The timeouts of the transfers that come first and after each of the looks. -/
def grants (span start : Nat) (looks : List Look) : List Nat :=
  span :: looks.map fun look => leftAt span start look.now

/-- The looks of an operation from `start` on, by a clock that does not run backwards. -/
def Forward (start : Nat) (looks : List Look) : Prop :=
  (∀ look ∈ looks, start ≤ look.now) ∧ looks.Pairwise fun a b => a.now ≤ b.now

theorem eq_timeout_of_mapError {answer : HostAnswer}
    (h : answer.mapError Error.ofTransfer = .error (.usb .timeout)) : answer = .error .timeout := by
  rcases answer with code | bytes
  · cases code <;> first | rfl | cases h
  · cases h

theorem eq_ok_nil_of_mapError {answer : HostAnswer}
    (h : answer.mapError Error.ofTransfer = .ok []) : answer = .ok [] := by
  rcases answer with code | bytes
  · cases h
  · cases h
    rfl

theorem Going.append (h : Going span start looks) (hanswer : look.answer = .ok [])
    (hintime : spentAt span start look.now = false) : Going span start (looks ++ [look]) :=
  List.forall_mem_append.2 ⟨h, List.forall_mem_singleton.2 ⟨hanswer, hintime⟩⟩

theorem grants_append (span start : Nat) (looks : List Look) (look : Look) :
    grants span start (looks ++ [look]) =
      grants span start looks ++ [leftAt span start look.now] := by
  simp [grants]

theorem Granted.of_going (hgoing : Going span start before) (hbefore : before <+: looks)
    (htimeouts : timeouts <+: grants span start before) :
    Granted span start timeouts looks where
  each := htimeouts.trans (List.cons_prefix_cons.2 ⟨rfl, hbefore.map _⟩)
  least hspan timeout htimeout := by
    cases timeouts with
    | nil => cases htimeout
    | cons first later =>
      obtain ⟨look, hlook, rfl⟩ :=
        List.mem_map.1 ((List.cons_prefix_cons.1 htimeouts).2.subset htimeout)
      by_contra hshort
      rw [leftAt_of_pos hspan, Nat.not_le] at hshort
      exact absurd (spentAt_iff.2 ⟨hspan, hshort⟩) (by simp [(hgoing look hlook).2])

/-- Whoever has a millisecond never gives a transfer less. -/
theorem Granted.le_of_mem (h : Granted span start timeouts looks) (hspan : 1000 ≤ span)
    {timeout : Nat} (htimeout : timeout ∈ timeouts) : 1000 ≤ timeout := by
  cases timeouts with
  | nil => cases htimeout
  | cons first later =>
    rcases List.mem_cons.1 htimeout with rfl | hlater
    · rw [(List.cons_prefix_cons.1 h.each).1]
      exact hspan
    · exact h.least (Nat.lt_of_lt_of_le (Nat.succ_pos _) hspan) timeout hlater

/-- What is left of the time falls. -/
theorem pairwise_grants (h : Forward start looks) :
    (grants span start looks).Pairwise (· ≥ ·) := by
  refine List.pairwise_cons.2 ⟨fun timeout htimeout => ?_, List.pairwise_map.2 (h.2.imp ?_)⟩
  · obtain ⟨look, hlook, rfl⟩ := List.mem_map.1 htimeout
    have := h.1 look hlook
    unfold leftAt
    split <;> omega
  · intro a b hab
    unfold leftAt
    split <;> omega

/-- An operation that no look has put an end to. -/
theorem Paced.of_going (hgoing : Going span start looks) (hforward : Forward start looks)
    (htimeouts : timeouts <+: grants span start looks)
    (hresult : ∀ r, result = some r → r = .error .closed) :
    Paced span start timeouts looks result where
  toGranted := .of_going hgoing List.prefix_rfl htimeouts
  falling := (pairwise_grants hforward).sublist htimeouts.sublist
  spent hspan i look hlook _ hshort :=
    absurd (spentAt_iff.2 ⟨hspan, hshort⟩) (by simp [(hgoing look (List.mem_of_getElem? hlook)).2])
  moves h := nomatch hresult _ h
  timedOut h := nomatch hresult _ h

/-- An operation that the last look has put an end to. -/
theorem Paced.of_judge {r : Except Error (List UInt8)} (hretries : s.retries t = true)
    (hgoing : Going span start before) (hforward : Forward start (before ++ [look]))
    (hend : (s.judge t (dueAt span start) look.now look.answer).value = .done r) :
    Paced span start (grants span start before) (before ++ [look]) (some r) where
  toGranted := .of_going hgoing (List.prefix_append _ _) List.prefix_rfl
  falling := pairwise_grants ⟨fun a ha => hforward.1 a (List.mem_append_left _ ha),
    (List.pairwise_append.1 hforward.2).1⟩
  spent hspan i a ha hanswer hshort := by
    have hspent := spentAt_iff.2 ⟨hspan, hshort⟩
    -- None of the looks before the last met the time spent.
    rcases Nat.lt_or_ge i before.length with hi | hi
    · rw [List.getElem?_append_left hi] at ha
      rw [(hgoing a (List.mem_of_getElem? ha)).2] at hspent
      cases hspent
    · rw [List.getElem?_append_right hi] at ha
      have hlast : i - before.length < 1 := (List.getElem?_eq_some_iff.1 ha).1
      obtain rfl := List.mem_singleton.1 (List.mem_of_getElem? ha)
      refine ⟨?_, ?_⟩
      · simp only [grants, List.length_cons, List.length_map]
        omega
      · rcases Session.judge_eq_done hend with ⟨-, -, -, hr⟩ | ⟨hanswer' | hretry, -⟩
        · rw [hr]
        · exact absurd hanswer hanswer'
        · rw [hretries] at hretry
          cases hretry
  moves h := by
    cases h
    rcases Session.judge_eq_done hend with ⟨-, -, -, hr⟩ | ⟨hanswer | hretry, hr⟩
    · cases hr
    · exact hanswer (eq_ok_nil_of_mapError hr.symm)
    · rw [hretries] at hretry
      cases hretry
  timedOut h := by
    cases h
    refine ⟨look, List.getLast?_concat, ?_⟩
    rcases Session.judge_eq_done hend with ⟨hanswer, -, hspent, -⟩ | ⟨-, hr⟩
    · exact .inr ⟨hanswer, spentAt_iff.1 hspent⟩
    · exact .inl (eq_timeout_of_mapError hr.symm)

end Looks

/-! ## An operation alone -/

namespace Clocked

/-- The looks at the first so many transfers. -/
def looks (p : Clocked) (t : Transfer) (n : Nat) : List Look :=
  (List.range n).map fun k => ⟨p.answer t k, (p.after t (k + 1)).now⟩

/-- Each transfer returns within the time that it is given. -/
def Prompt (p : Clocked) (t : Transfer) (timeouts : List Nat) : Prop :=
  ∀ (k timeout : Nat), timeouts[k]? = some timeout →
    (p.after t (k + 1)).now ≤ (p.after t k).now + timeout

variable {p : Clocked} {t : Transfer}

theorem looks_succ (n : Nat) :
    p.looks t (n + 1) = p.looks t n ++ [⟨p.answer t n, (p.after t (n + 1)).now⟩] := by
  rw [looks, List.range_succ, List.map_append]
  rfl

theorem strictMono_now : StrictMono fun n => (p.after t n).now :=
  strictMono_nat_of_lt_succ now_after_lt

/-- The clock of a device does not run backwards. -/
theorem forward_looks (n : Nat) : Forward p.now (p.looks t n) := by
  refine ⟨fun look hlook => ?_, List.pairwise_map.2 (List.pairwise_lt_range.imp fun hlt => ?_)⟩
  · obtain ⟨k, -, rfl⟩ := List.mem_map.1 hlook
    exact strictMono_now.monotone (Nat.zero_le (k + 1))
  · exact strictMono_now.monotone (Nat.succ_le_succ (Nat.le_of_lt hlt))

end Clocked

namespace Session

variable {s : Session} {t : Transfer} {span n : Nat} {p : Clocked}
  {o : Outcome Clocked Entry (Except Error (List UInt8))}

namespace Turns

variable (h : s.Turns t span p.now span false p n o)

include h

theorem going : Going span p.now (p.looks t n) := by
  intro look hlook
  obtain ⟨k, hk, rfl⟩ := List.mem_map.1 hlook
  exact h.empty k (List.mem_range.1 hk)

theorem timeoutsOf_eq : timeoutsOf (Entry.calls o.trace) = grants span p.now (p.looks t n) := by
  rw [h.calls, timeoutsOf, List.filterMap_cons, List.filterMap_map, grants, Clocked.looks,
    List.map_map]
  exact congrArg (span :: ·) (congrFun List.filterMap_eq_map (List.range n))

theorem length_timeouts : (timeoutsOf (Entry.calls o.trace)).length = n + 1 := by
  rw [h.timeoutsOf_eq]
  simp [grants, Clocked.looks]

theorem granted :
    Granted span p.now (timeoutsOf (Entry.calls o.trace)) (p.looks t (n + 1)) := by
  rw [h.timeoutsOf_eq, Clocked.looks_succ]
  exact .of_going h.going (List.prefix_append _ _) List.prefix_rfl

theorem paced (hretries : s.retries t = true) :
    Paced span p.now (timeoutsOf (Entry.calls o.trace)) (p.looks t (n + 1)) (some o.value) := by
  have hforward := Clocked.forward_looks (p := p) (t := t) (n + 1)
  rw [Clocked.looks_succ] at hforward ⊢
  rw [h.timeoutsOf_eq]
  exact .of_judge hretries h.going hforward h.ends

theorem now_le (hspan : 0 < span) (hprompt : p.Prompt t (timeoutsOf (Entry.calls o.trace))) :
    o.state.now ≤ p.now + span := by
  rw [h.state]
  rw [h.timeoutsOf_eq] at hprompt
  cases n with
  | zero => exact hprompt 0 span rfl
  | succ n =>
    -- The last transfer is given what was left when the one before had returned.
    have hlast := hprompt (n + 1) (leftAt span p.now (p.after t (n + 1)).now)
      (by simp [grants, Clocked.looks])
    have hintime := (h.empty n (Nat.lt_succ_self n)).2
    have hleft : ¬p.now + span - (p.after t (n + 1)).now < 1000 := fun hshort =>
      absurd (spentAt_iff.2 ⟨hspan, hshort⟩) (by simp [hintime])
    rw [leftAt_of_pos hspan] at hlast
    omega

end Turns

/-- A read has the time that is asked for or, where none is, the time of the options or else five
    seconds. -/
theorem readTimeout_eq (s : Session) (timeout : Nat) : s.readTimeout timeout =
    if timeout = 0 then s.options.readTimeout.getD 5000000 else timeout := rfl

theorem turns_read (hopen : s.state = .open) (size timeout : Nat) (p : Clocked) :
    ∃ n, s.Turns (.read size) (s.readTimeout timeout) p.now (s.readTimeout timeout) false p n
      ((s.read size timeout).run p) := by
  obtain ⟨n, h⟩ := turns_dispatch hopen (.read size) (s.readTimeout timeout) p
  have hdoes := s.does_read size timeout p
  refine ⟨n, h.empty, h.retries, ?_, hdoes.state.trans h.state, hdoes.calls.trans h.calls⟩
  rw [hdoes.value]
  exact h.ends

/-- The transfers of a read that runs alone, one behind the other. -/
theorem paced_read {size : Nat} (hopen : s.state = .open)
    (hretries : s.retries (.read size) = true) (timeout : Nat) (p : Clocked) :
    let o := (s.read size timeout).run p
    let timeouts := timeoutsOf (Entry.calls o.trace)
    timeouts.head? = some (s.readTimeout timeout) ∧
      o.state = p.after (.read size) timeouts.length ∧
      Paced (s.readTimeout timeout) p.now timeouts (p.looks (.read size) timeouts.length)
        (some o.value) ∧
      (0 < s.readTimeout timeout → p.Prompt (.read size) timeouts →
        o.state.now ≤ p.now + s.readTimeout timeout) := by
  intro o timeouts
  obtain ⟨n, h⟩ := turns_read hopen size timeout p
  have hlength : timeouts.length = n + 1 := h.length_timeouts
  rw [hlength]
  exact ⟨congrArg List.head? h.timeoutsOf_eq, h.state, h.paced hretries, h.now_le⟩

end Session

end UsbSession
