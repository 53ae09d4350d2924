import UsbSession.Proofs.Life.Conduct
import UsbSession.Proofs.Overlap.Closing

/-!
# Transfers in turn

What a device answers to the same transfer, made again and again (`Clocked.answer`), and where that
leaves it (`Clocked.after`). It is a matter of the device alone: the timeouts that the transfers are
given make no difference to it.

A read or write makes some of these transfers, the first ones, one behind the other
(`Session.Turns`). All but the last moved nothing and were made in time; the last one decides what
comes of it (`Session.judge_eq_done`). As long as they move nothing each of them uses up an answer
of the device, which is why they come to an end (`Clocked.le_copies`).

* `Session.turns_transferUntil`: every read and every write does so;
* `Session.turns_dispatch`: it does so from its start, with all of its time left.
-/

namespace UsbSession

open Traced (Does)

/-! ## The transfers of a device -/

namespace Clocked

variable (p : Clocked) (t : Transfer)

/-- The device when a transfer has returned, and the time then. -/
def passed : Clocked :=
  ⟨(p.device.enter t).2.leave t (p.device.enter t).1.answer,
    p.now + (p.device.enter t).1.delay + Act.leastDelay⟩

/-- The device after so many transfers. -/
def after : Nat → Clocked
  | 0 => p
  | n + 1 => after n |>.passed t

/-- The answer to the transfer that comes after so many others. -/
def answer (n : Nat) : HostAnswer := ((p.after t n).device.enter t).1.answer

variable {p t}

theorem after_succ (n : Nat) : (p.passed t).after t n = p.after t (n + 1) := by
  induction n with
  | zero => rfl
  | succ n ih => exact congrArg (passed · t) ih

theorem answer_succ (n : Nat) : (p.passed t).answer t n = p.answer t (n + 1) := by
  rw [answer, after_succ, answer]

theorem now_after_lt (n : Nat) : (p.after t n).now < (p.after t (n + 1)).now := by
  change _ < _ + _ + 1
  omega

/-- A transfer that could move something and does not has used up a copy. -/
theorem copies_passed (hsize : 0 < t.size) (h : p.answer t 0 = .ok []) :
    (p.passed t).device.copies t.direction < p.device.copies t.direction := by
  have hleave : (p.passed t).device = (p.device.enter t).2 := by
    rw [passed, show (p.device.enter t).1.answer = .ok [] from h]
    cases t <;> rfl
  rw [hleave]
  exact Device.copies_enter_of_zero hsize h

/-- As many transfers that move nothing, as many copies there were. -/
theorem le_copies (hsize : 0 < t.size) {n : Nat} (h : ∀ k < n, p.answer t k = .ok []) :
    n ≤ p.device.copies t.direction := by
  induction n generalizing p with
  | zero => exact Nat.zero_le _
  | succ n ih =>
    have hrest := ih (p := p.passed t) fun k hk =>
      (answer_succ k).trans (h (k + 1) (Nat.succ_lt_succ hk))
    exact Nat.lt_of_le_of_lt hrest (copies_passed hsize (h 0 (Nat.succ_pos n)))

end Clocked

/-! ## Spans of time -/

/-- When a span of time is over, if it ends at all: a span of zero has no end. -/
def dueAt (span start : Nat) : Option Nat := if span = 0 then none else some (start + span)

/-- What is left of a span of time, as the host takes it: zero for one that has no end. -/
def leftAt (span start now : Nat) : Nat := if span = 0 then 0 else start + span - now

/-- Whether too little is left of a span of time for another transfer. -/
def spentAt (span start now : Nat) : Bool :=
  (dueAt span start).any fun due => due - now < 1000

theorem leftAt_of_pos {span : Nat} (h : 0 < span) (start now : Nat) :
    leftAt span start now = start + span - now := if_neg (Nat.ne_of_gt h)

theorem spentAt_iff {span start now : Nat} : spentAt span start now = true ↔
    0 < span ∧ start + span - now < 1000 := by
  unfold spentAt dueAt
  rw [Nat.pos_iff_ne_zero]
  split <;> simp [*]

namespace Session

variable {s : Session} {t : Transfer} {span start now : Nat}

/-- A transfer is tried again after one of no bytes, with what is left of the time. -/
theorem judge_eq_again {answer : HostAnswer} {rest : Nat}
    (h : (s.judge t (dueAt span start) now answer).value = .again rest) :
    answer = .ok [] ∧ s.retries t = true ∧ spentAt span start now = false ∧
      rest = leftAt span start now := by
  obtain ⟨hanswer, hretries, hintime⟩ := Crowd.unsettled_of_judge h
  refine ⟨hanswer, hretries, hintime, ?_⟩
  subst hanswer
  have hretry : (s.options.retryZeroLength && decide (0 < t.size)) = true := hretries
  unfold judge at h
  unfold dueAt leftAt at *
  by_cases hspan : span = 0
  · simp only [hretry, hspan, if_true] at h ⊢
    cases h
    rfl
  · simp only [hretry, hspan, if_true, if_false] at h ⊢
    split at h
    · cases h
    · cases h
      rfl

/-- An operation that ends has the answer of its last transfer for its result, unless that one moved
    nothing and there is no time for another. -/
theorem judge_eq_done {answer : HostAnswer} {result : Except Error (List UInt8)}
    (h : (s.judge t (dueAt span start) now answer).value = .done result) :
    (answer = .ok [] ∧ s.retries t = true ∧ spentAt span start now = true ∧
      result = .error (.usb .timeout)) ∨
    (answer ≠ .ok [] ∨ s.retries t = false) ∧ result = answer.mapError .ofTransfer := by
  rcases answer with code | _ | ⟨b, bytes⟩
  · cases h
    exact .inr ⟨.inl nofun, rfl⟩
  · by_cases hretries : s.retries t = true
    · refine .inl ⟨rfl, hretries, ?_⟩
      have hretry : (s.options.retryZeroLength && decide (0 < t.size)) = true := hretries
      simp only [judge, hretry, if_true] at h
      unfold spentAt
      generalize dueAt span start = due at h ⊢
      cases due with
      | none => cases h
      | some due =>
        dsimp only at h
        split at h
        · rename_i hshort
          cases h
          exact ⟨decide_eq_true hshort, rfl⟩
        · cases h
    · refine .inr ⟨.inr (by simpa using hretries), ?_⟩
      have hretry : ¬(s.options.retryZeroLength && decide (0 < t.size)) = true := hretries
      simp only [judge, if_neg hretry] at h
      cases h
      rfl
  · cases h
    exact .inr ⟨.inl nofun, rfl⟩

/-! ## The transfers of an operation -/

/-- An operation with a span of time for it, from the first transfer on that is given a timeout,
    makes `n + 1` of the transfers that the device has answers for. -/
structure Turns (s : Session) (t : Transfer) (span start : Nat) (timeout : Nat) (again : Bool)
    (p : Clocked) (n : Nat) (o : Outcome Clocked Entry (Except Error (List UInt8))) : Prop where
  /-- All but the last moved nothing, and there was time for another. -/
  empty : ∀ k < n, p.answer t k = .ok [] ∧ spentAt span start (p.after t (k + 1)).now = false
  retries : 0 < n → s.retries t = true
  /-- The last one decides. -/
  ends : (s.judge t (dueAt span start) (p.after t (n + 1)).now (p.answer t n)).value = .done o.value
  state : o.state = p.after t (n + 1)
  /-- Each but the first is given the time that was left after the one before. -/
  calls : Entry.calls o.trace = s.callOf t timeout again ::
    (List.range n).map fun k => s.callOf t (leftAt span start (p.after t (k + 1)).now) true

/-- With a transfer in front that moved nothing it is one transfer more. -/
theorem Turns.again {timeout n : Nat} {again : Bool} {p : Clocked}
    {o o' : Outcome Clocked Entry (Except Error (List UInt8))}
    (h : s.Turns t span start (leftAt span start (p.after t 1).now) true (p.passed t) n o)
    (hempty : p.answer t 0 = .ok []) (hretries : s.retries t = true)
    (hintime : spentAt span start (p.after t 1).now = false) (hvalue : o'.value = o.value)
    (hstate : o'.state = o.state)
    (hcalls : Entry.calls o'.trace = s.callOf t timeout again :: Entry.calls o.trace) :
    s.Turns t span start timeout again p (n + 1) o' where
  empty k hk := by
    cases k with
    | zero => exact ⟨hempty, hintime⟩
    | succ k =>
      have hrest := h.empty k (Nat.lt_of_succ_lt_succ hk)
      rwa [Clocked.answer_succ, Clocked.after_succ] at hrest
  retries _ := hretries
  ends := by
    rw [hvalue, ← Clocked.answer_succ, ← Clocked.after_succ]
    exact h.ends
  state := hstate.trans (h.state.trans (Clocked.after_succ _))
  calls := by
    rw [hcalls, h.calls, List.range_succ_eq_map, List.map_cons, List.map_map]
    simp only [Clocked.after_succ]
    rfl

theorem turns_transferUntil (s : Session) (t : Transfer) (span start timeout : Nat) (again : Bool)
    (p : Clocked) : ∃ n, s.Turns t span start timeout again p n
      (s.transferUntil t (dueAt span start) timeout again p) := by
  fun_induction transferUntil s t (dueAt span start) timeout again p with
  | case1 timeout again p moved judged result h =>
    refine ⟨0, ⟨fun k hk => absurd hk (Nat.not_lt_zero k),
      fun hpos => absurd hpos (Nat.lt_irrefl 0), h, rfl, ?_⟩⟩
    rw [Entry.calls_append, Entry.calls_map_log]
    rfl
  | case2 timeout again p moved judged rest h next ih =>
    obtain ⟨hempty, hretries, hintime, rfl⟩ := judge_eq_again h
    obtain ⟨n, ih⟩ := ih
    refine ⟨n + 1, ih.again hempty hretries hintime rfl rfl ?_⟩
    rw [Entry.calls_append, Entry.calls_append, Entry.calls_map_log, List.append_nil]
    rfl

/-! ## Requests -/

/-- The session with retries turned on or off. -/
def retrying (s : Session) (on : Bool) : Session :=
  { s with options := { s.options with retryZeroLength := on } }

/-- How long a read or write may take; zero is no limit. -/
def limit (s : Session) : Request → Nat
  | .read _ timeout => s.readTimeout timeout
  | _ => 0

variable {r : Request}

theorem does_perform (s : Session) (hr : r.transfer? = some t) (p : Clocked) :
    let o := (s.dispatch t (s.limit r)).run p
    Does Entry.call? (s.perform r) p (.ofTransfer o.value t.direction, s) (Entry.calls o.trace)
      o.state := by
  cases r with
  | read size timeout =>
    cases hr
    exact (s.does_read size timeout p).bind_pure (.pure _ _)
  | write bytes =>
    cases hr
    exact (s.does_write bytes p).bind_pure (.pure _ _)
  | close | state | details | debug => cases hr

/-- A session that is not open turns reads and writes away. -/
theorem does_perform_of_not_open (hr : r.transfer? = some t) (h : s.state ≠ .open) (p : Clocked) :
    Does Entry.call? (s.perform r) p (.ofTransfer (.error .closed) t.direction, s) [] p := by
  have hdispatch : (s.dispatch t (s.limit r)).run p = ⟨.error .closed, p, []⟩ := if_neg h
  have hdoes := s.does_perform hr p
  rwa [hdispatch] at hdoes

theorem turns_dispatch (h : s.state = .open) (t : Transfer) (span : Nat) (p : Clocked) :
    ∃ n, s.Turns t span p.now span false p n ((s.dispatch t span).run p) := by
  have hdispatch : (s.dispatch t span).run p =
      s.transferUntil t (dueAt span p.now) span false p := if_pos h
  rw [hdispatch]
  exact s.turns_transferUntil t span p.now span false p

end Session

end UsbSession
