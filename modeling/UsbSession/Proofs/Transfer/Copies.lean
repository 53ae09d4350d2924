import UsbSession.Device

/-!
# Copies on the queues

A queue of answers as the sequence of its copies (`Queue.spread`): an item that answers several
transfers stands for as many copies of its answer. A read takes the first of the copies that wait on
a device (`Device.waiting`), and a write to a device that loops back puts one at the end.

* `Queue.spread_pop?`: what is taken off a queue is the first copy, and the other copies are left;
* `Device.enter_read_of_cons`, `Device.leave_write`: what transfers do to the copies;
* `Device.consumes_enter_read`: a read takes one copy, and nothing else is changed.
-/

namespace UsbSession

/-! ## Queues -/

namespace Queue

variable {α : Type}

/-- The answers of the items, each as often as it is given. -/
def spread (q : Queue α) : List α := q.flatMap fun i => List.replicate (i.again + 1) i.answer

variable {q rest : Queue α} {i : Item α}

theorem spread_append (q items : Queue α) : (q ++ items).spread = q.spread ++ items.spread :=
  List.flatMap_append

theorem spread_pop? (h : q.pop? = some (i, rest)) : q.spread = i.answer :: rest.spread := by
  cases q with
  | nil => cases h
  | cons j q =>
    simp only [pop?] at h
    split at h
    · rename_i hlast
      cases h
      rw [spread, List.flatMap_cons, hlast]
      rfl
    · rename_i n hmore
      cases h
      rw [spread, List.flatMap_cons, hmore]
      rfl

theorem pop?_of_spread {c : α} {cs : List α} (h : q.spread = c :: cs) :
    ∃ i rest, q.pop? = some (i, rest) ∧ i.answer = c ∧ rest.spread = cs := by
  cases hpop : q.pop? with
  | none =>
    rw [pop?_eq_none_iff.1 hpop] at h
    cases h
  | some p =>
    obtain ⟨i, rest⟩ := p
    rw [spread_pop? hpop] at h
    obtain ⟨hi, hrest⟩ := List.cons.inj h
    exact ⟨i, rest, rfl, hi, hrest⟩

theorem pop?_of_spread_nil (h : q.spread = []) : q.pop? = none := by
  cases hpop : q.pop? with
  | none => rfl
  | some p =>
    rw [spread_pop? hpop] at h
    cases h

end Queue

/-! ## Transfers -/

/-- What a copy answers to a read into a buffer of a size. -/
def Inbound.answer (size : Nat) : Inbound → Except Failure (List UInt8)
  | data bytes => .ok (bytes.take size)
  | failure code => .error code

/-- Whether a copy answers a read with bytes, be they none at all. -/
def Inbound.isData : Inbound → Bool
  | data _ => true
  | failure _ => false

/-- The copies that come of a write by what it has sent: a device that loops back makes one of it.
    -/
def Script.echo {ε : Type} (sc : Script) : Except ε (List UInt8) → List Inbound
  | .ok (b :: bytes) => if sc.loopback then [.data (b :: bytes)] else []
  | _ => []

namespace Device

variable (d : Device)

/-- The copies that wait for reads. -/
def waiting : List Inbound := d.inbound.spread

/-- The device with other queues. -/
def queued (inbound : Queue Inbound) (outbound : Queue Outbound) : Device :=
  { d with inbound, outbound }

@[simp] theorem waiting_queued (i : Queue Inbound) (o : Queue Outbound) :
    (d.queued i o).waiting = i.spread := rfl

/-- How many reads succeed one after the other: the copies in front of the first failure. -/
def readable : Nat := (d.waiting.takeWhile Inbound.isData).length

/-- From one device to the other so many copies were taken, the first ones, and nothing else has
    changed. -/
def Consumes (n : Nat) (d d' : Device) : Prop :=
  ∃ q : Queue Inbound, q.spread = d.waiting.drop n ∧ d' = d.queued q d.outbound

section Read

variable {d} {size : Nat}

/-- With no copy left a read times out. -/
theorem enter_read_of_nil (h : d.waiting = []) :
    (d.enter (.read size)).1.answer = .error .timeout ∧ (d.enter (.read size)).2 = d := by
  rw [enter, beginRead, Queue.pop?_of_spread_nil h]
  exact ⟨rfl, rfl⟩

/-- A read takes the first copy and nothing else. -/
theorem enter_read_of_cons {c : Inbound} {cs : List Inbound} (h : d.waiting = c :: cs) :
    (d.enter (.read size)).1.answer = c.answer size ∧
      ∃ q : Queue Inbound, q.spread = cs ∧ (d.enter (.read size)).2 = d.queued q d.outbound := by
  obtain ⟨i, rest, hpop, hc, hrest⟩ := Queue.pop?_of_spread h
  rw [enter, beginRead, hpop]
  refine ⟨?_, rest, hrest, rfl⟩
  cases c <;> simp only [hc, Inbound.answer]

/-- A read takes one copy, if there is one. -/
theorem consumes_enter_read (d : Device) (size : Nat) : Consumes 1 d (d.enter (.read size)).2 := by
  cases h : d.waiting with
  | nil =>
    refine ⟨d.inbound, ?_, (enter_read_of_nil h).2⟩
    rw [h]
    exact h
  | cons c cs =>
    obtain ⟨-, q, hq, hafter⟩ := @enter_read_of_cons d size c cs h
    refine ⟨q, ?_, hafter⟩
    rw [h]
    exact hq

/-- A read fails where nothing can be read, and otherwise leaves one copy less to be read. -/
theorem enter_read_cases (d : Device) (size : Nat) :
    (d.readable = 0 ∧ ∃ code, (d.enter (.read size)).1.answer = .error code) ∨
      ∃ bytes, (d.enter (.read size)).1.answer = .ok bytes ∧
        d.readable = (d.enter (.read size)).2.readable + 1 := by
  cases h : d.waiting with
  | nil => exact .inl ⟨by rw [readable, h]; rfl, .timeout, (enter_read_of_nil h).1⟩
  | cons c cs =>
    obtain ⟨hanswer, q, hq, hafter⟩ := @enter_read_of_cons d size c cs h
    cases c with
    | failure code => exact .inl ⟨by rw [readable, h]; rfl, code, hanswer⟩
    | data bytes =>
      refine .inr ⟨_, hanswer, ?_⟩
      rw [hafter, readable, readable, h, waiting_queued, hq]
      exact congrArg List.length (List.takeWhile_cons_of_pos rfl)

end Read

namespace Consumes

variable {d d' d'' : Device} {m n : Nat}

theorem refl (d : Device) : Consumes 0 d d := ⟨d.inbound, rfl, rfl⟩

theorem waiting (h : Consumes n d d') : d'.waiting = d.waiting.drop n := by
  obtain ⟨q, hq, rfl⟩ := h
  exact hq

theorem trans (h : Consumes m d d') (h' : Consumes n d' d'') : Consumes (m + n) d d'' := by
  obtain ⟨q', hq', rfl⟩ := h'
  rw [h.waiting, List.drop_drop] at hq'
  obtain ⟨q, -, rfl⟩ := h
  exact ⟨q', hq', rfl⟩

end Consumes

section Write

variable (bytes : List UInt8)

/-- A write takes no copy. -/
theorem enter_write : ∃ q, (d.enter (.write bytes)).2 = d.queued d.inbound q := by
  rw [enter, beginWrite]
  split
  · exact ⟨d.outbound, rfl⟩
  · rename_i rest _
    exact ⟨rest, rfl⟩

/-- All is sent where the script says nothing else. -/
theorem enter_write_of_nil (hqueue : d.outbound = []) (hfree : d.script.writeError = none) :
    (d.enter (.write bytes)).1.answer = .ok bytes ∧ (d.enter (.write bytes)).2 = d := by
  rw [enter, beginWrite, hqueue]
  refine ⟨?_, rfl⟩
  change d.unlessRefused (.ok bytes) = _
  rw [unlessRefused, hfree]

/-- At most what was to be sent is sent. -/
theorem isPrefix_of_enter_write {sent : List UInt8}
    (h : (d.enter (.write bytes)).1.answer = .ok sent) : sent <+: bytes := by
  have haccepted {answer : Except Failure (List UInt8)} (h : d.unlessRefused answer = .ok sent) :
      answer = .ok sent := by
    unfold unlessRefused at h
    split at h
    · cases h
    · exact h
  rw [enter, beginWrite] at h
  split at h
  · cases haccepted h
    exact List.prefix_rfl
  · rename_i item rest hpop
    have hanswer := haccepted h
    split at hanswer
    · cases hanswer
      exact List.prefix_rfl
    · cases hanswer
      exact List.take_prefix _ _
    · cases hanswer

/-- A write puts its echo behind the copies that wait. -/
theorem leave_write (answer : Except Failure (List UInt8)) : ∃ items : Queue Inbound,
    items.spread = d.script.echo answer ∧
      d.leave (.write bytes) answer = d.queued (d.inbound ++ items) d.outbound := by
  have hnone : d = d.queued (d.inbound ++ []) d.outbound := by rw [List.append_nil, queued]
  rcases answer with code | _ | ⟨b, sent⟩
  · exact ⟨[], rfl, hnone⟩
  · exact ⟨[], rfl, hnone⟩
  · simp only [leave, Script.echo]
    split
    · exact ⟨_, rfl, rfl⟩
    · exact ⟨[], rfl, hnone⟩

end Write

end Device

end UsbSession
