import UsbSession.Failure
import UsbSession.Host.Call

/-!
# Scripted devices

A device whose answers are written down beforehand: failure codes for the calls that shall fail, and
one queue of answers a direction for the transfers. An item of a queue answers one transfer or
several (`Item.again` more), so a queue stands for a sequence of single answers, its copies.

* `Queue.copies_pop?`: taking an answer off a queue leaves one copy less;
* `Device.copies_enter_of_zero`: a transfer that moves nothing, though it could, has used one up.
-/

namespace UsbSession

/-! ## Queues -/

/-- An entry of a queue of answers. -/
structure Item (α : Type) where
  /-- What a transfer gets. -/
  answer : α
  /-- How many more transfers get the same. -/
  again : Nat := 0
  /-- How long the transfer takes. -/
  delay : Nat := 0
  /-- What happens while the transfer is inside the host. -/
  during : Option Interlude := none
  deriving DecidableEq, Repr, Inhabited

/-- What a read gets: bytes or a failure. -/
inductive Inbound
  | data (bytes : List UInt8)
  | failure (code : Failure)
  deriving DecidableEq, Repr, Inhabited

/-- What a write gets: the bytes are accepted, at most so many if a limit is given, or a failure. -/
inductive Outbound
  | accept (limit : Option Nat)
  | failure (code : Failure)
  deriving DecidableEq, Repr, Inhabited

/-- Answers waiting for transfers, the next one first. -/
abbrev Queue (α : Type) := List (Item α)

namespace Queue

variable {α : Type}

/-- How many transfers the queue can answer. -/
def copies : Queue α → Nat
  | [] => 0
  | i :: q => i.again + 1 + copies q

/-- The next item, and the queue without that copy. -/
def pop? : Queue α → Option (Item α × Queue α)
  | [] => none
  | i :: q =>
    match i.again with
    | 0 => some (i, q)
    | n + 1 => some (i, { i with again := n } :: q)

@[simp] theorem pop?_eq_none_iff {q : Queue α} : q.pop? = none ↔ q = [] := by
  cases q with
  | nil => simp [pop?]
  | cons i q => simp only [pop?]; split <;> simp

theorem copies_pop? {q rest : Queue α} {i : Item α} (h : q.pop? = some (i, rest)) :
    q.copies = rest.copies + 1 := by
  cases q with
  | nil => simp [pop?] at h
  | cons j q =>
    simp only [pop?] at h
    split at h <;> obtain ⟨rfl, rfl⟩ := Prod.mk.inj (Option.some.inj h) <;>
      simp [copies, *] <;> omega

end Queue

/-! ## Devices -/

/-- The failure codes of the calls that shall fail, and what the device says of itself. -/
structure Script where
  kernelDriverActive : Bool := false
  activeConfiguration : UInt8 := 1
  /-- Whether what is written can be read again. -/
  loopback : Bool := false
  openError : Option Failure := none
  resetError : Option Failure := none
  getConfigurationError : Option Failure := none
  setConfigurationError : Option Failure := none
  kernelDriverError : Option Failure := none
  detachError : Option Failure := none
  attachError : Option Failure := none
  claimError : Option Failure := none
  releaseError : Option Failure := none
  cancelError : Option Failure := none
  writeError : Option Failure := none
  deriving DecidableEq, Repr, Inhabited

/-- A device attached to the host. -/
structure Device where
  /-- The descriptor, if it can be read. -/
  details : Except Failure Details
  /-- The active configuration, if it can be read. -/
  layout : Except Failure Layout
  script : Script := {}
  /-- The answers that reads get. -/
  inbound : Queue Inbound := []
  /-- The answers that writes get. -/
  outbound : Queue Outbound := []
  /-- How many handles are open. -/
  openHandles : Nat := 0
  deriving Repr

/-- Fails with the code, if there is one, and answers `a` otherwise. -/
def answering {α : Type} (code : Option Failure) (a : α) : Except Failure α :=
  match code with
  | some c => .error c
  | none => .ok a

/-- A transfer that has entered the host: what it will answer, and what happens until then. -/
structure Ticket where
  /-- The bytes that are moved, or the failure. -/
  answer : Except Failure (List UInt8)
  delay : Nat := 0
  during : Option Interlude := none
  deriving Repr

namespace Device

/-- How many transfers of a direction the queues can answer. -/
def copies (d : Device) : Direction → Nat
  | .incoming => d.inbound.copies
  | .outgoing => d.outbound.copies

/-- A read enters the host and takes the next answer; without one it times out. The bytes beyond
    the buffer are lost. -/
def beginRead (size : Nat) (d : Device) : Ticket × Device :=
  match d.inbound.pop? with
  | none => ({ answer := .error .timeout }, d)
  | some (item, rest) =>
    let answer := match item.answer with
      | .data bytes => .ok (bytes.take size)
      | .failure code => .error code
    (⟨answer, item.delay, item.during⟩, { d with inbound := rest })

/-- The answer of a write, unless the script has all writes fail. -/
def unlessRefused (d : Device) (answer : Except Failure (List UInt8)) :
    Except Failure (List UInt8) :=
  match d.script.writeError with
  | some code => .error code
  | none => answer

/-- A write enters the host and takes the next answer; without one all bytes are accepted. -/
def beginWrite (bytes : List UInt8) (d : Device) : Ticket × Device :=
  match d.outbound.pop? with
  | none => ({ answer := d.unlessRefused (.ok bytes) }, d)
  | some (item, rest) =>
    let answer := match item.answer with
      | .accept none => .ok bytes
      | .accept (some limit) => .ok (bytes.take limit)
      | .failure code => .error code
    (⟨d.unlessRefused answer, item.delay, item.during⟩, { d with outbound := rest })

/-- A transfer enters the host. -/
def enter (t : Transfer) (d : Device) : Ticket × Device :=
  match t with
  | .read size => d.beginRead size
  | .write bytes => d.beginWrite bytes

/-- A transfer leaves the host: a device that loops back queues the bytes that were written. -/
def leave (t : Transfer) (answer : Except Failure (List UInt8)) (d : Device) : Device :=
  match t, answer with
  | .write _, .ok (b :: bytes) =>
    if d.script.loopback then
      { d with inbound := d.inbound ++ [{ answer := .data (b :: bytes) }] }
    else d
  | _, _ => d

/-- Opens a handle. -/
def openHandle (d : Device) : Except Failure Unit × Device :=
  match d.script.openError with
  | some code => (.error code, d)
  | none => (.ok (), { d with openHandles := d.openHandles + 1 })

/-- Closes a handle. -/
def closeHandle (d : Device) : Unit × Device := ((), { d with openHandles := d.openHandles - 1 })

/-- Selects a configuration. -/
def setConfiguration (number : UInt8) (d : Device) : Except Failure Unit × Device :=
  match d.script.setConfigurationError with
  | some code => (.error code, d)
  | none => (.ok (), { d with script := { d.script with activeConfiguration := number } })

/-! ### What a transfer takes from the queues -/

/-- A transfer of no bytes into a buffer that has room has used up an answer of its direction. -/
theorem copies_enter_of_zero {t : Transfer} {d : Device} (hsize : 0 < t.size)
    (h : (d.enter t).1.answer = .ok []) :
    (d.enter t).2.copies t.direction < d.copies t.direction := by
  cases t with
  | read size =>
    simp only [enter, beginRead, Transfer.direction, copies] at h ⊢
    cases hq : d.inbound.pop? with
    | none => simp [hq] at h
    | some p => simp [Queue.copies_pop? hq]
  | write bytes =>
    simp only [enter, beginWrite, Transfer.direction, Transfer.size, copies] at h hsize ⊢
    cases hq : d.outbound.pop? with
    | some p => simp [Queue.copies_pop? hq]
    | none =>
      -- Without an answer in the queue all bytes are accepted, and there are some.
      cases he : d.script.writeError with
      | some code => simp [hq, unlessRefused, he] at h
      | none =>
        simp only [hq, unlessRefused, he, Except.ok.injEq] at h
        simp [h] at hsize

end Device

end UsbSession
