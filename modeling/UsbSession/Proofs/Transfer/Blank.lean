import UsbSession.Proofs.Guise.Session

/-!
# Payloads that are blanked

What sessions do does not depend on the bytes that are transferred, but for the bytes themselves. A
device whose payloads are *blanked* has zeros in their place, as many as there were bytes. To see
every byte as zero is a guise (`Guise.blank`), so on such a device a session does what it does on
the device, but for zeros in the place of bytes.

The guise suits sessions whose transfers are not logged (`Guise.suits_blank`): what such a session
logs of a transfer is its length at most.
-/

namespace UsbSession

/-! ## Blanks -/

/-- As many zeros as there are bytes. -/
def blankBytes (bytes : List UInt8) : List UInt8 := bytes.map fun _ => 0

/-- The answer of a transfer, or its result, without the bytes. -/
def blankAnswer {ε : Type} : Except ε (List UInt8) → Except ε (List UInt8) := Except.map blankBytes

def Inbound.blank : Inbound → Inbound
  | data bytes => data (blankBytes bytes)
  | failure code => failure code

def Item.blank (i : Item Inbound) : Item Inbound := { i with answer := i.answer.blank }

def Queue.blank (q : Queue Inbound) : Queue Inbound := q.map Item.blank

/-- The device without the bytes that wait on it. -/
def Device.blank (d : Device) : Device := { d with inbound := d.inbound.blank }

def Transfer.blank : Transfer → Transfer
  | read size => read size
  | write bytes => write (blankBytes bytes)

def Request.blank : Request → Request
  | write bytes => write (blankBytes bytes)
  | r => r

def Reply.blank : Reply → Reply
  | read result => read (blankAnswer result)
  | r => r

def Call.blank : Call → Call
  | transfer kind endpoint what timeout again => transfer kind endpoint what.blank timeout again
  | c => c

/-! ## The guise -/

namespace Guise

/-- Bytes are seen as zeros. -/
def blank : Guise := { byte := fun _ => 0 }

theorem suits_blank : blank.Suits false := ⟨fun _ _ => rfl, fun _ _ => rfl⟩

theorem item_blank : blank.item = Item.blank := by
  funext i
  obtain ⟨answer, again, delay, during⟩ := i
  cases answer <;> rfl

theorem device_blank : blank.device = Device.blank := by
  funext d
  rw [device, item_blank]
  rfl

theorem call_blank : blank.call = Call.blank := by
  funext c
  cases c with
  | transfer kind endpoint what timeout again => cases what <;> rfl
  | _ => rfl

theorem request_blank : blank.request = Request.blank := by
  funext r
  cases r <;> rfl

theorem reply_blank : blank.reply = Reply.blank := by
  funext r
  cases r <;> rfl

end Guise

end UsbSession
