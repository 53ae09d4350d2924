import UsbSession.Failure
import UsbSession.Id

/-!
# Errors of the session layer

Connecting and transferring fail with one of six causes. A failed transfer is classified
(`Error.ofTransfer`): the codes that mean a lost device become one cause, all others are kept.

* `Error.ofTransfer_eq_disconnected_iff`: exactly the four disconnect codes lose their code.
-/

namespace UsbSession

/-- Why connecting to a device or a transfer on it failed. -/
inductive Error
  /-- There is no host-controller context. -/
  | initialization (code : Failure)
  /-- No attached device has the ids and the expected endpoints. -/
  | notFound (vendor product : Id)
  /-- The interface could not be claimed. -/
  | claim (interface : UInt8) (code : Failure)
  /-- The session was closed before or during the operation. -/
  | closed
  /-- The device went away. -/
  | disconnected
  /-- Any other failure of the host. -/
  | usb (code : Failure)
  deriving DecidableEq, Repr, Inhabited

namespace Error

/-- The text of the error. -/
def message : Error → String
  | initialization code => s!"Failed to initialize USB context: {code}"
  | notFound vendor product => s!"No device found for {vendor}:{product}"
  | claim interface code => s!"Failed to claim interface {interface}: {code}"
  | closed => "Device closed"
  | disconnected => "Device disconnected"
  | usb code => s!"USB error: {code}"

instance : ToString Error := ⟨message⟩

/-- The host failure that the error holds. -/
def code? : Error → Option Failure
  | initialization code | claim _ code | usb code => some code
  | notFound _ _ | closed | disconnected => none

/-- The error of a transfer that failed with a code. -/
def ofTransfer (code : Failure) : Error :=
  if code.isDisconnect then disconnected else usb code

theorem ofTransfer_eq (code : Failure) : ofTransfer code =
    if code ∈ [.io, .noDevice, .pipe, .other] then disconnected else usb code := by
  simp only [ofTransfer, Failure.isDisconnect_iff_mem]

/-- Whether the device went away. -/
def isDisconnect (e : Error) : Bool := e == disconnected

/-- Whether the session was closed. -/
def isClosed (e : Error) : Bool := e == closed

theorem ofTransfer_eq_disconnected_iff {code : Failure} :
    ofTransfer code = disconnected ↔ code.isDisconnect = true := by
  simp only [ofTransfer]
  split <;> simp_all

end Error

end UsbSession
