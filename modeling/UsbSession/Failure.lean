/-!
# Host failure codes

What a host controller answers when a request fails. A few of the codes mean that the device has
gone away (`Failure.isDisconnect`).
-/

namespace UsbSession

/-- A failure code of the host controller. -/
inductive Failure
  | io
  | invalidParam
  | access
  | noDevice
  | notFound
  | busy
  | timeout
  | overflow
  | pipe
  | interrupted
  | noMem
  | notSupported
  | badDescriptor
  | other
  deriving DecidableEq, Repr, Inhabited

namespace Failure

/-- The text of the code. -/
def message : Failure → String
  | io => "Input/Output Error"
  | invalidParam => "Invalid parameter"
  | access => "Access denied (insufficient permissions)"
  | noDevice => "No such device (it may have been disconnected)"
  | notFound => "Entity not found"
  | busy => "Resource busy"
  | timeout => "Operation timed out"
  | overflow => "Overflow"
  | pipe => "Pipe error"
  | interrupted => "System call interrupted (perhaps due to signal)"
  | noMem => "Insufficient memory"
  | notSupported => "Operation not supported or unimplemented on this platform"
  | badDescriptor => "Malformed descriptor"
  | other => "Other error"

instance : ToString Failure := ⟨message⟩

/-- Whether the code means that the device is gone. -/
def isDisconnect : Failure → Bool
  | io | noDevice | pipe | other => true
  | _ => false

theorem isDisconnect_iff_mem {code : Failure} :
    code.isDisconnect = true ↔ code ∈ [io, noDevice, pipe, other] := by
  cases code <;> decide

end Failure

end UsbSession
