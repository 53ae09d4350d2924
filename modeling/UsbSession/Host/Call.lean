import UsbSession.Descriptor

/-!
# Host calls

The requests that are made of a host controller for one device (`Call`), and the requests that are
made of a session (`Request`). Times are in microseconds.
-/

namespace UsbSession

/-- A transfer on one of the two endpoints of a session. -/
inductive Transfer
  /-- Fill a buffer of so many bytes. -/
  | read (size : Nat)
  /-- Send these bytes. -/
  | write (bytes : List UInt8)
  deriving DecidableEq, Repr, Inhabited

namespace Transfer

/-- The direction of the transfer. -/
def direction : Transfer → Direction
  | read _ => .incoming
  | write _ => .outgoing

/-- The length of the buffer. -/
def size : Transfer → Nat
  | read size => size
  | write bytes => bytes.length

end Transfer

/-- A call to the host. It is recorded when it starts, also if it fails. -/
inductive Call
  /-- Open the device; a handle exists once this has succeeded. -/
  | open
  /-- Close the handle. -/
  | close
  | reset
  | getConfiguration
  | setConfiguration (number : UInt8)
  | kernelDriverActive (interface : UInt8)
  | detach (interface : UInt8)
  | attach (interface : UInt8)
  | claim (interface : UInt8)
  | release (interface : UInt8)
  | cancel
  /-- Run a transfer with the primitive of its kind. `again` marks a transfer that repeats an
      earlier one of the same operation. -/
  | transfer (kind : TransferKind) (endpoint : UInt8) (what : Transfer) (timeout : Nat)
      (again : Bool)
  deriving DecidableEq, Repr, Inhabited

namespace Call

/-- Whether the call is a transfer of a direction. -/
def isTransfer (direction : Direction) : Call → Bool
  | transfer _ _ what _ _ => what.direction == direction
  | _ => false

end Call

/-- An operation on a session. -/
inductive Request
  | read (size timeout : Nat)
  | write (bytes : List UInt8)
  | close (disconnected : Bool)
  | state
  | details
  | debug
  deriving DecidableEq, Repr, Inhabited

/-- Whether the operation is a read or a write. -/
def Request.isTransfer : Request → Bool
  | read .. | write _ => true
  | _ => false

/-- What else happens on the session while a transfer is inside the host. -/
inductive Interlude
  /-- Another thread runs the request: a close as far as it gets, anything else to its end. -/
  | run (request : Request)
  /-- Another thread starts the request and has to wait for the transfer's direction. -/
  | queue (request : Request)
  deriving DecidableEq, Repr, Inhabited

end UsbSession
