import UsbSession.Manager
import UsbSession.Overlap.Schedule

/-!
# Operations

What can be asked of a connection manager, of the sessions that it opened and of the scripted
devices (`Operation`), and what is answered (`Answer`). Sessions are kept in slots, which have
names.
-/

namespace UsbSession

/-! ## Changes of a script -/

/-- The calls that a script can make fail. -/
inductive Fallible
  | open
  | reset
  | getConfiguration
  | setConfiguration
  | kernelDriver
  | detach
  | attach
  | claim
  | release
  | cancel
  | write
  deriving DecidableEq, Repr

/-- A change of a script. -/
inductive Script.Change
  | kernelDriverActive (value : Bool)
  | activeConfiguration (number : UInt8)
  | loopback (value : Bool)
  /-- A call shall fail with the code, or succeed again. -/
  | failing (call : Fallible) (code : Option Failure)
  deriving DecidableEq, Repr

/-- Makes a call fail with the code, or succeed again. -/
def Script.setFailure (s : Script) (code : Option Failure) : Fallible → Script
  | .open => { s with openError := code }
  | .reset => { s with resetError := code }
  | .getConfiguration => { s with getConfigurationError := code }
  | .setConfiguration => { s with setConfigurationError := code }
  | .kernelDriver => { s with kernelDriverError := code }
  | .detach => { s with detachError := code }
  | .attach => { s with attachError := code }
  | .claim => { s with claimError := code }
  | .release => { s with releaseError := code }
  | .cancel => { s with cancelError := code }
  | .write => { s with writeError := code }

/-- Makes a change. -/
def Script.change (s : Script) : Change → Script
  | .kernelDriverActive value => { s with kernelDriverActive := value }
  | .activeConfiguration number => { s with activeConfiguration := number }
  | .loopback value => { s with loopback := value }
  | .failing call code => s.setFailure code call

/-! ## Operations and answers -/

/-- An operation on the manager, on a session or on a device. -/
inductive Operation
  /-- Connect, and put the session into a slot. -/
  | connect (slot : String) (vendor product : Id) (reset : Bool)
  /-- List the devices with the ids. -/
  | find (vendor product : Id)
  /-- Run a request on the session in a slot. -/
  | request (slot : String) (r : Request)
  /-- Let go of the session in a slot. -/
  | drop (slot : String)
  /-- Change the script of a device. -/
  | script (device : Nat) (changes : List Script.Change)
  /-- Append answers for reads. -/
  | inbound (device : Nat) (items : Queue Inbound)
  /-- Append answers for writes. -/
  | outbound (device : Nat) (items : Queue Outbound)
  /-- Tell the options of the manager. -/
  | options
  /-- Close the manager. -/
  | closeManager
  deriving DecidableEq, Repr

/-- The answer to an operation. -/
inductive Answer
  /-- A session was opened. -/
  | connected (details : Details) (binding : Binding)
  /-- The manager failed. -/
  | failed (e : Error)
  | found (devices : List Details)
  /-- The reply of a session, and the replies to what happened meanwhile. -/
  | replied (reply : Option Reply) (nested : List Reply)
  /-- Whether there was a session to let go of. -/
  | dropped (present : Bool)
  | options (o : Option Options)
  /-- There is nothing to tell. -/
  | done
  /-- The slot is empty. -/
  | noSession
  /-- The manager is closed. -/
  | managerClosed
  deriving Repr

end UsbSession
