import UsbSession.Descriptor

/-!
# Connection options

What the caller means to talk to, and how. Times are in microseconds.
-/

namespace UsbSession

/-- The microseconds in a millisecond. -/
def millisecond : Nat := 1000

/-- How to connect to a device and how to run its transfers. -/
structure Options where
  /-- The interface to claim where endpoints are declared. -/
  interface : UInt8 := 0
  /-- The configuration to select; without one the device keeps what it has. -/
  configuration : Option UInt8 := none
  /-- The address of the incoming endpoint. -/
  endpointIn : Option UInt8 := none
  /-- The address of the outgoing endpoint. -/
  endpointOut : Option UInt8 := none
  /-- The transfer kind that a declared incoming endpoint has to have. -/
  transferIn : Option TransferKind := none
  /-- The transfer kind that a declared outgoing endpoint has to have. -/
  transferOut : Option TransferKind := none
  /-- Whether each transfer's bytes are logged. -/
  debug : Bool := false
  /-- Whether a transfer of no bytes is tried again. -/
  retryZeroLength : Bool := false
  /-- The timeout of reads that pass none; zero means no deadline. -/
  readTimeout : Option Nat := none
  deriving DecidableEq, Repr, Inhabited

namespace Options

/-- The declared incoming and outgoing addresses, where both are given. -/
def declared? (o : Options) : Option (UInt8 × UInt8) := do
  return (← o.endpointIn, ← o.endpointOut)

/-- The read timeout where neither the call nor the options name one: five seconds. -/
def standardReadTimeout : Nat := 5000000

/-- The timeout of a read that passes none. -/
def defaultReadTimeout (o : Options) : Nat := o.readTimeout.getD standardReadTimeout

end Options

end UsbSession
