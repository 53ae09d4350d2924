import UsbSession.Fault
import UsbSession.Options

/-!
# Settings

What a configuration file can set: the log level, the device to connect to, and the options of its
sessions. Settings are checked before use (`Settings.check`), and the command line may override some
of them (`Settings.override`).

* `Settings.override_override`: overriding twice is overriding with the merged overrides.
-/

namespace UsbSession

open Log (Logged)

/-- The device to connect to where none is asked for. -/
structure Settings.Device where
  vendor : Id := Id.any
  product : Id := Id.any
  /-- Whether the device is reset before it is claimed. -/
  reset : Bool := false
  deriving DecidableEq, Repr, Inhabited

/-- The content of a configuration file. -/
structure Settings where
  /-- The name of the level down to which events are logged. -/
  logLevel : String := "info"
  device : Settings.Device := {}
  /-- The options of sessions. -/
  usb : Options := {}
  deriving DecidableEq, Repr, Inhabited

namespace Settings

/-- Whether exactly one of the endpoint addresses is set, so that neither counts. -/
def hasHalfPair (s : Settings) : Bool := s.usb.endpointIn.isSome != s.usb.endpointOut.isSome

/-- The first thing that is wrong with the settings: the level, or an address of the other
    direction. -/
def flaw? (s : Settings) : Option ConfigError :=
  if s.logLevel ∉ levelNames then some (.level s.logLevel)
  else
    let incoming := s.usb.endpointIn.filter fun a => Direction.ofAddress a != .incoming
    let outgoing := s.usb.endpointOut.filter fun a => Direction.ofAddress a != .outgoing
    (incoming.map ConfigError.notIncoming).or (outgoing.map ConfigError.notOutgoing)

/-- Checks the settings, and warns of half a pair of endpoints. -/
def check (s : Settings) : Logged (Except ConfigError Unit) := do
  if s.logLevel ∈ levelNames && s.hasHalfPair then Logged.log .endpointsIncomplete
  match s.flaw? with
  | some e => return .error e
  | none => return .ok ()

/-- The ids of the device to connect to; both have to be set. -/
def target (s : Settings) : Except ArgumentError (Id × Id) :=
  if s.device.vendor.isAny || s.device.product.isAny then
    .error (.noTarget s.device.vendor s.device.product)
  else .ok (s.device.vendor, s.device.product)

/-! ## Overrides -/

/-- Options that are set for one run. The flags can only be switched on. -/
structure Overrides where
  interface : Option UInt8 := none
  configuration : Option UInt8 := none
  endpointIn : Option UInt8 := none
  endpointOut : Option UInt8 := none
  debug : Bool := false
  retryZeroLength : Bool := false
  deriving DecidableEq, Repr, Inhabited

/-- The overrides of two runs as one, where the second ones count more. -/
def Overrides.merge (first second : Overrides) : Overrides where
  interface := second.interface.or first.interface
  configuration := second.configuration.or first.configuration
  endpointIn := second.endpointIn.or first.endpointIn
  endpointOut := second.endpointOut.or first.endpointOut
  debug := first.debug || second.debug
  retryZeroLength := first.retryZeroLength || second.retryZeroLength

/-- The settings with some options overridden. -/
def override (s : Settings) (o : Overrides) : Settings :=
  { s with
    usb.interface := o.interface.getD s.usb.interface
    usb.configuration := o.configuration.or s.usb.configuration
    usb.endpointIn := o.endpointIn.or s.usb.endpointIn
    usb.endpointOut := o.endpointOut.or s.usb.endpointOut
    usb.debug := s.usb.debug || o.debug
    usb.retryZeroLength := s.usb.retryZeroLength || o.retryZeroLength }

/-- Overrides some options and checks what comes out. -/
def overrideChecked (s : Settings) (o : Overrides) :
    Logged (Settings × Except ConfigError Unit) := do
  let after := s.override o
  return (after, ← after.check)

theorem override_override (s : Settings) (first second : Overrides) :
    (s.override first).override second = s.override (first.merge second) := by
  simp only [override, Overrides.merge, Option.or_assoc, Bool.or_assoc]
  cases second.interface <;> rfl

end Settings

end UsbSession
