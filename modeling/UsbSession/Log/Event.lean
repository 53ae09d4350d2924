import UsbSession.Binding
import UsbSession.Error

/-!
# Log events

What the library and its command line tool write to the log. An event is a record of what happened;
its level, its target and its text are functions of it (`Event.level`, `Event.target`,
`Event.message`).
-/

namespace UsbSession.Log

open Text

/-- How severe an event is, from the most severe to the least. -/
inductive Level
  | error
  | warn
  | info
  | debug
  | trace
  deriving DecidableEq, Repr, Inhabited

namespace Level

/-- The place in the order of severity, most severe first. -/
def rank : Level → Nat
  | error => 1
  | warn => 2
  | info => 3
  | debug => 4
  | trace => 5

/-- The name in capital letters. -/
def name : Level → String
  | error => "ERROR"
  | warn => "WARN"
  | info => "INFO"
  | debug => "DEBUG"
  | trace => "TRACE"

end Level

/-- Something worth logging. -/
inductive Event
  /-- The host-controller context is up. -/
  | contextReady
  /-- The configuration of a device could not be read. -/
  | layoutUnreadable (code : Failure)
  /-- Endpoints were resolved. -/
  | resolved (binding : Binding)
  /-- The descriptor of a device could not be read. -/
  | descriptorUnreadable (code : Failure)
  /-- A device has the ids but not the endpoints. -/
  | lacksEndpoints (vendor product : Id) (bus address : UInt8)
  /-- A device has the ids and the endpoints. -/
  | candidate (vendor product : Id) (bus address : UInt8)
  /-- Devices were listed. -/
  | found (count total : Nat) (vendor product : Id)
  /-- Devices were enumerated. -/
  | enumerated (total : Nat)
  /-- A session was opened. -/
  | connected (vendor product : Id) (bus address : UInt8) (binding : Binding)
  /-- A candidate did not accept a session. -/
  | connectFailed (vendor product : Id) (bus address : UInt8) (cause : Error)
  /-- No candidate accepted a session, and the device list goes. -/
  | freeingList
  /-- The context is closed. -/
  | contextClosed
  | resetFailed (code : Failure)
  | configurationActive (wanted : UInt8)
  | configurationSwitched (current wanted : UInt8)
  | configurationUnreadable (code : Failure)
  | configurationRefused (wanted : UInt8) (code : Failure)
  | driverAbsent (interface : UInt8)
  | driverDetaching (interface : UInt8)
  | detachFailed (interface : UInt8) (code : Failure)
  | driverUnknown (interface : UInt8) (code : Failure)
  | claimFailed (interface : UInt8) (code : Failure)
  /-- The driver could not be given back after a failed claim. -/
  | restoreFailed (interface : UInt8) (code : Failure)
  | claimed (interface : UInt8)
  /-- The bytes of a write, before it is dispatched. -/
  | writing (address : UInt8) (bytes : List UInt8)
  /-- The bytes of a read that succeeded. -/
  | received (address : UInt8) (bytes : List UInt8)
  | transferTimedOut
  | transferFailed (vendor product : Id) (interface : UInt8) (code : Failure)
  | deviceLost (vendor product : Id)
  | zeroLength
  | alreadyClosed
  | closing (vendor product : Id) (disconnected : Bool)
  | cancelFailed (code : Failure)
  | drained (count : Nat)
  | drainFinished (code : Failure)
  | drainIssued (reads : Nat)
  | releaseFailed (interface : UInt8) (code : Failure)
  | reattached (interface : UInt8)
  | reattachFailed (interface : UInt8) (code : Failure)
  | handleClosed
  | droppedOpen
  /-- A configuration file was loaded. -/
  | configLoaded (path : String)
  /-- No configuration could be loaded, and the defaults are used. -/
  | configDefaulted (reason : String)
  | configSaved (path : String)
  /-- Only one of the two endpoint addresses is configured. -/
  | endpointsIncomplete
  /-- The tool has started. -/
  | started
  | shortWrite (written size : Nat)
  | exchangeCut
  deriving DecidableEq, Repr

namespace Event

/-- How severe the event is. -/
def level : Event → Level
  | descriptorUnreadable _ | configurationRefused .. | claimFailed .. => .error
  | connectFailed .. | resetFailed _ | configurationUnreadable _ | detachFailed ..
  | transferFailed .. | releaseFailed .. | reattachFailed .. | endpointsIncomplete
  | shortWrite .. | exchangeCut => .warn
  | connected .. | contextClosed | deviceLost .. | closing .. | configSaved _ | started => .info
  | contextReady | layoutUnreadable _ | lacksEndpoints .. | found .. | enumerated _ | freeingList
  | configurationActive _ | configurationSwitched .. | driverAbsent _ | driverDetaching _
  | driverUnknown .. | restoreFailed .. | claimed _ | writing .. | received .. | transferTimedOut
  | alreadyClosed | cancelFailed _ | reattached _ | handleClosed | droppedOpen | configLoaded _
  | configDefaulted _ => .debug
  | resolved _ | candidate .. | zeroLength | drained _ | drainFinished _ | drainIssued _ => .trace

/-- The part of the program that the event comes from, as log lines and log filters name it. -/
def target : Event → String
  | contextReady => "zerousb::libusb"
  | layoutUnreadable _ | resolved _ => "zerousb::endpoint"
  | descriptorUnreadable _ | lacksEndpoints .. | candidate .. => "zerousb::matcher"
  | found .. | enumerated _ | connected .. | connectFailed .. | freeingList | contextClosed
  | resetFailed _ | configurationActive _ | configurationSwitched .. | configurationUnreadable _
  | configurationRefused .. | driverAbsent _ | driverDetaching _ | detachFailed ..
  | driverUnknown .. | claimFailed .. | restoreFailed .. | claimed _ => "zerousb::manager"
  | writing .. | received .. | transferTimedOut | transferFailed .. | deviceLost .. | zeroLength
  | alreadyClosed | closing .. | cancelFailed _ | drained _ | drainFinished _ | drainIssued _
  | releaseFailed .. | reattached _ | reattachFailed .. | handleClosed | droppedOpen =>
    "zerousb::session"
  | configLoaded _ | configDefaulted _ | configSaved _ | endpointsIncomplete =>
    "zerousb_cli::config"
  | started | shortWrite .. | exchangeCut => "zerousb"

/-- A byte list in brackets, two hexadecimal digits a byte. -/
def byteList (bytes : List UInt8) : String :=
  "[" ++ ", ".intercalate (bytes.map byteHex) ++ "]"

/-- The text of the event. -/
def message : Event → String
  | contextReady => "libusb context initialized"
  | layoutUnreadable code => s!"Failed to read active config descriptor: {code}"
  | resolved b =>
    "Resolved endpoints in=" ++ byteMarked b.incoming.address ++ s!" ({b.incoming.kind}) out=" ++
      byteMarked b.outgoing.address ++ s!" ({b.outgoing.kind})" ++
      s!" on interface {b.interface} alt {b.setting}"
  | descriptorUnreadable code => s!"Failed to get device descriptor: {code}"
  | lacksEndpoints v p bus addr =>
    s!"Device {v}:{p} at bus={bus} addr={addr} lacks the expected endpoints"
  | candidate v p bus addr => s!"Candidate {v}:{p} at bus={bus} addr={addr}"
  | found count total v p => s!"Found {count} of {total} devices matching {v}:{p}"
  | enumerated total => s!"Enumerated {total} devices"
  | connected v p bus addr b =>
    s!"Connected to {v}:{p} at bus={bus} addr={addr} (interface {b.interface}, in=" ++
      byteMarked b.incoming.address ++ ", out=" ++ byteMarked b.outgoing.address ++ ")"
  | connectFailed v p bus addr cause =>
    s!"Failed to connect to {v}:{p} at bus={bus} addr={addr}: {cause}"
  | freeingList => "Freeing device list"
  | contextClosed => "Closing USB context"
  | resetFailed code => s!"Device reset failed: {code}"
  | configurationActive wanted => s!"Configuration {wanted} already active"
  | configurationSwitched current wanted => s!"Switching configuration {current} -> {wanted}"
  | configurationUnreadable code => s!"Failed to read current configuration: {code}"
  | configurationRefused wanted code => s!"Failed to set configuration {wanted}: {code}"
  | driverAbsent i => s!"No kernel driver active on interface {i}"
  | driverDetaching i => s!"Detaching kernel driver from interface {i}"
  | detachFailed i code => s!"Failed to detach kernel driver from interface {i}: {code}"
  | driverUnknown i code => s!"Could not check kernel driver status for interface {i}: {code}"
  | claimFailed i code => s!"Failed to claim interface {i}: {code}"
  | restoreFailed i code => s!"Could not reattach kernel driver to interface {i}: {code}"
  | claimed i => s!"Claimed interface {i}"
  | writing addr bytes =>
    "Write to " ++ byteMarked addr ++ s!": {bytes.length} bytes " ++ byteList bytes
  | received addr bytes =>
    "Read from " ++ byteMarked addr ++ s!": {bytes.length} bytes " ++ byteList bytes
  | transferTimedOut => "Transfer timed out"
  | transferFailed v p i code => s!"Transfer failed on {v}:{p} interface {i}: {code}"
  | deviceLost v p => s!"Device {v}:{p} disconnected"
  | zeroLength => "Zero-length transfer, retrying"
  | alreadyClosed => "Session already closed"
  | closing v p disconnected => s!"Closing session on {v}:{p} (disconnected={disconnected})"
  | cancelFailed code => s!"Could not cancel pending transfers: {code}"
  | drained count => s!"Drained {count} stale bytes"
  | drainFinished code => s!"Drain finished: {code}"
  | drainIssued reads => s!"Drain issued {reads} reads"
  | releaseFailed i code => s!"Failed to release interface {i}: {code}"
  | reattached i => s!"Reattached kernel driver to interface {i}"
  | reattachFailed i code => s!"Failed to reattach kernel driver to interface {i}: {code}"
  | handleClosed => "Closed device handle"
  | droppedOpen => "Session dropped while open, releasing device"
  | configLoaded path => s!"Loaded configuration from: {path}"
  | configDefaulted reason => s!"{reason}, using defaults"
  | configSaved path => s!"Saved configuration to: {path}"
  | endpointsIncomplete =>
    "Only one endpoint address configured; endpoints will be discovered instead"
  | started => "zerousb v0.1.0"
  | shortWrite written size => s!"Short write: {written} of {size} bytes"
  | exchangeCut => "Device disconnected during exchange"

/-- Whether the event is at the level or more severe. -/
def isWithin (level : Level) (e : Event) : Bool := e.level.rank ≤ level.rank

end Event

/-! ## Values with the events on the way to them -/

/-- A value and the events that were logged on the way to it. -/
structure Logged (α : Type) where
  /-- The value. -/
  value : α
  /-- The events, in order. -/
  events : List Event := []

namespace Logged

instance : Monad Logged where
  pure a := ⟨a, []⟩
  bind x f := ⟨(f x.value).value, x.events ++ (f x.value).events⟩

/-- Logs one event. -/
def log (e : Event) : Logged Unit := ⟨(), [e]⟩

@[simp] theorem value_pure {α : Type} (a : α) : (pure a : Logged α).value = a := rfl

@[simp] theorem events_pure {α : Type} (a : α) : (pure a : Logged α).events = [] := rfl

@[simp] theorem value_bind {α β : Type} (x : Logged α) (f : α → Logged β) :
    (x >>= f).value = (f x.value).value := rfl

@[simp] theorem events_bind {α β : Type} (x : Logged α) (f : α → Logged β) :
    (x >>= f).events = x.events ++ (f x.value).events := rfl

end Logged

end UsbSession.Log
