import UsbSession.Search
import UsbSession.Session

/-!
# Connecting

A manager turns a pair of ids into an open session: it enumerates the devices and tries the
candidates one after the other, until one accepts a session (`Manager.connect`).

Opening a session on a candidate may fail at three points: when the device is opened, when the
configuration is selected, and when the interface is claimed (`Manager.openSession`). Every other
failure on the way is logged and tolerated.
-/

namespace UsbSession

open Log (Logged)

/-! ## The bus -/

/-- The devices that are attached to the host, and what was asked of the host as a whole. -/
structure Bus where
  /-- The devices, in the order of enumeration. -/
  devices : List Device := []
  /-- Why enumeration fails, if it shall. -/
  listError : Option Failure := none
  /-- The time, in microseconds. -/
  now : Nat := 0
  /-- How many device lists were handed out. -/
  enumerations : Nat := 0
  /-- How many device lists were released. -/
  listFrees : Nat := 0
  deriving Repr

/-- An entry of the trace of a bus. -/
inductive Mark
  /-- A call for the device at a place. -/
  | call (device : Nat) (c : Call)
  /-- A log event. -/
  | log (e : Log.Event)
  deriving DecidableEq, Repr

/-- The entry of an action on the device at a place. -/
def Mark.ofEntry (device : Nat) : Entry → Mark
  | .call c => .call device c
  | .log e => .log e

/-- A device that nothing is known of. -/
instance : Inhabited Device := ⟨{ details := .error .noDevice, layout := .error .noDevice }⟩

namespace Bus

variable {α : Type}

/-- The device at a place. -/
def device (bus : Bus) (place : Nat) : Device := bus.devices.getD place default

/-- Runs an action on the device at a place. -/
def act (place : Nat) (a : Act α) : Traced Bus Mark α := fun bus =>
  let done := a.run ⟨bus.device place, bus.now⟩
  { value := done.value
    state := { bus with
      devices := bus.devices.set place done.state.device
      now := done.state.now }
    trace := done.trace.map (.ofEntry place) }

/-- Logs events, and goes on with the value. -/
def logged (x : Logged α) : Traced Bus Mark α := do
  Traced.tell (x.events.map .log)
  return x.value

/-- Writes a log event. -/
def log (e : Log.Event) : Traced Bus Mark Unit := Traced.tell [.log e]

/-- Asks for the list of devices. -/
def enumerate : Traced Bus Mark (Except Failure Unit) := do
  match ← Traced.look Bus.listError with
  | some code => return .error code
  | none =>
    Traced.change fun bus => { bus with enumerations := bus.enumerations + 1 }
    return .ok ()

/-- Releases a list of devices. -/
def freeList : Traced Bus Mark Unit :=
  Traced.change fun bus => { bus with listFrees := bus.listFrees + 1 }

end Bus

/-! ## Opening a session -/

/-- How to connect. -/
structure Manager where
  /-- The options of every session. -/
  options : Options
  /-- Whether kernel drivers may be detached. -/
  canDetach : Bool := true
  deriving DecidableEq, Repr

namespace Manager

variable (m : Manager)

/-- Selects the wanted configuration, unless it is active already. -/
def selectConfiguration : Act (Except Error Unit) :=
  match m.options.configuration with
  | none => pure (.ok ())
  | some wanted => do
    let current ← Act.getConfiguration
    if current.toOption == some wanted then
      Act.log (.configurationActive wanted)
      return .ok ()
    else
      match current with
      | .ok number => Act.log (.configurationSwitched number wanted)
      | .error code => Act.log (.configurationUnreadable code)
      match ← Act.setConfiguration wanted with
      | .ok () => return .ok ()
      | .error code =>
        Act.log (.configurationRefused wanted code)
        return .error (.usb code)

/-- Detaches the kernel driver from the interface. The result tells whether it has to be given back:
    it has to be if a driver was bound, or if it is unknown whether one was and detaching worked. -/
def detachDriver (interface : UInt8) : Act Bool :=
  if m.canDetach then do
    match ← Act.kernelDriverActive interface with
    | .ok false =>
      Act.log (.driverAbsent interface)
      return false
    | .ok true =>
      Act.log (.driverDetaching interface)
      if let .error code ← Act.detach interface then Act.log (.detachFailed interface code)
      return true
    | .error code =>
      Act.log (.driverUnknown interface code)
      match ← Act.detach interface with
      | .ok () => return true
      | .error code =>
        Act.log (.detachFailed interface code)
        return false
  else pure false

/-- Claims the interface of a candidate on an open handle, which is closed if that fails. -/
def claimInterface (place : Nat) (c : Candidate) : Act (Except Error Session) := do
  let interface := c.binding.interface
  let detached ← m.detachDriver interface
  match ← Act.claim interface with
  | .ok () =>
    Act.log (.claimed interface)
    return .ok ⟨place, c.details, c.binding, m.options, detached, .open⟩
  | .error code =>
    Act.log (.claimFailed interface code)
    if detached then
      if let .error code ← Act.attach interface then Act.log (.restoreFailed interface code)
    Act.closeHandle
    return .error (.claim interface code)

/-- Opens a session on a candidate. -/
def openSession (place : Nat) (c : Candidate) (reset : Bool) : Act (Except Error Session) := do
  match ← Act.openHandle with
  | .error code => return .error (.usb code)
  | .ok () =>
    if reset then
      if let .error code ← Act.reset then Act.log (.resetFailed code)
    match ← m.selectConfiguration with
    | .error e =>
      Act.closeHandle
      return .error e
    | .ok () => m.claimInterface place c

/-! ## Enumerating -/

/-- Tries the devices at the places in turn; `last` is the failure of the latest candidate. -/
def tryEach (vendor product : Id) (reset : Bool) (last : Option Error) :
    List Nat → Traced Bus Mark (Except Error Session)
  | [] => do
    Bus.log .freeingList
    return .error (last.getD (.notFound vendor product))
  | place :: rest => do
    let device ← Traced.look (Bus.device · place)
    match ← Bus.logged (device.candidate? vendor product m.options) with
    | none => tryEach vendor product reset last rest
    | some c =>
      match ← Bus.act place (m.openSession place c reset) with
      | .ok session =>
        Bus.log (.connected vendor product c.details.bus c.details.address c.binding)
        return .ok session
      | .error e =>
        Bus.log (.connectFailed vendor product c.details.bus c.details.address e)
        tryEach vendor product reset (some e) rest

/-- Opens a session on the first candidate that accepts one. Without a candidate nothing is found,
    and where all fail the last failure is the result. -/
def connect (vendor product : Id) (reset : Bool) : Traced Bus Mark (Except Error Session) := do
  match ← Bus.enumerate with
  | .error code => return .error (.usb code)
  | .ok () =>
    let total ← Traced.look fun bus => bus.devices.length
    Bus.log (.enumerated total)
    let result ← m.tryEach vendor product reset none (List.range total)
    Bus.freeList
    return result

/-- The descriptors of the devices that match the ids, where zero matches every id. -/
def find (vendor product : Id) : Traced Bus Mark (Except Error (List Details)) := do
  match ← Bus.enumerate with
  | .error code => return .error (.usb code)
  | .ok () =>
    let devices ← Traced.look Bus.devices
    let found ← Bus.logged (listed vendor product devices)
    Bus.log (.found found.length devices.length vendor product)
    Bus.freeList
    return .ok found

/-- Closes the host-controller context; sessions go on. -/
def close : Traced Bus Mark Unit := Bus.log .contextClosed

end Manager

end UsbSession
