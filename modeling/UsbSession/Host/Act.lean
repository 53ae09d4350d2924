import UsbSession.Device
import UsbSession.Log.Event
import UsbSession.Trace

/-!
# Actions on a device

An action (`Act`) works on one device: it changes the device and the time, and traces the host calls
and the log events on its way. It sees no other device, so two actions on different devices cannot
disturb each other.

The time is in microseconds. It passes in transfers only: each takes the delay of its answer, and at
least one microsecond (`leastDelay`).
-/

namespace UsbSession

/-- A device at some time. -/
structure Clocked where
  device : Device
  /-- The time, in microseconds. -/
  now : Nat := 0
  deriving Repr

/-- An entry of the trace of an action. -/
inductive Entry
  /-- A call to the host. -/
  | call (c : Call)
  /-- A log event. -/
  | log (e : Log.Event)
  deriving DecidableEq, Repr

/-- An action on a device. -/
abbrev Act (α : Type) := Traced Clocked Entry α

namespace Act

variable {α : Type}

/-- Writes a log event. -/
def log (e : Log.Event) : Act Unit := Traced.tell [.log e]

/-- Makes a host call that the device answers at once. -/
def call (c : Call) (f : Device → α × Device) : Act α :=
  fun p => ⟨(f p.device).1, { p with device := (f p.device).2 }, [.call c]⟩

/-- Makes a host call that only answers. -/
def ask (c : Call) (f : Script → α) : Act α := call c fun d => (f d.script, d)

@[simp] theorem run_log (e : Log.Event) (p : Clocked) : (log e).run p = ⟨(), p, [.log e]⟩ := rfl

@[simp] theorem run_call (c : Call) (f : Device → α × Device) (p : Clocked) :
    (call c f).run p = ⟨(f p.device).1, { p with device := (f p.device).2 }, [.call c]⟩ := rfl

@[simp] theorem run_ask (c : Call) (f : Script → α) (p : Clocked) :
    (ask c f).run p = ⟨f p.device.script, p, [.call c]⟩ := rfl

/-! ## Host calls -/

/-- Opens a handle on the device. -/
def openHandle : Act (Except Failure Unit) := call .open Device.openHandle

/-- Closes a handle on the device. -/
def closeHandle : Act Unit := call .close Device.closeHandle

/-- Resets the device. -/
def reset : Act (Except Failure Unit) := ask .reset fun s => answering s.resetError ()

/-- Asks for the active configuration. -/
def getConfiguration : Act (Except Failure UInt8) :=
  ask .getConfiguration fun s => answering s.getConfigurationError s.activeConfiguration

/-- Selects a configuration. -/
def setConfiguration (number : UInt8) : Act (Except Failure Unit) :=
  call (.setConfiguration number) (Device.setConfiguration number)

/-- Asks whether a kernel driver is bound to the interface. -/
def kernelDriverActive (interface : UInt8) : Act (Except Failure Bool) :=
  ask (.kernelDriverActive interface) fun s => answering s.kernelDriverError s.kernelDriverActive

/-- Detaches the kernel driver from the interface. -/
def detach (interface : UInt8) : Act (Except Failure Unit) :=
  ask (.detach interface) fun s => answering s.detachError ()

/-- Attaches the kernel driver to the interface. -/
def attach (interface : UInt8) : Act (Except Failure Unit) :=
  ask (.attach interface) fun s => answering s.attachError ()

/-- Claims the interface. -/
def claim (interface : UInt8) : Act (Except Failure Unit) :=
  ask (.claim interface) fun s => answering s.claimError ()

/-- Releases the interface. -/
def release (interface : UInt8) : Act (Except Failure Unit) :=
  ask (.release interface) fun s => answering s.releaseError ()

/-- Cancels pending transfers. -/
def cancel : Act (Except Failure Unit) := ask .cancel fun s => answering s.cancelError ()

/-- The shortest time that a transfer takes. -/
def leastDelay : Nat := 1

/-- Runs a transfer on a pipe. -/
def transfer (pipe : Pipe) (t : Transfer) (timeout : Nat) (again : Bool) :
    Act (Except Failure (List UInt8)) := fun p =>
  let (ticket, inside) := p.device.enter t
  { value := ticket.answer
    state := ⟨inside.leave t ticket.answer, p.now + ticket.delay + leastDelay⟩
    trace := [.call (.transfer pipe.kind pipe.address t timeout again)] }

@[simp] theorem run_transfer (pipe : Pipe) (t : Transfer) (timeout : Nat) (again : Bool)
    (p : Clocked) :
    (transfer pipe t timeout again).run p =
      ⟨(p.device.enter t).1.answer,
        ⟨(p.device.enter t).2.leave t (p.device.enter t).1.answer,
          p.now + (p.device.enter t).1.delay + leastDelay⟩,
        [.call (.transfer pipe.kind pipe.address t timeout again)]⟩ := rfl

end Act

end UsbSession
