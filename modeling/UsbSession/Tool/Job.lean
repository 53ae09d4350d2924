import UsbSession.CommandLine
import UsbSession.Log.Logger
import UsbSession.Manager
import UsbSession.Tool.Display
import UsbSession.Tool.Report

/-!
# Jobs

What the commands do once a connection manager is there. A job works on the bus and leaves a trace
of host calls, log events and printed lines, in the order in which they happen (`Output`).

A session that a job opens is closed before the job ends, whether it succeeds or not.
-/

namespace UsbSession.Tool

open Log (Event Logger)

/-- An entry of the trace of a job. -/
inductive Output
  /-- A host call or a log event. -/
  | mark (m : Mark)
  /-- A line that is printed. -/
  | line (text : String)
  deriving DecidableEq, Repr

/-- The lines that are shown for an entry. -/
def Output.shown (logger : Logger) : Output → List String
  | mark (.call ..) => []
  | mark (.log e) => logger.lines [e]
  | line text => [text]

/-- The host calls and log events of a trace. -/
def Output.marks (trace : List Output) : List Mark :=
  trace.filterMap fun
    | mark m => some m
    | line _ => none

/-- Something that the tool does. -/
abbrev Job (α : Type) := Traced Bus Output α

namespace Job

variable {α : Type}

/-- Does something on the bus. -/
def onBus (x : Traced Bus Mark α) : Job α := fun bus =>
  let done := x.run bus
  ⟨done.value, done.state, done.trace.map .mark⟩

/-- Does something with the device of a session. -/
def onDevice (s : Session) (a : Act α) : Job α := onBus (Bus.act s.device a)

/-- Writes a log event. -/
def log (e : Event) : Job Unit := Traced.tell [.mark (.log e)]

/-- Prints lines. -/
def print (lines : List String) : Job Unit := Traced.tell (lines.map .line)

/-- Lists the devices with the ids. -/
def list (json : Bool) (vendor product : Id) : Job (Except Report Unit) := do
  match ← onBus (Manager.find vendor product) with
  | .error e => return .error ((Report.ofError e).during "Failed to enumerate USB devices")
  | .ok found =>
    print (foundLines json found)
    return .ok ()

/-- Connects to the device that the settings name. -/
def connect (settings : Settings) : Job (Except Report Session) := do
  match settings.target with
  | .error e => return .error (Report.ofFault (.argument e))
  | .ok (vendor, product) =>
    let manager : Manager := { options := settings.usb }
    match ← onBus (manager.connect vendor product settings.device.reset) with
    | .error e =>
      return .error ((Report.ofError e).during s!"Failed to connect to {vendor}:{product}")
    | .ok s => return .ok s

/-- Closes a session. -/
def close (s : Session) (disconnected : Bool) : Job Unit := do
  let _ ← onDevice s (s.close disconnected)

/-- Connects to a device and prints what was claimed. -/
def inspect (json : Bool) (settings : Settings) : Job (Except Report Unit) := do
  match ← connect settings with
  | .error r => return .error r
  | .ok s =>
    print (sessionLines json s)
    close s false
    return .ok ()

/-- Sends a payload and reads the reply. -/
def exchange (s : Session) (payload : List UInt8) (readSize timeout : Nat) :
    Job (Except Error (List UInt8)) := do
  match ← onDevice s (s.write payload) with
  | .error e => return .error e
  | .ok written =>
    if written ≠ payload.length then log (.shortWrite written payload.length)
    onDevice s (s.read readSize timeout)

/-- Sends a payload to a device and prints the reply. -/
def echo (json : Bool) (settings : Settings) (text : String) (readSize timeout : Nat) :
    Job (Except Report Unit) := do
  match Payload.parse text with
  | .error refusal => return .error (Report.ofFault (.argument (.payload refusal)))
  | .ok payload =>
    match ← connect settings with
    | .error r => return .error r
    | .ok s =>
      let outcome ← exchange s payload readSize timeout
      let lost := match outcome with
        | .error e => e.isDisconnect
        | .ok _ => false
      if lost then log .exchangeCut
      close s lost
      match outcome with
      | .error e => return .error ((Report.ofError e).during "Transfer failed")
      | .ok reply =>
        print (replyLines json payload.length reply)
        return .ok ()

end Job

/-- The settings with the device that the command line names. -/
def selected (settings : Settings) (d : CommandLine.Selection) : Settings :=
  { settings with
    device.vendor := d.vendor.getD settings.device.vendor
    device.product := d.product.getD settings.device.product
    device.reset := settings.device.reset || d.reset }

/-- The job of a command; writing the default configuration is none. -/
def Job.ofCommand (json : Bool) (settings : Settings) :
    CommandLine.Command → Job (Except Report Unit)
  | .list vendor product => list json (vendor.getD Id.any) (product.getD Id.any)
  | .inspect device => inspect json (selected settings device)
  | .echo device payload readSize timeout =>
    echo json (selected settings device) payload readSize (timeout * millisecond)
  | .initConfig _ => pure (.ok ())

/-- A job with all that happens around it. -/
def Job.withContext (job : Job (Except Report Unit)) : Job (Except Report Unit) := do
  log .contextReady
  let result ← job
  onBus Manager.close
  return result

end UsbSession.Tool
