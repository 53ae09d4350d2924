import UsbSession.Scenario.Operation

/-!
# Scenarios

A world is a bus with a connection manager and sessions in slots. Operations run in it one after the
other (`World.step`), and in the end the sessions that are left are let go of (`World.finish`).

* `Slots.get?_set`, `Slots.get?_erase`: a slot holds what was last put into it.
-/

namespace UsbSession

/-! ## Slots -/

/-- Sessions by the names of their slots, sorted by name. -/
abbrev Slots := List (String × Session)

namespace Slots

/-- The session in a slot. -/
def get? (name : String) : Slots → Option Session
  | [] => none
  | (other, s) :: slots => if other = name then some s else get? name slots

/-- Puts a session into a slot. -/
def set (name : String) (s : Session) : Slots → Slots
  | [] => [(name, s)]
  | (other, t) :: slots =>
    if name < other then (name, s) :: (other, t) :: slots
    else if name = other then (name, s) :: slots
    else (other, t) :: set name s slots

/-- Empties a slot. -/
def erase (name : String) : Slots → Slots
  | [] => []
  | slot :: slots => if slot.1 = name then erase name slots else slot :: erase name slots

theorem get?_set (name other : String) (s : Session) (slots : Slots) :
    get? other (set name s slots) = if name = other then some s else get? other slots := by
  fun_induction set name s slots with
  | case1 => simp [get?]
  | case2 => simp [get?]
  | case3 => simp only [get?]; split <;> simp_all
  | case4 key t slots _ hne ih => simp only [get?, ih]; split <;> simp_all

theorem get?_erase (name other : String) (slots : Slots) :
    get? other (erase name slots) = if name = other then none else get? other slots := by
  fun_induction erase name slots with
  | case1 => simp [get?]
  | case2 slot slots hn ih => simp only [get?, ih]; split <;> simp_all
  | case3 slot slots hn ih => simp only [get?, ih]; split <;> simp_all [eq_comm]

end Slots

/-! ## Worlds -/

/-- A bus with a connection manager and the sessions that it opened. -/
structure World where
  bus : Bus
  /-- The manager, until it is closed. -/
  manager : Option Manager
  slots : Slots := []
  deriving Repr

namespace World

/-- Something that happens in a world. -/
abbrev Happening (α : Type) := Traced World Mark α

/-- Runs what concerns the bus alone. -/
def onBus {α : Type} (x : Traced Bus Mark α) : Happening α := fun w =>
  let done := x.run w.bus
  { value := done.value
    state := { w with bus := done.state }
    trace := done.trace }

/-- Lets go of a session. -/
def letGo (s : Session) : Happening Unit := onBus (Bus.act s.device s.drop)

/-- Puts a session into a slot. -/
def put (slot : String) (s : Session) : Happening Unit :=
  Traced.change fun w => { w with slots := Slots.set slot s w.slots }

/-- Changes a device. -/
def changeDevice (place : Nat) (f : Device → Device) : Happening Unit :=
  Traced.change fun w => { w with bus.devices := w.bus.devices.modify place f }

/-- Connects and puts the session into a slot; one that is there already is let go of afterwards. -/
def connect (m : Manager) (slot : String) (vendor product : Id) (reset : Bool) :
    Happening Answer := do
  match ← onBus (m.connect vendor product reset) with
  | .error e => return .failed e
  | .ok s =>
    let before ← Traced.look fun w => Slots.get? slot w.slots
    put slot s
    if let some old := before then letGo old
    return .connected s.details s.binding

/-- Runs a request on a session, as one of several threads where the script of the device has
    something happen during transfers. -/
def request (slot : String) (s : Session) (r : Request) : Happening Answer := do
  let device ← Traced.look fun w => w.bus.device s.device
  if r.isTransfer && device.hasInterludes then
    let o ← onBus (Bus.act s.device (s.overlapping r))
    put slot o.session
    return .replied o.reply o.nested
  else
    let (reply, after) ← onBus (Bus.act s.device (s.perform r))
    put slot after
    return .replied (some reply) []

/-- Runs an operation. -/
def step : Operation → Happening Answer
  | .connect slot vendor product reset => do
    match ← Traced.look World.manager with
    | none => return .managerClosed
    | some m => connect m slot vendor product reset
  | .find vendor product => do
    match ← Traced.look World.manager with
    | none => return .managerClosed
    | some _ =>
      match ← onBus (Manager.find vendor product) with
      | .ok devices => return .found devices
      | .error e => return .failed e
  | .request slot r => do
    match ← Traced.look fun w => Slots.get? slot w.slots with
    | none => return .noSession
    | some s => request slot s r
  | .drop slot => do
    match ← Traced.look fun w => Slots.get? slot w.slots with
    | none => return .dropped false
    | some s =>
      Traced.change fun w => { w with slots := Slots.erase slot w.slots }
      letGo s
      return .dropped true
  | .script place changes => do
    changeDevice place fun d => { d with script := changes.foldl Script.change d.script }
    return .done
  | .inbound place items => do
    changeDevice place fun d => { d with inbound := d.inbound ++ items }
    return .done
  | .outbound place items => do
    changeDevice place fun d => { d with outbound := d.outbound ++ items }
    return .done
  | .options => return .options ((← Traced.look World.manager).map Manager.options)
  | .closeManager => do
    if (← Traced.look World.manager).isSome then onBus Manager.close
    Traced.change fun w => { w with manager := none }
    return .done

/-- Lets go of the sessions that are left, in the order of their slots. -/
def finish : Happening Unit := do
  for slot in ← Traced.look World.slots do
    letGo slot.2
  Traced.change fun w => { w with slots := [] }

end World

end UsbSession
