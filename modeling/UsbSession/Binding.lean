import UsbSession.Options

/-!
# Endpoint resolution

Which interface and endpoints of a device a session uses. Where the options declare both
addresses, an alternate setting of the declared interface has to consist of exactly these two
endpoints (`AltSetting.bindDeclared?`); otherwise the first alternate setting with a usable endpoint
of each direction is taken (`AltSetting.discover?`). Human interface devices are passed over.

* `Layout.resolve_eq_none_iff`: nothing is resolved exactly where no usable alternate setting binds.
-/

namespace UsbSession

/-- An endpoint that a session uses. -/
structure Pipe where
  address : UInt8
  kind : TransferKind
  direction : Direction
  deriving DecidableEq, Repr, Inhabited

/-- The interface and the two endpoints of a session. -/
structure Binding where
  /-- The interface to claim. -/
  interface : UInt8
  /-- The number of the alternate setting. -/
  setting : UInt8
  /-- The endpoint to read from. -/
  incoming : Pipe
  /-- The endpoint to write to. -/
  outgoing : Pipe
  deriving DecidableEq, Repr, Inhabited

/-- The endpoint of a direction. -/
def Binding.pipe (b : Binding) : Direction → Pipe
  | .incoming => b.incoming
  | .outgoing => b.outgoing

/-- The pipe of an endpoint, where sessions can use it. -/
def Endpoint.pipe? (e : Endpoint) : Option Pipe :=
  e.kind?.map fun kind => ⟨e.address, kind, e.direction⟩

namespace AltSetting

/-- The first endpoint with an address and a direction, if it can be used and is of the expected
    kind. -/
def declared? (alt : AltSetting) (address : UInt8) (direction : Direction)
    (expected : Option TransferKind) : Option Pipe := do
  let e ← alt.endpoints.find? fun e => e.address == address && e.direction == direction
  let pipe ← e.pipe?
  if expected.all (· == pipe.kind) then some pipe else none

/-- The binding of an alternate setting of the declared interface that has exactly the two declared
    endpoints. -/
def bindDeclared? (alt : AltSetting) (o : Options) (incoming outgoing : UInt8) : Option Binding :=
  if alt.interface == o.interface && alt.endpoints.length == 2 then do
    let i ← alt.declared? incoming .incoming o.transferIn
    let u ← alt.declared? outgoing .outgoing o.transferOut
    return ⟨alt.interface, alt.setting, i, u⟩
  else none

/-- The first usable endpoint of a direction. -/
def usable? (alt : AltSetting) (direction : Direction) : Option Pipe :=
  alt.endpoints.findSome? fun e => if e.direction = direction then e.pipe? else none

/-- The binding to the first usable endpoint of each direction. -/
def discover? (alt : AltSetting) : Option Binding := do
  let i ← alt.usable? .incoming
  let u ← alt.usable? .outgoing
  return ⟨alt.interface, alt.setting, i, u⟩

/-- The binding of an alternate setting under the options. -/
def bind? (alt : AltSetting) (o : Options) : Option Binding :=
  match o.declared? with
  | some (incoming, outgoing) => alt.bindDeclared? o incoming outgoing
  | none => alt.discover?

end AltSetting

namespace Layout

/-- The binding of the first alternate setting that has one, human interface devices left out. -/
def resolve (layout : Layout) (o : Options) : Option Binding :=
  (layout.alts.filter fun alt => !alt.isHid).findSome? (·.bind? o)

theorem resolve_eq_none_iff {layout : Layout} {o : Options} :
    layout.resolve o = none ↔ ∀ alt ∈ layout.alts, alt.isHid = false → alt.bind? o = none := by
  simp [resolve]

end Layout

end UsbSession
