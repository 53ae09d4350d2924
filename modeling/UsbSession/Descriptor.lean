import UsbSession.Id

/-!
# Descriptors

What a host tells about an attached device without opening it: its descriptor (`Details`) and the
layout of its active configuration (`Layout`), flattened to the alternate settings of all
interfaces.

* `Direction.ofAddress_incoming_iff`: bit 7 of an endpoint address tells its direction.
-/

namespace UsbSession

/-! ## Endpoints -/

/-- The direction of an endpoint, seen from the host. -/
inductive Direction
  /-- From the device to the host. -/
  | incoming
  /-- From the host to the device. -/
  | outgoing
  deriving DecidableEq, Repr, Inhabited

/-- The direction that bit 7 of an endpoint address tells. -/
def Direction.ofAddress (address : UInt8) : Direction :=
  if address.toNat < 128 then .outgoing else .incoming

theorem Direction.ofAddress_incoming_iff {address : UInt8} :
    Direction.ofAddress address = .incoming ↔ 128 ≤ address.toNat := by
  simp only [Direction.ofAddress]
  split <;> simp <;> omega

/-- How an endpoint moves its data. -/
inductive TransferType
  | control
  | isochronous
  | bulk
  | interrupt
  deriving DecidableEq, Repr, Inhabited

/-- The transfer types that a session can use. -/
inductive TransferKind
  | bulk
  | interrupt
  deriving DecidableEq, Repr, Inhabited

namespace TransferKind

/-- The kind of a transfer type, where sessions can use it. -/
def ofType? : TransferType → Option TransferKind
  | .bulk => some bulk
  | .interrupt => some interrupt
  | .control | .isochronous => none

/-- The name of the kind. -/
def name : TransferKind → String
  | bulk => "bulk"
  | interrupt => "interrupt"

instance : ToString TransferKind := ⟨name⟩

end TransferKind

/-- An endpoint as the configuration describes it. -/
structure Endpoint where
  /-- The address, with the direction in bit 7. -/
  address : UInt8
  /-- How the endpoint moves its data. -/
  type : TransferType
  /-- The direction that the host reports. -/
  direction : Direction
  deriving DecidableEq, Repr, Inhabited

namespace Endpoint

/-- The endpoint with the direction that its address tells. -/
def ofAddress (address : UInt8) (type : TransferType) : Endpoint :=
  ⟨address, type, Direction.ofAddress address⟩

/-- The transfer kind, where sessions can use the endpoint. -/
def kind? (e : Endpoint) : Option TransferKind := TransferKind.ofType? e.type

end Endpoint

/-! ## Configurations -/

/-- The class code of human interface devices, which the operating system handles itself. -/
def hidClass : UInt8 := 3

/-- An alternate setting of an interface. -/
structure AltSetting where
  /-- The number of the interface. -/
  interface : UInt8
  /-- The number of the setting. -/
  setting : UInt8
  /-- The class code of the interface. -/
  classCode : UInt8
  /-- The endpoints, in the order of the descriptor. -/
  endpoints : List Endpoint
  deriving DecidableEq, Repr, Inhabited

/-- Whether the interface is a human interface device. -/
def AltSetting.isHid (alt : AltSetting) : Bool := alt.classCode == hidClass

/-- The active configuration of a device. -/
structure Layout where
  /-- The number of the configuration. -/
  number : UInt8
  /-- The alternate settings of all interfaces, in the order of the descriptor. -/
  alts : List AltSetting
  deriving DecidableEq, Repr, Inhabited

/-! ## Devices -/

/-- The descriptor of a device. -/
structure Details where
  vendor : Id
  product : Id
  classCode : UInt8
  subClassCode : UInt8
  protocolCode : UInt8
  /-- The largest packet of endpoint zero. -/
  maxPacketSize : UInt8
  numConfigurations : UInt8
  bus : UInt8
  address : UInt8
  deriving DecidableEq, Repr, Inhabited

namespace Details

/-- Whether the whole device is a human interface device. -/
def isHid (d : Details) : Bool := d.classCode == hidClass

/-- The record with its fields by name. -/
def describe (d : Details) : String :=
  let fields := [("vendor_id", d.vendor.describe), ("product_id", d.product.describe),
    ("class_code", s!"{d.classCode}"), ("sub_class_code", s!"{d.subClassCode}"),
    ("protocol_code", s!"{d.protocolCode}"), ("max_packet_size", s!"{d.maxPacketSize}"),
    ("num_configurations", s!"{d.numConfigurations}"), ("bus_number", s!"{d.bus}"),
    ("address", s!"{d.address}")]
  "DeviceDetails \x7b " ++ ", ".intercalate (fields.map fun (name, text) => s!"{name}: {text}") ++
    " \x7d"

end Details

end UsbSession
