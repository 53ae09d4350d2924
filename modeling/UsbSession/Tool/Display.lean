import UsbSession.Json
import UsbSession.Payload
import UsbSession.Session

/-!
# What commands print

Descriptors and sessions as text and as JSON. A session is told as an object whose keys are sorted;
a descriptor that stands alone has its fields in the order of the descriptor.
-/

namespace UsbSession.Tool

open Text

/-- A byte as a number. -/
def byteJson (b : UInt8) : Json := .number b.toNat

/-- The lines about a device. -/
def detailsLines (d : Details) : List String :=
  [s!"  Bus {decimalPadded 3 d.bus.toNat} Device {decimalPadded 3 d.address.toNat}: " ++
      s!"ID {d.vendor}:{d.product}",
    "      Class " ++
      "/".intercalate ([d.classCode, d.subClassCode, d.protocolCode].map byteMarked) ++
      s!"  MaxPacketSize0 {d.maxPacketSize}  Configurations {d.numConfigurations}"]

/-- The fields of a descriptor, in its order. -/
def detailsFields (d : Details) : List (String × Json) :=
  [("vendor_id", .number d.vendor.value.toNat), ("product_id", .number d.product.value.toNat),
    ("class_code", byteJson d.classCode), ("sub_class_code", byteJson d.subClassCode),
    ("protocol_code", byteJson d.protocolCode), ("max_packet_size", byteJson d.maxPacketSize),
    ("num_configurations", byteJson d.numConfigurations), ("bus_number", byteJson d.bus),
    ("address", byteJson d.address)]

/-- What is printed for the devices that were found. -/
def foundLines (json : Bool) (found : List Details) : List String :=
  if json then (Json.list (found.map fun d => .object (detailsFields d))).lines
  else if found = [] then ["No matching USB devices found."]
  else s!"Found {found.length} USB device(s):" :: "" :: found.flatMap detailsLines

/-- Fields sorted by their keys. -/
def sortedObject (fields : List (String × Json)) : Json :=
  .object (fields.mergeSort fun a b => a.1 ≤ b.1)

/-- An endpoint as an object. -/
def pipeJson (p : Pipe) : Json :=
  sortedObject [("address", byteJson p.address), ("transfer", .text p.kind.name)]

/-- What is printed for a session. -/
def sessionLines (json : Bool) (s : Session) : List String :=
  if json then
    (sortedObject [("device", sortedObject (detailsFields s.details)),
      ("interface", byteJson s.binding.interface), ("endpoint_in", pipeJson s.binding.incoming),
      ("endpoint_out", pipeJson s.binding.outgoing)]).lines
  else
    detailsLines s.details ++
      [s!"      Interface {s.binding.interface}",
        s!"      IN  {byteMarked s.binding.incoming.address} ({s.binding.incoming.kind})",
        s!"      OUT {byteMarked s.binding.outgoing.address} ({s.binding.outgoing.kind})"]

/-- What is printed for the reply to a payload. -/
def replyLines (json : Bool) (sent : Nat) (reply : List UInt8) : List String :=
  if json then
    [(sortedObject [("sent", .number sent), ("received", .list (reply.map byteJson))]).compact]
  else [Payload.format reply]

end UsbSession.Tool
