import UsbSession.Device
import UsbSession.Log.Event

/-!
# Finding devices

Which attached devices a session could be opened on. Listing takes zero for any id and does not look
at endpoints (`listed`); a candidate has exactly the requested ids and the expected endpoints
(`Device.candidate?`). Both leave out human interface devices and devices whose descriptor cannot be
read.
-/

namespace UsbSession

open Log (Logged)

/-- A device that a session could be opened on. -/
structure Candidate where
  /-- The descriptor. -/
  details : Details
  /-- The interface and the endpoints to use. -/
  binding : Binding
  deriving DecidableEq, Repr

namespace Device

/-- The descriptor, if it can be read. -/
def readDetails (d : Device) : Logged (Option Details) :=
  match d.details with
  | .ok details => pure (some details)
  | .error code => do
    Logged.log (.descriptorUnreadable code)
    return none

/-- What the active configuration resolves to. -/
def readBinding (d : Device) (o : Options) : Logged (Option Binding) :=
  match d.layout with
  | .ok layout =>
    match layout.resolve o with
    | some binding => do
      Logged.log (.resolved binding)
      return some binding
    | none => pure none
  | .error code => do
    Logged.log (.layoutUnreadable code)
    return none

/-- Whether the active configuration has the expected endpoints. -/
def hasExpectedEndpoints (d : Device) (o : Options) : Logged Bool := do
  return (← d.readBinding o).isSome

/-- What a session on the device would use, if the device has the ids and the expected endpoints. -/
def candidate? (d : Device) (vendor product : Id) (o : Options) : Logged (Option Candidate) := do
  let some details ← d.readDetails | return none
  if details.isHid then return none
  if details.vendor != vendor || details.product != product then return none
  match ← d.readBinding o with
  | none =>
    Logged.log (.lacksEndpoints vendor product details.bus details.address)
    return none
  | some binding =>
    Logged.log (.candidate vendor product details.bus details.address)
    return some ⟨details, binding⟩

end Device

/-- The descriptors of the devices that match the ids, where zero matches every id. -/
def listed (vendor product : Id) : List Device → Logged (List Details)
  | [] => pure []
  | d :: ds => do
    let details ← d.readDetails
    let rest ← listed vendor product ds
    match details with
    | some details =>
      if !details.isHid && vendor.covers details.vendor.value &&
          product.covers details.product.value
      then return details :: rest
      else return rest
    | none => return rest

/-- The candidates for the ids, each with its place, counted from `start`. -/
def candidates (vendor product : Id) (o : Options) (start : Nat) :
    List Device → Logged (List (Nat × Candidate))
  | [] => pure []
  | d :: ds => do
    let here ← d.candidate? vendor product o
    let rest ← candidates vendor product o (start + 1) ds
    match here with
    | some c => return (start, c) :: rest
    | none => return rest

end UsbSession
