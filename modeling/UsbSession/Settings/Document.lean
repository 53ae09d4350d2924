import UsbSession.Settings
import UsbSession.Toml.Document
import UsbSession.Toml.Record

/-!
# Settings as documents

The form of settings in a configuration file: the log level in front, and the tables `device` and
`usb`. Times are in whole milliseconds there. Each key is told once, with how it is written and how
it is read (`deviceFields`, `optionFields`), in the order in which the keys are written.
-/

namespace UsbSession.Settings

open Toml (Scalar Value Misfit)

variable {σ : Type}

/-! ## Fields by type -/

/-- A field for a truth value. -/
def flagField (key : String) (get : σ → Bool) (set : Bool → σ → σ) : Toml.Field σ where
  key
  write s := some (.boolean (get s))
  read v s := v.asBoolean.map (set · s)

/-- A field for a byte. -/
def byteField (key : String) (get : σ → UInt8) (set : UInt8 → σ → σ) : Toml.Field σ where
  key
  write s := some (.number (get s).toNat)
  read v s := (v.asUnsigned 8).map fun n => set (UInt8.ofNat n) s

/-- A field for a byte that may be left out. -/
def byteField? (key : String) (get : σ → Option UInt8) (set : Option UInt8 → σ → σ) :
    Toml.Field σ where
  key
  write s := (get s).map fun b => .number b.toNat
  read v s := (v.asUnsigned 8).map fun n => set (some (UInt8.ofNat n)) s

/-- A field for an id. -/
def idField (key : String) (get : σ → Id) (set : Id → σ → σ) : Toml.Field σ where
  key
  write s := some (.number (get s).value.toNat)
  read v s := (v.asUnsigned 16).map fun n => set ⟨UInt16.ofNat n⟩ s

/-- The kinds of transfers, in the order of their names. -/
def kinds : List TransferKind := [.bulk, .interrupt]

/-- A field for a kind of transfers that may be left out. -/
def kindField? (key : String) (get : σ → Option TransferKind)
    (set : Option TransferKind → σ → σ) : Toml.Field σ where
  key
  write s := (get s).map fun kind => .text kind.name
  read v s := (v.asChoice (kinds.map TransferKind.name)).map fun i => set kinds[i]? s

/-- A field for a time that may be left out. No milliseconds count as left out. -/
def timeField? (key : String) (get : σ → Option Nat) (set : Option Nat → σ → σ) :
    Toml.Field σ where
  key
  write s := (get s).map fun t => .number (t / millisecond)
  read v s := (v.asUnsigned 64).map fun n =>
    set (if n = 0 then none else some (n * millisecond)) s

/-! ## The tables -/

/-- The fields of the table of options. -/
def optionFields : List (Toml.Field Options) := [
  byteField "interface" (·.interface) fun b o => { o with interface := b },
  byteField? "configuration" (·.configuration) fun b o => { o with configuration := b },
  byteField? "endpoint_in" (·.endpointIn) fun b o => { o with endpointIn := b },
  byteField? "endpoint_out" (·.endpointOut) fun b o => { o with endpointOut := b },
  kindField? "transfer_in" (·.transferIn) fun k o => { o with transferIn := k },
  kindField? "transfer_out" (·.transferOut) fun k o => { o with transferOut := k },
  flagField "debug" (·.debug) fun b o => { o with debug := b },
  flagField "retry_zero_length" (·.retryZeroLength) fun b o => { o with retryZeroLength := b },
  timeField? "read_timeout" (·.readTimeout) fun t o => { o with readTimeout := t }]

/-- The fields of the table of the device. -/
def deviceFields : List (Toml.Field Settings.Device) := [
  idField "vendor_id" (·.vendor) fun id d => { d with vendor := id },
  idField "product_id" (·.product) fun id d => { d with product := id },
  flagField "reset" (·.reset) fun b d => { d with reset := b }]

/-- The fields of a document. The two tables are written as sections. -/
def fields : List (Toml.Field Settings) := [
  { key := "log_level"
    write s := some (.text s.logLevel)
    read v s := v.asText.map fun name => { s with logLevel := name } },
  { key := "device"
    write _ := none
    read v s := (Toml.Field.readRecord "DeviceSettings" deviceFields {} v).map fun d =>
      { s with device := d } },
  { key := "usb"
    write _ := none
    read v s := (Toml.Field.readRecord "Options" optionFields {} v).map fun o =>
      { s with usb := o } }]

/-- The document of options alone. -/
def optionSheet (o : Options) : Toml.Sheet := { fields := Toml.Field.writeAll optionFields o }

/-- The document of settings. -/
def sheet (s : Settings) : Toml.Sheet where
  fields := Toml.Field.writeAll fields s
  sections := [("device", Toml.Field.writeAll deviceFields s.device),
    ("usb", Toml.Field.writeAll optionFields s.usb)]

/-- The settings that a text holds; what is left out has its default. The failure is the first value
    that does not fit, or nothing where the text is no TOML. -/
def ofText (text : String) : Except (Option Misfit) Settings :=
  match Toml.parse? text with
  | none => .error none
  | some found => (Toml.Field.readAll fields {} found).mapError some

end UsbSession.Settings
