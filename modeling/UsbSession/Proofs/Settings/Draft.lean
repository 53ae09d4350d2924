import UsbSession.Proofs.Settings.Storage
import UsbSession.Proofs.Toml.Order

/-!
# What a document says of settings

A draft holds what a document says of settings: for each field a value of the type of the field, or
nothing (`Settings.Draft`). A document that says this and nothing else of settings, whatever else is
in it, is read exactly if all of these values are such as settings can have
(`Settings.Draft.Fits`), and then as the default settings with these values in place
(`Settings.Draft.onto`).

Each kind of field is read by a lemma of its own (`yields_byteField` and so on), and a table field
by field (`Options.Draft.yields`, `Settings.Device.Draft.yields`, `Settings.Draft.yields`). The
order in the text is another one, but makes no difference, because the fields do not meddle with one
another (`pairwise_optionFields` and so on).
-/

namespace UsbSession

open Toml (Fields Value Field Misfit)

/-! ## Drafts -/

/-- The fields of the table under a key; where there is no such key, the table has none. -/
def Toml.Fields.table? (key : String) (fs : Fields) : Option Fields :=
  match fs.get? key with
  | none => some []
  | some (.table _ inner) => some inner
  | some _ => none

theorem Toml.Fields.Sound.of_table? {key : String} {doc inner : Fields} (hdoc : doc.Sound)
    (h : doc.table? key = some inner) : inner.Sound := by
  unfold Fields.table? at h
  split at h
  · cases h
    exact Fields.sound_nil
  · rename_i hget
    cases h
    exact Fields.sound_of_table (hdoc.get hget)
  · cases h

/-- Whether a number is one of those below a limit. -/
def Below (limit : Nat) (n : Int) : Prop := 0 ≤ n ∧ n < limit

/-- What a document says of options. -/
structure Options.Draft where
  interface : Option Int := none
  configuration : Option Int := none
  endpointIn : Option Int := none
  endpointOut : Option Int := none
  transferIn : Option String := none
  transferOut : Option String := none
  debug : Option Bool := none
  retryZeroLength : Option Bool := none
  /-- In milliseconds. -/
  readTimeout : Option Int := none

/-- What a document says of the device. -/
structure Settings.Device.Draft where
  vendor : Option Int := none
  product : Option Int := none
  reset : Option Bool := none

/-- What a document says of settings. -/
structure Settings.Draft where
  logLevel : Option String := none
  device : Settings.Device.Draft := {}
  usb : Options.Draft := {}

namespace Options.Draft

/-- The table says this and nothing else of options; it may have other fields besides. -/
@[mk_iff]
structure Holds (d : Options.Draft) (fs : Fields) : Prop where
  interface : fs.get? "interface" = d.interface.map .integer
  configuration : fs.get? "configuration" = d.configuration.map .integer
  endpointIn : fs.get? "endpoint_in" = d.endpointIn.map .integer
  endpointOut : fs.get? "endpoint_out" = d.endpointOut.map .integer
  transferIn : fs.get? "transfer_in" = d.transferIn.map .text
  transferOut : fs.get? "transfer_out" = d.transferOut.map .text
  debug : fs.get? "debug" = d.debug.map .boolean
  retryZeroLength : fs.get? "retry_zero_length" = d.retryZeroLength.map .boolean
  readTimeout : fs.get? "read_timeout" = d.readTimeout.map .integer

/-- Bytes are below 256, transfers have one of two kinds, and a time is not negative. -/
@[mk_iff]
structure Fits (d : Options.Draft) : Prop where
  interface : ∀ n ∈ d.interface, Below 256 n
  configuration : ∀ n ∈ d.configuration, Below 256 n
  endpointIn : ∀ n ∈ d.endpointIn, Below 256 n
  endpointOut : ∀ n ∈ d.endpointOut, Below 256 n
  transferIn : ∀ name ∈ d.transferIn, name = "bulk" ∨ name = "interrupt"
  transferOut : ∀ name ∈ d.transferOut, name = "bulk" ∨ name = "interrupt"
  readTimeout : ∀ n ∈ d.readTimeout, 0 ≤ n

/-- The byte that a number stands for. -/
def byte (n : Int) : UInt8 := UInt8.ofNat n.toNat

/-- The kind of transfers with a name. -/
def kind? (name : String) : Option TransferKind :=
  if name = "bulk" then some .bulk else if name = "interrupt" then some .interrupt else none

/-- The time of so many milliseconds, if there are any. -/
def time? (n : Int) : Option Nat := if n = 0 then none else some (n.toNat * millisecond)

/-- The options with what the draft says in place. No milliseconds say nothing. -/
def onto (d : Options.Draft) (o : Options) : Options where
  interface := (d.interface.map byte).getD o.interface
  configuration := (d.configuration.map byte).or o.configuration
  endpointIn := (d.endpointIn.map byte).or o.endpointIn
  endpointOut := (d.endpointOut.map byte).or o.endpointOut
  transferIn := (d.transferIn.bind kind?).or o.transferIn
  transferOut := (d.transferOut.bind kind?).or o.transferOut
  debug := d.debug.getD o.debug
  retryZeroLength := d.retryZeroLength.getD o.retryZeroLength
  readTimeout := (d.readTimeout.bind time?).or o.readTimeout

end Options.Draft

namespace Settings.Device.Draft

/-- The table says this and nothing else of the device; it may have other fields besides. -/
@[mk_iff]
structure Holds (d : Settings.Device.Draft) (fs : Fields) : Prop where
  vendor : fs.get? "vendor_id" = d.vendor.map .integer
  product : fs.get? "product_id" = d.product.map .integer
  reset : fs.get? "reset" = d.reset.map .boolean

/-- Ids have 16 bits. -/
@[mk_iff]
structure Fits (d : Settings.Device.Draft) : Prop where
  vendor : ∀ n ∈ d.vendor, Below 65536 n
  product : ∀ n ∈ d.product, Below 65536 n

/-- The id that a number stands for. -/
def code (n : Int) : Id := ⟨UInt16.ofNat n.toNat⟩

/-- The device with what the draft says in place. -/
def onto (d : Settings.Device.Draft) (device : Settings.Device) : Settings.Device where
  vendor := (d.vendor.map code).getD device.vendor
  product := (d.product.map code).getD device.product
  reset := d.reset.getD device.reset

end Settings.Device.Draft

namespace Settings.Draft

/-- The document says this and nothing else of settings; it may say other things besides. -/
@[mk_iff]
structure Holds (d : Draft) (doc : Fields) : Prop where
  logLevel : doc.get? "log_level" = d.logLevel.map .text
  device : ∃ fs, doc.table? "device" = some fs ∧ d.device.Holds fs
  usb : ∃ fs, doc.table? "usb" = some fs ∧ d.usb.Holds fs

/-- Whether all values are such as settings can have. -/
@[mk_iff]
structure Fits (d : Draft) : Prop where
  device : d.device.Fits
  usb : d.usb.Fits

/-- The settings with what the draft says in place. -/
def onto (d : Draft) (s : Settings) : Settings where
  logLevel := d.logLevel.getD s.logLevel
  device := d.device.onto s.device
  usb := d.usb.onto s.usb

end Settings.Draft

/-! ## Deciding drafts -/

section Decide

variable {α : Type} {value : α → Value}

instance : (v : Value) → (s : String) → Decidable (v = .text s)
  | .text t, s => decidable_of_iff (t = s) (by simp)
  | .integer _, _ | .float _, _ | .boolean _, _ | .time, _ | .array .., _ | .table .., _ =>
    isFalse nofun

instance : (v : Value) → (n : Int) → Decidable (v = .integer n)
  | .integer m, n => decidable_of_iff (m = n) (by simp)
  | .text _, _ | .float _, _ | .boolean _, _ | .time, _ | .array .., _ | .table .., _ =>
    isFalse nofun

instance : (v : Value) → (b : Bool) → Decidable (v = .boolean b)
  | .boolean c, b => decidable_of_iff (c = b) (by simp)
  | .text _, _ | .integer _, _ | .float _, _ | .time, _ | .array .., _ | .table .., _ =>
    isFalse nofun

instance [(v : Value) → (a : α) → Decidable (v = value a)] :
    (found : Option Value) → (raw : Option α) → Decidable (found = raw.map value)
  | none, none => isTrue rfl
  | some v, some a => decidable_of_iff (v = value a) (by simp)
  | none, some _ | some _, none => isFalse nofun

instance (d : Options.Draft) (fs : Fields) : Decidable (d.Holds fs) :=
  decidable_of_iff _ (Options.Draft.holds_iff d fs).symm

instance (d : Settings.Device.Draft) (fs : Fields) : Decidable (d.Holds fs) :=
  decidable_of_iff _ (Settings.Device.Draft.holds_iff d fs).symm

instance (key : String) (doc : Fields) (p : Fields → Prop) [DecidablePred p] :
    Decidable (∃ fs, doc.table? key = some fs ∧ p fs) :=
  inferInstanceAs (Decidable (∃ fs ∈ doc.table? key, p fs))

instance (d : Settings.Draft) (doc : Fields) : Decidable (d.Holds doc) :=
  decidable_of_iff _ (Settings.Draft.holds_iff d doc).symm

instance (limit : Nat) (n : Int) : Decidable (Below limit n) :=
  inferInstanceAs (Decidable (0 ≤ n ∧ n < limit))

instance (d : Options.Draft) : Decidable d.Fits :=
  decidable_of_iff _ (Options.Draft.fits_iff d).symm

instance (d : Settings.Device.Draft) : Decidable d.Fits :=
  decidable_of_iff _ (Settings.Device.Draft.fits_iff d).symm

instance (d : Settings.Draft) : Decidable d.Fits :=
  decidable_of_iff _ (Settings.Draft.fits_iff d).symm

end Decide

/-! ## Kinds of fields -/

namespace Settings

section Kinds

open Field (Yields yields_readKey)

variable {σ : Type} {key : String} {fs : Fields} {s : σ}

/-- A number of so many bits is read if it is in range. -/
theorem yields_asUnsigned (bits : Nat) (put : Nat → σ) (n : Int) :
    Yields (((Value.integer n).asUnsigned bits).map put) (Below (Text.bitLimit bits) n)
      (put n.toNat) := by
  intro u
  change (if _ then _ else _ : Except Misfit Nat).map put = _ ↔ _
  have hbelow : Below (Text.bitLimit bits) n ↔ 0 ≤ n ∧ n.toNat < Text.bitLimit bits := by
    unfold Below
    omega
  rw [hbelow]
  split
  · rename_i h
    rw [Except.map, Except.ok.injEq, and_iff_right h, eq_comm]
  · rename_i h
    simp [Except.map, h]

/-- A kind of transfers is read if it has one of the two names. -/
theorem yields_asChoice (put : Option TransferKind → σ) (name : String) :
    Yields (((Value.text name).asChoice (kinds.map TransferKind.name)).map fun i => put kinds[i]?)
      (name = "bulk" ∨ name = "interrupt") (put (Options.Draft.kind? name)) := by
  intro u
  by_cases hbulk : name = "bulk"
  · subst hbulk
    change Except.ok (put (some .bulk)) = _ ↔ _ ∧ u = put (some .bulk)
    simp [eq_comm]
  · by_cases hinterrupt : name = "interrupt"
    · subst hinterrupt
      change Except.ok (put (some .interrupt)) = _ ↔ _ ∧ u = put (some .interrupt)
      simp [eq_comm]
    · have hnames : (kinds.map TransferKind.name).idxOf? name = none := by
        rw [List.idxOf?_eq_none_iff]
        simpa [kinds, TransferKind.name] using ⟨hbulk, hinterrupt⟩
      simp [Value.asChoice, Value.chosen, hnames, Except.map, hbulk, hinterrupt]

section Raw

variable {α β : Type} {get : σ → β} {set : β → σ → σ} (hset : set (get s) s = s)

include hset

/-- What a field sets comes in the place of what was there, if there is a value. -/
theorem elim_set (raw : Option α) (f : α → β) :
    (raw.elim s fun a => set (f a) s) = set ((raw.map f).getD (get s)) s := by
  cases raw with
  | none => exact hset.symm
  | some a => rfl

end Raw

variable {raw : Option Int}

/-- A value of the right type is read, whatever it is. -/
theorem yields_plain {α : Type} {field : Toml.Field σ} {value : α → Value} {raw : Option α}
    (get : σ → α) (set : α → σ → σ) (h : fs.get? field.key = raw.map value)
    (hread : ∀ a, field.read (value a) s = .ok (set a s)) (hset : set (get s) s = s) :
    Yields (field.readKey fs s) True (set (raw.getD (get s)) s) := by
  have hkey : Yields (field.readKey fs s) (∀ a ∈ raw, True) (raw.elim s fun a => set a s) :=
    yields_readKey h fun a u => by rw [hread, Except.ok.injEq, true_and, eq_comm]
  rw [elim_set hset raw fun a => a, Option.map_id'] at hkey
  simpa using hkey

theorem yields_flagField {get : σ → Bool} {set : Bool → σ → σ} {raw : Option Bool}
    (h : fs.get? key = raw.map .boolean) (hset : set (get s) s = s) :
    Yields ((flagField key get set).readKey fs s) True (set (raw.getD (get s)) s) :=
  yields_plain get set h (fun _ => rfl) hset

theorem yields_byteField {get : σ → UInt8} {set : UInt8 → σ → σ}
    (h : fs.get? key = raw.map .integer) (hset : set (get s) s = s) :
    Yields ((byteField key get set).readKey fs s) (∀ n ∈ raw, Below 256 n)
      (set ((raw.map Options.Draft.byte).getD (get s)) s) := by
  rw [← elim_set hset]
  exact yields_readKey h fun n => yields_asUnsigned 8 (fun k => set (UInt8.ofNat k) s) n

theorem yields_byteField? {get : σ → Option UInt8} {set : Option UInt8 → σ → σ}
    (h : fs.get? key = raw.map .integer) (hset : set (get s) s = s) :
    Yields ((byteField? key get set).readKey fs s) (∀ n ∈ raw, Below 256 n)
      (set ((raw.map Options.Draft.byte).or (get s)) s) := by
  have hread : Yields ((byteField? key get set).readKey fs s) (∀ n ∈ raw, Below 256 n)
      (raw.elim s fun n => set (some (Options.Draft.byte n)) s) :=
    yields_readKey h fun n => yields_asUnsigned 8 (fun k => set (some (UInt8.ofNat k)) s) n
  rw [elim_set hset raw fun n => some (Options.Draft.byte n)] at hread
  cases raw <;> exact hread

theorem yields_idField {get : σ → Id} {set : Id → σ → σ}
    (h : fs.get? key = raw.map .integer) (hset : set (get s) s = s) :
    Yields ((idField key get set).readKey fs s) (∀ n ∈ raw, Below 65536 n)
      (set ((raw.map Settings.Device.Draft.code).getD (get s)) s) := by
  rw [← elim_set hset]
  exact yields_readKey h fun n => yields_asUnsigned 16 (fun k => set ⟨UInt16.ofNat k⟩ s) n

theorem yields_kindField? {get : σ → Option TransferKind} {set : Option TransferKind → σ → σ}
    {raw : Option String} (h : fs.get? key = raw.map .text) (hnone : get s = none)
    (hset : set (get s) s = s) :
    Yields ((kindField? key get set).readKey fs s)
      (∀ name ∈ raw, name = "bulk" ∨ name = "interrupt")
      (set ((raw.bind Options.Draft.kind?).or (get s)) s) := by
  have hread : Yields ((kindField? key get set).readKey fs s)
      (∀ name ∈ raw, name = "bulk" ∨ name = "interrupt")
      (raw.elim s fun name => set (Options.Draft.kind? name) s) :=
    yields_readKey h (yields_asChoice fun kind => set kind s)
  rw [elim_set hset] at hread
  rw [hnone] at hread ⊢
  cases raw with
  | none => exact hread
  | some name => rwa [Option.bind_some, Option.or_none]

/-- Numbers in a file have 63 bits, so they are not too large for a time. -/
theorem yields_timeField? {get : σ → Option Nat} {set : Option Nat → σ → σ}
    (h : fs.get? key = raw.map .integer) (hfs : fs.Sound) (hnone : get s = none)
    (hset : set (get s) s = s) :
    Yields ((timeField? key get set).readKey fs s) (∀ n ∈ raw, 0 ≤ n)
      (set ((raw.bind Options.Draft.time?).or (get s)) s) := by
  have hread : Yields ((timeField? key get set).readKey fs s)
      (∀ n ∈ raw, Below (Text.bitLimit 64) n)
      (raw.elim s fun n => set (if n.toNat = 0 then none else some (n.toNat * millisecond)) s) :=
    yields_readKey h (yields_asUnsigned 64 _)
  rw [elim_set hset] at hread
  rw [hnone] at hread ⊢
  cases raw with
  | none => simpa using hread
  | some n =>
    have hwhole : Toml.IsWhole n := by
      cases hfs.get h with
      | integer hwhole => exact hwhole
    have hlimit : Text.bitLimit 63 ≤ Text.bitLimit 64 := by decide
    intro u
    rw [hread u, Option.bind_some, Option.or_none, Option.map_some, Option.getD_some]
    simp only [Option.mem_some, forall_eq', Options.Draft.time?]
    constructor
    · rintro ⟨hbelow, rfl⟩
      have hzero : n.toNat = 0 ↔ n = 0 := by have := hbelow.1; omega
      simp only [hzero, hbelow.1, true_and]
    · rintro ⟨hle, rfl⟩
      have hzero : n.toNat = 0 ↔ n = 0 := by omega
      have hlt : n < Text.bitLimit 64 := Int.lt_of_lt_of_le hwhole.2 (by omega)
      exact ⟨⟨hle, hlt⟩, by simp only [hzero]⟩

end Kinds

/-! ## Tables -/

/-- No two fields of the options meddle with one another. -/
theorem pairwise_optionFields : optionFields.Pairwise Field.Apart := by
  simp only [optionFields, List.pairwise_cons, List.forall_mem_cons, List.Pairwise.nil,
    List.not_mem_nil, false_implies, implies_true, and_true]
  and_intros
  all_goals exact Field.apart_of_map (fun _ _ => rfl) (fun _ _ => rfl) fun _ _ _ => rfl

theorem pairwise_deviceFields : deviceFields.Pairwise Field.Apart := by
  simp only [deviceFields, List.pairwise_cons, List.forall_mem_cons, List.Pairwise.nil,
    List.not_mem_nil, false_implies, implies_true, and_true]
  and_intros
  all_goals exact Field.apart_of_map (fun _ _ => rfl) (fun _ _ => rfl) fun _ _ _ => rfl

theorem pairwise_fields : fields.Pairwise Field.Apart := by
  simp only [fields, List.pairwise_cons, List.forall_mem_cons, List.Pairwise.nil,
    List.not_mem_nil, false_implies, implies_true, and_true]
  and_intros
  all_goals exact Field.apart_of_map (fun _ _ => rfl) (fun _ _ => rfl) fun _ _ _ => rfl

end Settings

open Field (Yields)

theorem Options.Draft.yields {d : Options.Draft} {fs : Fields} (h : d.Holds fs) (hfs : fs.Sound) :
    Yields (Field.readAll Settings.optionFields {} fs) d.Fits (d.onto {}) := by
  have hkeys : Yields (Field.readKeys Settings.optionFields fs {}) _ (d.onto {}) :=
    .cons (Settings.yields_byteField h.interface rfl) <|
    .cons (Settings.yields_byteField? h.configuration rfl) <|
    .cons (Settings.yields_byteField? h.endpointIn rfl) <|
    .cons (Settings.yields_byteField? h.endpointOut rfl) <|
    .cons (Settings.yields_kindField? h.transferIn rfl rfl) <|
    .cons (Settings.yields_kindField? h.transferOut rfl rfl) <|
    .cons (Settings.yields_flagField h.debug rfl) <|
    .cons (Settings.yields_flagField h.retryZeroLength rfl) <|
    .cons (Settings.yields_timeField? h.readTimeout hfs rfl rfl) <| Field.yields_nil fs _
  refine hkeys.readAll ?_ (by decide) Settings.pairwise_optionFields hfs.nodup
  simp only [Options.Draft.fits_iff, true_and, and_true]

theorem Settings.Device.Draft.yields {d : Settings.Device.Draft} {fs : Fields} (h : d.Holds fs)
    (hfs : fs.Sound) :
    Yields (Field.readAll Settings.deviceFields {} fs) d.Fits (d.onto {}) := by
  have hkeys : Yields (Field.readKeys Settings.deviceFields fs {}) _ (d.onto {}) :=
    .cons (Settings.yields_idField h.vendor rfl) <| .cons (Settings.yields_idField h.product rfl) <|
    .cons (Settings.yields_flagField h.reset rfl) <| Field.yields_nil fs _
  refine hkeys.readAll ?_ (by decide) Settings.pairwise_deviceFields hfs.nodup
  simp only [Settings.Device.Draft.fits_iff, and_true]

/-! ## Documents -/

section Documents

variable {σ τ : Type} {field : Toml.Field σ} {records : List (Toml.Field τ)} {init value : τ}
  {fits : Prop} {name : String} {doc inner : Fields} {s : σ}

/-- A field for a record reads what the table under its key yields, also where there is none. -/
theorem Settings.yields_record (set : τ → σ → σ)
    (h : Yields (Field.readAll records init inner) fits value)
    (hread : ∀ v, field.read v s = (Field.readRecord name records init v).map (set · s))
    (htable : doc.table? field.key = some inner) (hset : set init s = s) :
    Yields (field.readKey doc s) fits (set value s) := by
  intro u
  unfold Toml.Fields.table? at htable
  rw [Field.readKey]
  split at htable
  · rename_i hget
    cases htable
    obtain ⟨hfits, rfl⟩ := (h init).1 rfl
    rw [hget, hset]
    simp [hfits, eq_comm]
  · rename_i hget
    cases htable
    rw [hget]
    dsimp only
    rw [hread, Field.readRecord]
    cases hinner : Field.readAll records init inner with
    | error e =>
      have hnot : ¬fits := fun hfits => by simpa [hinner] using (h value).2 ⟨hfits, rfl⟩
      simp [Except.map, hnot]
    | ok v =>
      obtain ⟨hfits, rfl⟩ := (h v).1 hinner
      simp [Except.map, hfits, eq_comm]
  · cases htable

end Documents

theorem Settings.Draft.yields {d : Settings.Draft} {doc : Fields} (h : d.Holds doc)
    (hdoc : doc.Sound) : Yields (Field.readAll Settings.fields {} doc) d.Fits (d.onto {}) := by
  obtain ⟨device, hdevice, hdeviceHolds⟩ := h.device
  obtain ⟨usb, husb, husbHolds⟩ := h.usb
  have hkeys : Yields (Field.readKeys Settings.fields doc {}) _ (d.onto {}) :=
    .cons (Settings.yields_plain (·.logLevel) (fun name s => { s with logLevel := name })
      h.logLevel (fun _ => rfl) rfl) <|
    .cons (Settings.yields_record (fun device s => { s with device })
      (Device.Draft.yields hdeviceHolds (hdoc.of_table? hdevice)) (fun _ => rfl)
      hdevice rfl) <|
    .cons (Settings.yields_record (fun usb s => { s with usb })
      (Options.Draft.yields husbHolds (hdoc.of_table? husb)) (fun _ => rfl)
      husb rfl) <| Field.yields_nil doc _
  refine hkeys.readAll ?_ (by decide) Settings.pairwise_fields hdoc.nodup
  simp only [Settings.Draft.fits_iff, true_and, and_true]

end UsbSession
