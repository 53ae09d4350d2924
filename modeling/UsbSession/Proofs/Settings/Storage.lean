import UsbSession.Proofs.Files
import UsbSession.Proofs.Toml.Records
import UsbSession.Settings.Store

/-!
# Settings that are loaded again

Settings that were saved are loaded again, from the path where they were saved
(`Settings.load_save`). Nothing is lost but what is not whole milliseconds of the read timeout
(`Settings.stored`), and nothing more the next time (`Settings.stored_stored`).

Each kind of field reads what it writes (`byteField_restores` and so on), so the tables of the
device and of the options do (`deviceFields_restores`, `optionFields_restores`), and the text
holds the settings (`ofText_render`).
-/

namespace UsbSession

open Toml (Scalar Value Field IsWord IsKey)

/-! ## What is kept -/

/-- What a file keeps of a time: the whole milliseconds, if there are any. -/
def wholeMilliseconds? (t : Nat) : Option Nat :=
  if t / millisecond = 0 then none else some (t / millisecond * millisecond)

/-- What a file keeps of options. -/
def Options.stored (o : Options) : Options :=
  { o with readTimeout := o.readTimeout.bind wholeMilliseconds? }

/-- What a file keeps of settings. -/
def Settings.stored (s : Settings) : Settings := { s with usb := s.usb.stored }

theorem wholeMilliseconds?_bind (t : Nat) :
    (wholeMilliseconds? t).bind wholeMilliseconds? = wholeMilliseconds? t := by
  unfold wholeMilliseconds?
  split
  · rfl
  next h =>
    rw [Option.bind_some, Nat.mul_div_cancel _ (by decide), if_neg h]

namespace Settings

/-- What is left of settings is kept. -/
@[simp] theorem stored_stored (s : Settings) : s.stored.stored = s.stored := by
  have htime : s.stored.usb.readTimeout.bind wholeMilliseconds? = s.stored.usb.readTimeout := by
    change (s.usb.readTimeout.bind wholeMilliseconds?).bind wholeMilliseconds? = _
    rw [Option.bind_assoc]
    exact Option.bind_congr fun t _ => wholeMilliseconds?_bind t
  change { s.stored with usb := { s.stored.usb with
    readTimeout := s.stored.usb.readTimeout.bind wholeMilliseconds? } } = _
  rw [htime]

/-! ## Fields -/

section Fields

variable {σ : Type} {key : String} {s t : σ}

theorem flagField_restores {get : σ → Bool} {set : Bool → σ → σ} :
    (flagField key get set).Restores s t (set (get s) t) where
  absent := nofun
  readable := by rintro _ ⟨rfl⟩; exact trivial
  present := by rintro _ ⟨rfl⟩; rfl

/-- A number that fits is read as it is. -/
theorem asUnsigned_number {bits n : Nat} (h : n < Text.bitLimit bits) :
    (Scalar.number n).value.asUnsigned bits = .ok n :=
  Value.asUnsigned_ok_iff.2 ⟨rfl, h⟩

theorem readable_of_lt {n m : Nat} (h : n < m) (hm : m ≤ Text.bitLimit 63) :
    (Scalar.number n).Readable :=
  Nat.lt_of_lt_of_le h hm

theorem byteField_restores {get : σ → UInt8} {set : UInt8 → σ → σ} :
    (byteField key get set).Restores s t (set (get s) t) where
  absent := nofun
  readable := by
    rintro _ ⟨rfl⟩
    exact readable_of_lt (get s).toNat_lt (by decide)
  present := by
    rintro _ ⟨rfl⟩
    change (Except.map _ _) = _
    rw [asUnsigned_number (get s).toNat_lt, Except.map, UInt8.ofNat_toNat]

theorem byteField?_restores {get : σ → Option UInt8} {set : Option UInt8 → σ → σ}
    (h : set none t = t) : (byteField? key get set).Restores s t (set (get s) t) where
  absent habsent := by rw [Option.map_eq_none_iff.1 habsent, h]
  readable v hv := by
    obtain ⟨b, -, rfl⟩ := Option.map_eq_some_iff.1 hv
    exact readable_of_lt b.toNat_lt (by decide)
  present v hv := by
    obtain ⟨b, hb, rfl⟩ := Option.map_eq_some_iff.1 hv
    change (Except.map _ _) = _
    rw [asUnsigned_number b.toNat_lt, Except.map, UInt8.ofNat_toNat, hb]

theorem idField_restores {get : σ → Id} {set : Id → σ → σ} :
    (idField key get set).Restores s t (set (get s) t) where
  absent := nofun
  readable := by
    rintro _ ⟨rfl⟩
    exact readable_of_lt (get s).value.toNat_lt (by decide)
  present := by
    rintro _ ⟨rfl⟩
    change (Except.map _ _) = _
    rw [asUnsigned_number (get s).value.toNat_lt, Except.map, UInt16.ofNat_toNat]

theorem kindField?_restores {get : σ → Option TransferKind} {set : Option TransferKind → σ → σ}
    (h : set none t = t) : (kindField? key get set).Restores s t (set (get s) t) where
  absent habsent := by rw [Option.map_eq_none_iff.1 habsent, h]
  readable v hv := by
    obtain ⟨kind, -, rfl⟩ := Option.map_eq_some_iff.1 hv
    have hword : IsWord kind.name := by cases kind <;> decide
    exact hword
  present v hv := by
    obtain ⟨kind, hkind, rfl⟩ := Option.map_eq_some_iff.1 hv
    rw [hkind]
    cases kind <;> rfl

/-- A time of no whole milliseconds is read as none. -/
theorem timeField?_restores {get : σ → Option Nat} {set : Option Nat → σ → σ} (h : set none t = t)
    (htime : ∀ time, get s = some time → time / millisecond < Text.bitLimit 63) :
    (timeField? key get set).Restores s t (set ((get s).bind wholeMilliseconds?) t) where
  absent habsent := by rw [Option.map_eq_none_iff.1 habsent, Option.bind_none, h]
  readable v hv := by
    obtain ⟨time, hget, rfl⟩ := Option.map_eq_some_iff.1 hv
    exact htime time hget
  present v hv := by
    obtain ⟨time, hget, rfl⟩ := Option.map_eq_some_iff.1 hv
    have hfits : time / millisecond < Text.bitLimit 64 :=
      Nat.lt_of_lt_of_le (htime time hget) (by decide)
    change (Except.map _ _) = _
    rw [asUnsigned_number hfits, hget]
    rfl

end Fields

/-! ## Tables -/

theorem deviceFields_restores (d : Settings.Device) :
    Field.RestoresAll d deviceFields {} d :=
  .cons idField_restores <| .cons idField_restores <| .cons flagField_restores .nil

theorem optionFields_restores {o : Options}
    (htime : ∀ t, o.readTimeout = some t → t / millisecond < Text.bitLimit 63) :
    Field.RestoresAll o optionFields {} o.stored :=
  .cons byteField_restores <| .cons (byteField?_restores rfl) <|
  .cons (byteField?_restores rfl) <| .cons (byteField?_restores rfl) <|
  .cons (kindField?_restores rfl) <| .cons (kindField?_restores rfl) <|
  .cons flagField_restores <| .cons flagField_restores <|
  .cons (timeField?_restores rfl htime) .nil

/-! ## Documents -/

section Document

variable {s : Settings} (hlevel : s.logLevel ∈ levelNames)
  (htime : ∀ t, s.usb.readTimeout = some t → t / millisecond < Text.bitLimit 63)

include hlevel htime

/-- The document of settings can be written and read again. -/
theorem wellFormed_sheet : s.sheet.WellFormed where
  fields := by
    have hword : ∀ name ∈ levelNames, IsWord name := by decide
    exact {
      keys := List.forall_mem_singleton.2 (show IsKey "log_level" by decide)
      values := List.forall_mem_singleton.2 (hword _ hlevel)
      nodup := show ["log_level"].Nodup by decide }
  sections := by
    have hdevice := Field.tidy_writeAll (deviceFields_restores s.device)
      (show ∀ field ∈ deviceFields, IsKey field.key by decide) (by decide)
    have husb := Field.tidy_writeAll (optionFields_restores htime)
      (show ∀ field ∈ optionFields, IsKey field.key by decide) (by decide)
    have hnames : IsKey "device" ∧ IsKey "usb" := by decide
    exact List.forall_mem_cons.2 ⟨⟨hnames.1, hdevice⟩,
      List.forall_mem_singleton.2 ⟨hnames.2, husb⟩⟩
  nodup := show ["log_level", "device", "usb"].Nodup by decide

/-- The text of settings holds them. -/
theorem ofText_render : ofText s.sheet.render = .ok s.stored := by
  have hdevice := Field.readAll_writeAll (by decide) (deviceFields_restores s.device)
  have husb := Field.readAll_writeAll (by decide) (optionFields_restores htime)
  have hread : Field.readAll fields {} s.sheet.document = .ok s.stored := by
    change (((Field.readAll deviceFields {}
      (Toml.contents (Field.writeAll deviceFields s.device))).map _) >>= _) = _
    rw [hdevice]
    change (((Field.readAll optionFields {} (Toml.contents (Field.writeAll optionFields s.usb))).map
      _) >>= _) = _
    rw [husb]
    rfl
  rw [ofText, Toml.Sheet.parse?_render (wellFormed_sheet hlevel htime)]
  change (Field.readAll fields {} s.sheet.document).mapError some = _
  rw [hread]
  rfl

end Document

/-! ## Files -/

section Files

variable {env : Environment} {files made written : Files} {s : Settings} {path text : String}

theorem level_of_check (h : s.check.value = .ok ()) : s.logLevel ∈ levelNames := by
  refine Decidable.byContradiction fun hlevel => ?_
  have hflaw : s.flaw? = some (.level s.logLevel) := by rw [flaw?, if_pos hlevel]
  simp [check, hlevel, hflaw] at h

theorem load_of_read (hread : files.read (env.expand path) = .ok text)
    (htext : ofText text = .ok s) (hcheck : s.check.value = .ok ()) :
    (load env files (some path)).value = .ok s := by
  have hfile : ofFile files (env.expand path) = .ok s := by
    rw [ofFile, hread]
    change (ofText text).mapError _ = _
    rw [htext]
    rfl
  rw [load, sourcePath]
  dsimp only
  rw [hfile]
  dsimp only
  rw [Log.Logged.value_bind, hcheck]
  rfl

theorem save_of_write (hmade : files.makeParents (env.expand path) = (.ok (), made))
    (hwrite : made.write (env.expand path) s.sheet.render = .ok written) :
    (save env files s path).value = (.ok (), written) := by
  rw [save, hmade]
  dsimp only
  rw [hwrite]
  rfl

/-- Settings are saved and loaded again, as far as they are kept, and can be saved there again. -/
theorem exists_save (hcheck : s.check.value = .ok ())
    (htime : ∀ t, s.usb.readTimeout = some t → t / millisecond < Text.bitLimit 63)
    (hpath : files.Writable (env.expand path)) :
    ∃ saved, (save env files s path).value = (.ok (), saved) ∧
      (load env saved (some path)).value = .ok s.stored ∧ saved.Writable (env.expand path) := by
  obtain ⟨made, saved, hmade, hwrite⟩ := hpath.exists_write s.sheet.render
  have htext := ofText_render (level_of_check hcheck) htime
  exact ⟨saved, save_of_write hmade hwrite, load_of_read (Files.read_of_write hwrite) htext hcheck,
    .of_write hmade hwrite⟩

/-- What is kept of a time is not more than the time. -/
theorem time_stored (htime : ∀ t, s.usb.readTimeout = some t → t / millisecond < Text.bitLimit 63) :
    ∀ t, s.stored.usb.readTimeout = some t → t / millisecond < Text.bitLimit 63 := by
  intro t ht
  obtain ⟨time, hget, hwhole⟩ := Option.bind_eq_some_iff.1 ht
  unfold wholeMilliseconds? at hwhole
  split at hwhole
  · cases hwhole
  · cases hwhole
    rw [Nat.mul_div_cancel _ (by decide)]
    exact htime time hget

end Files

/-- Settings that pass the check survive the file. What is loaded has lost only what is not whole
    milliseconds of the read timeout, and loses nothing more when it is saved again, there or at
    another path where a file can be written. -/
theorem load_save (env : Environment) (files : Files) (s : Settings) (path : String)
    (hcheck : s.check.value = .ok ())
    (htime : ∀ t, s.usb.readTimeout = some t → t / millisecond < Text.bitLimit 63)
    (hpath : files.Writable (env.expand path)) :
    ∃ saved, (s.save env files path).value = (.ok (), saved) ∧
      (load env saved (some path)).value = .ok s.stored ∧ saved.Writable (env.expand path) ∧
      ∀ other, saved.Writable (env.expand other) →
        ∃ again, (s.stored.save env saved other).value = (.ok (), again) ∧
          (load env again (some other)).value = .ok s.stored := by
  obtain ⟨saved, hsave, hload, hpath⟩ := exists_save hcheck htime hpath
  refine ⟨saved, hsave, hload, hpath, fun other hother => ?_⟩
  have hstored : s.stored.check.value = .ok () := hcheck
  obtain ⟨again, hsaved, hloaded, -⟩ := exists_save hstored (time_stored htime) hother
  rw [stored_stored] at hloaded
  exact ⟨again, hsaved, hloaded⟩

/-- Settings with a read timeout of some microseconds too many. -/
theorem load_save_timed :
    let env : Environment := { home := "/home/user" }
    let s : Settings := {
      usb := { endpointIn := some 0x81, endpointOut := some 0x02, transferIn := some .bulk,
               readTimeout := some 2500300 } }
    (∃ saved, (s.save env {} "~/.config/zerousb/config.toml").value = (.ok (), saved) ∧
      (load env saved (some "~/.config/zerousb/config.toml")).value =
        .ok { s with usb.readTimeout := some 2500000 }) := by
  intro env s
  have hpath : ({} : Files).Writable (env.expand "~/.config/zerousb/config.toml") := by
    decide +kernel
  obtain ⟨saved, hsave, hload, -⟩ := load_save env {} s "~/.config/zerousb/config.toml" rfl
    (by rintro _ ⟨rfl⟩; decide) hpath
  exact ⟨saved, hsave, hload⟩

end Settings

end UsbSession
