import UsbSession.Proofs.Settings.Declared
import UsbSession.Proofs.Settings.Draft
import UsbSession.Tool

/-!
# Settings that are loaded

Loading finds a file, reads the settings in it, and checks them (`Settings.value_load`). What comes
out is decided by what the document in the file says of settings (`Settings.Draft.decides_load`):

* if one of its values is none that settings can have, the error is one of the file;
* if the settings that it makes of the defaults do not pass the check, the error is that of the
  check;
* otherwise these are the settings.

With that, and whatever there is in the files, settings that were loaded have passed the check, and
nothing is changed by loading them (`Settings.load_draft`).
-/

namespace UsbSession

open Toml (Fields Field)

namespace Settings

section Load

variable {env : Environment} {files : Files} {path : Option String} {found text : String}
  {doc : Fields} {d : Draft}

/-- Loading is reading the file that was found, and checking what is read. -/
theorem value_load (hfound : sourcePath env files path = .ok found) :
    (load env files path).value = ofFile files found >>= fun s =>
      (s.check.value.mapError Fault.config).map fun _ => s := by
  rw [load, hfound]
  dsimp only
  cases ofFile files found with
  | error e => rfl
  | ok s =>
    dsimp only
    rw [Log.Logged.value_bind]
    cases hcheck : s.check.value <;> simp [bind, Except.bind, Except.map, Except.mapError, hcheck]

theorem ofFile_of_read (hread : files.read found = .ok text)
    (hparse : Toml.parse? text = some doc) :
    ofFile files found = (Field.readAll fields {} doc).mapError fun misfit =>
      .config (.unreadable found (some misfit)) := by
  rw [ofFile, hread]
  dsimp only
  rw [ofText, hparse]
  dsimp only
  cases Field.readAll fields {} doc <;> rfl

/-- What a draft in a file makes of loading it. -/
structure Draft.Decides (d : Draft) (found : String) (result : Except Fault Settings) : Prop where
  /-- Settings are loaded exactly if all values fit and the check passes. -/
  ok_iff : ∀ s, result = .ok s ↔ d.Fits ∧ (d.onto {}).check.value = .ok () ∧ s = d.onto {}
  /-- A value that does not fit is told as an error of the file. -/
  misfit : ¬d.Fits → ∃ misfit, result = .error (.config (.unreadable found (some misfit)))
  /-- What the check finds is told as it is. -/
  flaw : ∀ e, d.Fits → (d.onto {}).check.value = .error e → result = .error (.config e)

/-- The values that a document has for settings decide what is loaded from it. -/
theorem Draft.decides_load (hfound : sourcePath env files path = .ok found)
    (hread : files.read found = .ok text) (hparse : Toml.parse? text = some doc)
    (hholds : d.Holds doc) : d.Decides found (load env files path).value := by
  have hyields := Draft.yields hholds (Toml.sound_parse? hparse)
  rw [value_load hfound, ofFile_of_read hread hparse]
  cases hrecord : Field.readAll fields {} doc with
  | error m =>
    have hfits : ¬d.Fits := fun hfits => by simpa [hrecord] using (hyields _).2 ⟨hfits, rfl⟩
    exact ⟨fun s => by simp [bind, Except.bind, Except.mapError, hfits], fun _ => ⟨m, rfl⟩,
      fun _ h => absurd h hfits⟩
  | ok s =>
    obtain ⟨hfits, rfl⟩ := (hyields s).1 hrecord
    refine ⟨fun s => ?_, fun h => absurd hfits h, fun e _ he => ?_⟩
    · cases hcheck : (d.onto {}).check.value <;>
        simp [bind, Except.bind, Except.map, Except.mapError, hcheck, hfits, eq_comm]
    · simp [bind, Except.bind, Except.map, Except.mapError, he]

/-- The default settings pass the check. -/
theorem check_loadOrDefault (env : Environment) (files : Files) :
    (loadOrDefault env files).value.check.value = .ok () := by
  rw [loadOrDefault, Log.Logged.value_bind]
  cases hload : (load env files none).value with
  | ok s => exact check_of_load hload
  | error e => rfl

end Load

/-- Of a readable file with a document in which each value for settings has the type of its field,
    loading makes what `Draft.Decides` tells. Whatever is loaded, it passes the check, also where
    the defaults are taken; and the files are left as they are by all that load settings. -/
theorem load_draft :
    (∀ (env : Environment) (files : Files) path found text doc (d : Draft),
      sourcePath env files path = .ok found → files.read found = .ok text →
        Toml.parse? text = some doc → d.Holds doc →
          d.Decides found (load env files path).value) ∧
    (∀ (env : Environment) (files : Files) path s, (load env files path).value = .ok s →
      s.check.value = .ok ()) ∧
    (∀ (env : Environment) (files : Files), (loadOrDefault env files).value.check.value = .ok ()) ∧
    ∀ (s : Tool.Surroundings) (i : CommandLine.Invocation),
      (∀ force, i.command ≠ .initConfig force) → (Tool.runCommand s i).files = s.files :=
  ⟨fun _ _ _ _ _ _ _ hfound hread hparse hholds => Draft.decides_load hfound hread hparse hholds,
    fun _ _ _ _ hload => check_of_load hload, check_loadOrDefault,
    fun _ _ hcommand => Tool.files_run_of_ne_initConfig hcommand⟩

/-- Some values are told, in tables of several forms, beside others that are not for settings. With
    another address the check fails, and with an id that is too large the file does. -/
theorem load_draft_sparse :
    let text (address id : String) : String :=
      "log_level = 'warn'\nusb.endpoint_in = " ++ address ++ "\nusb.transfer_in = 'interrupt'\n" ++
      "usb.read_timeout = 0\n[[device.rack]]\nslot = 70000\n[device]\nvendor_id = " ++ id
    let loaded (text : String) : Except Fault Settings :=
      (load { home := "/home" } { nodes := [(["c.toml"], .file (.text text))] }
        (some "c.toml")).value
    loaded (text "0x8_1" "0xffff") = .ok {
        logLevel := "warn"
        device.vendor := ⟨0xffff⟩
        usb := { endpointIn := some 0x81, transferIn := some .interrupt } } ∧
      loaded (text "0x7f" "0xffff") = .error (.config (.notIncoming 0x7f)) ∧
      ∃ misfit, loaded (text "0x8_1" "0x10000") =
        .error (.config (.unreadable "c.toml" (some misfit))) := by
  intro text loaded
  let d (address id : Int) : Draft := {
    logLevel := some "warn"
    device.vendor := some id
    usb := { endpointIn := some address, transferIn := some "interrupt", readTimeout := some 0 } }
  have hdecides (text : String) (address id : Int)
      (hdoc : ∃ doc ∈ Toml.parse? text, (d address id).Holds doc) :
      (d address id).Decides "c.toml" (loaded text) := by
    obtain ⟨doc, hparse, hholds⟩ := hdoc
    exact load_draft.1 _ _ _ "c.toml" text doc _ rfl rfl hparse hholds
  refine ⟨?_, ?_, ?_⟩
  · have h := hdecides (text "0x8_1" "0xffff") 0x81 0xffff (by decide +kernel)
    exact (h.ok_iff _).2 ⟨by decide, rfl, rfl⟩
  · have h := hdecides (text "0x7f" "0xffff") 0x7f 0xffff (by decide +kernel)
    exact h.flaw _ (by decide) rfl
  · have h := hdecides (text "0x8_1" "0x10000") 0x81 0x10000 (by decide +kernel)
    exact h.misfit (by decide)

end Settings

end UsbSession
