import UsbSession.Settings

/-!
# Overriding settings again and again

What overrides carry takes the place of what is in the settings, and everything else stays
(`Settings.Carries`). So overrides that come one after the other act like one, in which the later
ones count more (`Overrides.merge`), however many there are (`foldl_overridden`) and whatever came
out of the checks before the last one (`overrideChecked_merge`).
-/

namespace UsbSession.Settings

variable {s : Settings} {o : Overrides}

/-- The settings that overriding leaves, whether they pass the check or not. -/
def overridden (s : Settings) (o : Overrides) : Settings := (s.overrideChecked o).value.1

/-- The settings `t` are `s` but for what the overrides carry. Flags are only switched on. -/
structure Carries (s : Settings) (o : Overrides) (t : Settings) : Prop where
  logLevel : t.logLevel = s.logLevel
  device : t.device = s.device
  interface : t.usb.interface = o.interface.getD s.usb.interface
  configuration : t.usb.configuration = o.configuration.or s.usb.configuration
  endpointIn : t.usb.endpointIn = o.endpointIn.or s.usb.endpointIn
  endpointOut : t.usb.endpointOut = o.endpointOut.or s.usb.endpointOut
  transferIn : t.usb.transferIn = s.usb.transferIn
  transferOut : t.usb.transferOut = s.usb.transferOut
  debug : t.usb.debug = true ↔ s.usb.debug = true ∨ o.debug = true
  retryZeroLength : t.usb.retryZeroLength = true ↔
    s.usb.retryZeroLength = true ∨ o.retryZeroLength = true
  readTimeout : t.usb.readTimeout = s.usb.readTimeout

theorem overridden_eq (s : Settings) (o : Overrides) : s.overridden o = s.override o := rfl

theorem carries_overridden (s : Settings) (o : Overrides) : s.Carries o (s.overridden o) where
  logLevel := rfl
  device := rfl
  interface := rfl
  configuration := rfl
  endpointIn := rfl
  endpointOut := rfl
  transferIn := rfl
  transferOut := rfl
  debug := Bool.or_eq_true_iff
  retryZeroLength := Bool.or_eq_true_iff
  readTimeout := rfl

/-! ## Overrides, one after the other -/

theorem overridden_overridden (s : Settings) (first second : Overrides) :
    (s.overridden first).overridden second = s.overridden (first.merge second) :=
  override_override s first second

theorem Overrides.merge_self (o : Overrides) : o.merge o = o := by
  simp only [merge, Option.or_self, Bool.or_self]

/-- What has nothing in it overrides nothing. -/
theorem overridden_empty (s : Settings) : s.overridden {} = s := by
  simp [overridden_eq, override]

/-- Any number of overrides act like one. -/
theorem foldl_overridden (s : Settings) (os : List Overrides) (o : Overrides) :
    os.foldl overridden (s.overridden o) = s.overridden (os.foldl Overrides.merge o) := by
  induction os generalizing o with
  | nil => rfl
  | cons next os ih => rw [List.foldl_cons, List.foldl_cons, overridden_overridden, ih]

theorem overrideChecked_eq (s : Settings) (o : Overrides) :
    s.overrideChecked o = Prod.mk (s.overridden o) <$> (s.overridden o).check := rfl

/-- What comes out is a matter of the settings that are left. -/
theorem overrideChecked_congr {t : Settings} {p : Overrides} (h : s.overridden o = t.overridden p) :
    s.overrideChecked o = t.overrideChecked p := by
  rw [overrideChecked_eq, overrideChecked_eq, h]

/-- Overriding twice leaves the same settings, with the same outcome, as overriding with both merged
    in one, and so does overriding any number of times; overriding again with the same changes
    nothing. The outcome is that of the check of what is left, and that is what was there but for
    what the overrides carry. -/
theorem overrideChecked_merge :
    (∀ (s : Settings) (first second : Overrides),
      (s.overridden first).overrideChecked second = s.overrideChecked (first.merge second)) ∧
    (∀ (s : Settings) (os : List Overrides) (last : Overrides),
      (os.foldl overridden s).overrideChecked last =
        s.overrideChecked ((os.foldl Overrides.merge {}).merge last)) ∧
    (∀ (s : Settings) (o : Overrides), (s.overridden o).overrideChecked o = s.overrideChecked o) ∧
    ∀ (s : Settings) (o : Overrides), s.Carries o (s.overridden o) ∧
      (s.overrideChecked o).value = (s.overridden o, (s.overridden o).check.value) := by
  refine ⟨fun s first second => overrideChecked_congr (overridden_overridden s first second),
    fun s os last => overrideChecked_congr ?_, fun s o => overrideChecked_congr ?_,
    fun s o => ⟨carries_overridden s o, rfl⟩⟩
  · have hfold := foldl_overridden s os {}
    rw [overridden_empty] at hfold
    rw [hfold, overridden_overridden]
  · rw [overridden_overridden, Overrides.merge_self]

end UsbSession.Settings
