import UsbSession.Proofs.Connect.Search
import UsbSession.Settings

/-!
# Endpoints that settings declare

Settings that name both endpoints are refused exactly where no device could ever serve them
(`Settings.check_iff_resolvable`).

The check looks at bit 7 of the two addresses, and nothing else. It is all that matters, because an
endpoint has the direction that its address tells (`Layout.Addressed`): a declared endpoint of the
other direction is never found (`AltSetting.direction_of_declared?`), and for two addresses of the
right directions there is a layout that has just these endpoints (`Options.fitting`).
-/

namespace UsbSession

/-! ## Layouts by address -/

/-- All endpoints have the directions that their addresses tell. -/
def Layout.Addressed (layout : Layout) : Prop :=
  ∀ alt ∈ layout.alts, ∀ e ∈ alt.endpoints, e = .ofAddress e.address e.type

/-- A transfer type of the expected kind, or one of those that any kind is expected of. -/
def TransferType.fitting : Option TransferKind → TransferType
  | some .interrupt => .interrupt
  | some .bulk | none => .bulk

/-- A layout of nothing but two endpoints, as the options want them. -/
def Options.fitting (o : Options) (incoming outgoing : UInt8) : Layout :=
  ⟨1, [⟨o.interface, 0, 255, [.ofAddress incoming (.fitting o.transferIn),
    .ofAddress outgoing (.fitting o.transferOut)]⟩]⟩

theorem Options.addressed_fitting (o : Options) (incoming outgoing : UInt8) :
    (o.fitting incoming outgoing).Addressed := by
  intro alt halt e he
  rw [List.mem_singleton.1 halt] at he
  rcases List.mem_pair.1 he with rfl | rfl <;> rfl

/-! ## Declared endpoints -/

namespace AltSetting

variable {alt : AltSetting} {address : UInt8} {d : Direction} {expected : Option TransferKind}

/-- A declared endpoint that is found has the direction that its address tells. -/
theorem direction_of_declared? {pipe : Pipe}
    (haddressed : ∀ e ∈ alt.endpoints, e = .ofAddress e.address e.type)
    (h : alt.declared? address d expected = some pipe) : Direction.ofAddress address = d := by
  obtain ⟨e, he, -⟩ := Option.bind_eq_some_iff.1 h
  have hmatch := List.find?_some he
  rw [Bool.and_eq_true, beq_iff_eq, beq_iff_eq] at hmatch
  have hdirection := congrArg Endpoint.direction (haddressed e (List.mem_of_find?_eq_some he))
  rw [← hmatch.1, ← hmatch.2, hdirection]
  rfl

/-- The first endpoint with the address and the direction is found, if it is of a fitting type. -/
theorem declared?_of_find? (h : alt.endpoints.find? (fun e => e.address == address &&
      e.direction == d) = some ⟨address, .fitting expected, d⟩) :
    (alt.declared? address d expected).isSome = true := by
  rw [declared?, h]
  rcases expected with _ | _ | _ <;> rfl

end AltSetting

namespace Layout

variable {layout : Layout} {o : Options} {incoming outgoing : UInt8}

/-- Where both addresses are declared, a layout resolves only if they tell the right directions. -/
theorem direction_of_resolve (haddressed : layout.Addressed)
    (hdeclared : o.declared? = some (incoming, outgoing)) (h : (layout.resolve o).isSome = true) :
    Direction.ofAddress incoming = .incoming ∧ Direction.ofAddress outgoing = .outgoing := by
  obtain ⟨b, hb⟩ := Option.isSome_iff_exists.1 h
  obtain ⟨alt, hmem, hbind⟩ := List.exists_of_findSome?_eq_some hb
  have halt := haddressed alt (List.mem_of_mem_filter hmem)
  rw [AltSetting.bind?, hdeclared] at hbind
  dsimp only [AltSetting.bindDeclared?] at hbind
  split at hbind
  · obtain ⟨i, hi, hbind⟩ := Option.bind_eq_some_iff.1 hbind
    obtain ⟨u, hu, -⟩ := Option.bind_eq_some_iff.1 hbind
    exact ⟨AltSetting.direction_of_declared? halt hi, AltSetting.direction_of_declared? halt hu⟩
  · cases hbind

/-- Two endpoints of the right directions are resolved, as the options want them. -/
theorem resolve_fitting (hdeclared : o.declared? = some (incoming, outgoing))
    (hin : Direction.ofAddress incoming = .incoming)
    (hout : Direction.ofAddress outgoing = .outgoing) :
    ((o.fitting incoming outgoing).resolve o).isSome = true := by
  let alt : AltSetting := ⟨o.interface, 0, 255, [⟨incoming, .fitting o.transferIn, .incoming⟩,
    ⟨outgoing, .fitting o.transferOut, .outgoing⟩]⟩
  have hresolve : (o.fitting incoming outgoing).resolve o =
      alt.bindDeclared? o incoming outgoing := by
    rw [resolve, Options.fitting, Endpoint.ofAddress, Endpoint.ofAddress, hin, hout,
      List.filter_cons_of_pos rfl, List.filter_nil, List.findSome?_singleton, AltSetting.bind?,
      hdeclared]
  have hi : (alt.declared? incoming .incoming o.transferIn).isSome = true := by
    refine AltSetting.declared?_of_find? (List.find?_cons_of_pos ?_)
    rw [beq_self_eq_true, Bool.true_and]
    rfl
  have hu : (alt.declared? outgoing .outgoing o.transferOut).isSome = true := by
    -- The other endpoint is passed over for its direction, whatever its address.
    refine AltSetting.declared?_of_find? ?_
    rw [List.find?_cons_of_neg (by simp), List.find?_cons_of_pos (by simp)]
  obtain ⟨i, hi⟩ := Option.isSome_iff_exists.1 hi
  obtain ⟨u, hu⟩ := Option.isSome_iff_exists.1 hu
  rw [hresolve, AltSetting.bindDeclared?, if_pos (by simp [alt]), hi, hu]
  rfl

end Layout

/-! ## The check -/

namespace Settings

variable {s : Settings}

theorem check_ok_iff : s.check.value = .ok () ↔ s.flaw? = none := by
  -- A warning that comes before makes no difference.
  cases hflaw : s.flaw? <;> simp only [check, hflaw] <;> split <;> simp

/-- Settings are without a flaw where the level is known, and the addresses that there are tell the
    right directions. -/
theorem flaw?_eq_none_iff : s.flaw? = none ↔ s.logLevel ∈ levelNames ∧
    (∀ a, s.usb.endpointIn = some a → Direction.ofAddress a = .incoming) ∧
      ∀ a, s.usb.endpointOut = some a → Direction.ofAddress a = .outgoing := by
  unfold flaw?
  split
  · rename_i hlevel
    simp [hlevel]
  · rename_i hlevel
    rw [not_not] at hlevel
    simp [hlevel, Option.filter_eq_none_iff]

/-- With both endpoints declared and a known level, the check passes exactly where some layout
    resolves, and fails exactly where no device is ever a candidate. -/
theorem check_iff_resolvable (hlevel : s.logLevel ∈ levelNames)
    (hdeclared : s.usb.declared?.isSome = true) :
    (s.check.value = .ok () ↔
        ∃ layout : Layout, layout.Addressed ∧ (layout.resolve s.usb).isSome = true) ∧
      (s.check.value ≠ .ok () ↔
        ∀ d : UsbSession.Device, (∀ layout, d.layout = .ok layout → layout.Addressed) →
          ∀ vendor product, (d.candidate? vendor product s.usb).value = none) := by
  obtain ⟨⟨incoming, outgoing⟩, hdeclared⟩ := Option.isSome_iff_exists.1 hdeclared
  obtain ⟨hin, hout⟩ : s.usb.endpointIn = some incoming ∧ s.usb.endpointOut = some outgoing := by
    obtain ⟨i, hi, hrest⟩ := Option.bind_eq_some_iff.1 hdeclared
    obtain ⟨u, hu, hpair⟩ := Option.bind_eq_some_iff.1 hrest
    cases hpair
    exact ⟨hi, hu⟩
  have hcheck : s.check.value = .ok () ↔ Direction.ofAddress incoming = .incoming ∧
      Direction.ofAddress outgoing = .outgoing := by
    rw [check_ok_iff, flaw?_eq_none_iff, hin, hout]
    simp [hlevel]
  have hresolvable : s.check.value = .ok () ↔
      ∃ layout : Layout, layout.Addressed ∧ (layout.resolve s.usb).isSome = true := by
    rw [hcheck]
    constructor
    · rintro ⟨hi, hu⟩
      exact ⟨_, s.usb.addressed_fitting incoming outgoing, Layout.resolve_fitting hdeclared hi hu⟩
    · rintro ⟨layout, haddressed, hresolve⟩
      exact Layout.direction_of_resolve haddressed hdeclared hresolve
  refine ⟨hresolvable, ?_, ?_⟩
  · -- A candidate would have a layout that resolves.
    intro hfails d haddressed vendor product
    refine Option.eq_none_iff_forall_ne_some.2 fun c hc => hfails (hresolvable.2 ?_)
    obtain ⟨layout, hlayout, hbinding⟩ := (UsbSession.Device.candidate?_eq_some_iff.1 hc).binding
    exact ⟨layout, haddressed layout hlayout, Option.isSome_iff_exists.2 ⟨_, hbinding⟩⟩
  · -- A device with a layout that resolves is a candidate for its own ids.
    intro hnone hpasses
    obtain ⟨layout, haddressed, hresolve⟩ := hresolvable.1 hpasses
    obtain ⟨b, hb⟩ := Option.isSome_iff_exists.1 hresolve
    have hcandidate : UsbSession.Device.IsCandidate { details := .ok default, layout := .ok layout }
        (default : Details).vendor (default : Details).product s.usb ⟨default, b⟩ :=
      ⟨rfl, rfl, rfl, rfl, layout, rfl, hb⟩
    have hnot := hnone { details := .ok default, layout := .ok layout }
      (fun l hl => Except.ok.inj hl ▸ haddressed) (default : Details).vendor
      (default : Details).product
    rw [UsbSession.Device.candidate?_eq_some_iff.2 hcandidate] at hnot
    cases hnot

/-- An interrupt endpoint and one of any kind are declared on the last interface that there can be;
    with the two addresses exchanged no device could have them. -/
theorem check_iff_resolvable_exchanged :
    let s : Settings := { usb := {
      interface := 255, endpointIn := some 0x80, endpointOut := some 0x7f,
      transferIn := some .interrupt } }
    let t : Settings := { s with usb.endpointIn := some 0x7f, usb.endpointOut := some 0x80 }
    (s.logLevel ∈ levelNames ∧ s.usb.declared?.isSome = true) ∧
      (t.logLevel ∈ levelNames ∧ t.usb.declared?.isSome = true) ∧
      (∃ layout : Layout, layout.Addressed ∧ (layout.resolve s.usb).isSome = true) ∧
      ¬∃ layout : Layout, layout.Addressed ∧ (layout.resolve t.usb).isSome = true := by
  intro s t
  have hs : s.logLevel ∈ levelNames ∧ s.usb.declared?.isSome = true := by decide
  have ht : t.logLevel ∈ levelNames ∧ t.usb.declared?.isSome = true := by decide
  have hpasses : s.check.value = .ok () := check_ok_iff.2 (by decide)
  have hfails : t.check.value ≠ .ok () := fun h => absurd (check_ok_iff.1 h) (by decide)
  exact ⟨hs, ht, (check_iff_resolvable hs.1 hs.2).1.1 hpasses,
    fun h => hfails ((check_iff_resolvable ht.1 ht.2).1.2 h)⟩

end Settings

end UsbSession
