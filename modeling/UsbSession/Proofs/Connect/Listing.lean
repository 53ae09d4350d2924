import UsbSession.Proofs.Connect.Search

/-!
# Listing and searching

Devices are listed by ids that may be left open, and searched for by the same ids, which then have
to be exact. Both go through the devices in order and keep some of them (`listed_eq`,
`candidates_eq`), and what they keep of each device is a matter of that device alone: its descriptor
where it is listed (`Device.listing?`), and besides that its layout where it is a candidate
(`Device.IsCandidate`).

A candidate is always an entry of the list (`Device.details_candidate?`). If both ids are given, the
only thing that can be in the way of an entry are its endpoints (`Device.details_candidate?_of_ne`).

* `listing_agrees`: so listing and searching agree, device by device.
-/

namespace UsbSession

open Log (Logged)

/-- Whether the id is left open, or is the given one. -/
theorem Id.covers_iff {pattern id : Id} :
    pattern.covers id.value = true ↔ pattern = any ∨ id = pattern := by
  rw [covers, isAny, Bool.or_eq_true, beq_iff_eq, beq_iff_eq]
  exact or_congr_right ⟨fun h => (congrArg mk h).symm, fun h => congrArg value h.symm⟩

namespace Device

variable {d : Device} {vendor product : Id} {o : Options} {details : Details}

/-- What is listed of the device, if it is listed for the ids. -/
def listing? (d : Device) (vendor product : Id) : Option Details :=
  d.details.toOption.filter fun details =>
    !details.isHid && vendor.covers details.vendor.value && product.covers details.product.value

theorem listing?_eq_some_iff : d.listing? vendor product = some details ↔
    d.details = .ok details ∧ details.isHid = false ∧
      (vendor = Id.any ∨ details.vendor = vendor) ∧
      (product = Id.any ∨ details.product = product) := by
  have hread : d.details.toOption = some details ↔ d.details = .ok details := by
    cases d.details <;> simp [Except.toOption]
  rw [listing?, Option.filter_eq_some_iff, hread, Bool.and_eq_true, Bool.and_eq_true,
    Id.covers_iff, Id.covers_iff, Bool.not_eq_true', and_assoc]

theorem hasExpectedEndpoints_iff : (d.hasExpectedEndpoints o).value = true ↔
    ∃ layout binding, d.layout = .ok layout ∧ layout.resolve o = some binding := by
  change (d.readBinding o).value.isSome = true ↔ _
  rw [readBinding_value, Option.isSome_iff_exists]
  cases d.layout <;> simp [Except.toOption]

/-- A candidate is listed. -/
theorem IsCandidate.listing?_eq {c : Candidate} (h : d.IsCandidate vendor product o c) :
    d.listing? vendor product = some c.details :=
  listing?_eq_some_iff.2 ⟨h.details, h.notHid, .inr h.vendor, .inr h.product⟩

theorem details_candidate? (d : Device) (vendor product : Id) (o : Options) :
    (d.candidate? vendor product o).value.map Candidate.details =
      if (d.candidate? vendor product o).value.isSome then d.listing? vendor product else none := by
  cases h : (d.candidate? vendor product o).value with
  | none => rfl
  | some c => exact (candidate?_eq_some_iff.1 h).listing?_eq.symm

/-- Where both ids are given, an entry with the expected endpoints is a candidate. -/
theorem details_candidate?_of_ne (hvendor : vendor ≠ Id.any) (hproduct : product ≠ Id.any)
    (d : Device) (o : Options) :
    (d.candidate? vendor product o).value.map Candidate.details =
      if (d.hasExpectedEndpoints o).value then d.listing? vendor product else none := by
  refine Option.ext fun details => ?_
  rw [Option.map_eq_some_iff]
  constructor
  · rintro ⟨c, hc, rfl⟩
    have hcandidate := candidate?_eq_some_iff.1 hc
    obtain ⟨layout, hlayout, hresolve⟩ := hcandidate.binding
    rw [if_pos (hasExpectedEndpoints_iff.2 ⟨layout, c.binding, hlayout, hresolve⟩)]
    exact hcandidate.listing?_eq
  · intro hentry
    split at hentry
    · rename_i hexpected
      obtain ⟨layout, binding, hlayout, hresolve⟩ := hasExpectedEndpoints_iff.1 hexpected
      obtain ⟨hdetails, hhid, hv, hp⟩ := listing?_eq_some_iff.1 hentry
      exact ⟨⟨details, binding⟩, candidate?_eq_some_iff.2 ⟨hdetails, hhid, hv.resolve_left hvendor,
        hp.resolve_left hproduct, layout, hlayout, hresolve⟩, rfl⟩
    · cases hentry

end Device

variable (vendor product : Id) (o : Options) (devices : List Device)

/-- Of each device its entry is listed. -/
theorem listed_eq : (listed vendor product devices).value =
    devices.filterMap (·.listing? vendor product) := by
  induction devices with
  | nil => rfl
  | cons d devices ih =>
    rw [listed, Logged.value_bind, Logged.value_bind, ih, Device.readDetails_value,
      List.filterMap_cons, Device.listing?]
    cases d.details with
    | error code => rfl
    | ok details =>
      change (if _ then _ else _ : Logged _).value = _
      rw [Except.toOption, Option.filter]
      split <;> rfl

/-- Each device is looked at with its place. -/
theorem candidates_eq (start : Nat) : (candidates vendor product o start devices).value =
    (devices.zipIdx start).filterMap fun x =>
      (x.1.candidate? vendor product o).value.map (x.2, ·) := by
  induction devices generalizing start with
  | nil => rfl
  | cons d devices ih =>
    rw [candidates, Logged.value_bind, Logged.value_bind, ih, List.zipIdx_cons,
      List.filterMap_cons]
    cases (d.candidate? vendor product o).value <;> rfl

theorem details_candidates (start : Nat) :
    (candidates vendor product o start devices).value.map (·.2.details) =
      devices.filterMap fun d => (d.candidate? vendor product o).value.map Candidate.details := by
  rw [candidates_eq, List.map_filterMap]
  conv_rhs => rw [← List.zipIdx_map_fst start devices, List.filterMap_map]
  refine List.filterMap_congr fun x _ => ?_
  rw [Option.map_map]
  rfl

theorem mem_candidates_iff {x : Nat × Candidate} :
    x ∈ (candidates vendor product o 0 devices).value ↔
      ∃ d, devices[x.1]? = some d ∧ d.IsCandidate vendor product o x.2 := by
  rw [candidates_eq, List.mem_filterMap]
  constructor
  · rintro ⟨y, hy, hx⟩
    obtain ⟨c, hc, rfl⟩ := Option.map_eq_some_iff.1 hx
    exact ⟨y.1, List.mem_zipIdx_iff_getElem?.1 hy, Device.candidate?_eq_some_iff.1 hc⟩
  · rintro ⟨d, hd, hcandidate⟩
    refine ⟨(d, x.1), List.mem_zipIdx_iff_getElem?.2 hd, ?_⟩
    rw [Device.candidate?_eq_some_iff.2 hcandidate]
    rfl

theorem pairwise_candidates (start : Nat) :
    ((candidates vendor product o start devices).value.map Prod.fst).Pairwise (· < ·) := by
  have hplaces : (devices.zipIdx start).Pairwise fun x y => x.2 < y.2 := by
    rw [← List.pairwise_map, List.zipIdx_map_snd]
    exact List.pairwise_lt_range'
  rw [List.pairwise_map, candidates_eq, List.pairwise_filterMap]
  refine hplaces.imp fun {x y} hlt a ha b hb => ?_
  obtain ⟨c, -, rfl⟩ := Option.map_eq_some_iff.1 ha
  obtain ⟨c', -, rfl⟩ := Option.map_eq_some_iff.1 hb
  exact hlt

/-- What is listed for ids is what is listed for any ids and has them. -/
theorem listed_eq_filter : (listed vendor product devices).value =
    (listed Id.any Id.any devices).value.filter fun details =>
      (vendor = Id.any ∨ details.vendor = vendor) ∧
        (product = Id.any ∨ details.product = product) := by
  rw [listed_eq, listed_eq, List.filter_filterMap]
  refine List.filterMap_congr fun d _ => Option.ext fun details => ?_
  rw [Option.filter_eq_some_iff, Device.listing?_eq_some_iff, Device.listing?_eq_some_iff,
    decide_eq_true_iff]
  tauto

/-- Listing keeps, of all descriptors that can be read, those of devices that may be opened and have
    the ids, where an id may be left open. Searching finds in order, each at its place, the devices
    that are candidates. If both ids are given, these are the devices that are listed and have the
    expected endpoints; in any case they are among those that are listed. -/
theorem listing_agrees :
    let list := (listed vendor product devices).value
    let found := (candidates vendor product o 0 devices).value
    (listed Id.any Id.any devices).value =
      (devices.filterMap (·.details.toOption)).filter (!·.isHid) ∧
    list = (listed Id.any Id.any devices).value.filter (fun details =>
      (vendor = Id.any ∨ details.vendor = vendor) ∧
        (product = Id.any ∨ details.product = product)) ∧
    (found.map Prod.fst).Pairwise (· < ·) ∧
    (∀ x, x ∈ found ↔ ∃ d, devices[x.1]? = some d ∧ d.IsCandidate vendor product o x.2) ∧
    (vendor ≠ Id.any → product ≠ Id.any → found.map (·.2.details) =
      (listed vendor product (devices.filter fun d => (d.hasExpectedEndpoints o).value)).value) ∧
    (found.map (·.2.details)).Sublist list := by
  refine ⟨?_, listed_eq_filter vendor product devices,
    pairwise_candidates vendor product o devices 0,
    fun x => mem_candidates_iff vendor product o devices, fun hvendor hproduct => ?_, ?_⟩
  · rw [listed_eq, List.filter_filterMap]
    refine List.filterMap_congr fun d _ => ?_
    simp [Device.listing?]
  · rw [details_candidates, listed_eq, List.filterMap_filter]
    exact List.filterMap_congr fun d _ => d.details_candidate?_of_ne hvendor hproduct o
  · rw [details_candidates, listed_eq]
    have hlisted := funext fun d : Device => d.details_candidate? vendor product o
    rw [hlisted, ← List.filterMap_filter]
    exact List.filter_sublist.filterMap _

/-- Of two devices that are listed, the one whose configuration cannot be read is no candidate. -/
theorem listing_agrees_unreadable :
    let vendor : Id := ⟨0x0483⟩
    let product : Id := ⟨0xa27e⟩
    let details : Details := { (default : Details) with vendor, product }
    let layout : Layout := ⟨1, [⟨0, 0, 255, [.ofAddress 0x81 .bulk, .ofAddress 0x01 .bulk]⟩]⟩
    let devices : List Device := [
      { details := .ok details, layout := .error .access },
      { details := .error .io, layout := .ok layout },
      { details := .ok { details with address := 2 }, layout := .ok layout }]
    vendor ≠ Id.any ∧ product ≠ Id.any ∧
      (listed vendor product devices).value = [details, { details with address := 2 }] ∧
      (candidates vendor product {} 0 devices).value.map (·.2.details) =
        [{ details with address := 2 }] := by
  intro vendor product details layout devices
  have hvendor : vendor ≠ Id.any := by decide
  have hproduct : product ≠ Id.any := by decide
  obtain ⟨-, -, -, -, hagree, -⟩ := listing_agrees vendor product {} devices
  exact ⟨hvendor, hproduct, rfl, hagree hvendor hproduct⟩

end UsbSession
