import UsbSession.Proofs.Connect.Outcome

/-!
# Transfer kinds of a binding

Whether a binding has the transfer kinds that the options name (`Binding.Honours`).

Where both addresses are declared, an alternate setting binds only if its endpoints are of the kinds
that are named with them. Where the endpoints are discovered the named kinds are not looked at: they
are honoured if none is named, and else there is a layout that resolves to the other kinds
(`Layout.resolve_mismatch`), on which a session is opened all the same.

* `Options.honoured_iff`: the named kinds are honoured exactly where the options have them checked.
-/

namespace UsbSession

/-- The endpoints are of the kinds that the options name. -/
structure Binding.Honours (b : Binding) (o : Options) : Prop where
  incoming : ∀ kind, o.transferIn = some kind → b.incoming.kind = kind
  outgoing : ∀ kind, o.transferOut = some kind → b.outgoing.kind = kind

/-- There is no kind to be checked, or both addresses are declared. -/
def Options.ChecksKinds (o : Options) : Prop :=
  o.declared?.isSome = true ∨ o.transferIn = none ∧ o.transferOut = none

/-! ## Declared endpoints -/

namespace AltSetting

variable {alt : AltSetting} {o : Options} {b : Binding}

theorem kind_of_declared? {address : UInt8} {d : Direction} {kind : TransferKind} {pipe : Pipe}
    (h : alt.declared? address d (some kind) = some pipe) : pipe.kind = kind := by
  obtain ⟨e, -, h⟩ := Option.bind_eq_some_iff.1 h
  obtain ⟨found, -, h⟩ := Option.bind_eq_some_iff.1 h
  split at h
  · rename_i hkind
    cases h
    exact (beq_iff_eq.1 hkind).symm
  · cases h

theorem honours_of_bindDeclared? {incoming outgoing : UInt8}
    (h : alt.bindDeclared? o incoming outgoing = some b) : b.Honours o := by
  unfold bindDeclared? at h
  split at h
  · obtain ⟨i, hi, h⟩ := Option.bind_eq_some_iff.1 h
    obtain ⟨u, hu, h⟩ := Option.bind_eq_some_iff.1 h
    cases h
    exact ⟨fun kind hkind => kind_of_declared? (hkind ▸ hi),
      fun kind hkind => kind_of_declared? (hkind ▸ hu)⟩
  · cases h

end AltSetting

namespace Layout

variable {layout : Layout} {o : Options} {b : Binding}

/-- What is resolved is the binding of some alternate setting. -/
theorem exists_of_resolve (h : layout.resolve o = some b) :
    ∃ alt ∈ layout.alts, alt.isHid = false ∧ alt.bind? o = some b := by
  obtain ⟨alt, hmem, hbind⟩ := List.exists_of_findSome?_eq_some h
  obtain ⟨hmem, hhid⟩ := List.mem_filter.1 hmem
  exact ⟨alt, hmem, by simpa using hhid, hbind⟩

theorem honours_of_resolve (ho : o.ChecksKinds) (h : layout.resolve o = some b) : b.Honours o := by
  obtain ⟨alt, -, -, hbind⟩ := exists_of_resolve h
  rcases ho with hdeclared | ⟨hin, hout⟩
  · obtain ⟨⟨incoming, outgoing⟩, hdeclared⟩ := Option.isSome_iff_exists.1 hdeclared
    rw [AltSetting.bind?, hdeclared] at hbind
    exact AltSetting.honours_of_bindDeclared? hbind
  · -- No kind is named, so any will do.
    constructor
    · intro kind hkind
      rw [hin] at hkind
      cases hkind
    · intro kind hkind
      rw [hout] at hkind
      cases hkind

end Layout

/-! ## Discovered endpoints -/

/-- A transfer type of a kind other than the named one. -/
def TransferType.contrary : Option TransferKind → TransferType
  | some .bulk => .interrupt
  | some .interrupt | none => .bulk

/-- A layout with one endpoint of each direction, of other kinds than the options name. -/
def Options.mismatch (o : Options) : Layout :=
  ⟨1, [⟨0, 0, 255, [.ofAddress 0x81 (.contrary o.transferIn),
    .ofAddress 0x01 (.contrary o.transferOut)]⟩]⟩

/-- Discovery takes endpoints of any kind. -/
theorem Layout.resolve_mismatch {o : Options} (h : o.declared? = none) :
    ∃ b, o.mismatch.resolve o = some b ∧
      (∀ kind, o.transferIn = some kind → b.incoming.kind ≠ kind) ∧
      ∀ kind, o.transferOut = some kind → b.outgoing.kind ≠ kind := by
  have hresolve : o.mismatch.resolve o = AltSetting.discover? ⟨0, 0, 255,
      [.ofAddress 0x81 (.contrary o.transferIn), .ofAddress 0x01 (.contrary o.transferOut)]⟩ := by
    rw [resolve, Options.mismatch, List.filter_cons_of_pos rfl, List.filter_nil,
      List.findSome?_singleton, AltSetting.bind?, h]
  rw [hresolve]
  -- Either direction has a kind named for it, the one or the other, or none.
  rcases o.transferIn with _ | _ | _ <;> rcases o.transferOut with _ | _ | _ <;>
  · refine ⟨_, rfl, ?_, ?_⟩ <;> rintro _ ⟨⟩ ⟨⟩

/-- Options to which even the contrary layout is resolved as they say check kinds, or name none. -/
theorem Options.checksKinds_of_mismatch {o : Options}
    (h : ∀ b, o.mismatch.resolve o = some b → b.Honours o) : o.ChecksKinds := by
  cases hdeclared : o.declared? with
  | some pair => exact .inl (by rw [hdeclared]; rfl)
  | none =>
    obtain ⟨b, hb, hin, hout⟩ := Layout.resolve_mismatch hdeclared
    refine .inr ⟨?_, ?_⟩
    · exact Option.eq_none_iff_forall_ne_some.2 fun kind hkind =>
        hin kind hkind ((h b hb).incoming kind hkind)
    · exact Option.eq_none_iff_forall_ne_some.2 fun kind hkind =>
        hout kind hkind ((h b hb).outgoing kind hkind)

/-! ## Sessions -/

namespace Manager

variable {m : Manager} {vendor product : Id} {reset : Bool} {bus : Bus} {s : Session}

/-- A session uses what the layout of its device resolves to. -/
theorem resolve_of_connect (h : ((m.connect vendor product reset).run bus).value = .ok s) :
    ∃ d ∈ bus.devices, ∃ layout, d.layout = .ok layout ∧
      layout.resolve m.options = some s.binding := by
  cases hlist : bus.listError with
  | some code =>
    rw [(m.does_connect_of_error vendor product reset hlist).value] at h
    cases h
  | none =>
    rw [(m.does_connect vendor product reset hlist).value] at h
    obtain ⟨rest, hqs, hattempts⟩ := m.attempts (.notFound vendor product)
      (m.prospects vendor product bus (List.range bus.devices.length))
    rw [h] at hattempts
    generalize m.tried (m.prospects vendor product bus (List.range bus.devices.length)) = tried
      at hqs hattempts
    cases hattempts with
    | @accepted before rest q s refused accepts =>
      -- The session is that of the last candidate that was tried.
      have hmem : q ∈ m.prospects vendor product bus (List.range bus.devices.length) := by
        rw [hqs]
        simp
      obtain ⟨hplace, hdevice, hcandidate⟩ := mem_prospects_iff.1 hmem
      have hs : s.binding = q.candidate.binding := by
        rw [answer, attempt] at accepts
        split at accepts
        · cases accepts
        · cases accepts
          rfl
      have hlt : q.place < bus.devices.length := List.mem_range.1 hplace
      refine ⟨q.device, ?_, hs ▸ hcandidate.binding⟩
      rw [hdevice, Bus.device, List.getD_eq_getElem?_getD, List.getElem?_eq_getElem hlt]
      exact List.getElem_mem hlt

/-- On a device with the ids, and with a layout that resolves, a session is opened. -/
theorem connect_of_resolve {layout : Layout} {b : Binding} {details : Details}
    (hhid : details.isHid = false) (h : layout.resolve m.options = some b) :
    ∃ s, ((m.connect details.vendor details.product false).run
      { devices := [{ details := .ok details, layout := .ok layout }] }).value = .ok s ∧
      s.binding = b := by
  have hcandidate : Device.IsCandidate { details := .ok details, layout := .ok layout }
      details.vendor details.product m.options ⟨details, b⟩ := ⟨rfl, hhid, rfl, rfl, layout, rfl, h⟩
  have hprospects : m.prospects details.vendor details.product
      { devices := [{ details := .ok details, layout := .ok layout }] } (0 :: []) = _ :=
    prospects_cons_of_some [] (Device.candidate?_eq_some_iff.2 hcandidate)
  -- A device whose script has nothing fail refuses nobody.
  have hselects : m.configurationError? {} = none := Option.bind_fun_none _
  have haccepts : m.answer ⟨0, { details := .ok details, layout := .ok layout }, ⟨details, b⟩⟩ =
      .ok (m.opened {} 0 ⟨details, b⟩) := by
    rw [answer, attempt, refusal?, objection?, hselects]
    rfl
  rw [(m.does_connect _ _ _ rfl).value]
  refine ⟨m.opened {} 0 ⟨details, b⟩, ?_, rfl⟩
  refine Eq.trans (congrArg _ hprospects) ?_
  exact verdict_cons_of_ok haccepts _ _

end Manager

/-! ## Where kinds are honoured -/

/-- Named kinds are honoured, by what is resolved and by the sessions that are opened, exactly where
    both addresses are declared with them, or where none is named. -/
theorem Options.honoured_iff (o : Options) :
    ((∀ layout b, Layout.resolve layout o = some b → b.Honours o) ↔ o.ChecksKinds) ∧
      ((∀ canDetach vendor product reset bus s,
        ((Manager.connect ⟨o, canDetach⟩ vendor product reset).run bus).value = .ok s →
          s.binding.Honours o) ↔ o.ChecksKinds) := by
  constructor
  · exact ⟨fun h => o.checksKinds_of_mismatch fun b hb => h _ b hb,
      fun ho layout b => Layout.honours_of_resolve ho⟩
  · refine ⟨fun h => o.checksKinds_of_mismatch fun b hb => ?_,
      fun ho canDetach vendor product reset bus s hs => ?_⟩
    · -- A device with that layout is opened.
      have hhid : (default : Details).isHid = false := rfl
      obtain ⟨s, hs, rfl⟩ := Manager.connect_of_resolve (m := ⟨o, true⟩) hhid hb
      exact h _ _ _ _ _ s hs
    · obtain ⟨d, -, layout, -, hresolve⟩ := Manager.resolve_of_connect hs
      exact Layout.honours_of_resolve ho hresolve

/-- Two bulk endpoints are discovered and used, though the incoming one was to be an interrupt
    endpoint. -/
theorem Layout.resolve_other_kind :
    let layout : Layout := ⟨1, [⟨0, 0, 255, [.ofAddress 0x81 .bulk, .ofAddress 0x01 .bulk]⟩]⟩
    let o : Options := { transferIn := some .interrupt }
    ∃ b, layout.resolve o = some b ∧ b.incoming.kind = .bulk ∧ ¬b.Honours o :=
  ⟨_, rfl, rfl, fun h => absurd (h.incoming _ rfl) (by decide)⟩

end UsbSession
