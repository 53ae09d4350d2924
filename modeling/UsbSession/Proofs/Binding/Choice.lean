import Mathlib.Data.List.Basic
import UsbSession.Binding

/-!
# What is resolved

Which alternate setting a layout resolves to, said without the search for it. An alternate setting
qualifies (`AltSetting.Qualifies`) if it has what the options want: with both addresses declared it
consists of just these two endpoints (`AltSetting.ConsistsOf`), and else it has some usable endpoint
of each direction. A binding tells where to find the endpoints of a setting
(`Binding.Describes`): each is the first usable one of its direction.

The two ways to search look at different things. That they find the same endpoints is because a pair
of endpoints of opposite directions has one of each only: what is declared is then also what comes
first (`AltSetting.bindDeclared?_eq_some_iff`).

* `Layout.resolve_first`: what is resolved describes the first setting that qualifies.
-/

namespace UsbSession

/-! ## Endpoints -/

/-- The transfer type of a kind. -/
def TransferKind.type : TransferKind → TransferType
  | bulk => .bulk
  | interrupt => .interrupt

/-- The endpoint that a pipe leads to. -/
def Pipe.endpoint (pipe : Pipe) : Endpoint := ⟨pipe.address, pipe.kind.type, pipe.direction⟩

namespace Endpoint

/-- A bulk or interrupt endpoint of a direction. -/
def Usable (d : Direction) (e : Endpoint) : Prop :=
  e.direction = d ∧ (e.type = .bulk ∨ e.type = .interrupt)

/-- A usable endpoint with the address that is declared, and of the kind, if one is declared. -/
structure IsDeclared (address : UInt8) (d : Direction) (expected : Option TransferKind)
    (e : Endpoint) : Prop where
  usable : e.Usable d
  address : e.address = address
  kind : ∀ kind, expected = some kind → e.type = kind.type

variable {e : Endpoint} {d : Direction} {pipe : Pipe}

theorem pipe?_eq_some_iff : e.pipe? = some pipe ↔ pipe.endpoint = e := by
  obtain ⟨address, type, direction⟩ := e
  obtain ⟨address', kind, direction'⟩ := pipe
  cases type <;> cases kind <;>
    simp [pipe?, kind?, TransferKind.ofType?, Pipe.endpoint, TransferKind.type, eq_comm]

theorem usable_iff : e.Usable d ↔ e.direction = d ∧ e.pipe?.isSome = true := by
  obtain ⟨address, type, direction⟩ := e
  cases type <;> simp [Usable, pipe?, kind?, TransferKind.ofType?]

theorem not_usable_iff : ¬e.Usable d ↔ (if e.direction = d then e.pipe? else none) = none := by
  rw [usable_iff, not_and, Bool.not_eq_true, Option.isSome_eq_false_iff, Option.isNone_iff_eq_none,
    ite_eq_right_iff]

end Endpoint

/-! ## Alternate settings -/

/-- The first element of a list that is of a kind. -/
def IsFirst {α : Type} (P : α → Prop) (l : List α) (a : α) : Prop :=
  P a ∧ ∃ before after, l = before ++ a :: after ∧ ∀ b ∈ before, ¬P b

/-- The setting is of the declared interface, and its endpoints are the two declared ones, in either
    order. -/
def AltSetting.ConsistsOf (alt : AltSetting) (o : Options) (incoming outgoing : UInt8) : Prop :=
  alt.interface = o.interface ∧ ∃ i u : Endpoint, i.IsDeclared incoming .incoming o.transferIn ∧
    u.IsDeclared outgoing .outgoing o.transferOut ∧
    (alt.endpoints = [i, u] ∨ alt.endpoints = [u, i])

/-- The setting has what the options want. -/
def AltSetting.Qualifies (alt : AltSetting) (o : Options) : Prop :=
  alt.classCode ≠ hidClass ∧
    match o.endpointIn, o.endpointOut with
    | some incoming, some outgoing => alt.ConsistsOf o incoming outgoing
    | _, _ => ∀ d, ∃ e ∈ alt.endpoints, e.Usable d

/-- The binding has the numbers of the setting, and its pipes lead to the first usable endpoints. -/
structure Binding.Describes (b : Binding) (alt : AltSetting) : Prop where
  interface : b.interface = alt.interface
  setting : b.setting = alt.setting
  pipe : ∀ d, IsFirst (Endpoint.Usable d) alt.endpoints (b.pipe d).endpoint

namespace IsFirst

variable {α : Type} {P : α → Prop} {l : List α} {a b : α}

theorem mem (h : IsFirst P l a) : a ∈ l := by
  obtain ⟨-, before, after, rfl, -⟩ := h
  exact List.mem_append_right _ List.mem_cons_self

theorem iff_find? [DecidablePred P] : IsFirst P l a ↔ l.find? (fun x => decide (P x)) = some a := by
  simp [IsFirst, List.find?_eq_some_iff_append]

theorem unique (ha : IsFirst P l a) (hb : IsFirst P l b) : a = b := by
  classical
  exact Option.some.inj ((iff_find?.1 ha).symm.trans (iff_find?.1 hb))

theorem exists_of_mem (h : ∃ a ∈ l, P a) : ∃ a, IsFirst P l a := by
  classical
  have hfound : (l.find? fun x => decide (P x)).isSome = true := by
    simpa only [List.find?_isSome, decide_eq_true_eq] using h
  obtain ⟨a, ha⟩ := Option.isSome_iff_exists.1 hfound
  exact ⟨a, iff_find?.2 ha⟩

/-- Of a pair, what is of the kind comes first if the other is not of the kind. -/
theorem of_pair (ha : P a) (hb : ¬P b) (h : l = [a, b] ∨ l = [b, a]) : IsFirst P l a := by
  refine ⟨ha, ?_⟩
  rcases h with rfl | rfl
  · exact ⟨[], [b], rfl, List.forall_mem_nil _⟩
  · exact ⟨[b], [], rfl, List.forall_mem_singleton.2 hb⟩

end IsFirst

namespace AltSetting

variable {alt : AltSetting} {o : Options} {b : Binding} {d : Direction} {pipe : Pipe}

/-! ### Discovered endpoints -/

theorem usable?_eq_some_iff :
    alt.usable? d = some pipe ↔ IsFirst (Endpoint.Usable d) alt.endpoints pipe.endpoint := by
  have hpipe (e : Endpoint) : (if e.direction = d then e.pipe? else none) = some pipe ↔
      pipe.endpoint = e ∧ e.Usable d := by
    rw [Option.ite_none_right_eq_some, Endpoint.pipe?_eq_some_iff, Endpoint.usable_iff]
    constructor
    · rintro ⟨hd, hpipe⟩
      exact ⟨hpipe, hd, by rw [Endpoint.pipe?_eq_some_iff.2 hpipe]; rfl⟩
    · rintro ⟨hpipe, hd, -⟩
      exact ⟨hd, hpipe⟩
  rw [usable?, List.findSome?_eq_some_iff]
  simp only [hpipe, ← Endpoint.not_usable_iff]
  constructor
  · rintro ⟨before, e, after, hl, ⟨rfl, he⟩, hbefore⟩
    exact ⟨he, before, after, hl, hbefore⟩
  · rintro ⟨he, before, after, hl, hbefore⟩
    exact ⟨before, _, after, hl, ⟨rfl, he⟩, hbefore⟩

theorem discover?_eq_some_iff : alt.discover? = some b ↔ b.Describes alt := by
  constructor
  · intro h
    obtain ⟨i, hi, h⟩ := Option.bind_eq_some_iff.1 h
    obtain ⟨u, hu, h⟩ := Option.bind_eq_some_iff.1 h
    cases h
    refine ⟨rfl, rfl, fun d => ?_⟩
    cases d with
    | incoming => exact usable?_eq_some_iff.1 hi
    | outgoing => exact usable?_eq_some_iff.1 hu
  · rintro ⟨hinterface, hsetting, hpipe⟩
    rw [discover?, usable?_eq_some_iff.2 (hpipe .incoming), usable?_eq_some_iff.2 (hpipe .outgoing),
      ← hinterface, ← hsetting]
    rfl

/-! ### Declared endpoints -/

variable {address incoming outgoing : UInt8} {expected : Option TransferKind}

theorem isDeclared_of_declared? (h : alt.declared? address d expected = some pipe) :
    pipe.endpoint ∈ alt.endpoints ∧ pipe.endpoint.IsDeclared address d expected := by
  obtain ⟨e, he, h⟩ := Option.bind_eq_some_iff.1 h
  obtain ⟨found, hfound, h⟩ := Option.bind_eq_some_iff.1 h
  have hmatch := List.find?_some he
  rw [Bool.and_eq_true, beq_iff_eq, beq_iff_eq] at hmatch
  split at h
  · rename_i hkind
    cases h
    obtain rfl := Endpoint.pipe?_eq_some_iff.1 hfound
    refine ⟨List.mem_of_find?_eq_some he,
      Endpoint.usable_iff.2 ⟨hmatch.2, Option.isSome_iff_exists.2 ⟨_, hfound⟩⟩, hmatch.1, ?_⟩
    rintro kind rfl
    rw [beq_iff_eq.1 hkind]
    rfl
  · cases h

/-- A declared endpoint is found if no other has its direction. -/
theorem declared?_of_isDeclared (h : pipe.endpoint.IsDeclared address d expected)
    (hmem : pipe.endpoint ∈ alt.endpoints)
    (hother : ∀ e ∈ alt.endpoints, e.direction = d → e = pipe.endpoint) :
    alt.declared? address d expected = some pipe := by
  have hfind : alt.endpoints.find? (fun e => e.address == address && e.direction == d) =
      some pipe.endpoint := by
    have hfound : (alt.endpoints.find? fun e => e.address == address && e.direction == d).isSome =
        true := by
      rw [List.find?_isSome]
      exact ⟨_, hmem, by simp [h.address, h.usable.1]⟩
    obtain ⟨e, he⟩ := Option.isSome_iff_exists.1 hfound
    have hmatch := List.find?_some he
    rw [Bool.and_eq_true, beq_iff_eq, beq_iff_eq] at hmatch
    rw [he, hother e (List.mem_of_find?_eq_some he) hmatch.2]
  have hkind : expected.all (· == pipe.kind) = true := by
    cases hexpected : expected with
    | none => rfl
    | some kind =>
      have := h.kind kind hexpected
      cases kind <;> cases hp : pipe.kind <;> simp_all [Pipe.endpoint, TransferKind.type]
  rw [declared?, hfind]
  refine Option.bind_eq_some_iff.2 ⟨_, rfl, Option.bind_eq_some_iff.2 ⟨pipe,
    Endpoint.pipe?_eq_some_iff.2 rfl, ?_⟩⟩
  exact if_pos hkind

theorem eq_pair_of_mem {i u : Endpoint} (hlength : alt.endpoints.length = 2)
    (hi : i ∈ alt.endpoints) (hu : u ∈ alt.endpoints) (hne : i ≠ u) :
    alt.endpoints = [i, u] ∨ alt.endpoints = [u, i] := by
  obtain ⟨e, f, hef⟩ := List.length_eq_two.1 hlength
  rw [hef, List.mem_pair] at hi hu
  rcases hi with rfl | rfl
  · rcases hu with rfl | rfl
    · exact absurd rfl hne
    · exact .inl hef
  · rcases hu with rfl | rfl
    · exact .inr hef
    · exact absurd rfl hne

/-- A pair of declared endpoints has one of each direction, so each is the first of its own. -/
theorem isFirst_of_isDeclared {i u : Endpoint} (hi : i.Usable .incoming) (hu : u.Usable .outgoing)
    (h : alt.endpoints = [i, u] ∨ alt.endpoints = [u, i]) :
    IsFirst (Endpoint.Usable .incoming) alt.endpoints i ∧
      IsFirst (Endpoint.Usable .outgoing) alt.endpoints u := by
  refine ⟨.of_pair hi (fun hu' => ?_) h, .of_pair hu (fun hi' => ?_) h.symm⟩
  · cases hu.1.symm.trans hu'.1
  · cases hi.1.symm.trans hi'.1

theorem bindDeclared?_eq_some_iff : alt.bindDeclared? o incoming outgoing = some b ↔
    alt.ConsistsOf o incoming outgoing ∧ b.Describes alt := by
  constructor
  · intro h
    unfold bindDeclared? at h
    split at h
    · rename_i hshape
      rw [Bool.and_eq_true, beq_iff_eq, beq_iff_eq] at hshape
      obtain ⟨i, hi, h⟩ := Option.bind_eq_some_iff.1 h
      obtain ⟨u, hu, h⟩ := Option.bind_eq_some_iff.1 h
      cases h
      obtain ⟨himem, hi⟩ := isDeclared_of_declared? hi
      obtain ⟨humem, hu⟩ := isDeclared_of_declared? hu
      -- The two are of different directions, so they are the two that there are.
      have hpair : alt.endpoints = [i.endpoint, u.endpoint] ∨
          alt.endpoints = [u.endpoint, i.endpoint] :=
        eq_pair_of_mem hshape.2 himem humem fun heq => by
          cases hi.usable.1.symm.trans (heq ▸ hu.usable.1)
      obtain ⟨hifirst, hufirst⟩ := isFirst_of_isDeclared hi.usable hu.usable hpair
      refine ⟨⟨hshape.1, _, _, hi, hu, hpair⟩, rfl, rfl, fun d => ?_⟩
      cases d with
      | incoming => exact hifirst
      | outgoing => exact hufirst
    · cases h
  · rintro ⟨⟨hsame, i, u, hi, hu, hpair⟩, hinterface, hsetting, hpipe⟩
    obtain ⟨hifirst, hufirst⟩ := isFirst_of_isDeclared hi.usable hu.usable hpair
    obtain rfl := (hpipe .incoming).unique hifirst
    obtain rfl := (hpipe .outgoing).unique hufirst
    have hlength : alt.endpoints.length = 2 := by rcases hpair with h | h <;> rw [h] <;> rfl
    have hmem (e : Endpoint) (he : e ∈ alt.endpoints) :
        e = (b.pipe .incoming).endpoint ∨ e = (b.pipe .outgoing).endpoint := by
      rcases hpair with h | h <;> rw [h, List.mem_pair] at he
      · exact he
      · exact he.symm
    have hin := declared?_of_isDeclared hi (hpipe .incoming).mem fun e he hd =>
      (hmem e he).resolve_right fun h => by cases hd.symm.trans (h ▸ hu.usable.1)
    have hout := declared?_of_isDeclared hu (hpipe .outgoing).mem fun e he hd =>
      (hmem e he).resolve_left fun h => by cases hd.symm.trans (h ▸ hi.usable.1)
    rw [bindDeclared?, if_pos (by simp [hsame, hlength]), hin, hout, ← hinterface, ← hsetting]
    rfl

/-! ### Settings that qualify -/

/-- A setting with usable endpoints of both directions can be described. -/
theorem exists_describes (h : ∀ d, ∃ e ∈ alt.endpoints, e.Usable d) :
    ∃ b : Binding, b.Describes alt := by
  have hpipe (d : Direction) : ∃ pipe : Pipe,
      IsFirst (Endpoint.Usable d) alt.endpoints pipe.endpoint := by
    obtain ⟨e, he⟩ := IsFirst.exists_of_mem (h d)
    obtain ⟨pipe, hpipe⟩ := Option.isSome_iff_exists.1 (Endpoint.usable_iff.1 he.1).2
    exact ⟨pipe, (Endpoint.pipe?_eq_some_iff.1 hpipe).symm ▸ he⟩
  obtain ⟨i, hi⟩ := hpipe .incoming
  obtain ⟨u, hu⟩ := hpipe .outgoing
  refine ⟨⟨alt.interface, alt.setting, i, u⟩, rfl, rfl, fun d => ?_⟩
  cases d with
  | incoming => exact hi
  | outgoing => exact hu

theorem Qualifies.usable (h : alt.Qualifies o) (d : Direction) :
    ∃ e ∈ alt.endpoints, e.Usable d := by
  obtain ⟨-, h⟩ := h
  split at h
  · obtain ⟨-, i, u, hi, hu, hpair⟩ := h
    obtain ⟨hifirst, hufirst⟩ := isFirst_of_isDeclared hi.usable hu.usable hpair
    cases d with
    | incoming => exact ⟨i, hifirst.mem, hi.usable⟩
    | outgoing => exact ⟨u, hufirst.mem, hu.usable⟩
  · exact h d

/-- What the setting is bound to, unless it is a human interface device. -/
def choice? (alt : AltSetting) (o : Options) : Option Binding :=
  if alt.isHid then none else alt.bind? o

theorem choice?_eq_some_iff : alt.choice? o = some b ↔ alt.Qualifies o ∧ b.Describes alt := by
  have hhid : alt.isHid = true ↔ alt.classCode = hidClass := beq_iff_eq
  have hbind : alt.classCode ≠ hidClass →
      (alt.bind? o = some b ↔ alt.Qualifies o ∧ b.Describes alt) := by
    intro hclass
    have hdiscover : alt.discover? = some b ↔
        (alt.classCode ≠ hidClass ∧ ∀ d, ∃ e ∈ alt.endpoints, e.Usable d) ∧ b.Describes alt := by
      rw [discover?_eq_some_iff]
      exact ⟨fun h => ⟨⟨hclass, fun d => ⟨_, (h.pipe d).mem, (h.pipe d).1⟩⟩, h⟩, And.right⟩
    unfold bind? Options.declared? Qualifies
    rcases o.endpointIn with _ | incoming
    · exact hdiscover
    · rcases o.endpointOut with _ | outgoing
      · exact hdiscover
      · exact bindDeclared?_eq_some_iff.trans (and_congr_left' (and_iff_right hclass).symm)
  unfold choice?
  by_cases hclass : alt.classCode = hidClass
  · rw [if_pos (hhid.2 hclass)]
    exact ⟨nofun, fun h => absurd hclass h.1.1⟩
  · rw [if_neg (mt hhid.1 hclass)]
    exact hbind hclass

theorem choice?_eq_none_iff : alt.choice? o = none ↔ ¬alt.Qualifies o := by
  rw [Option.eq_none_iff_forall_ne_some]
  constructor
  · intro hnone hqualifies
    obtain ⟨b, hb⟩ := exists_describes hqualifies.usable
    exact hnone b (choice?_eq_some_iff.2 ⟨hqualifies, hb⟩)
  · exact fun hnot b hb => hnot (choice?_eq_some_iff.1 hb).1

end AltSetting

/-! ## Layouts -/

namespace Layout

theorem resolve_eq (layout : Layout) (o : Options) :
    layout.resolve o = layout.alts.findSome? (·.choice? o) := by
  rw [resolve]
  induction layout.alts with
  | nil => rfl
  | cons alt alts ih =>
    rw [List.findSome?_cons, AltSetting.choice?]
    cases hhid : alt.isHid with
    | true =>
      rw [List.filter_cons_of_neg (by simp [hhid])]
      exact ih
    | false =>
      rw [List.filter_cons_of_pos (by simp [hhid]), List.findSome?_cons, ih]
      rfl

/-- Something is resolved exactly where some setting qualifies, and it describes the first such
    setting. -/
theorem resolve_first (layout : Layout) (o : Options) :
    ((layout.resolve o).isSome = true ↔ ∃ alt ∈ layout.alts, alt.Qualifies o) ∧
      ∀ b, layout.resolve o = some b ↔
        ∃ alt, IsFirst (·.Qualifies o) layout.alts alt ∧ b.Describes alt := by
  have hfirst (b : Binding) : layout.resolve o = some b ↔
      ∃ alt, IsFirst (·.Qualifies o) layout.alts alt ∧ b.Describes alt := by
    rw [resolve_eq, List.findSome?_eq_some_iff]
    simp only [AltSetting.choice?_eq_some_iff, AltSetting.choice?_eq_none_iff]
    constructor
    · rintro ⟨before, alt, after, hl, ⟨hqualifies, hb⟩, hbefore⟩
      exact ⟨alt, ⟨hqualifies, before, after, hl, hbefore⟩, hb⟩
    · rintro ⟨alt, ⟨hqualifies, before, after, hl, hbefore⟩, hb⟩
      exact ⟨before, alt, after, hl, ⟨hqualifies, hb⟩, hbefore⟩
  refine ⟨?_, hfirst⟩
  rw [Option.isSome_iff_exists]
  constructor
  · rintro ⟨b, hb⟩
    obtain ⟨alt, halt, -⟩ := (hfirst b).1 hb
    exact ⟨alt, halt.mem, halt.1⟩
  · intro h
    obtain ⟨alt, halt⟩ := IsFirst.exists_of_mem h
    obtain ⟨b, hb⟩ := AltSetting.exists_describes halt.1.usable
    exact ⟨b, (hfirst b).2 ⟨alt, halt, hb⟩⟩

end Layout

end UsbSession
