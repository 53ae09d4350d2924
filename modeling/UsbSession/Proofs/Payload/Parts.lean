import UsbSession.Proofs.Payload.Grammar

/-!
# Payloads in two parts

Whether the digits of a payload pair up is asked of all of them together. So two parts with a
separator between them can be a payload though neither is one: where both have an odd number of
digits, the last digit of the first part and the first digit of the second make one byte, which
spans the separator (`Spans`).

* `parse_separated`: that is the only other way in which two parts are a payload, and the bytes of
  the parts are kept apart (`KeepsApart`) exactly where it does not come to it.
-/

namespace UsbSession.Payload

open Text

variable {c : Char} {cs ds : List Char} {bytes bytes' : List UInt8} {first second : String}

/-- Two texts with a separator between them. -/
def joined (first : String) (c : Char) (second : String) : String :=
  first ++ String.singleton c ++ second

/-- The guarantee that no byte spans the separator: where the two texts together are a payload, each
    of them is one, and the bytes are theirs, one after the other. -/
def KeepsApart (first : String) (c : Char) (second : String) : Prop :=
  ∀ bytes, parse (joined first c second) = .ok bytes →
    ∃ x y, parse first = .ok x ∧ parse second = .ok y ∧ bytes = x ++ y

/-- One of the bytes that the digits of two parts spell has its upper digit from the first part and
    its lower digit from the second. -/
inductive Spans : List Char → List Char → List UInt8 → Prop
  | intro {front rest : List Char} {high low : Char} {byte : UInt8} {x y : List UInt8} :
      Spells front x → Pairs high low byte → Spells rest y →
        Spans (front ++ [high]) (low :: rest) (x ++ byte :: y)

/-! ## Digits in two parts -/

/-- The same digits spell the same bytes. -/
theorem Spells.unique (h : Spells cs bytes) (h' : Spells cs bytes') : bytes = bytes' :=
  Option.some.inj ((pairs?_eq_some_iff.2 h).symm.trans (pairs?_eq_some_iff.2 h'))

theorem Spans.spells (h : Spans cs ds bytes) : Spells (cs ++ ds) bytes := by
  obtain ⟨hfront, hpair, hrest⟩ := h
  rw [List.append_assoc]
  exact hfront.append (.cons hpair hrest)

theorem Spans.odd (h : Spans cs ds bytes) : cs.length % 2 ≠ 0 ∧ ds.length % 2 ≠ 0 := by
  obtain ⟨hfront, -, hrest⟩ := h
  rw [List.length_append, List.length_singleton, List.length_cons, hfront.length_eq,
    hrest.length_eq]
  omega

/-- Where both parts have a digit too many, these two make a byte. -/
theorem exists_spans (hcs : ∀ x ∈ cs, isHexDigit x = true) (hds : ∀ x ∈ ds, isHexDigit x = true)
    (hodd : cs.length % 2 ≠ 0) (hodd' : ds.length % 2 ≠ 0) : ∃ bytes, Spans cs ds bytes := by
  rcases List.eq_nil_or_concat cs with rfl | ⟨front, high, rfl⟩
  · exact absurd rfl hodd
  cases ds with
  | nil => exact absurd rfl hodd'
  | cons low rest =>
    rw [List.concat_eq_append] at hcs hodd ⊢
    obtain ⟨hfront, hhigh⟩ := List.forall_mem_append.1 hcs
    obtain ⟨hlow, hrest⟩ := List.forall_mem_cons.1 hds
    rw [List.length_append, List.length_singleton] at hodd
    rw [List.length_cons] at hodd'
    obtain ⟨x, hx⟩ := exists_spells hfront (by omega)
    obtain ⟨y, hy⟩ := exists_spells hrest (by omega)
    obtain ⟨_, hhigh⟩ := Option.isSome_iff_exists.1 (hhigh high List.mem_cons_self)
    obtain ⟨_, hlow⟩ := Option.isSome_iff_exists.1 hlow
    exact ⟨_, .intro hx (pairs_ofNat hhigh hlow) hy⟩

/-- Digits in two parts spell bytes part by part, or one of the bytes spans the two. -/
theorem spells_append_iff : Spells (cs ++ ds) bytes ↔
    (∃ x y, Spells cs x ∧ Spells ds y ∧ bytes = x ++ y) ∨ Spans cs ds bytes := by
  constructor
  · intro h
    obtain ⟨hcs, hds⟩ := List.forall_mem_append.1 h.isHexDigit
    have hlength := h.length_eq
    rw [List.length_append] at hlength
    by_cases heven : cs.length % 2 = 0
    · obtain ⟨x, hx⟩ := exists_spells hcs heven
      obtain ⟨y, hy⟩ := exists_spells hds (by omega)
      exact .inl ⟨x, y, hx, hy, h.unique (hx.append hy)⟩
    · obtain ⟨_, hspans⟩ := exists_spans hcs hds heven (by omega)
      exact .inr (h.unique hspans.spells ▸ hspans)
  · rintro (⟨x, y, hx, hy, rfl⟩ | hspans)
    · exact hx.append hy
    · exact hspans.spells

/-! ## Payloads -/

theorem digitsOf_joined (hc : isSeparator c = true) (first second : String) :
    digitsOf (joined first c second).toList = digitsOf first.toList ++ digitsOf second.toList := by
  rw [← digitsOf_append hc]
  simp [joined]

/-- What two parts with a separator between them are read as: the bytes of the one and of the other,
    or bytes one of which spans the separator. The bytes are kept apart exactly if it is not so that
    both parts are refused for an odd number of digits; in that case some byte does span it. -/
theorem parse_separated (hc : isSeparator c = true) (first second : String) :
    (∀ bytes, parse (joined first c second) = .ok bytes ↔
      (∃ x y, parse first = .ok x ∧ parse second = .ok y ∧ bytes = x ++ y) ∨
        Spans (digitsOf first.toList) (digitsOf second.toList) bytes) ∧
    (KeepsApart first c second ↔
      ¬(parse first = .error (.odd first) ∧ parse second = .error (.odd second))) ∧
    (parse first = .error (.odd first) → parse second = .error (.odd second) →
      ∃ bytes, parse (joined first c second) = .ok bytes ∧
        Spans (digitsOf first.toList) (digitsOf second.toList) bytes) := by
  have hread (bytes : List UInt8) : parse (joined first c second) = .ok bytes ↔
      (∃ x y, parse first = .ok x ∧ parse second = .ok y ∧ bytes = x ++ y) ∨
        Spans (digitsOf first.toList) (digitsOf second.toList) bytes := by
    simp only [parse_eq_ok_iff, digitsOf_joined hc, spells_append_iff]
  have hodd (hfirst : parse first = .error (.odd first))
      (hsecond : parse second = .error (.odd second)) :
      ∃ bytes, parse (joined first c second) = .ok bytes ∧
        Spans (digitsOf first.toList) (digitsOf second.toList) bytes := by
    obtain ⟨hdigits, hodd⟩ := parse_eq_odd_iff.1 hfirst
    obtain ⟨hdigits', hodd'⟩ := parse_eq_odd_iff.1 hsecond
    obtain ⟨bytes, hspans⟩ := exists_spans hdigits hdigits' hodd hodd'
    exact ⟨bytes, (hread bytes).2 (.inr hspans), hspans⟩
  refine ⟨hread, ⟨?_, ?_⟩, hodd⟩
  · -- Two parts that are both refused are no payloads, but together they are one.
    rintro hkeeps ⟨hfirst, hsecond⟩
    obtain ⟨bytes, hbytes, -⟩ := hodd hfirst hsecond
    obtain ⟨x, -, hx, -⟩ := hkeeps bytes hbytes
    cases hfirst.symm.trans hx
  · intro hnot bytes hbytes
    refine ((hread bytes).1 hbytes).resolve_right fun hspans => hnot ?_
    obtain ⟨hdigits, hdigits'⟩ := List.forall_mem_append.1 hspans.spells.isHexDigit
    exact ⟨parse_eq_odd_iff.2 ⟨hdigits, hspans.odd.1⟩, parse_eq_odd_iff.2 ⟨hdigits', hspans.odd.2⟩⟩

/-- A byte spans the separator, and those before and behind it do not. -/
theorem parse_separated_spanned :
    isSeparator ':' = true ∧ parse "0x12 3" = .error (.odd "0x12 3") ∧
      parse "4,56" = .error (.odd "4,56") ∧ parse "0x12 3:4,56" = .ok [0x12, 0x34, 0x56] ∧
      ¬KeepsApart "0x12 3" ':' "4,56" := by
  have hc : isSeparator ':' = true := rfl
  have hfirst : parse "0x12 3" = .error (.odd "0x12 3") := rfl
  have hsecond : parse "4,56" = .error (.odd "4,56") := rfl
  obtain ⟨hread, hkeeps, -⟩ := parse_separated hc "0x12 3" "4,56"
  have hspans : Spans (['1', '2'] ++ ['3']) ['4', '5', '6'] ([0x12] ++ 0x34 :: [0x56]) :=
    .intro (.cons ⟨1, 2, rfl, rfl, rfl⟩ .nil) ⟨3, 4, rfl, rfl, rfl⟩
      (.cons ⟨5, 6, rfl, rfl, rfl⟩ .nil)
  exact ⟨hc, hfirst, hsecond, (hread _).2 (.inr hspans), fun h => hkeeps.1 h ⟨hfirst, hsecond⟩⟩

/-- Two numbers, each with its mark, are read as one byte. -/
theorem not_keepsApart_marked :
    isSeparator ',' = true ∧ parse "0x3,0xf" = .ok [0x3f] ∧
      parse "0x3" = .error (.odd "0x3") ∧ ¬KeepsApart "0x3" ',' "0xf" := by
  have hjoined : parse (joined "0x3" ',' "0xf") = .ok [0x3f] := rfl
  have hfirst : parse "0x3" = .error (.odd "0x3") := rfl
  refine ⟨rfl, hjoined, hfirst, fun hkeeps => ?_⟩
  obtain ⟨x, -, hx, -⟩ := hkeeps _ hjoined
  cases hfirst.symm.trans hx

end UsbSession.Payload
