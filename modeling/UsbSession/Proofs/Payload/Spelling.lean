import UsbSession.Payload

/-!
# Digits that spell bytes

What the digits of a payload have to be: hexadecimal digits, of either case, and an even number of
them. They then spell bytes, one for each two of them (`Spells`), and reading the payload gives just
these.

* `exists_spells_iff`: which digits spell bytes;
* `parse_eq_ok_iff`: a payload is read as the bytes that its digits spell;
* `parse_eq_invalid_iff`, `parse_eq_odd_iff`: how it is refused otherwise.
-/

namespace UsbSession

/-- Cutting a text at its parting characters is what the library calls splitting on them. -/
theorem Text.pieces_eq_splitOnP (parts : Char → Bool) (cs : List Char) :
    pieces parts cs = cs.splitOnP parts := by
  induction cs with
  | nil => rfl
  | cons c cs ih =>
    obtain ⟨first, rest, h⟩ := List.exists_cons_of_ne_nil (List.splitOnP_ne_nil parts cs)
    rw [pieces, List.splitOnP_cons_eq_if_modifyHead, ih, h]
    rfl

theorem Text.isHexDigit_iff {c : Char} : isHexDigit c = true ↔
    48 ≤ c.toNat ∧ c.toNat ≤ 57 ∨ 97 ≤ c.toNat ∧ c.toNat ≤ 102 ∨ 65 ≤ c.toNat ∧ c.toNat ≤ 70 := by
  simp only [isHexDigit, hexDigit?]
  grind

namespace Payload

open Text

variable {a b : Char} {byte : UInt8} {cs ds : List Char} {bytes more : List UInt8} {text : String}

/-! ## Spelling -/

/-- The two digits stand for the byte: the first for its upper half and the second for its lower. -/
def Pairs (a b : Char) (byte : UInt8) : Prop :=
  ∃ high low, hexDigit? a = some high ∧ hexDigit? b = some low ∧ byte.toNat = high * 16 + low

/-- The digits spell the bytes, two digits each. -/
inductive Spells : List Char → List UInt8 → Prop
  | nil : Spells [] []
  | cons {a b : Char} {byte : UInt8} {cs : List Char} {bytes : List UInt8} :
      Pairs a b byte → Spells cs bytes → Spells (a :: b :: cs) (byte :: bytes)

theorem Pairs.isHexDigit (h : Pairs a b byte) : isHexDigit a = true ∧ isHexDigit b = true := by
  obtain ⟨high, low, ha, hb, -⟩ := h
  rw [Text.isHexDigit, Text.isHexDigit, ha, hb]
  exact ⟨rfl, rfl⟩

theorem Pairs.ofNat_eq {high low : Nat} (h : Pairs a b byte) (ha : hexDigit? a = some high)
    (hb : hexDigit? b = some low) : UInt8.ofNat (high * 16 + low) = byte := by
  obtain ⟨high', low', ha', hb', hbyte⟩ := h
  cases ha.symm.trans ha'
  cases hb.symm.trans hb'
  rw [← hbyte, UInt8.ofNat_toNat]

theorem pairs_ofNat {high low : Nat} (ha : hexDigit? a = some high) (hb : hexDigit? b = some low) :
    Pairs a b (UInt8.ofNat (high * 16 + low)) := by
  have hhigh := hexDigit?_lt ha
  have hlow := hexDigit?_lt hb
  exact ⟨high, low, ha, hb, UInt8.toNat_ofNat_of_lt' (by change _ < 256; omega)⟩

theorem pairs?_eq_some_iff : pairs? cs = some bytes ↔ Spells cs bytes := by
  constructor
  · intro h
    fun_induction pairs? cs generalizing bytes with
    | case1 =>
      cases h
      exact .nil
    | case2 => cases h
    | case3 a b cs ih =>
      simp only [Option.bind_eq_bind, Option.bind_eq_some_iff] at h
      obtain ⟨high, ha, low, hb, rest, hrest, hbytes⟩ := h
      cases hbytes
      exact .cons (pairs_ofNat ha hb) (ih hrest)
  · intro h
    induction h with
    | nil => rfl
    | cons hpair _ ih =>
      obtain ⟨high, low, ha, hb, -⟩ := id hpair
      simp only [pairs?, ha, hb, ih, Option.bind_eq_bind, Option.bind_some, hpair.ofNat_eq ha hb]
      rfl

namespace Spells

theorem append (h : Spells cs bytes) (h' : Spells ds more) : Spells (cs ++ ds) (bytes ++ more) := by
  induction h with
  | nil => exact h'
  | cons hpair _ ih => exact .cons hpair ih

theorem isHexDigit (h : Spells cs bytes) : ∀ c ∈ cs, isHexDigit c = true := by
  induction h with
  | nil => exact nofun
  | cons hpair _ ih =>
    exact List.forall_mem_cons.2 ⟨hpair.isHexDigit.1,
      List.forall_mem_cons.2 ⟨hpair.isHexDigit.2, ih⟩⟩

theorem length_eq (h : Spells cs bytes) : cs.length = 2 * bytes.length := by
  induction h with
  | nil => rfl
  | cons _ _ ih =>
    simp only [List.length_cons, ih]
    omega

/-- Each byte is spelled by the two digits in its place. -/
theorem exists_pairs (h : Spells cs bytes) {n : Nat} (hbyte : bytes[n]? = some byte) :
    ∃ a b, Pairs a b byte ∧ (cs.drop (2 * n)).take 2 = [a, b] := by
  induction h generalizing n with
  | nil => cases hbyte
  | @cons a b _ _ _ hpair _ ih =>
    cases n with
    | zero =>
      cases hbyte
      exact ⟨a, b, hpair, rfl⟩
    | succ n => exact ih hbyte

end Spells

/-- Any digits that pair up spell something. -/
theorem exists_spells (hdigits : ∀ c ∈ cs, isHexDigit c = true) (heven : cs.length % 2 = 0) :
    ∃ bytes, Spells cs bytes := by
  fun_induction pairs? cs with
  | case1 => exact ⟨[], .nil⟩
  | case2 => cases heven
  | case3 a b cs ih =>
    obtain ⟨ha, hrest⟩ := List.forall_mem_cons.1 hdigits
    obtain ⟨hb, hrest⟩ := List.forall_mem_cons.1 hrest
    obtain ⟨high, ha⟩ := Option.isSome_iff_exists.1 ha
    obtain ⟨low, hb⟩ := Option.isSome_iff_exists.1 hb
    rw [List.length_cons, List.length_cons] at heven
    obtain ⟨bytes, hbytes⟩ := ih hrest (by omega)
    exact ⟨_, .cons (pairs_ofNat ha hb) hbytes⟩

theorem exists_spells_iff : (∃ bytes, Spells cs bytes) ↔
    (∀ c ∈ cs, isHexDigit c = true) ∧ cs.length % 2 = 0 := by
  constructor
  · rintro ⟨bytes, h⟩
    exact ⟨h.isHexDigit, by rw [h.length_eq]; omega⟩
  · rintro ⟨hdigits, heven⟩
    exact exists_spells hdigits heven

/-! ## Reading -/

/-- A payload with a character that is no digit is refused, whatever else is wrong with it. -/
theorem parse_of_not_digits (h : ¬∀ c ∈ digitsOf text.toList, isHexDigit c = true) :
    parse text = .error (.invalid text) := by
  rw [← List.all_eq_true] at h
  rw [parse, if_pos (by simpa using h)]

theorem parse_of_digits (h : ∀ c ∈ digitsOf text.toList, isHexDigit c = true) :
    parse text = match pairs? (digitsOf text.toList) with
      | some bytes => .ok bytes
      | none => .error (.odd text) := by
  rw [← List.all_eq_true] at h
  rw [parse, h]
  rfl

/-- A payload of digits that do not pair up is refused for that. -/
theorem parse_of_odd (h : ∀ c ∈ digitsOf text.toList, isHexDigit c = true)
    (hodd : (digitsOf text.toList).length % 2 ≠ 0) : parse text = .error (.odd text) := by
  have hnone : pairs? (digitsOf text.toList) = none := by
    refine Option.eq_none_iff_forall_ne_some.2 fun bytes hbytes => hodd ?_
    exact (exists_spells_iff.1 ⟨bytes, pairs?_eq_some_iff.1 hbytes⟩).2
  rw [parse_of_digits h, hnone]

theorem parse_of_spells (h : Spells (digitsOf text.toList) bytes) : parse text = .ok bytes := by
  rw [parse_of_digits h.isHexDigit, pairs?_eq_some_iff.2 h]

/-- What becomes of a payload, by its digits. -/
theorem parse_cases (text : String) :
    (¬(∀ c ∈ digitsOf text.toList, isHexDigit c = true) ∧ parse text = .error (.invalid text)) ∨
    ((∀ c ∈ digitsOf text.toList, isHexDigit c = true) ∧ (digitsOf text.toList).length % 2 ≠ 0 ∧
      parse text = .error (.odd text)) ∨
    ∃ bytes, Spells (digitsOf text.toList) bytes ∧ parse text = .ok bytes := by
  by_cases hdigits : ∀ c ∈ digitsOf text.toList, isHexDigit c = true
  · by_cases heven : (digitsOf text.toList).length % 2 = 0
    · obtain ⟨bytes, h⟩ := exists_spells hdigits heven
      exact .inr (.inr ⟨bytes, h, parse_of_spells h⟩)
    · exact .inr (.inl ⟨hdigits, heven, parse_of_odd hdigits heven⟩)
  · exact .inl ⟨hdigits, parse_of_not_digits hdigits⟩

theorem parse_eq_ok_iff : parse text = .ok bytes ↔ Spells (digitsOf text.toList) bytes := by
  refine ⟨fun h => ?_, parse_of_spells⟩
  rcases parse_cases text with ⟨-, hparse⟩ | ⟨-, -, hparse⟩ | ⟨bytes', hspells, hparse⟩
  · cases h.symm.trans hparse
  · cases h.symm.trans hparse
  · cases h.symm.trans hparse
    exact hspells

theorem parse_eq_invalid_iff : parse text = .error (.invalid text) ↔
    ¬∀ c ∈ digitsOf text.toList, isHexDigit c = true := by
  refine ⟨fun h hdigits => ?_, parse_of_not_digits⟩
  rcases parse_cases text with ⟨hnot, -⟩ | ⟨-, -, hparse⟩ | ⟨bytes, -, hparse⟩
  · exact hnot hdigits
  · cases h.symm.trans hparse
  · cases h.symm.trans hparse

theorem parse_eq_odd_iff : parse text = .error (.odd text) ↔
    (∀ c ∈ digitsOf text.toList, isHexDigit c = true) ∧ (digitsOf text.toList).length % 2 ≠ 0 := by
  refine ⟨fun h => ?_, fun h => parse_of_odd h.1 h.2⟩
  rcases parse_cases text with ⟨-, hparse⟩ | ⟨hdigits, hodd, -⟩ | ⟨bytes, -, hparse⟩
  · cases h.symm.trans hparse
  · exact ⟨hdigits, hodd⟩
  · cases h.symm.trans hparse

end Payload

end UsbSession
