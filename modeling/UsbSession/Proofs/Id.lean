import UsbSession.Id
import UsbSession.Proofs.Numerals
import UsbSession.Proofs.Payload.Grammar

/-!
# Ids that are read

What a text has to be for an id: hexadecimal digits of a number of 16 bits, with any zeros in front,
behind an optional sign, behind an optional mark, with blanks around all of it. Everything else is
refused, and how it is refused is a matter of the leftmost position that is wrong (`Id.Reading`).

* `Id.parse_numeral`: what becomes of a text, altogether, and that an id that was written is read
  again, whatever blanks, mark and zeros are put around it, and in letters of either case.
-/

namespace UsbSession.Id

open Text

variable {text : String} {id : Id} {cs ds : List Char} {c : Char} {e : NumeralError} {n : Nat}

/-- The text without the blanks around it and without one mark in front. -/
def bare (text : String) : List Char := dropHexMark (trim text.toList)

/-- What is read of a text as an id, where `h` is left of it without blanks and mark, and `d` is
    left of that without a sign. -/
structure Reading (text : String) (h d : List Char) : Prop where
  trimmed : ∃ t, Trimmed text.toList t ∧ h = dropHexMark t
  unsigned : d = dropPlus h
  /-- The id is the number that the digits stand for. -/
  accepted : ∀ id, parse text = .ok id ↔
    d ≠ [] ∧ (∀ c ∈ d, isHexDigit c = true) ∧ numeral 16 d = id.value.toNat
  /-- There is an id for each number of 16 bits. -/
  readable : (∃ id, parse text = .ok id) ↔
    d ≠ [] ∧ (∀ c ∈ d, isHexDigit c = true) ∧ numeral 16 d ≤ 65535
  empty : parse text = .error .empty ↔ h = []
  /-- A character that is no digit is told if the number is not too large in front of it. -/
  invalidDigit : parse text = .error .invalidDigit ↔ ∃ front c back, d = front ++ c :: back ∧
    (∀ x ∈ front, isHexDigit x = true) ∧ numeral 16 front ≤ 65535 ∧ isHexDigit c = false
  /-- A digit that makes the number too large is told, whatever comes behind it. -/
  tooLarge : parse text = .error .tooLarge ↔ ∃ front c back, d = front ++ c :: back ∧
    (∀ x ∈ front ++ [c], isHexDigit x = true) ∧ numeral 16 front ≤ 65535 ∧
      65535 < numeral 16 (front ++ [c])
  tooSmall : parse text ≠ .error .tooSmall

/-! ## Digits -/

theorem digit?_sixteen (c : Char) : digit? 16 c = hexDigit? c := by
  rw [digit?]
  cases h : hexDigit? c with
  | none => rfl
  | some d => rw [Option.filter_some, if_pos (decide_eq_true (hexDigit?_lt h))]

theorem isSome_digit?_sixteen (c : Char) : (digit? 16 c).isSome = isHexDigit c := by
  rw [digit?_sixteen, isHexDigit]

theorem bitLimit_sixteen : bitLimit 16 = 65536 := rfl

theorem dropPlus_eq_nil_iff : dropPlus cs = [] ↔ cs = [] := by
  unfold dropPlus
  split <;> simp

/-! ## Reading -/

theorem parse_of_bare_ne_nil (h : bare text ≠ []) : parse text =
    (readDigits 16 (bitLimit 16) 0 (dropPlus (bare text))).map fun n => ⟨UInt16.ofNat n⟩ := by
  rw [parse, ← readUnsigned_eq h]
  rfl

theorem parse_eq_ok_iff : parse text = .ok id ↔ dropPlus (bare text) ≠ [] ∧
    (∀ c ∈ dropPlus (bare text), isHexDigit c = true) ∧
      numeral 16 (dropPlus (bare text)) = id.value.toNat := by
  have hid : id.value.toNat < bitLimit 16 := id.value.toNat_lt
  rw [ne_eq, dropPlus_eq_nil_iff]
  by_cases hbare : bare text = []
  · rw [parse_empty hbare]
    simp [hbare]
  · simp only [hbare, not_false_eq_true, true_and, ← isSome_digit?_sixteen]
    rw [parse_of_bare_ne_nil hbare]
    constructor
    · intro h
      cases hn : readDigits 16 (bitLimit 16) 0 (dropPlus (bare text)) with
      | error e =>
        rw [hn] at h
        cases h
      | ok n =>
        rw [hn] at h
        cases h
        obtain ⟨hdigits, rfl, hlt⟩ := (readDigits_eq_ok_iff (by decide)).1 hn
        exact ⟨hdigits, (UInt16.toNat_ofNat_of_lt' hlt).symm⟩
    · rintro ⟨hdigits, hvalue⟩
      rw [(readDigits_eq_ok_iff (by decide)).2 ⟨hdigits, hvalue, hid⟩, Except.map,
        UInt16.ofNat_toNat]

theorem parse_eq_error_iff (h : bare text ≠ []) : parse text = .error e ↔
    readDigits 16 (bitLimit 16) 0 (dropPlus (bare text)) = .error e := by
  rw [parse_of_bare_ne_nil h]
  cases readDigits 16 (bitLimit 16) 0 (dropPlus (bare text)) <;> simp [Except.map]

theorem parse_eq_empty_iff : parse text = .error .empty ↔ bare text = [] := by
  refine ⟨fun h => ?_, parse_empty⟩
  by_contra hbare
  rcases eq_of_readDigits_eq_error ((parse_eq_error_iff hbare).1 h) with heq | heq <;> cases heq

/-- What is wrong with a text that is not empty is wrong with its digits. -/
theorem parse_eq_error_iff_of_ne (he : e ≠ .empty) : parse text = .error e ↔
    readDigits 16 (bitLimit 16) 0 (dropPlus (bare text)) = .error e := by
  by_cases hbare : bare text = []
  · rw [parse_empty hbare, hbare]
    simp [dropPlus, readDigits, Ne.symm he]
  · exact parse_eq_error_iff hbare

theorem reading (text : String) : Reading text (bare text) (dropPlus (bare text)) where
  trimmed := ⟨_, trimmed_trim _, rfl⟩
  unsigned := rfl
  accepted _ := parse_eq_ok_iff
  readable := by
    simp only [parse_eq_ok_iff]
    constructor
    · rintro ⟨id, hne, hdigits, hvalue⟩
      have hid := id.value.toNat_lt
      exact ⟨hne, hdigits, by omega⟩
    · rintro ⟨hne, hdigits, hle⟩
      refine ⟨⟨UInt16.ofNat (numeral 16 (dropPlus (bare text)))⟩, hne, hdigits, ?_⟩
      exact (UInt16.toNat_ofNat_of_lt' (Nat.lt_succ_of_le hle)).symm
  empty := parse_eq_empty_iff
  invalidDigit := by
    rw [parse_eq_error_iff_of_ne (by decide), readDigits_eq_invalid_iff (by decide)]
    simp only [isSome_digit?_sixteen, bitLimit_sixteen, Nat.lt_succ_iff]
  tooLarge := by
    rw [parse_eq_error_iff_of_ne (by decide), readDigits_eq_tooLarge_iff (by decide)]
    simp only [isSome_digit?_sixteen, bitLimit_sixteen, Nat.lt_succ_iff, Nat.succ_le_iff]
  tooSmall h := by
    rcases eq_of_readDigits_eq_error ((parse_eq_error_iff_of_ne (by decide)).1 h) with heq | heq <;>
      cases heq

/-! ## Ids that were written -/

theorem numeral_hexDigits {width n : Nat} (h : n < Nat.pow 16 width) :
    numeral 16 (hexDigits width n) = n := by
  induction width generalizing n with
  | zero =>
    have hzero : n = 0 := Nat.lt_one_iff.1 h
    rw [hzero]
    rfl
  | succ width ih =>
    have hupper : n / 16 < Nat.pow 16 width := Nat.div_lt_of_lt_mul (by rwa [Nat.mul_comm])
    have hlast : digit? 16 (hexDigit (n % 16)) = some (n % 16) := by
      rw [digit?_sixteen, hexDigit?_hexDigit (Nat.mod_lt n (by decide))]
    rw [hexDigits, numeral_append_singleton, ih hupper, hlast, Option.getD_some]
    omega

theorem isHexDigit_of_mem_hexDigits {width n : Nat} (h : c ∈ hexDigits width n) :
    isHexDigit c = true := by
  induction width generalizing n with
  | zero => cases h
  | succ width ih =>
    rcases List.mem_append.1 h with hmem | hmem
    · exact ih hmem
    · rw [List.mem_singleton.1 hmem, isHexDigit, hexDigit?_hexDigit (Nat.mod_lt n (by decide))]
      rfl

/-- Letters of either case are the same digits. -/
theorem map_hexDigit?_of_recased (h : ds.map Char.toLower = cs.map Char.toLower) :
    ds.map hexDigit? = cs.map hexDigit? := by
  have hlower (cs : List Char) : cs.map hexDigit? = (cs.map Char.toLower).map hexDigit? := by
    rw [List.map_map]
    exact List.map_congr_left fun c _ => (Payload.hexDigit?_toLower c).symm
  rw [hlower, h, ← hlower]

theorem numeral_congr (h : ds.map hexDigit? = cs.map hexDigit?) :
    numeral 16 ds = numeral 16 cs := by
  have hvalues (cs : List Char) : (cs.map fun c => (digit? 16 c).getD 0) =
      (cs.map hexDigit?).map fun d => d.getD 0 := by
    rw [List.map_map]
    exact List.map_congr_left fun c _ => by rw [digit?_sixteen]; rfl
  rw [numeral, numeral, hvalues, h, ← hvalues]

theorem isHexDigit_congr (h : ds.map hexDigit? = cs.map hexDigit?)
    (hcs : ∀ c ∈ cs, isHexDigit c = true) : ∀ c ∈ ds, isHexDigit c = true := by
  intro c hc
  have hmem : hexDigit? c ∈ cs.map hexDigit? := h ▸ List.mem_map_of_mem hc
  obtain ⟨c', hc', heq⟩ := List.mem_map.1 hmem
  rw [isHexDigit, ← heq]
  exact hcs c' hc'

theorem numeral_zeros (zeros : Nat) (cs : List Char) :
    numeral 16 (List.replicate zeros '0' ++ cs) = numeral 16 cs := by
  rw [numeral, List.map_append, List.map_replicate, List.reverse_append, List.reverse_replicate]
  exact Nat.ofDigits_append_replicate_zero _

theorem isBlank_of_isHexDigit (h : isHexDigit c = true) : isBlank c = false := by
  have hseparator := Payload.isSeparator_of_isHexDigit h
  rw [Payload.isSeparator, Bool.or_eq_false_iff, Bool.or_eq_false_iff] at hseparator
  exact hseparator.1.1

section Digits

variable (h : ∀ c ∈ cs, isHexDigit c = true)

include h

/-- Digits are no mark. -/
theorem dropHexMark_of_digits : dropHexMark cs = cs := by
  unfold dropHexMark
  split
  · exact absurd (h 'x' (by simp)) (by decide)
  · exact absurd (h 'X' (by simp)) (by decide)
  · rfl

theorem dropPlus_of_digits : dropPlus cs = cs := by
  unfold dropPlus
  split
  · exact absurd (h '+' List.mem_cons_self) (by decide)
  · rfl

/-- Digits are found behind blanks and a mark. -/
theorem bare_of_digits {front mark back : List Char} (hfront : ∀ c ∈ front, isBlank c = true)
    (hback : ∀ c ∈ back, isBlank c = true) (hmark : mark ∈ [[], ['0', 'x'], ['0', 'X']]) :
    bare (String.ofList (front ++ mark ++ cs ++ back)) = cs := by
  have hmarks : ∀ m ∈ [[], ['0', 'x'], ['0', 'X']], m.all (!isBlank ·) = true :=
    List.all_eq_true.1 rfl
  have hinner : ∀ c ∈ mark ++ cs, isBlank c = false := by
    rw [List.forall_mem_append]
    refine ⟨fun c hc => ?_, fun c hc => isBlank_of_isHexDigit (h c hc)⟩
    simpa using List.all_eq_true.1 (hmarks mark hmark) c hc
  have htrimmed : Trimmed (front ++ mark ++ cs ++ back) (mark ++ cs) :=
    ⟨⟨front, back, by rw [List.append_assoc front], hfront, hback⟩,
      fun c hc => hinner c (List.mem_of_mem_head? hc),
      fun c hc => hinner c (List.mem_of_mem_getLast? hc)⟩
  rw [bare, String.toList_ofList, htrimmed.trim_eq]
  simp only [List.mem_cons, List.not_mem_nil, or_false] at hmark
  rcases hmark with rfl | rfl | rfl
  · exact dropHexMark_of_digits h
  · rfl
  · rfl

end Digits

/-- What is read of texts as ids. An id that was written is read again, in letters of either case,
    with zeros and then a mark in front, and with blanks around. -/
theorem parse_numeral :
    (∀ text : String, Reading text (bare text) (dropPlus (bare text))) ∧
    ∀ (id : Id) (front mark ds back : List Char) (zeros : Nat), (∀ c ∈ front, isBlank c = true) →
      (∀ c ∈ back, isBlank c = true) → mark ∈ [[], ['0', 'x'], ['0', 'X']] →
      ds.map Char.toLower = id.toText.toList.map Char.toLower →
      parse (String.ofList (front ++ mark ++ (List.replicate zeros '0' ++ ds) ++ back)) =
        .ok id := by
  refine ⟨reading, fun id front mark ds back zeros hfront hback hmark hcase => ?_⟩
  have hwritten : id.toText.toList = hexDigits 4 id.value.toNat := String.toList_ofList
  rw [hwritten] at hcase
  have hsame := map_hexDigit?_of_recased hcase
  have hds : ∀ c ∈ ds, isHexDigit c = true :=
    isHexDigit_congr hsame fun c hc => isHexDigit_of_mem_hexDigits hc
  have hdigits : ∀ c ∈ List.replicate zeros '0' ++ ds, isHexDigit c = true :=
    List.forall_mem_append.2 ⟨fun c hc => List.eq_of_mem_replicate hc ▸ rfl, hds⟩
  have hlength : ds.length = 4 := by
    rw [← List.length_map Char.toLower, hcase, List.length_map, length_hexDigits]
  have hne : List.replicate zeros '0' ++ ds ≠ [] := by
    intro hnil
    rw [(List.append_eq_nil_iff.1 hnil).2] at hlength
    cases hlength
  rw [parse_eq_ok_iff, bare_of_digits hdigits hfront hback hmark, dropPlus_of_digits hdigits]
  refine ⟨hne, hdigits, ?_⟩
  rw [numeral_zeros, numeral_congr hsame]
  exact numeral_hexDigits id.value.toNat_lt

/-- Blanks of several kinds, zeros behind the mark and letters of either case. -/
theorem parse_numeral_padded : parse "\t 0X000a27E\u2003" = .ok ⟨0xa27e⟩ :=
  parse_numeral.2 ⟨0xa27e⟩ ['\t', ' '] ['0', 'X'] ['a', '2', '7', 'E'] ['\u2003'] 3
    (List.all_eq_true.1 rfl) (List.all_eq_true.1 rfl) (by decide) rfl

end UsbSession.Id
