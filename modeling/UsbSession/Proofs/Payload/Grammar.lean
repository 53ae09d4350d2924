import UsbSession.Proofs.Payload.Slices

/-!
# Ways to write a payload

The texts that stand for a list of bytes (`Written`): each byte as two digits of either case, and
between two bytes any number of separators, or none. In front of a byte there may be a mark if a
chunk starts there, which is so at the start of the text and behind a separator.

A text is gone along with the digits of its first chunk still to be taken as they are, or with the
mark of that chunk still to be dropped (`digitsFrom`).

* `Written.spells`, `Written.parse_eq`: whatever way bytes are written, their digits are those that
  spell them, so they are read again;
* `written_format`: a payload that is written by this library is one of the ways;
* `parse_grammar`: what is read of a payload, altogether.
-/

namespace UsbSession.Payload

open Text

variable {c : Char} {cs ds : List Char} {bytes more : List UInt8} {fresh : Bool}

/-- The texts for bytes, where `fresh` says whether a chunk starts in front. -/
inductive Written : Bool → List UInt8 → List Char → Prop
  | nil {fresh : Bool} : Written fresh [] []
  | separator {fresh : Bool} {c : Char} {bytes : List UInt8} {cs : List Char} :
      isSeparator c = true → Written true bytes cs → Written fresh bytes (c :: cs)
  | byte {fresh : Bool} {a b : Char} {byte : UInt8} {bytes : List UInt8} {cs : List Char} :
      Pairs a b byte → Written false bytes cs → Written fresh (byte :: bytes) (a :: b :: cs)
  | mark {x : Char} {bytes : List UInt8} {cs : List Char} :
      x = 'x' ∨ x = 'X' → Written false bytes cs → Written true bytes ('0' :: x :: cs)

/-! ## The digits of a text -/

/-- The digits of a text, where the mark of the first chunk is dropped if the chunk starts in front.
    -/
def digitsFrom (fresh : Bool) (cs : List Char) : List Char :=
  match fresh, chunks cs with
  | false, first :: rest => first ++ rest.flatMap dropHexMark
  | _, parts => parts.flatMap dropHexMark

theorem digitsFrom_true (cs : List Char) : digitsFrom true cs = digitsOf cs := rfl

theorem digitsOf_append (hc : isSeparator c = true) (cs ds : List Char) :
    digitsOf (cs ++ c :: ds) = digitsOf cs ++ digitsOf ds := by
  rw [digitsOf, chunks, pieces_append hc, List.flatMap_append]
  rfl

theorem digitsFrom_separator (fresh : Bool) (hc : isSeparator c = true) (cs : List Char) :
    digitsFrom fresh (c :: cs) = digitsOf cs := by
  have hchunks : chunks (c :: cs) = [] :: chunks cs := by
    rw [chunks, pieces, if_pos hc]
    rfl
  cases fresh <;> simp only [digitsFrom, hchunks] <;> rfl

/-- The chunk in front goes on with a character that is no separator. -/
theorem exists_chunks_cons (hc : isSeparator c = false) (cs : List Char) : ∃ first rest,
    chunks cs = first :: rest ∧ chunks (c :: cs) = (c :: first) :: rest := by
  obtain ⟨first, rest, h⟩ := List.exists_cons_of_ne_nil (pieces_ne_nil isSeparator cs)
  refine ⟨first, rest, h, ?_⟩
  rw [chunks, pieces, if_neg (by simp [hc]), h]

theorem digitsFrom_false_cons (hc : isSeparator c = false) (cs : List Char) :
    digitsFrom false (c :: cs) = c :: digitsFrom false cs := by
  obtain ⟨first, rest, hcs, hchunks⟩ := exists_chunks_cons hc cs
  simp only [digitsFrom, hcs, hchunks]
  rfl

/-- A mark is dropped where a chunk starts. -/
theorem digitsFrom_mark {x : Char} (hx : x = 'x' ∨ x = 'X') (cs : List Char) :
    digitsFrom true ('0' :: x :: cs) = digitsFrom false cs := by
  have hparts : isSeparator x = false := by rcases hx with rfl | rfl <;> decide
  obtain ⟨_, _, hrest, hfirst⟩ := exists_chunks_cons (c := '0') (by decide) (x :: cs)
  obtain ⟨first, rest, hcs, hchunks⟩ := exists_chunks_cons hparts cs
  cases hrest.symm.trans hchunks
  simp only [digitsFrom, hcs, hfirst]
  rcases hx with rfl | rfl <;> rfl

theorem isSeparator_of_isHexDigit (h : isHexDigit c = true) : isSeparator c = false := by
  have hrange := isHexDigit_iff.1 h
  have hcomma : c ≠ ',' := by
    rintro rfl
    cases h
  have hcolon : c ≠ ':' := by
    rintro rfl
    cases h
  have hblank : isBlank c = false := by
    rw [Bool.eq_false_iff]
    intro hblank
    simp only [isBlank, Bool.or_eq_true, Bool.and_eq_true, decide_eq_true_iff, beq_iff_eq] at hblank
    omega
  simp [isSeparator, hblank, hcomma, hcolon]

/-- Digits are no mark. -/
theorem digitsFrom_pair {a b : Char} (ha : isHexDigit a = true) (hb : isHexDigit b = true)
    (fresh : Bool) (cs : List Char) :
    digitsFrom fresh (a :: b :: cs) = a :: b :: digitsFrom false cs := by
  have ha' := isSeparator_of_isHexDigit ha
  have hb' := isSeparator_of_isHexDigit hb
  cases fresh with
  | false => rw [digitsFrom_false_cons ha', digitsFrom_false_cons hb']
  | true =>
    obtain ⟨_, _, hrest, hfirst⟩ := exists_chunks_cons ha' (b :: cs)
    obtain ⟨first, rest, hcs, hchunks⟩ := exists_chunks_cons hb' cs
    cases hrest.symm.trans hchunks
    have hkeep : dropHexMark (a :: b :: first) = a :: b :: first := by
      rw [dropHexMark]
      · rintro _ ⟨⟩
        cases hb
      · rintro _ ⟨⟩
        cases hb
    simp only [digitsFrom, hcs, hfirst, List.flatMap_cons, hkeep]
    rfl

/-- Whatever way bytes are written, the digits spell them. -/
theorem Written.spells (h : Written fresh bytes cs) : Spells (digitsFrom fresh cs) bytes := by
  induction h with
  | @nil fresh => cases fresh <;> exact .nil
  | separator hc _ ih =>
    rw [digitsFrom_separator _ hc]
    exact ih
  | byte hpair _ ih =>
    rw [digitsFrom_pair hpair.isHexDigit.1 hpair.isHexDigit.2]
    exact .cons hpair ih
  | mark hx _ ih =>
    rw [digitsFrom_mark hx]
    exact ih

theorem Written.parse_eq {text : String} (h : Written true bytes text.toList) :
    parse text = .ok bytes := by
  have hspells := h.spells
  rw [digitsFrom_true] at hspells
  exact parse_of_spells hspells

/-! ## Letter case -/

section Case

variable {d : Char}

theorem toNat_toLower (c : Char) :
    c.toLower.toNat = if 65 ≤ c.toNat ∧ c.toNat ≤ 90 then c.toNat + 32 else c.toNat := by
  unfold Char.toLower
  split
  · rename_i h
    have hupper : 65 ≤ c.toNat ∧ c.toNat ≤ 90 := h
    rw [if_pos hupper]
    change (c.val + 32).toNat = _
    rw [UInt32.toNat_add]
    change (c.toNat + 32) % 4294967296 = _
    omega
  · rename_i h
    exact (if_neg h).symm

theorem hexDigit?_toLower (c : Char) : hexDigit? c.toLower = hexDigit? c := by
  simp only [hexDigit?, toNat_toLower]
  grind

/-- What is no letter is not changed by a change of case. -/
theorem eq_of_toLower_eq (h : d.toLower = c.toLower)
    (hc : c.toNat < 65 ∨ 90 < c.toNat ∧ (c.toNat < 97 ∨ 122 < c.toNat)) : d = c := by
  have hkept : ¬(65 ≤ c.toNat ∧ c.toNat ≤ 90) := by omega
  have hnat := congrArg Char.toNat h
  rw [toNat_toLower, toNat_toLower, if_neg hkept] at hnat
  refine Char.toNat_inj.1 ?_
  split at hnat <;> omega

theorem isSeparator_of_toLower_eq (h : d.toLower = c.toLower) (hc : isSeparator c = true) :
    isSeparator d = true := by
  refine (eq_of_toLower_eq h ?_).symm ▸ hc
  simp only [isSeparator, isBlank, Bool.or_eq_true, Bool.and_eq_true, decide_eq_true_iff,
    beq_iff_eq] at hc
  rcases hc with (hblank | rfl) | rfl
  · omega
  · decide
  · decide

theorem isMark_of_toLower_eq (h : d.toLower = c.toLower) (hc : c = 'x' ∨ c = 'X') :
    d = 'x' ∨ d = 'X' := by
  have hnat : d.toLower.toNat = 120 := by
    rw [h]
    rcases hc with rfl | rfl <;> rfl
  rw [toNat_toLower] at hnat
  split at hnat
  · exact .inr (Char.toNat_inj.1 (by change d.toNat = 88; omega))
  · exact .inl (Char.toNat_inj.1 hnat)

/-- Digits of either case stand for the same bytes. -/
theorem Pairs.recase {a b a' b' : Char} {byte : UInt8} (h : Pairs a b byte)
    (ha : a'.toLower = a.toLower) (hb : b'.toLower = b.toLower) : Pairs a' b' byte := by
  obtain ⟨high, low, hhigh, hlow, hbyte⟩ := h
  refine ⟨high, low, ?_, ?_, hbyte⟩
  · rw [← hexDigit?_toLower, ha, hexDigit?_toLower, hhigh]
  · rw [← hexDigit?_toLower, hb, hexDigit?_toLower, hlow]

/-- Bytes can be written with letters of either case. -/
theorem Written.recase (h : Written fresh bytes cs)
    (hcase : ds.map Char.toLower = cs.map Char.toLower) : Written fresh bytes ds := by
  induction h generalizing ds with
  | nil =>
    cases List.map_eq_nil_iff.1 hcase
    exact .nil
  | separator hc _ ih =>
    obtain ⟨c', ds, rfl, hc', hds⟩ := List.map_eq_cons_iff.1 hcase
    exact .separator (isSeparator_of_toLower_eq hc' hc) (ih hds)
  | byte hpair _ ih =>
    obtain ⟨a, _, rfl, ha, hrest⟩ := List.map_eq_cons_iff.1 hcase
    obtain ⟨b, ds, rfl, hb, hds⟩ := List.map_eq_cons_iff.1 hrest
    exact .byte (hpair.recase ha hb) (ih hds)
  | mark hx _ ih =>
    obtain ⟨zero, _, rfl, hzero, hrest⟩ := List.map_eq_cons_iff.1 hcase
    obtain ⟨x, ds, rfl, hx', hds⟩ := List.map_eq_cons_iff.1 hrest
    cases eq_of_toLower_eq hzero (by decide)
    exact .mark (isMark_of_toLower_eq hx' hx) (ih hds)

end Case

/-! ## Payloads that are written by the library -/

theorem pairs_hexDigit (b : UInt8) :
    Pairs (hexDigit (b.toNat / 16 % 16)) (hexDigit (b.toNat % 16)) b := by
  have hb := b.toNat_lt
  exact ⟨b.toNat / 16 % 16, b.toNat % 16, hexDigit?_hexDigit (by omega),
    hexDigit?_hexDigit (by omega), by omega⟩

/-- The two digits of a byte in front are one of the ways to write it. -/
theorem Written.byteHex {b : UInt8} (h : Written false bytes cs) :
    Written fresh (b :: bytes) (hexDigits 2 b.toNat ++ cs) :=
  .byte (pairs_hexDigit b) h

theorem toList_format (bytes : List UInt8) :
    (format bytes).toList = [' '].intercalate (bytes.map fun b => hexDigits 2 b.toNat) := by
  rw [format, String.toList_intercalate, List.map_map]
  refine congrArg _ (List.map_congr_left fun b _ => ?_)
  exact String.toList_ofList

/-- What the library writes is one of the ways: lowercase digits, and a blank between two bytes. -/
theorem written_format (bytes : List UInt8) : Written true bytes (format bytes).toList := by
  rw [toList_format]
  generalize true = fresh
  induction bytes generalizing fresh with
  | nil => exact .nil
  | cons b bytes ih =>
    cases bytes with
    | nil => exact .byteHex .nil
    | cons b' bytes =>
      rw [List.map_cons, List.map_cons, List.intercalate_cons_cons, List.append_assoc]
      exact .byteHex (.separator (by decide) (ih true))

/-- The digits alone are another one, with nothing between the bytes. -/
theorem written_digits (fresh : Bool) (bytes : List UInt8) :
    Written fresh bytes (digits bytes) := by
  induction bytes generalizing fresh with
  | nil => exact .nil
  | cons b bytes ih => exact .byteHex (ih false)

/-! ## What is read -/

/-- What is read of a text: with `d` for its digits, what `d` spells, unless it spells nothing. -/
structure Reading (text : String) (d : List Char) : Prop where
  /-- The digits stand in the pieces between separators, each of which loses one mark. -/
  digits : d = (text.toList.splitOnP fun c => isBlank c || c == ',' || c == ':').flatMap dropHexMark
  /-- The bytes are those that the digits spell, two digits each. -/
  bytes : ∀ bytes, parse text = .ok bytes ↔ Spells d bytes
  /-- There are some if all characters are digits and these pair up. -/
  accepted : (∃ bytes, parse text = .ok bytes) ↔
    (∀ c ∈ d, isHexDigit c = true) ∧ d.length % 2 = 0
  /-- A character that is no digit is told first. -/
  invalid : parse text = .error (.invalid text) ↔ ¬∀ c ∈ d, isHexDigit c = true
  odd : parse text = .error (.odd text) ↔ (∀ c ∈ d, isHexDigit c = true) ∧ d.length % 2 ≠ 0
  /-- Reading in slices of two bytes goes all the way, and comes to the same. -/
  slices : parseSlices? text = some (parse text)
  /-- Every slice that is then cut out is a number. -/
  numbers : (∀ c ∈ d, isHexDigit c = true) → d.length % 2 = 0 → ∀ n, 2 * n < utf8Length d →
    ∃ byte, byteAt? d (2 * n) = some (.ok byte)

theorem reading (text : String) : Reading text (digitsOf text.toList) where
  digits := by
    rw [digitsOf, chunks, pieces_eq_splitOnP]
    rfl
  bytes _ := parse_eq_ok_iff
  accepted := by
    simp only [parse_eq_ok_iff]
    exact exists_spells_iff
  invalid := parse_eq_invalid_iff
  odd := parse_eq_odd_iff
  slices := parseSlices?_eq text
  numbers hdigits heven n hn := by
    obtain ⟨bytes, h⟩ := exists_spells hdigits heven
    rw [utf8Length_of_isHexDigit hdigits, h.length_eq] at hn
    have hlength : n < bytes.length := by omega
    exact ⟨bytes[n], byteAt?_eq h (List.getElem?_eq_getElem hlength)⟩

/-- What is read of payloads. A text is read by its digits alone; whatever way bytes are written,
    and with letters of whatever case, they are read again; and so are two payloads with a separator
    between them. -/
theorem parse_grammar :
    (∀ text : String, Reading text (digitsOf text.toList)) ∧
    (∀ bytes, Written true bytes (format bytes).toList ∧ parse (format bytes) = .ok bytes ∧
      parse (String.ofList (digits bytes)) = .ok bytes) ∧
    (∀ bytes (text recased : String), Written true bytes text.toList →
      recased.toList.map Char.toLower = text.toList.map Char.toLower →
      parse recased = .ok bytes) ∧
    ∀ (first second : String) c bytes more, isSeparator c = true →
      parse first = .ok bytes → parse second = .ok more →
      parse (first ++ String.singleton c ++ second) = .ok (bytes ++ more) := by
  refine ⟨reading, fun bytes => ⟨written_format bytes, (written_format bytes).parse_eq, ?_⟩,
    fun bytes text recased h hcase => (h.recase hcase).parse_eq, ?_⟩
  · have hdigits : Written true bytes (String.ofList (digits bytes)).toList := by
      rw [String.toList_ofList]
      exact written_digits true bytes
    exact hdigits.parse_eq
  intro first second c bytes more hc hfirst hsecond
  rw [parse_eq_ok_iff] at hfirst hsecond ⊢
  have htext : (first ++ String.singleton c ++ second).toList =
      first.toList ++ c :: second.toList := by
    simp
  rw [htext, digitsOf_append hc]
  exact hfirst.append hsecond

/-- Marks, separators and letters of either case. -/
theorem parse_grammar_mixed : parse "0x3F, 23:0XA0" = .ok [0x3f, 0x23, 0xa0] := by
  have hwritten : Written true [0x3f, 0x23, 0xa0] "0x3f, 23:0xa0".toList :=
    .mark (.inl rfl) <| .byte ⟨3, 15, rfl, rfl, rfl⟩ <| .separator rfl <| .separator rfl <|
      .byte ⟨2, 3, rfl, rfl, rfl⟩ <| .separator rfl <|
      .mark (.inl rfl) <| .byte ⟨10, 0, rfl, rfl, rfl⟩ .nil
  obtain ⟨-, -, hcase, -⟩ := parse_grammar
  exact hcase _ _ _ hwritten (by decide)

end UsbSession.Payload
