import UsbSession.Proofs.Payload.Spelling

/-!
# Payloads in slices

A payload can also be read by the bytes of its digits in UTF-8: their number has to be even, and two
at a time are cut out of the text and read as a number below 256 (`parseSlices?`). A text can be cut
in front of a character and at its end only, and what is cut out need not be a number, so this could
go wrong in two more ways. Neither of them happens, because the digits have been looked at before,
and each is one byte (`byteAt?_eq`).

* `parseSlices?_eq`: reading in slices goes all the way, and comes to the same.
-/

namespace UsbSession

/-! ## Slices of a text -/

namespace Text

/-- How many bytes a text has in UTF-8. -/
def utf8Length : List Char → Nat
  | [] => 0
  | c :: cs => c.utf8Size + utf8Length cs

/-- The text in front of a byte and the text from there on, unless that is inside a character or
    behind the end. -/
def cut? : Nat → List Char → Option (List Char × List Char)
  | 0, cs => some ([], cs)
  | _ + 1, [] => none
  | n + 1, c :: cs =>
    if c.utf8Size ≤ n + 1 then
      (cut? (n + 1 - c.utf8Size) cs).map fun parts => (c :: parts.1, parts.2)
    else none

/-- The text of so many bytes, from a byte on, if it can be cut out. -/
def slice? (start size : Nat) (cs : List Char) : Option (List Char) := do
  let (_, behind) ← cut? start cs
  let (part, _) ← cut? size behind
  return part

variable {cs : List Char} {n start size : Nat}

/-- A digit is one byte. -/
theorem utf8Size_of_isHexDigit {c : Char} (h : isHexDigit c = true) : c.utf8Size = 1 := by
  rw [Char.utf8Size_eq_one_iff, UInt32.le_iff_toNat_le]
  change c.toNat ≤ 127
  have hrange := isHexDigit_iff.1 h
  omega

theorem utf8Length_of_isHexDigit (h : ∀ c ∈ cs, isHexDigit c = true) :
    utf8Length cs = cs.length := by
  induction cs with
  | nil => rfl
  | cons c cs ih =>
    obtain ⟨hc, hcs⟩ := List.forall_mem_cons.1 h
    rw [utf8Length, utf8Size_of_isHexDigit hc, ih hcs, List.length_cons, Nat.add_comm]

theorem cut?_of_isHexDigit (h : ∀ c ∈ cs, isHexDigit c = true) (hn : n ≤ cs.length) :
    cut? n cs = some (cs.take n, cs.drop n) := by
  induction n generalizing cs with
  | zero =>
    rw [cut?]
    rfl
  | succ n ih =>
    cases cs with
    | nil => cases hn
    | cons c cs =>
      obtain ⟨hc, hcs⟩ := List.forall_mem_cons.1 h
      rw [cut?, utf8Size_of_isHexDigit hc, if_pos (Nat.le_add_left 1 n), Nat.add_sub_cancel,
        ih hcs (Nat.le_of_succ_le_succ hn)]
      rfl

/-- Digits can be cut anywhere. -/
theorem slice?_of_isHexDigit (h : ∀ c ∈ cs, isHexDigit c = true)
    (hsize : start + size ≤ cs.length) :
    slice? start size cs = some ((cs.drop start).take size) := by
  have hbehind : ∀ c ∈ cs.drop start, isHexDigit c = true :=
    fun c hc => h c (List.mem_of_mem_drop hc)
  rw [slice?, cut?_of_isHexDigit h (by omega)]
  simp only [Option.bind_eq_bind, Option.bind_some]
  rw [cut?_of_isHexDigit hbehind (by rw [List.length_drop]; omega)]
  rfl

end Text

namespace Payload

open Text

variable {cs : List Char} {bytes : List UInt8} {start : Nat}

/-- The byte that the two bytes of the text spell as a number, if they can be cut out. -/
def byteAt? (cs : List Char) (start : Nat) : Option (Except NumeralError UInt8) :=
  (slice? start 2 cs).map fun part => (readUnsigned 16 (bitLimit 8) part).map UInt8.ofNat

/-- The bytes that so many slices of two bytes spell, from a byte on. The first that is no number
    ends it. -/
def bytesFrom? (cs : List Char) : Nat → Nat → Option (Except NumeralError (List UInt8))
  | 0, _ => some (.ok [])
  | n + 1, start => do
    match ← byteAt? cs start with
    | .error e => return .error e
    | .ok byte => return (← bytesFrom? cs n (start + 2)).map (byte :: ·)

/-- Reads a payload by the bytes of its digits, as far as these can be cut out. -/
def parseSlices? (input : String) : Option (Except Refusal (List UInt8)) :=
  let digits := digitsOf input.toList
  if !digits.all isHexDigit then some (.error (.invalid input))
  else if utf8Length digits % 2 ≠ 0 then some (.error (.odd input))
  else (bytesFrom? digits ((utf8Length digits + 1) / 2) 0).map (·.mapError fun _ => .invalid input)

/-- Two digits are read as the number that they spell. -/
theorem readUnsigned_of_pairs {a b : Char} {byte : UInt8} (h : Pairs a b byte) :
    readUnsigned 16 (bitLimit 8) [a, b] = .ok byte.toNat := by
  obtain ⟨high, low, ha, hb, hbyte⟩ := h
  have hhigh := hexDigit?_lt ha
  have hlow := hexDigit?_lt hb
  have hlimit : bitLimit 8 = 256 := rfl
  have hread : readDigits 16 (bitLimit 8) 0 [a, b] = .ok byte.toNat := by
    simp only [readDigits, digit?, ha, hb, Option.filter_some, hhigh, hlow, decide_true, if_true,
      Nat.zero_mul, Nat.zero_add]
    rw [if_pos (by omega), if_pos (by omega), hbyte]
  -- The first character is a digit, so there is no sign.
  have hplus : a ≠ '+' := by
    rintro rfl
    cases ha
  rw [readUnsigned]
  · exact hread
  · simp
  · simp
  · simp [hplus]

/-- Where digits spell a byte, it can be cut out and read. -/
theorem byteAt?_eq {n : Nat} {byte : UInt8} (h : Spells cs bytes) (hbyte : bytes[n]? = some byte) :
    byteAt? cs (2 * n) = some (.ok byte) := by
  have hsize : 2 * n + 2 ≤ cs.length := by
    have hn := (List.getElem?_eq_some_iff.1 hbyte).1
    rw [h.length_eq]
    omega
  obtain ⟨a, b, hpair, hpart⟩ := h.exists_pairs hbyte
  rw [byteAt?, slice?_of_isHexDigit h.isHexDigit hsize, hpart, Option.map_some,
    readUnsigned_of_pairs hpair]
  rw [Except.map, UInt8.ofNat_toNat]

/-- Digits are read in slices as the bytes that they spell. -/
theorem bytesFrom?_eq (h : Spells cs bytes) {n k : Nat} (hcount : n + k = bytes.length) :
    bytesFrom? cs n (2 * k) = some (.ok (bytes.drop k)) := by
  induction n generalizing k with
  | zero =>
    rw [List.drop_eq_nil_of_le (by omega)]
    rfl
  | succ n ih =>
    have hk : k < bytes.length := by omega
    rw [bytesFrom?, byteAt?_eq h (List.getElem?_eq_getElem hk), List.drop_eq_getElem_cons hk]
    change (bytesFrom? cs n (2 * (k + 1)) >>= _) = _
    rw [ih (by omega)]
    rfl

/-- Reading in slices comes to what reading comes to: all slices can be cut out and are numbers. -/
theorem parseSlices?_eq (input : String) : parseSlices? input = some (parse input) := by
  rcases parse_cases input with ⟨hnot, hparse⟩ | ⟨hdigits, hodd, hparse⟩ | ⟨bytes, h, hparse⟩
  · rw [← List.all_eq_true] at hnot
    rw [hparse, parseSlices?, if_pos (by simpa using hnot)]
  · have hall := List.all_eq_true.2 hdigits
    rw [← utf8Length_of_isHexDigit hdigits] at hodd
    rw [hparse, parseSlices?, hall]
    exact if_pos hodd
  · have hall := List.all_eq_true.2 h.isHexDigit
    have hlength : utf8Length (digitsOf input.toList) = 2 * bytes.length :=
      (utf8Length_of_isHexDigit h.isHexDigit).trans h.length_eq
    have hbytes : bytesFrom? (digitsOf input.toList) bytes.length 0 = some (.ok bytes) :=
      bytesFrom?_eq h (k := 0) rfl
    have hcount : (2 * bytes.length + 1) / 2 = bytes.length := by omega
    rw [hparse, parseSlices?, hall, hlength]
    rw [if_neg (by decide), if_neg (by omega), hcount, hbytes]
    rfl

end Payload

end UsbSession
