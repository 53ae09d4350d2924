/-!
# Numerals

Reading a number in some base below a limit, and writing bytes and words in hexadecimal.

A numeral is read from the left, and the first position where reading cannot go on decides how it
fails: at a character that is no digit, or at the digit that takes the value to the limit
(`readDigits_append_singleton` says what one more digit does).
-/

namespace UsbSession.Text

/-- Why a text is not a numeral. -/
inductive NumeralError
  /-- There is no text. -/
  | empty
  /-- A character is not a digit of the base, or a sign stands alone. -/
  | invalidDigit
  /-- The value is above the range. -/
  | tooLarge
  /-- The value is below the range. -/
  | tooSmall
  deriving DecidableEq, Repr

namespace NumeralError

/-- The text of the error. -/
def message : NumeralError → String
  | empty => "cannot parse integer from empty string"
  | invalidDigit => "invalid digit found in string"
  | tooLarge => "number too large to fit in target type"
  | tooSmall => "number too small to fit in target type"

end NumeralError

/-! ## Digits -/

/-- The value of a hexadecimal digit of either case. -/
def hexDigit? (c : Char) : Option Nat :=
  let n := c.toNat
  if 48 ≤ n ∧ n ≤ 57 then some (n - 48)
  else if 97 ≤ n ∧ n ≤ 102 then some (n - 87)
  else if 65 ≤ n ∧ n ≤ 70 then some (n - 55)
  else none

/-- The value of a digit of the base, where that is at most sixteen. -/
def digit? (base : Nat) (c : Char) : Option Nat :=
  (hexDigit? c).filter (· < base)

/-- Whether `c` is an ASCII hexadecimal digit. -/
def isHexDigit (c : Char) : Bool := (hexDigit? c).isSome

theorem hexDigit?_lt {c : Char} {d : Nat} (h : hexDigit? c = some d) : d < 16 := by
  simp only [hexDigit?] at h
  grind

/-! ## Reading -/

/-- How many unsigned numbers of so many bits there are. -/
def bitLimit (bits : Nat) : Nat := Nat.pow 2 bits

/-- Reads digits on top of the value `acc`, which has to stay below `limit`. -/
def readDigits (base limit : Nat) : Nat → List Char → Except NumeralError Nat
  | acc, [] => .ok acc
  | acc, c :: cs =>
    match digit? base c with
    | none => .error .invalidDigit
    | some d =>
      if acc * base + d < limit then readDigits base limit (acc * base + d) cs
      else .error .tooLarge

theorem readDigits_append_singleton {base limit acc v : Nat} {cs : List Char} (c : Char)
    (h : readDigits base limit acc cs = .ok v) :
    readDigits base limit acc (cs ++ [c]) = readDigits base limit v [c] := by
  induction cs generalizing acc with
  | nil => simp only [readDigits, Except.ok.injEq] at h; simp [h]
  | cons d ds ih =>
    simp only [readDigits, List.cons_append] at h ⊢
    cases hd : digit? base d with
    | none => simp [hd] at h
    | some k =>
      simp only [hd] at h ⊢
      split at h
      · rw [if_pos ‹_›, ih h]; simp [readDigits]
      · simp at h

/-- Reads an unsigned number below `limit`: digits, with a plus sign in front or without one. -/
def readUnsigned (base limit : Nat) : List Char → Except NumeralError Nat
  | [] => .error .empty
  | ['+'] => .error .invalidDigit
  | '+' :: cs => readDigits base limit 0 cs
  | cs => readDigits base limit 0 cs

/-- Reads a signed decimal number of `bits` bits in two's complement. -/
def readSigned (bits : Nat) : List Char → Except NumeralError Int
  | ['-'] => .error .invalidDigit
  | '-' :: cs =>
    match readDigits 10 (bitLimit (bits - 1) + 1) 0 cs with
    | .ok n => .ok (-(n : Int))
    | .error .tooLarge => .error .tooSmall
    | .error e => .error e
  | cs => (readUnsigned 10 (bitLimit (bits - 1)) cs).map Int.ofNat

/-! ## Writing -/

/-- The lowercase hexadecimal digit of a value below sixteen. -/
def hexDigit (d : Nat) : Char :=
  if d < 10 then Char.ofNat (48 + d) else Char.ofNat (87 + d)

theorem hexDigit?_hexDigit {d : Nat} (h : d < 16) : hexDigit? (hexDigit d) = some d := by
  have all : ∀ d : Fin 16, hexDigit? (hexDigit d) = some d.val := by decide
  exact all ⟨d, h⟩

/-- The last `width` hexadecimal digits of `n`. -/
def hexDigits : Nat → Nat → List Char
  | 0, _ => []
  | width + 1, n => hexDigits width (n / 16) ++ [hexDigit (n % 16)]

@[simp] theorem length_hexDigits (width n : Nat) : (hexDigits width n).length = width := by
  induction width generalizing n with
  | zero => rfl
  | succ w ih => simp [hexDigits, ih]

/-- A byte as two hexadecimal digits. -/
def byteHex (b : UInt8) : String := String.ofList (hexDigits 2 b.toNat)

/-- A byte as two hexadecimal digits behind `0x`. -/
def byteMarked (b : UInt8) : String := "0x" ++ byteHex b

/-- A number in decimal, with zeros in front up to `width` digits. -/
def decimalPadded (width n : Nat) : String :=
  let digits := Nat.toDigits 10 n
  String.ofList (List.replicate (width - digits.length) '0' ++ digits)

end UsbSession.Text
