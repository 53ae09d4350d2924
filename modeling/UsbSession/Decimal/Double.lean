/-!
# Numbers with 53 significant bits

Binary floating point numbers of double width, as a decimal numeral names them (`Double.ofDecimal`)
and as the fewest decimal digits that name them again (`Double.digits`). All of it is exact
arithmetic on natural numbers.
-/

namespace UsbSession

/-- A number in binary floating point. -/
inductive Double
  | nan
  | infinite (negative : Bool)
  /-- The number `mantissa * 2 ^ exponent`, with the sign apart. -/
  | finite (negative : Bool) (mantissa : Nat) (exponent : Int)
  deriving DecidableEq, Repr, Inhabited

namespace Double

/-- The quotient, rounded to the nearest whole number, half to even. -/
def roundHalfEven (num den : Nat) : Nat :=
  let q := num / den
  let twice := 2 * (num % den)
  if twice < den ∨ (twice = den ∧ q % 2 = 0) then q else q + 1

/-- How many bits a mantissa has. -/
def mantissaBits : Nat := 53

/-- The least exponent. -/
def leastExponent : Int := -1074

/-- From here on numbers are too large: `2 ^ 1024`. -/
def overflowBits : Int := 1024

/-- A fraction with a power of two taken out of it. -/
def scaled (num den : Nat) (exponent : Int) : Nat × Nat :=
  if exponent < 0 then (num * Nat.pow 2 exponent.natAbs, den)
  else (num, den * Nat.pow 2 exponent.natAbs)

/-- The number nearest to a positive fraction. -/
def ofFraction (negative : Bool) (num den : Nat) : Double :=
  let bits : Int := (num.log2 : Int) - den.log2
  let low := max (bits - mantissaBits) leastExponent
  let (n, d) := scaled num den low
  let exponent := if n / d < Nat.pow 2 mantissaBits then low else low + 1
  let (n, d) := scaled num den exponent
  let mantissa := roundHalfEven n d
  if overflowBits ≤ (mantissa.log2 : Int) + exponent then infinite negative
  else if mantissa = Nat.pow 2 mantissaBits then finite negative (mantissa / 2) (exponent + 1)
  else finite negative mantissa exponent

/-- How many decimal digits a number has. -/
def decimalLength (n : Nat) : Nat := (Nat.toDigits 10 n).length

/-- The number nearest to `digits * 10 ^ exponent`. Beyond the exponents that are looked at, the
    number is zero or too large anyway. -/
def ofDecimal (negative : Bool) (digits : Nat) (exponent : Int) : Double :=
  let magnitude := exponent + decimalLength digits
  if digits = 0 ∨ magnitude < -400 then finite negative 0 0
  else if 400 < magnitude then infinite negative
  else if exponent < 0 then ofFraction negative digits (Nat.pow 10 exponent.natAbs)
  else ofFraction negative (digits * Nat.pow 10 exponent.natAbs) 1

/-! ## Shortest digits -/

/-- The numbers that are rounded to the same double lie between `low` and `high` in units of
    `1 / den`; `value` is the double itself. -/
structure Interval where
  low : Nat
  value : Nat
  high : Nat
  den : Nat
  /-- Whether the ends belong to the interval. -/
  closed : Bool

/-- The interval of a positive number. Below a power of two the numbers lie closer together. -/
def interval (mantissa : Nat) (exponent : Int) : Interval :=
  let below := if mantissa = Nat.pow 2 (mantissaBits - 1) ∧ leastExponent < exponent then 1 else 2
  let (unit, den) := scaled 1 1 (2 - exponent)
  ⟨(4 * mantissa - below) * unit, 4 * mantissa * unit, (4 * mantissa + 2) * unit, den,
    mantissa % 2 = 0⟩

/-- Whether the interval holds the number `n * step`. -/
def Interval.holds (i : Interval) (n step : Nat) : Bool :=
  let x := n * step
  if i.closed then i.low ≤ x && x ≤ i.high else i.low < x && x < i.high

/-- The multiple of `10 ^ place` in the interval that is nearest to the value, if there is one. -/
def Interval.nearest? (i : Interval) (place : Int) : Option Nat :=
  let (step, scale) := if place < 0 then (i.den, Nat.pow 10 place.natAbs)
    else (i.den * Nat.pow 10 place.natAbs, 1)
  let wide : Interval :=
    { i with low := i.low * scale, value := i.value * scale, high := i.high * scale }
  let n := wide.value / step
  let below := wide.value - n * step
  let above := (n + 1) * step - wide.value
  match wide.holds n step, wide.holds (n + 1) step with
  | true, true => some (if below ≤ above then n else n + 1)
  | true, false => some n
  | false, true => some (n + 1)
  | false, false => none

/-- The least number of digits that reaches the interval, tried from `place` downwards. -/
def Interval.search (i : Interval) : Nat → Int → Nat × Int
  | 0, place => (0, place)
  | tries + 1, place =>
    match i.nearest? place with
    | some n => if n = 0 then search i tries (place - 1) else (n, place)
    | none => search i tries (place - 1)

/-- The fewest digits that name a positive number again, and the place of the last one. -/
def digits (mantissa : Nat) (exponent : Int) : Nat × Int :=
  let i := interval mantissa exponent
  let length : Int := (decimalLength (i.value / i.den) : Int)
  let bits : Int := (mantissa.log2 : Int) + exponent
  let top := if 0 ≤ bits then length else bits * 3 / 10 + 1
  i.search 40 top

/-- A number of digits and the place of its last digit, written without an exponent and with at
    least one digit behind the point. -/
def positional (n : Nat) (place : Int) : String :=
  let ds := Nat.toDigits 10 n
  if 0 ≤ place then String.ofList (ds ++ List.replicate place.natAbs '0') ++ ".0"
  else
    let padded := List.replicate (place.natAbs + 1 - ds.length) '0' ++ ds
    let whole := padded.length - place.natAbs
    String.ofList (padded.take whole) ++ "." ++ String.ofList (padded.drop whole)

/-- The text of a number: the fewest digits, without an exponent. -/
def toText : Double → String
  | nan => "NaN"
  | infinite negative => if negative then "-inf" else "inf"
  | finite negative mantissa exponent =>
    let sign := if negative then "-" else ""
    if mantissa = 0 then sign ++ "0.0"
    else
      let (n, place) := digits mantissa exponent
      sign ++ positional n place

end Double

end UsbSession
