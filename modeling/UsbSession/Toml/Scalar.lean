import UsbSession.Toml.Reader
import UsbSession.Toml.Value

/-!
# TOML numbers, dates and truth values

Numerals may have single underscores between digits. A whole number has 64 bits; hexadecimal, octal
and binary ones have no sign.
-/

namespace UsbSession.Toml

/-! ## Numbers -/

/-- Further digits of a numeral, each with at most one underscore in front. -/
def moreDigits (isDigit : Char → Bool) : List Char → List Char × List Char
  | '_' :: c :: rest =>
    if isDigit c then
      let (ds, after) := moreDigits isDigit rest
      (c :: ds, after)
    else ([], '_' :: c :: rest)
  | c :: rest =>
    if isDigit c then
      let (ds, after) := moreDigits isDigit rest
      (c :: ds, after)
    else ([], c :: rest)
  | [] => ([], [])

namespace Reader

/-- Digits of a numeral, at least one. -/
def digitRun (isDigit : Char → Bool) : Reader (List Char)
  | c :: rest =>
    if isDigit c then
      let (ds, after) := moreDigits isDigit rest
      some (c :: ds, after)
    else none
  | [] => none

/-- Whether there is a minus; a plus is taken too. -/
def sign : Reader Bool
  | '-' :: cs => some (true, cs)
  | '+' :: cs => some (false, cs)
  | cs => some (false, cs)

/-- The digits of a decimal numeral: a zero alone, or no zero in front. -/
def wholeDigits : Reader (List Char)
  | '0' :: cs => some (['0'], cs)
  | cs => digitRun Char.isDigit cs

/-- A numeral in a base, which has to be less than the limit. -/
def based (base limit : Nat) : Reader Value := do
  let ds ← digitRun fun c => (Text.digit? base c).isSome
  match Text.readDigits base limit 0 ds with
  | .ok n => return .integer n
  | .error _ => failure

/-- A whole number. -/
def integer : Reader Value
  | '0' :: 'x' :: cs => based 16 (Text.bitLimit 63) cs
  | '0' :: 'o' :: cs => based 8 (Text.bitLimit 63) cs
  | '0' :: 'b' :: cs => based 2 (Text.bitLimit 63) cs
  | cs => (do
    let negative ← sign
    let ds ← wholeDigits
    match Text.readDigits 10 (Text.bitLimit 63 + if negative then 1 else 0) 0 ds with
    | .ok n => return .integer (if negative then -(n : Int) else n)
    | .error _ => failure : Reader Value) cs

/-- The number of decimal digits. -/
def decimalValue (ds : List Char) : Nat := ds.foldl (fun n c => n * 10 + (c.toNat - 48)) 0

/-- The digits behind a point. -/
def fraction : Reader (List Char) := do
  char '.'
  digitRun Char.isDigit

/-- The exponent behind an `e`. -/
def exponent : Reader Int := do
  orElse (char 'e') (char 'E')
  let negative ← sign
  let ds ← digitRun Char.isDigit
  return if negative then -(decimalValue ds : Int) else decimalValue ds

/-- A number with a point or an exponent. One that is too large is refused. -/
def decimal : Reader Value := do
  let negative ← sign
  let whole ← wholeDigits
  let part ← optional fraction
  let power ← optional exponent
  if part.isNone && power.isNone then failure
  let part := part.getD []
  match Double.ofDecimal negative (decimalValue (whole ++ part)) (power.getD 0 - part.length) with
  | .infinite false => failure
  | x => return .float x

/-- Takes these characters. -/
def word (w : String) : Reader Unit := w.toList.forM char

/-- The numbers that have a name. -/
def namedNumber : Reader Value := do
  let negative ← sign
  orElse (do word "inf"; return .float (.infinite negative)) (do word "nan"; return .float .nan)

/-! ## Dates and times -/

/-- A number of so many digits. -/
def fixedDigits (width : Nat) : Reader Nat := fun cs =>
  let ds := cs.take width
  if ds.length = width ∧ ds.all Char.isDigit then some (decimalValue ds, cs.drop width) else none

/-- The days of a month. -/
def daysIn (year month : Nat) : Nat :=
  if month = 2 then
    if year % 4 = 0 ∧ (year % 100 ≠ 0 ∨ year % 400 = 0) then 29 else 28
  else if month = 4 ∨ month = 6 ∨ month = 9 ∨ month = 11 then 30
  else 31

/-- A date. -/
def date : Reader Unit := do
  let year ← fixedDigits 4
  char '-'
  let month ← fixedDigits 2
  char '-'
  let day ← fixedDigits 2
  unless 1 ≤ month && month ≤ 12 && 1 ≤ day && day ≤ daysIn year month do failure

/-- An hour and a minute. -/
def hourMinute : Reader Unit := do
  let hour ← fixedDigits 2
  char ':'
  let minute ← fixedDigits 2
  unless hour ≤ 23 && minute ≤ 59 do failure

/-- A time of day. -/
def timeOfDay : Reader Unit := do
  hourMinute
  char ':'
  let second ← fixedDigits 2
  unless second ≤ 60 do failure
  let _ ← optional do
    char '.'
    let ds ← takeWhile Char.isDigit
    if ds.isEmpty then failure

/-- The distance from universal time. -/
def offset : Reader Unit :=
  orElse (orElse (char 'Z') (char 'z')) do
    orElse (char '+') (char '-')
    hourMinute

/-- A date, a time or both. -/
def moment : Reader Value := do
  orElse
    (do
      date
      let _ ← optional do
        orElse (orElse (char 'T') (char 't')) (char ' ')
        timeOfDay
        optional offset)
    timeOfDay
  return .time

/-! ## Scalars -/

/-- A value that is not made of values. -/
def scalar : Reader Value := do
  match ← peek with
  | some '\x22' | some '\x27' => return .text (← string)
  | some 't' => word "true"; return .boolean true
  | some 'f' => word "false"; return .boolean false
  | _ => orElse moment (orElse decimal (orElse namedNumber integer))

end Reader

end UsbSession.Toml
