import UsbSession.Text.Blank
import UsbSession.Text.Numeral
import UsbSession.Text.Pieces

/-!
# Payloads in hexadecimal

A payload is given as hexadecimal digits, in chunks parted by blanks, commas or colons, each chunk
with an optional `0x` in front. It is written back as two digits a byte, parted by spaces.
-/

namespace UsbSession.Payload

open Text

/-- Why a text is not a payload. -/
inductive Refusal
  /-- Some character of a chunk is not a hexadecimal digit. -/
  | invalid (input : String)
  /-- The digits do not pair up. -/
  | odd (input : String)
  deriving DecidableEq, Repr

/-- The text of the refusal. -/
def Refusal.message : Refusal → String
  | invalid input => s!"Invalid hex payload '{input}'"
  | odd input => s!"Odd number of hex digits in '{input}'"

/-- Whether `c` parts two chunks. -/
def isSeparator (c : Char) : Bool := isBlank c || c == ',' || c == ':'

/-- The pieces between separators, empty ones included. -/
def chunks (cs : List Char) : List (List Char) := pieces isSeparator cs

/-- The digits of a payload: its chunks, each without its mark, one behind the other. -/
def digitsOf (cs : List Char) : List Char := (chunks cs).flatMap dropHexMark

/-- The bytes that the digits spell, two digits each. -/
def pairs? : List Char → Option (List UInt8)
  | [] => some []
  | [_] => none
  | a :: b :: cs => do
    let high ← hexDigit? a
    let low ← hexDigit? b
    let rest ← pairs? cs
    return UInt8.ofNat (high * 16 + low) :: rest

/-- Reads a payload. -/
def parse (input : String) : Except Refusal (List UInt8) :=
  let digits := digitsOf input.toList
  if !digits.all isHexDigit then .error (.invalid input)
  else
    match pairs? digits with
    | some bytes => .ok bytes
    | none => .error (.odd input)

/-- The two digits of each byte. -/
def digits (bytes : List UInt8) : List Char := bytes.flatMap fun b => hexDigits 2 b.toNat

/-- Writes a payload: two lowercase digits a byte, parted by spaces. -/
def format (bytes : List UInt8) : String := " ".intercalate (bytes.map byteHex)

end UsbSession.Payload
