import UsbSession.Text.Numeral

/-!
# Written TOML documents

A sheet is a document as this library writes it: fields with scalar values, and sections of them.
`Sheet.render` writes it, one field a line.

A string is written in the first of four ways that needs no escapes: in double quotes, in single
quotes, and in three of either; one that cannot do without is written with them (`Style.choose`).
-/

namespace UsbSession.Toml

/-! ## Strings -/

/-- How a string is written. -/
inductive Style
  /-- In double quotes. -/
  | basic
  /-- In single quotes. -/
  | literal
  /-- In three double quotes. -/
  | basicLines
  /-- In three single quotes. -/
  | literalLines
  deriving DecidableEq, Repr

/-- The length of the longest run of a character. -/
def longestRun (c : Char) (cs : List Char) : Nat :=
  (cs.foldl (fun (best, run) d => if d = c then (max best (run + 1), run + 1) else (best, 0))
    (0, 0)).1

/-- Whether a control character that only an escape can stand for. -/
def isControl (c : Char) : Bool :=
  (c.toNat ≤ 0x1f || c.toNat == 0x7f) && c != '\t' && c != '\n'

/-- The way to write a string. -/
def Style.choose (cs : List Char) : Style :=
  let controls := cs.any isControl
  let backslash := cs.contains '\\'
  let newline := cs.contains '\n'
  let doubles := longestRun '\x22' cs
  let singles := longestRun '\x27' cs
  if !controls && !backslash && !newline && doubles == 0 then basic
  else if !controls && !newline && singles == 0 then literal
  else if !controls && !backslash && doubles ≤ 2 then basicLines
  else if !controls && singles ≤ 2 then literalLines
  else if newline then basicLines
  else basic

/-- The uppercase form of a hexadecimal digit. -/
def upperDigit (c : Char) : Char := if c.isLower then Char.ofNat (c.toNat - 32) else c

/-- The escape of a character, if it needs one; a line end needs none in several lines. -/
def escape? (lines : Bool) : Char → Option (List Char)
  | '\x08' => some ['\\', 'b']
  | '\t' => some ['\\', 't']
  | '\n' => if lines then none else some ['\\', 'n']
  | '\x0c' => some ['\\', 'f']
  | '\r' => some ['\\', 'r']
  | '\\' => some ['\\', '\\']
  | c =>
    if isControl c then
      some ('\\' :: 'u' :: (Text.hexDigits 4 c.toNat).map upperDigit)
    else none

/-- The text between double quotes. In several lines up to two quotes in a row stay as they are;
    `run` counts those before. -/
def escaped (lines : Bool) : Nat → List Char → List Char
  | _, [] => []
  | run, c :: cs =>
    if c = '\x22' then
      if lines && run < 2 then c :: escaped lines (run + 1) cs
      else '\\' :: c :: escaped lines 0 cs
    else
      match escape? lines c with
      | some e => e ++ escaped lines 0 cs
      | none => c :: escaped lines 0 cs

/-- A string with its quotes. Several lines start below the opening quotes. -/
def writeText (s : String) : String :=
  let cs := s.toList
  let opening (quote : Char) := List.replicate 3 quote ++ if cs.contains '\n' then ['\n'] else []
  let closing (quote : Char) := List.replicate 3 quote
  String.ofList <| match Style.choose cs with
    | .basic => '\x22' :: escaped false 0 cs ++ ['\x22']
    | .literal => '\x27' :: cs ++ ['\x27']
    | .basicLines => opening '\x22' ++ escaped true 0 cs ++ closing '\x22'
    | .literalLines => opening '\x27' ++ cs ++ closing '\x27'

/-! ## Sheets -/

/-- A value that a field of a sheet can have. -/
inductive Scalar
  | text (s : String)
  | number (n : Nat)
  | boolean (b : Bool)
  deriving DecidableEq, Repr

/-- The text of a value. -/
def Scalar.render : Scalar → String
  | text s => writeText s
  | number n => s!"{n}"
  | boolean b => s!"{b}"

/-- A document of scalar fields. -/
structure Sheet where
  /-- The fields in front. -/
  fields : List (String × Scalar)
  /-- The sections, by name. -/
  sections : List (String × List (String × Scalar)) := []
  deriving DecidableEq, Repr

namespace Sheet

/-- Fields, one a line. -/
def renderFields (fields : List (String × Scalar)) : String :=
  String.join (fields.map fun (key, value) => s!"{key} = {value.render}\n")

/-- The text of a document. -/
def render (s : Sheet) : String :=
  renderFields s.fields ++
    String.join (s.sections.map fun (name, fields) => s!"\n[{name}]\n" ++ renderFields fields)

end Sheet

end UsbSession.Toml
