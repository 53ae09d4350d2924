import UsbSession.Text.Numeral

/-!
# JSON

Values that commands print, and their two forms: on one line (`Json.compact`), and on several, where
what is inside is indented by two blanks (`Json.lines`).
-/

namespace UsbSession

/-- A JSON value. -/
inductive Json
  | text (s : String)
  | number (n : Nat)
  | list (items : List Json)
  /-- An object, with its fields in order. -/
  | object (fields : List (String × Json))
  deriving Repr, Inhabited

namespace Json

/-- A character inside a string. -/
def escaped (c : Char) : List Char :=
  match c with
  | '\x22' => ['\\', '\x22']
  | '\\' => ['\\', '\\']
  | '\x08' => ['\\', 'b']
  | '\x0c' => ['\\', 'f']
  | '\n' => ['\\', 'n']
  | '\r' => ['\\', 'r']
  | '\t' => ['\\', 't']
  | c => if c.toNat < 0x20 then '\\' :: 'u' :: Text.hexDigits 4 c.toNat else [c]

/-- A string in quotes. -/
def quote (s : String) : String :=
  String.ofList ('\x22' :: s.toList.flatMap escaped ++ ['\x22'])

/-- Parts between brackets. -/
def enclose (opening closing : String) (parts : List String) : String :=
  opening ++ ",".intercalate parts ++ closing

mutual

/-- The value on one line. -/
def compact : Json → String
  | text s => quote s
  | number n => s!"{n}"
  | list items => enclose "[" "]" (compactItems items)
  | object fields => enclose "\x7b" "\x7d" (compactFields fields)

/-- The items of a list, each on one line. -/
def compactItems : List Json → List String
  | [] => []
  | item :: items => item.compact :: compactItems items

/-- The fields of an object, each on one line. -/
def compactFields : List (String × Json) → List String
  | [] => []
  | (key, value) :: fields => (quote key ++ ":" ++ value.compact) :: compactFields fields

end

/-! ## Several lines -/

/-- Lines with a text in front of the first one. -/
def leading (text : String) : List String → List String
  | [] => [text]
  | line :: lines => (text ++ line) :: lines

/-- Lines with a comma behind the last one. -/
def withComma (lines : List String) : List String :=
  lines.dropLast ++ (lines.getLast?.map (· ++ ",")).toList

/-- The lines of parts, with commas between the parts. -/
def separated : List (List String) → List String
  | [] => []
  | [part] => part
  | part :: parts => withComma part ++ separated parts

/-- What is inside is indented by so much. -/
def indentation : String := "  "

/-- Parts between brackets, which have lines of their own unless there is nothing inside. -/
def block (opening closing : String) (parts : List (List String)) : List String :=
  if parts = [] then [opening ++ closing]
  else opening :: (separated parts).map (indentation ++ ·) ++ [closing]

mutual

/-- The value on several lines. -/
def lines : Json → List String
  | text s => [quote s]
  | number n => [s!"{n}"]
  | list items => block "[" "]" (lineItems items)
  | object fields => block "\x7b" "\x7d" (lineFields fields)

/-- The items of a list, each on several lines. -/
def lineItems : List Json → List (List String)
  | [] => []
  | item :: items => item.lines :: lineItems items

/-- The fields of an object, each on several lines. -/
def lineFields : List (String × Json) → List (List String)
  | [] => []
  | (key, value) :: fields => leading (quote key ++ ": ") value.lines :: lineFields fields

end

end Json

end UsbSession
