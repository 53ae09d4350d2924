import UsbSession.Toml.Scalar

/-!
# TOML documents

A document is read in two steps: the text into lines (`Reader.lines`), and the lines into the fields
of the root table (`Builder`). All that can be wrong with a text is that it is no document.
-/

namespace UsbSession.Toml

/-! ## Lines -/

/-- What a line says. -/
inductive Line
  /-- A field of the current table, under a dotted key. -/
  | field (path : List String) (key : String) (value : Value)
  /-- The header of a table. -/
  | header (path : List String) (key : String)
  /-- The header of a further table of a list. -/
  | item (path : List String) (key : String)
  deriving Repr

namespace Reader

/-- How deep values and keys may be nested. -/
def depthLimit : Nat := 80

/-- Whether a character may stand in a key without quotes. -/
def isBare (c : Char) : Bool := c.isAlphanum || c == '-' || c == '_'

/-- One part of a key. -/
def simpleKey : Reader String := do
  match ← peek with
  | some '\x22' | some '\x27' => lineString
  | _ =>
    let cs ← takeWhile isBare
    if cs.isEmpty then failure
    return String.ofList cs

/-- The parts of a key behind the first one. -/
def keyParts : Nat → Reader (List String)
  | 0 => failure
  | fuel + 1 => do
    if (← peek) = some '.' then
      char '.'
      spaces
      let part ← simpleKey
      spaces
      return part :: (← keyParts fuel)
    else return []

/-- A dotted key: the path and the last part. -/
def key : Reader (List String × String) := do
  spaces
  let first ← simpleKey
  spaces
  let parts := first :: (← keyParts (depthLimit - 1))
  return (parts.dropLast, parts.getLastD "")

/-- Values up to the closing bracket, parted by commas; one comma may be left over. -/
def items (value : Reader Value) : Nat → Reader (List Value)
  | 0 => failure
  | fuel + 1 => do
    gaps
    if (← peek) = some ']' then
      char ']'
      return []
    let v ← value
    gaps
    if (← peek) = some ',' then
      char ','
      return v :: (← items value fuel)
    else
      char ']'
      return [v]

/-- A key and its value. -/
def pair (value : Reader Value) : Reader (List String × String × Value) := do
  let (path, last) ← key
  char '='
  spaces
  return (path, last, ← value)

/-- Fields up to the closing brace, parted by commas, on top of those before them. -/
def braced (value : Reader Value) : Nat → Fields → Reader Fields
  | 0, _ => failure
  | fuel + 1, fs => do
    let (path, last, v) ← pair value
    let some more := fs.put? path last v | failure
    spaces
    if (← peek) = some ',' then
      char ','
      braced value fuel more
    else
      char '\x7d'
      return more

/-- A list in brackets or a table in braces, of such values. -/
def nested (value : Reader Value) : Reader Value := fun cs =>
  let fuel := cs.length + 1
  (do
    if (← peek) = some '[' then
      char '['
      return .array false (← items value fuel)
    else
      char '\x7b'
      spaces
      if (← peek) = some '\x7d' then
        char '\x7d'
        return .table .inline []
      else return .table .inline (← braced value fuel []) : Reader Value) cs

/-- A value with lists and tables nested so deep. -/
def value : Nat → Reader Value
  | 0 => scalar
  | depth + 1 => do
    match ← peek with
    | some '[' | some '\x7b' => nested (value depth)
    | _ => scalar

/-- One line, if it says anything. -/
def line : Reader (Option Line) := do
  spaces
  match ← peek with
  | none | some '#' | some '\n' | some '\r' =>
    lineRest
    return none
  | some '[' =>
    char '['
    if (← peek) = some '[' then
      char '['
      let (path, last) ← key
      char ']'
      char ']'
      lineRest
      return some (.item path last)
    else
      let (path, last) ← key
      char ']'
      lineRest
      return some (.header path last)
  | _ =>
    let (path, last, v) ← pair (value (depthLimit - 1))
    lineRest
    return some (.field path last v)

/-- The lines of a text, to its end. -/
def lines : Nat → List Char → Option (List Line)
  | _, [] => some []
  | 0, _ => none
  | fuel + 1, cs => do
    let (first, rest) ← line cs
    let others ← lines fuel rest
    return first.toList ++ others

end Reader

/-! ## Tables -/

/-- The root table while the lines are gone through. -/
structure Builder where
  /-- The fields of the root, without the current table. -/
  root : Fields := []
  /-- The fields of the current table. -/
  current : Fields := []
  /-- Where the current table belongs: the path and the key. The root has none. -/
  place : Option (List String × String) := none
  /-- Whether the current table is one of a list. -/
  isItem : Bool := false

namespace Builder

/-- Puts a table into its place: behind the others of a list, or as a new field. -/
def place? (isItem : Bool) (key : String) (fields : Fields) (outer : Fields) : Option Fields :=
  if isItem then
    outer.alter? key fun
      | none => some (.array true [.table .header fields])
      | some (.array true items) => some (.array true (items ++ [.table .header fields]))
      | some _ => none
  else outer.insert? key (.table .header fields)

/-- The root with the current table in its place. -/
def finish? (b : Builder) : Option Fields :=
  match b.place with
  | none => some b.current
  | some (path, key) =>
    b.root.descend? .implied (fun _ => place? b.isItem key b.current) path .header

/-- Starts a table that has a header. It goes on with the fields of one that was only implied. -/
def header? (path : List String) (key : String) (root : Fields) : Option Builder := do
  let before := root.find? (path ++ [key])
  let current ← match before with
    | none => some []
    | some (.table .implied fields) => some fields
    | some _ => none
  let root ← root.descend? .implied (fun _ fs => some (fs.erase key)) path .header
  return { root, current, place := some (path, key) }

/-- Starts a further table of a list. -/
def item? (path : List String) (key : String) (root : Fields) : Option Builder := do
  let opened (outer : Fields) := outer.alter? key fun
    | none => some (.array true [])
    | some (.array true items) => some (.array true items)
    | some _ => none
  let root ← root.descend? .implied (fun _ => opened) path .header
  return { root, place := some (path, key), isItem := true }

/-- Goes on with a line. -/
def add? (b : Builder) : Line → Option Builder
  | .field path key value => do
    let current ← b.current.put? path key value
    return { b with current }
  | .header path key => do header? path key (← b.finish?)
  | .item path key => do item? path key (← b.finish?)

end Builder

/-- The mark that may stand in front of a text. -/
def byteOrderMark : Char := '\ufeff'

/-- The text without a byte order mark in front. -/
def dropMark : List Char → List Char
  | c :: cs => if c = byteOrderMark then cs else c :: cs
  | [] => []

/-- Reads a document: the fields of its root table. -/
def parse? (text : String) : Option Fields := do
  let cs := dropMark text.toList
  let lines ← Reader.lines cs.length cs
  let built ← lines.foldlM Builder.add? {}
  built.finish?

end UsbSession.Toml
