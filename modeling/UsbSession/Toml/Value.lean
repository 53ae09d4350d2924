import UsbSession.Decimal.Double

/-!
# TOML values

Values, and tables as lists of fields in the order of the text. A table remembers how it came about
(`Origin`), because that decides what may be added to it later on.

* `Fields.get?_insert?`: a field that was added is found again.
-/

namespace UsbSession.Toml

/-- How a table came about. -/
inductive Origin
  /-- It has a header of its own. -/
  | header
  /-- The header of a table inside it implies it. -/
  | implied
  /-- A dotted key implies it. -/
  | dotted
  /-- It is written in braces; nothing may be added. -/
  | inline
  deriving DecidableEq, Repr, Inhabited

/-- A TOML value. -/
inductive Value
  | text (s : String)
  | integer (n : Int)
  | float (x : Double)
  | boolean (b : Bool)
  /-- A date, a time or both. -/
  | time
  /-- A list of values; it is open if headers in double brackets append tables to it. -/
  | array (isOpen : Bool) (items : List Value)
  | table (origin : Origin) (fields : List (String × Value))
  deriving Repr, Inhabited

/-- The fields of a table, in the order in which they were added. -/
abbrev Fields := List (String × Value)

namespace Fields

/-- The value of a key. -/
def get? (key : String) : Fields → Option Value
  | [] => none
  | (k, v) :: fs => if k = key then some v else get? key fs

/-- Changes the value of a key in its place; a value for a new key comes last. -/
def alter? (key : String) (f : Option Value → Option Value) : Fields → Option Fields
  | [] => (f none).map fun v => [(key, v)]
  | (k, v) :: fs =>
    if k = key then (f (some v)).map fun w => (k, w) :: fs
    else (alter? key f fs).map fun gs => (k, v) :: gs

/-- Adds a field, unless the key is there already. -/
def insert? (key : String) (value : Value) : Fields → Option Fields :=
  alter? key fun
    | none => some value
    | some _ => none

/-- Removes a field. -/
def erase (key : String) : Fields → Fields
  | [] => []
  | (k, v) :: fs => if k = key then fs else (k, v) :: erase key fs

theorem get?_insert? {key : String} {value : Value} {fs gs : Fields}
    (h : insert? key value fs = some gs) (other : String) :
    get? other gs = if key = other then some value else get? other fs := by
  induction fs generalizing gs with
  | nil =>
    simp only [insert?, alter?, Option.map_some, Option.some.injEq] at h
    subst h
    simp [get?]
  | cons field fs ih =>
    obtain ⟨k, v⟩ := field
    simp only [insert?, alter?] at h ih
    split at h
    · simp at h
    · next hk =>
      obtain ⟨hs, hhs, rfl⟩ := Option.map_eq_some_iff.1 h
      simp only [get?, ih hhs]
      split
      · next hko => subst hko; simp [Ne.symm hk]
      · rfl

end Fields

/-! ## Tables inside tables -/

/-- Goes down a path of keys, makes the tables that are missing, and changes the last one. A list of
    tables stands for its latest one. Dotted keys may not enter a table that has a header. -/
def Fields.descend? (made : Origin) (f : Origin → Fields → Option Fields) :
    List String → Origin → Fields → Option Fields
  | [], origin, fs => f origin fs
  | key :: path, _, fs => fs.alter? key fun
    | none => (descend? made f path made []).map (.table made)
    | some (.table origin inner) =>
      if origin = .inline ∨ (made = .dotted ∧ origin = .header) then none
      else (descend? made f path origin inner).map (.table origin)
    | some (.array true items) =>
      match items.getLast? with
      | some (.table origin inner) =>
        (descend? made f path origin inner).map fun changed =>
          .array true (items.dropLast ++ [.table origin changed])
      | _ => none
    | some _ => none

/-- The value at the end of a path, through the same tables. -/
def Fields.find? : List String → Fields → Option Value
  | [], _ => none
  | [key], fs => fs.get? key
  | key :: path, fs =>
    match fs.get? key with
    | some (.table _ inner) => find? path inner
    | some (.array true items) =>
      match items.getLast? with
      | some (.table _ inner) => find? path inner
      | _ => none
    | _ => none

/-- Adds a field under a dotted key: the tables on the way have to be implied by dotted keys too. -/
def Fields.put? (path : List String) (key : String) (value : Value) (fs : Fields) :
    Option Fields :=
  fs.descend? .dotted (fun origin inner =>
    if path ≠ [] ∧ origin ≠ .dotted then none else inner.insert? key value) path .header

end UsbSession.Toml
