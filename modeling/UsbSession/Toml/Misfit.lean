import UsbSession.Text.Quoted
import UsbSession.Toml.Value

/-!
# Values that do not fit

What a field wants (`Expected`), why a value is not that (`Misfit`), and the readers of values of
the simple types.
-/

namespace UsbSession.Toml

/-- What is wanted where a value stands. -/
inductive Expected
  | text
  | boolean
  /-- A number of so many bits, without a sign. -/
  | unsigned (bits : Nat)
  /-- A table with the fields of a record. -/
  | record (name : String)
  deriving DecidableEq, Repr

/-- The text for what is wanted. -/
def Expected.message : Expected → String
  | text => "a string"
  | boolean => "a boolean"
  | unsigned bits => s!"u{bits}"
  | record name => s!"struct {name}"

/-- What kind of value there is instead. -/
def Value.describe : Value → String
  | text s => s!"string {Text.quoted s}"
  | integer n => s!"integer `{n}`"
  | float x => s!"floating point `{x.toText}`"
  | boolean b => s!"boolean `{b}`"
  | time => "map"
  | array .. => "sequence"
  | table .. => "map"

/-- The name of a scalar value's type. -/
def Value.typeName : Value → String
  | text _ => "string"
  | integer _ => "integer"
  | float _ => "float"
  | boolean _ => "boolean"
  | time => "datetime"
  | array .. => "array"
  | table .. => "table"

/-- Why a value does not fit. -/
inductive Misfit
  /-- It is of another type. -/
  | type (found : Value) (expected : Expected)
  /-- It is a number out of range. -/
  | range (n : Int) (expected : Expected)
  /-- It names none of the choices. -/
  | choice (name : String) (choices : List String)
  /-- A choice is neither a string nor a table. -/
  | noChoice
  /-- A choice is a table without a field. -/
  | emptyChoice
  /-- A choice is a table with several fields. -/
  | severalChoices
  /-- A choice has a table or an array in brackets with content. -/
  | fullTable
  /-- A choice has a list of tables that have headers. -/
  | fullArray
  /-- A choice has a scalar with it. -/
  | scalarContent (found : Value)
  deriving Repr

/-- The text of the misfit. -/
def Misfit.message : Misfit → String
  | type found expected => s!"invalid type: {found.describe}, expected {expected.message}"
  | range n expected => s!"invalid value: integer `{n}`, expected {expected.message}"
  | choice name choices =>
    s!"unknown variant `{name}`, expected " ++
      " or ".intercalate (choices.map fun c => s!"`{c}`")
  | noChoice => "wanted string or table"
  | emptyChoice => "wanted exactly 1 element, found 0 elements"
  | severalChoices => "wanted exactly 1 element, more than 1 element"
  | fullTable => "expected empty table"
  | fullArray => "expected empty array"
  | scalarContent found => s!"expected table, found {found.typeName}"

namespace Value

/-- The text, if it is one. -/
def asText : Value → Except Misfit String
  | text s => .ok s
  | v => .error (.type v .text)

/-- The truth value, if it is one. -/
def asBoolean : Value → Except Misfit Bool
  | boolean b => .ok b
  | v => .error (.type v .boolean)

/-- The number, if it is one of so many bits without a sign. -/
def asUnsigned (bits : Nat) : Value → Except Misfit Nat
  | integer n =>
    if 0 ≤ n ∧ n.toNat < Text.bitLimit bits then .ok n.toNat else .error (.range n (.unsigned bits))
  | v => .error (.type v (.unsigned bits))

/-- The place of the name among the choices. -/
def chosen (choices : List String) (name : String) : Except Misfit Nat :=
  match choices.idxOf? name with
  | some i => .ok i
  | none => .error (.choice name choices)

/-- The place of a choice: its name, or a table with its name and nothing in it. -/
def asChoice (choices : List String) : Value → Except Misfit Nat
  | text name => chosen choices name
  | table _ [] => .error .emptyChoice
  | table _ [(name, content)] => do
    let i ← chosen choices name
    match content with
    | table _ [] | array _ [] => return i
    | table _ _ | array false _ => .error .fullTable
    | array true _ => .error .fullArray
    | v => .error (.scalarContent v)
  | table .. => .error .severalChoices
  | _ => .error .noChoice

theorem asUnsigned_ok_iff {bits k : Nat} {v : Value} :
    v.asUnsigned bits = .ok k ↔ v = .integer k ∧ k < Text.bitLimit bits := by
  cases v <;> simp only [asUnsigned, reduceCtorEq, false_and, integer.injEq]
  split
  · simp only [Except.ok.injEq]
    omega
  · simp only [reduceCtorEq, false_iff]
    omega

end Value

end UsbSession.Toml
