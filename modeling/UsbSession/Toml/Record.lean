import UsbSession.Toml.Misfit
import UsbSession.Toml.Sheet

/-!
# Records in TOML

A record is stored as a table with a field for each part of it. Each part is told once (`Field`):
its key, how it is written, and how a value in the file changes it. What the file leaves out stays
as it was, and keys that are not known are ignored.

* `Field.readAll_nil`, `Field.readAll_unknown`: absent and unknown fields change nothing.
-/

namespace UsbSession.Toml

/-- A part of a record, as a field of a table. -/
structure Field (σ : Type) where
  /-- The key. -/
  key : String
  /-- What is written, if anything is. -/
  write : σ → Option Scalar
  /-- The record with the part that a value stands for. -/
  read : Value → σ → Except Misfit σ

namespace Field

variable {σ : Type}

/-- The field with a key. -/
def find? (key : String) (fields : List (Field σ)) : Option (Field σ) :=
  fields.find? (·.key == key)

/-- Reads the fields of a table in their order; the first one that does not fit decides. -/
def readAll (fields : List (Field σ)) (s : σ) : Fields → Except Misfit σ
  | [] => .ok s
  | (key, v) :: rest =>
    match find? key fields with
    | none => readAll fields s rest
    | some field => do readAll fields (← field.read v s) rest

/-- Reads values in the order of the fields, as many as there are of both. -/
def readItems (s : σ) : List (Field σ) → List Value → Except Misfit σ
  | field :: fields, v :: items => do readItems (← field.read v s) fields items
  | [], _ | _, [] => .ok s

/-- Reads a record: a table, or an array of the values of its fields. A point in time counts as a
    table without fields. -/
def readRecord (name : String) (fields : List (Field σ)) (s : σ) : Value → Except Misfit σ
  | .table _ inner => readAll fields s inner
  | .array _ items => readItems s fields items
  | .time => .ok s
  | v => .error (.type v (.record name))

/-- What is written for a record. -/
def writeAll (fields : List (Field σ)) (s : σ) : List (String × Scalar) :=
  fields.filterMap fun field => (field.write s).map fun scalar => (field.key, scalar)

@[simp] theorem readAll_nil (fields : List (Field σ)) (s : σ) : readAll fields s [] = .ok s := rfl

theorem readAll_unknown {fields : List (Field σ)} {key : String} (h : find? key fields = none)
    (s : σ) (v : Value) (rest : Fields) :
    readAll fields s ((key, v) :: rest) = readAll fields s rest := by
  simp only [readAll, h]

end Field

end UsbSession.Toml
