import UsbSession.Fault
import UsbSession.Text.Pieces

/-!
# Failure reports

What the tool says when it fails: what it was doing, and the causes of that, each the cause of the
one before it.

* `Report.message_during`: a report tells first what was being done.
-/

namespace UsbSession.Tool

/-- What went wrong, and why. -/
structure Report where
  message : String
  /-- The causes, the nearest first. -/
  causes : List String := []
  deriving DecidableEq, Repr

namespace Report

/-- The report of an error of a session. -/
def ofError (e : Error) : Report := ⟨e.message, (e.code?.map Failure.message).toList⟩

/-- The report of a fault. -/
def ofFault (f : Fault) : Report := ⟨f.message, f.reasons⟩

/-- The report of a failure while something was being done. -/
def during (doing : String) (r : Report) : Report := ⟨doing, r.message :: r.causes⟩

/-- A text whose lines but the first are indented. -/
def hanging (indent : Nat) (text : String) : String :=
  let lines := (Text.pieces (· == '\n') text.toList).map String.ofList
  ("\n" ++ String.ofList (List.replicate indent ' ')).intercalate lines

/-- The causes as they are listed: one stands alone, several are numbered. -/
def renderCauses : List String → String
  | [] => ""
  | [cause] => s!"\n\nCaused by:\n    {hanging 4 cause}"
  | causes =>
    let numbered := causes.zipIdx.map fun (cause, i) =>
      let number := toString i
      let margin := String.ofList (List.replicate (5 - number.length) ' ')
      s!"\n{margin}{number}: {hanging 7 cause}"
    "\n\nCaused by:" ++ String.join numbered

/-- The text of the report. -/
def render (r : Report) : String := s!"Error: {r.message}{renderCauses r.causes}\n"

@[simp] theorem message_during (doing : String) (r : Report) : (r.during doing).message = doing :=
  rfl

end Report

end UsbSession.Tool
