/-!
# Texts in pieces

A text is cut at the characters that part its pieces; empty pieces count.

* `pieces_append`: a parting character between two texts keeps their pieces apart.
-/

namespace UsbSession.Text

/-- The pieces between the characters for which `parts` holds, empty ones included. -/
def pieces (parts : Char → Bool) : List Char → List (List Char)
  | [] => [[]]
  | c :: cs =>
    if parts c then [] :: pieces parts cs
    else
      match pieces parts cs with
      | [] => [[c]]
      | first :: rest => (c :: first) :: rest

theorem pieces_ne_nil (parts : Char → Bool) (cs : List Char) : pieces parts cs ≠ [] := by
  cases cs with
  | nil => simp [pieces]
  | cons c cs =>
    simp only [pieces]
    split
    · simp
    · split <;> simp

theorem pieces_append {parts : Char → Bool} {c : Char} (hc : parts c = true) (a b : List Char) :
    pieces parts (a ++ c :: b) = pieces parts a ++ pieces parts b := by
  induction a with
  | nil => simp [pieces, hc]
  | cons x a ih =>
    simp only [List.cons_append, pieces, ih]
    split
    · rfl
    · cases h : pieces parts a with
      | nil => exact absurd h (pieces_ne_nil parts a)
      | cons first rest => rfl

/-- The lines of a text. -/
def lines (text : String) : List String :=
  (pieces (· == '\n') text.toList).map String.ofList

end UsbSession.Text
