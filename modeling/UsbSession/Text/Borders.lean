/-!
# Classes of characters

A class of characters is given by its *borders*: the code points at which it begins and ends in
turn, in their order. A code point is in the class if an odd number of borders is not above it.

* `contains_cons_cons`: the first two borders are those of a range;
* `contains_of_lt`: nothing below the first border is in the class.
-/

namespace UsbSession.Text

/-- The code points at which a class of characters begins and ends in turn, in their order. -/
abbrev Borders := List Nat

namespace Borders

/-- Whether a code point is in the class. -/
def contains : Borders → Nat → Bool
  | [], _ => false
  | b :: bs, n => b ≤ n && !contains bs n

theorem contains_of_lt {b n : Nat} (h : n < b) (bs : Borders) : contains (b :: bs) n = false := by
  simp [contains, Nat.not_le.2 h]

/-- Nothing below all borders is in the class. -/
theorem le_of_contains {k n : Nat} {bs : Borders} (hbs : ∀ b ∈ bs, k ≤ b)
    (h : contains bs n = true) : k ≤ n := by
  cases bs with
  | nil => simp [contains] at h
  | cons b bs =>
    simp only [contains, Bool.and_eq_true, decide_eq_true_eq] at h
    exact Nat.le_trans (hbs b List.mem_cons_self) h.1

theorem contains_cons_cons {low high : Nat} {bs : Borders} (h : low ≤ high)
    (hbs : ∀ b ∈ bs, high ≤ b) (n : Nat) :
    contains (low :: high :: bs) n = (decide (low ≤ n ∧ n < high) || contains bs n) := by
  have hle : contains bs n = true → high ≤ n := le_of_contains hbs
  rw [Bool.eq_iff_iff]
  simp only [contains, Bool.and_eq_true, Bool.or_eq_true, Bool.not_eq_true', decide_eq_true_eq,
    Bool.and_eq_false_iff, decide_eq_false_iff_not, Bool.not_eq_false']
  constructor
  · rintro ⟨hlow, hhigh | hin⟩
    · exact .inl ⟨hlow, Nat.not_le.1 hhigh⟩
    · exact .inr hin
  · rintro (⟨hlow, hhigh⟩ | hin)
    · exact ⟨hlow, .inl (Nat.not_le.2 hhigh)⟩
    · exact ⟨Nat.le_trans h (hle hin), .inr hin⟩

end Borders

end UsbSession.Text
