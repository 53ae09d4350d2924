import Mathlib.Data.List.Induction
import Mathlib.Data.List.TakeWhile
import Mathlib.Data.Nat.Digits.Defs
import UsbSession.Text.Blank
import UsbSession.Text.Numeral

/-!
# Numerals and what they stand for

A numeral stands for the number that its digits make in the base (`Text.numeral`). Reading one comes
to that number, or stops at the leftmost position where it cannot go on: at a character that is no
digit, or at a digit with which the number reaches the limit (`Text.readDigits_eq_error_iff`).

* `Text.readDigits_eq_ok_iff`, `Text.readDigits_eq_invalid_iff`, `Text.readDigits_eq_tooLarge_iff`:
  what becomes of digits, in terms of the numbers that they stand for;
* `Text.readUnsigned_eq`: what a sign in front changes;
* `Text.trimmed_trim`: what is left of a text without the blanks around it.
-/

namespace UsbSession.Text

variable {base limit acc v n : Nat} {cs ds : List Char} {c : Char} {e : NumeralError}

/-! ## Digits -/

/-- The number that digits stand for; what is no digit counts as zero. -/
def numeral (base : Nat) (cs : List Char) : Nat :=
  Nat.ofDigits base ((cs.map fun c => (digit? base c).getD 0).reverse)

theorem numeral_append_singleton (base : Nat) (cs : List Char) (c : Char) :
    numeral base (cs ++ [c]) = numeral base cs * base + (digit? base c).getD 0 := by
  rw [numeral, List.map_append, List.reverse_append, List.map_singleton, List.reverse_singleton,
    List.singleton_append, Nat.ofDigits_cons, Nat.add_comm, Nat.mul_comm]
  rfl

/-- A numeral is read as far as its digits go, and then goes on from the number so far. -/
theorem readDigits_append (cs ds : List Char) : readDigits base limit acc (cs ++ ds) =
    readDigits base limit acc cs >>= fun v => readDigits base limit v ds := by
  induction cs generalizing acc with
  | nil => rfl
  | cons c cs ih =>
    rw [List.cons_append, readDigits, readDigits]
    cases digit? base c with
    | none => rfl
    | some d =>
      dsimp only
      split
      · exact ih
      · rfl

/-- One more digit. -/
theorem readDigits_singleton_eq_ok_iff : readDigits base limit acc [c] = .ok n ↔
    ∃ d, digit? base c = some d ∧ acc * base + d = n ∧ n < limit := by
  rw [readDigits]
  cases digit? base c with
  | none => simp
  | some d =>
    simp only [readDigits, Option.some.injEq, exists_eq_left']
    split
    · rename_i h
      rw [Except.ok.injEq]
      exact ⟨fun heq => ⟨heq, heq ▸ h⟩, And.left⟩
    · rename_i h
      simp only [reduceCtorEq, false_iff]
      rintro ⟨rfl, hn⟩
      exact h hn

theorem readDigits_eq_ok_iff (hlimit : 0 < limit) : readDigits base limit 0 cs = .ok n ↔
    (∀ c ∈ cs, (digit? base c).isSome = true) ∧ numeral base cs = n ∧ n < limit := by
  -- From the left a numeral is read digit by digit, so the last one is taken off here.
  induction cs using List.reverseRecOn generalizing n with
  | nil =>
    rw [readDigits, Except.ok.injEq]
    exact ⟨fun h => ⟨List.forall_mem_nil _, h, h ▸ hlimit⟩, fun h => h.2.1⟩
  | append_singleton cs c ih =>
    rw [readDigits_append, numeral_append_singleton, List.forall_mem_append,
      List.forall_mem_singleton]
    constructor
    · intro h
      cases hcs : readDigits base limit 0 cs with
      | error e =>
        rw [hcs] at h
        cases h
      | ok v =>
        rw [hcs] at h
        obtain ⟨hdigits, rfl, -⟩ := ih.1 hcs
        obtain ⟨d, hd, hn, hlt⟩ := readDigits_singleton_eq_ok_iff.1 h
        rw [hd]
        exact ⟨⟨hdigits, rfl⟩, hn, hlt⟩
    · rintro ⟨⟨hdigits, hc⟩, hn, hlt⟩
      obtain ⟨d, hd⟩ := Option.isSome_iff_exists.1 hc
      rw [hd, Option.getD_some] at hn
      have hbase : 0 < base := Nat.pos_of_ne_zero fun hzero => by
        rw [digit?, hzero] at hd
        simp at hd
      have hbelow : numeral base cs < limit := by
        have := Nat.le_mul_of_pos_right (numeral base cs) hbase
        omega
      rw [ih.2 ⟨hdigits, rfl, hbelow⟩]
      exact readDigits_singleton_eq_ok_iff.2 ⟨d, hd, hn, hlt⟩

/-- Reading fails at the leftmost position where it cannot go on. -/
theorem readDigits_eq_error_iff : readDigits base limit acc cs = .error e ↔
    ∃ front c back v, cs = front ++ c :: back ∧ readDigits base limit acc front = .ok v ∧
      readDigits base limit v [c] = .error e := by
  constructor
  · intro h
    induction cs generalizing acc with
    | nil => cases h
    | cons c cs ih =>
      rw [← List.singleton_append, readDigits_append] at h
      cases hc : readDigits base limit acc [c] with
      | error e' =>
        rw [hc] at h
        cases h
        exact ⟨[], c, cs, acc, rfl, rfl, hc⟩
      | ok v =>
        rw [hc] at h
        obtain ⟨front, c', back, v', rfl, hfront, hc'⟩ := ih h
        refine ⟨c :: front, c', back, v', rfl, ?_, hc'⟩
        rw [← List.singleton_append, readDigits_append, hc]
        exact hfront
  · rintro ⟨front, c, back, v, rfl, hfront, hc⟩
    rw [readDigits_append, hfront, ← List.singleton_append]
    change readDigits base limit v ([c] ++ back) = _
    rw [readDigits_append, hc]
    rfl

theorem readDigits_singleton_eq_error_iff : readDigits base limit acc [c] = .error e ↔
    (digit? base c = none ∧ e = .invalidDigit) ∨
      ∃ d, digit? base c = some d ∧ limit ≤ acc * base + d ∧ e = .tooLarge := by
  rw [readDigits]
  cases digit? base c with
  | none => simp [eq_comm]
  | some d =>
    simp only [readDigits, reduceCtorEq, false_and, false_or, Option.some.injEq, exists_eq_left']
    split
    · rename_i h
      simp only [reduceCtorEq, false_iff, not_and]
      omega
    · rename_i h
      rw [Except.error.injEq, eq_comm]
      exact ⟨fun heq => ⟨by omega, heq⟩, And.right⟩

/-- A character that is no digit is told where the digits in front of it stand for a number below
    the limit. -/
theorem readDigits_eq_invalid_iff (hlimit : 0 < limit) :
    readDigits base limit 0 cs = .error .invalidDigit ↔
      ∃ front c back, cs = front ++ c :: back ∧ (∀ x ∈ front, (digit? base x).isSome = true) ∧
        numeral base front < limit ∧ (digit? base c).isSome = false := by
  rw [readDigits_eq_error_iff]
  constructor
  · rintro ⟨front, c, back, v, hcs, hfront, hc⟩
    obtain ⟨hdigits, rfl, hlt⟩ := (readDigits_eq_ok_iff hlimit).1 hfront
    rcases readDigits_singleton_eq_error_iff.1 hc with ⟨hnone, -⟩ | ⟨d, -, -, heq⟩
    · exact ⟨front, c, back, hcs, hdigits, hlt, by rw [hnone]; rfl⟩
    · cases heq
  · rintro ⟨front, c, back, hcs, hdigits, hlt, hc⟩
    have hnone : digit? base c = none := Option.not_isSome_iff_eq_none.1 (by simp [hc])
    exact ⟨front, c, back, _, hcs, (readDigits_eq_ok_iff hlimit).2 ⟨hdigits, rfl, hlt⟩,
      readDigits_singleton_eq_error_iff.2 (.inl ⟨hnone, rfl⟩)⟩

/-- A number is too large from the digit on with which it reaches the limit. -/
theorem readDigits_eq_tooLarge_iff (hlimit : 0 < limit) :
    readDigits base limit 0 cs = .error .tooLarge ↔
      ∃ front c back, cs = front ++ c :: back ∧
        (∀ x ∈ front ++ [c], (digit? base x).isSome = true) ∧
        numeral base front < limit ∧ limit ≤ numeral base (front ++ [c]) := by
  rw [readDigits_eq_error_iff]
  constructor
  · rintro ⟨front, c, back, v, hcs, hfront, hc⟩
    obtain ⟨hdigits, rfl, hlt⟩ := (readDigits_eq_ok_iff hlimit).1 hfront
    rcases readDigits_singleton_eq_error_iff.1 hc with ⟨-, heq⟩ | ⟨d, hd, hle, -⟩
    · cases heq
    · refine ⟨front, c, back, hcs, List.forall_mem_append.2 ⟨hdigits, ?_⟩, hlt, ?_⟩
      · exact List.forall_mem_singleton.2 (by rw [hd]; rfl)
      · rw [numeral_append_singleton, hd]
        exact hle
  · rintro ⟨front, c, back, hcs, hdigits, hlt, hle⟩
    obtain ⟨hfront, hc⟩ := List.forall_mem_append.1 hdigits
    obtain ⟨d, hd⟩ := Option.isSome_iff_exists.1 (hc c List.mem_cons_self)
    rw [numeral_append_singleton, hd, Option.getD_some] at hle
    exact ⟨front, c, back, _, hcs, (readDigits_eq_ok_iff hlimit).2 ⟨hfront, rfl, hlt⟩,
      readDigits_singleton_eq_error_iff.2 (.inr ⟨d, hd, hle, rfl⟩)⟩

/-- Nothing else can be wrong with digits. -/
theorem eq_of_readDigits_eq_error (h : readDigits base limit acc cs = .error e) :
    e = .invalidDigit ∨ e = .tooLarge := by
  obtain ⟨_, _, _, _, -, -, hc⟩ := readDigits_eq_error_iff.1 h
  exact (readDigits_singleton_eq_error_iff.1 hc).imp And.right fun ⟨_, _, _, heq⟩ => heq

/-! ## Signs -/

/-- The text behind a plus sign in front, where there is more of it. -/
def dropPlus : List Char → List Char
  | '+' :: c :: cs => c :: cs
  | cs => cs

/-- A sign that stands alone is no digit either. -/
theorem readUnsigned_eq (h : cs ≠ []) :
    readUnsigned base limit cs = readDigits base limit 0 (dropPlus cs) := by
  obtain ⟨c, cs, rfl⟩ := List.exists_cons_of_ne_nil h
  by_cases hplus : c = '+'
  · subst hplus
    cases cs <;> rfl
  · rw [readUnsigned, dropPlus] <;> simp [hplus]

/-! ## Blanks around a text -/

/-- The text `ds` is what is left of `cs` without the blanks in front and behind. -/
structure Trimmed (cs ds : List Char) : Prop where
  around : ∃ front back, cs = front ++ ds ++ back ∧ (∀ c ∈ front, isBlank c = true) ∧
    ∀ c ∈ back, isBlank c = true
  head : ∀ c ∈ ds.head?, isBlank c = false
  last : ∀ c ∈ ds.getLast?, isBlank c = false

theorem forall_head?_dropWhile (p : Char → Bool) (cs : List Char) :
    ∀ c ∈ (cs.dropWhile p).head?, p c = false := by
  intro c hc
  have hnot := List.head?_dropWhile_not p cs
  rw [hc] at hnot
  exact hnot

theorem trimmed_trim (cs : List Char) : Trimmed cs (trim cs) := by
  -- First the blanks in front go, and then those at the end of the rest.
  let rest := cs.dropWhile isBlank
  let back := (rest.reverse.takeWhile isBlank).reverse
  have hrest : rest = trim cs ++ back := by
    rw [trim, trimEnd, ← List.reverse_append, List.takeWhile_append_dropWhile,
      List.reverse_reverse]
  refine ⟨⟨cs.takeWhile isBlank, back, ?_, ?_, ?_⟩, ?_, ?_⟩
  · rw [List.append_assoc, ← hrest, List.takeWhile_append_dropWhile]
  · exact fun c hc => List.mem_takeWhile_imp hc
  · exact fun c hc => List.mem_takeWhile_imp (List.mem_reverse.1 hc)
  · intro c hc
    refine forall_head?_dropWhile isBlank cs c ?_
    change c ∈ rest.head?
    rw [hrest, List.head?_append, Option.mem_def.1 hc]
    rfl
  · intro c hc
    rw [trim, trimEnd, List.getLast?_reverse] at hc
    exact forall_head?_dropWhile isBlank _ c hc

theorem trim_append_left {front : List Char} (h : ∀ c ∈ front, isBlank c = true) :
    trim (front ++ cs) = trim cs := by
  rw [trim, trim, List.dropWhile_append_of_pos h]

theorem trim_append_right {back : List Char} (h : ∀ c ∈ back, isBlank c = true) :
    trim (cs ++ back) = trim cs := by
  have hreverse : ∀ c ∈ back.reverse, isBlank c = true := fun c hc => h c (List.mem_reverse.1 hc)
  rw [trim, trim, List.dropWhile_append]
  split
  · rename_i hnil
    rw [List.isEmpty_iff.1 hnil, List.dropWhile_eq_nil_iff.2 h]
  · rw [trimEnd, trimEnd, List.reverse_append, List.dropWhile_append_of_pos hreverse]

/-- There is one way only to take the blanks off. -/
theorem Trimmed.trim_eq (h : Trimmed cs ds) : trim cs = ds := by
  obtain ⟨⟨front, back, rfl, hfront, hback⟩, hhead, hlast⟩ := h
  rw [trim_append_right hback, trim_append_left hfront, trim_eq_self hhead hlast]

end UsbSession.Text
