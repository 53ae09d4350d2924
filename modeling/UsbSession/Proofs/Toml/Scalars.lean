import UsbSession.Toml.Scalar
import UsbSession.Toml.Sheet

/-!
# Scalars that are read again

The value of a field in a written sheet is read as the value that was written (`Scalar.takes`), up
to the line end behind it. This is shown for truth values, for words, that is, texts of letters, and
for numbers of 63 bits (`Scalar.Readable`).

A number takes most of the way: on a digit the reader first tries dates, times, and numbers with a
point or an exponent, and each of them gives up at the line end at the latest.

* `Reader.bind_of_some`, `Reader.orElse_of_none`: how a reader goes on from what it took, and from
  what it could not take;
* `Text.readDigits_toDigits`: the decimal digits of a number are read as the number.
-/

namespace UsbSession

/-! ## Decimal digits -/

theorem Text.digit?_digitChar {d : Nat} (h : d < 10) : Text.digit? 10 d.digitChar = some d := by
  have all : ∀ d : Fin 10, Text.digit? 10 d.val.digitChar = some d.val := by decide
  exact all ⟨d, h⟩

/-- The decimal digits of a number are read as the number, where it is below the limit. -/
theorem Text.readDigits_toDigits {n limit : Nat} (h : n < limit) :
    Text.readDigits 10 limit 0 (Nat.toDigits 10 n) = .ok n := by
  induction n using Nat.strongRecOn with
  | ind n ih =>
    have hlast (v : Nat) (hv : v * 10 + n % 10 = n) :
        Text.readDigits 10 limit v [(n % 10).digitChar] = .ok n := by
      rw [readDigits, digit?_digitChar (Nat.mod_lt n (by decide))]
      simp only [hv, if_pos h, readDigits]
    rcases Nat.lt_or_ge n 10 with hn | hn
    · rw [Nat.toDigits_of_lt_base hn]
      simpa only [Nat.mod_eq_of_lt hn] using hlast 0 (by omega)
    · rw [Nat.toDigits_of_base_le (by decide) hn,
        readDigits_append_singleton _ (ih (n / 10) (by omega) (by omega))]
      exact hlast (n / 10) (by omega)

/-- A number of several digits does not start with a zero. -/
theorem Text.head?_toDigits {n : Nat} (h : n ≠ 0) : (Nat.toDigits 10 n).head? ≠ some '0' := by
  induction n using Nat.strongRecOn with
  | ind n ih =>
    rcases Nat.lt_or_ge n 10 with hn | hn
    · rw [Nat.toDigits_of_lt_base hn]
      have all : ∀ d : Fin 10, d.val ≠ 0 → some d.val.digitChar ≠ some '0' := by decide
      exact all ⟨n, hn⟩ h
    · have hfirst := ih (n / 10) (by omega) (by omega)
      have hne : Nat.toDigits 10 (n / 10) ≠ [] := Nat.toDigits_ne_nil
      obtain ⟨c, cs, hcs⟩ := List.exists_cons_of_ne_nil hne
      rw [Nat.toDigits_of_base_le (by decide) hn, hcs]
      rwa [hcs] at hfirst

namespace Toml

/-! ## Readers, one after the other -/

namespace Reader

variable {α β : Type} {r s : Reader α} {f : α → Reader β} {cs rest : List Char} {a : α}

/-- What a reader took is handed on, with what is left of the text. -/
theorem bind_of_some (h : r cs = some (a, rest)) : (r >>= f) cs = f a rest := by
  change (r cs >>= fun p => f p.1 p.2) = _
  rw [h]
  rfl

theorem bind_of_none (h : r cs = none) : (r >>= f) cs = none := by
  change (r cs >>= fun p => f p.1 p.2) = _
  rw [h]
  rfl

theorem bind_peek {f : Option Char → Reader β} : (peek >>= f) cs = f cs.head? cs := rfl

theorem orElse_of_none (h : r cs = none) : orElse r s cs = s cs := by
  rw [orElse, h]

theorem optional_of_none (h : r cs = none) : optional r cs = some (none, cs) := by
  rw [optional, h]

theorem char_of_head? {c : Char} (h : cs.head? ≠ some c) : char c cs = none := by
  cases cs with
  | nil => rfl
  | cons d cs =>
    rw [char, if_neg]
    rintro rfl
    exact h rfl

theorem takeWhile_append {p : Char → Bool} (ds : List Char) (hds : ∀ c ∈ ds, p c = true)
    (hrest : ∀ c ∈ rest.head?, p c = false) : takeWhile p (ds ++ rest) = some (ds, rest) := by
  rw [takeWhile, List.takeWhile_append_of_pos hds, List.dropWhile_append_of_pos hds]
  cases rest with
  | nil => simp
  | cons c rest => simp [hrest c rfl]

end Reader

/-! ## Words -/

/-- Whether a text is made of letters only, and of one at least. -/
def IsWord (s : String) : Prop := s.toList ≠ [] ∧ ∀ c ∈ s.toList, c.isAlpha = true

instance (s : String) : Decidable (IsWord s) :=
  decidable_of_iff (s.toList ≠ [] ∧ s.toList.all Char.isAlpha = true) (by
    rw [IsWord, List.all_eq_true])

/-- A letter is neither a control character nor one that is escaped or ends a string. -/
structure Letter (c : Char) : Prop where
  plain : isPlain c = true
  control : isControl c = false
  quote : c ≠ '\x22'
  backslash : c ≠ '\\'
  newline : c ≠ '\n'
  escape : escape? false c = none

theorem letter_of_isAlpha {c : Char} (h : c.isAlpha = true) : Letter c := by
  have hrange : (65 ≤ c.toNat ∧ c.toNat ≤ 90) ∨ (97 ≤ c.toNat ∧ c.toNat ≤ 122) := by
    rcases Bool.or_eq_true_iff.1 h with hupper | hlower
    · have hupper : 'A'.val ≤ c.val ∧ c.val ≤ 'Z'.val := of_decide_eq_true hupper
      exact .inl hupper
    · obtain ⟨hlow, hhigh⟩ := Bool.and_eq_true_iff.1 hlower
      exact .inr ⟨of_decide_eq_true hlow, of_decide_eq_true hhigh⟩
  have hne {d : Char} (hd : d.toNat < 65 ∨ (90 < d.toNat ∧ d.toNat < 97)) : c ≠ d := by
    rintro rfl
    omega
  have hcontrol : isControl c = false := by
    have : ¬c.toNat ≤ 0x1f ∧ c.toNat ≠ 0x7f := by omega
    simp [isControl, this]
  refine ⟨?_, hcontrol, hne (by decide), hne (by decide), hne (by decide), ?_⟩
  · have : 0x20 ≤ c.toNat ∧ c.toNat ≤ 0x7e := by omega
    simp [isPlain, this]
  · unfold escape?
    split
    case h_7 => rw [hcontrol]; rfl
    all_goals exact absurd rfl (hne (by decide))

theorem escaped_of_letters {cs : List Char} (h : ∀ c ∈ cs, Letter c) :
    escaped false 0 cs = cs := by
  induction cs with
  | nil => rfl
  | cons c cs ih =>
    obtain ⟨hc, hcs⟩ := List.forall_mem_cons.1 h
    rw [escaped, if_neg hc.quote, hc.escape, ih hcs]

theorem longestRun_of_notMem {c : Char} {cs : List Char} (h : c ∉ cs) : longestRun c cs = 0 := by
  induction cs with
  | nil => rfl
  | cons d cs ih =>
    rw [List.mem_cons, not_or] at h
    rw [longestRun, List.foldl_cons]
    dsimp only
    rw [if_neg (Ne.symm h.1)]
    exact ih h.2

/-- A word is written between double quotes as it is. -/
theorem toList_writeText {s : String} (h : IsWord s) :
    (writeText s).toList = '\x22' :: s.toList ++ ['\x22'] := by
  have hletters : ∀ c ∈ s.toList, Letter c := fun c hc => letter_of_isAlpha (h.2 c hc)
  have hstyle : Style.choose s.toList = .basic := by
    have hcontrols : s.toList.any isControl = false :=
      List.any_eq_false.2 fun c hc => Bool.not_eq_true _ ▸ (hletters c hc).control
    have hnot {d : Char} (hd : ∀ c, Letter c → c ≠ d) : d ∉ s.toList := fun hmem =>
      hd d (hletters d hmem) rfl
    have hbackslash := hnot fun c hc => hc.backslash
    have hnewline := hnot fun c hc => hc.newline
    have hdoubles := longestRun_of_notMem (hnot fun c hc => hc.quote)
    simp [Style.choose, hcontrols, hbackslash, hnewline, hdoubles]
  simp only [writeText, hstyle, escaped_of_letters hletters, String.toList_ofList]

/-- Between double quotes letters are read up to the closing one. -/
theorem basicString_of_letters {cs : List Char} (h : ∀ c ∈ cs, Letter c) (rest : List Char) :
    basicString (cs ++ '\x22' :: rest) = some (cs, rest) := by
  induction cs with
  | nil => rfl
  | cons c cs ih =>
    obtain ⟨hc, hcs⟩ := List.forall_mem_cons.1 h
    rw [List.cons_append, basicString, ih hcs]
    · simp [hc.plain, hc.backslash, consRead]
    · exact hc.quote
    -- The other ways to go on are those behind a backslash.
    all_goals
      intros
      exact absurd ‹_› hc.backslash

namespace Reader

/-- A word is read as it was written. -/
theorem string_writeText {s : String} (h : IsWord s) (rest : List Char) :
    string ((writeText s).toList ++ rest) = some (s, rest) := by
  have hletters : ∀ c ∈ s.toList, Letter c := fun c hc => letter_of_isAlpha (h.2 c hc)
  have hline : lineString ('\x22' :: (s.toList ++ '\x22' :: rest)) = some (s, rest) := by
    rw [lineString, basicString_of_letters hletters, Option.map_some]
    simp only [String.ofList_toList]
  rw [toList_writeText h, List.append_assoc, List.cons_append, List.singleton_append]
  -- Behind the opening quote there is a letter, so there are no three quotes.
  obtain ⟨c, cs, hcs⟩ := List.exists_cons_of_ne_nil h.1
  have hquote := (hletters c (hcs ▸ List.mem_cons_self)).quote
  rw [hcs] at hline ⊢
  rwa [List.cons_append, string]
  · intro more heq
    exact hquote (List.cons.inj (List.cons.inj heq).2).1
  · intro more heq
    cases (List.cons.inj heq).1

/-! ## Numbers -/

/-- A numeral without a sign: digits, of which several do not start with a zero. -/
structure Numeral (ds : List Char) : Prop where
  digits : ∀ c ∈ ds, c.isDigit = true
  nonempty : ds ≠ []
  first : ds.head? = some '0' → ds = ['0']

theorem numeral_toDigits (n : Nat) : Numeral (Nat.toDigits 10 n) where
  digits c hc := Nat.isDigit_of_mem_toDigits (by decide) (by decide) hc
  nonempty := Nat.toDigits_ne_nil
  first h := by
    by_cases hn : n = 0
    · rw [hn]
      rfl
    · exact absurd h (Text.head?_toDigits hn)

section Digits

variable {ds : List Char} {c : Char} (rest : List Char)

/-- What stands behind so many characters of a line of digits is another digit, or the line end. -/
theorem head?_drop_digits (h : ∀ c ∈ ds, c.isDigit = true) (n : Nat)
    (hn : n ≤ ds.length) (hc : c.isDigit = false) (hnewline : c ≠ '\n') :
    ((ds ++ '\n' :: rest).drop n).head? ≠ some c := by
  rw [List.drop_append_of_le_length hn]
  cases hdrop : ds.drop n with
  | nil => simpa using hnewline.symm
  | cons d more =>
    have hd := h d (List.mem_of_mem_drop (hdrop ▸ List.mem_cons_self))
    rw [List.cons_append, List.head?_cons]
    rintro ⟨rfl⟩
    rw [hc] at hd
    cases hd

/-- Digits of a fixed number and a mark behind them: a date or a time starts so, but no line of
    digits does. -/
theorem fixedDigits_char {β : Type} {f : Nat → Unit → Reader β} (h : ∀ c ∈ ds, c.isDigit = true)
    (width : Nat) (hc : c.isDigit = false) (hnewline : c ≠ '\n') :
    (do let n ← fixedDigits width; let u ← char c; f n u : Reader β) (ds ++ '\n' :: rest) =
      none := by
  by_cases hwidth : width ≤ ds.length
  · have htake : fixedDigits width (ds ++ '\n' :: rest) =
        some (decimalValue (ds.take width), (ds ++ '\n' :: rest).drop width) := by
      rw [fixedDigits, List.take_append_of_le_length hwidth, if_pos]
      refine ⟨by rw [List.length_take, Nat.min_eq_left hwidth], ?_⟩
      exact List.all_eq_true.2 fun c hc => h c (List.mem_of_mem_take hc)
    rw [bind_of_some htake]
    exact bind_of_none (char_of_head? (head?_drop_digits rest h width hwidth hc hnewline))
  · -- The line end is among the characters that should be digits.
    refine bind_of_none ?_
    rw [fixedDigits, if_neg]
    rintro ⟨-, hall⟩
    have hmem : '\n' ∈ (ds ++ '\n' :: rest).take width := by
      obtain ⟨k, hk⟩ : ∃ k, width - ds.length = k + 1 := ⟨width - ds.length - 1, by omega⟩
      rw [List.take_append, hk, List.take_succ_cons]
      exact List.mem_append_right _ List.mem_cons_self
    exact absurd (List.all_eq_true.1 hall _ hmem) (by decide)

/-- A line of digits is no date and no time. -/
theorem moment_of_digits (h : ∀ c ∈ ds, c.isDigit = true) : moment (ds ++ '\n' :: rest) = none := by
  refine bind_of_none ((orElse_of_none ?_).trans ?_)
  · refine bind_of_none ?_
    exact fixedDigits_char rest h 4 (by decide) (by decide)
  · refine bind_of_none ?_
    exact fixedDigits_char rest h 2 (by decide) (by decide)

theorem moreDigits_of_digits (h : ∀ c ∈ ds, c.isDigit = true) :
    moreDigits Char.isDigit (ds ++ '\n' :: rest) = (ds, '\n' :: rest) := by
  induction ds with
  | nil => rfl
  | cons d ds ih =>
    obtain ⟨hd, hds⟩ := List.forall_mem_cons.1 h
    have hunderscore : d ≠ '_' := by
      rintro rfl
      cases hd
    rw [List.cons_append, moreDigits, if_pos hd, ih hds]
    exact fun _ _ heq => absurd heq hunderscore

variable (h : Numeral ds)

include h

/-- There is a digit in front. -/
theorem Numeral.exists_cons : ∃ d more, ds = d :: more ∧ d.isDigit = true := by
  obtain ⟨d, more, rfl⟩ := List.exists_cons_of_ne_nil h.nonempty
  exact ⟨d, more, rfl, h.digits d List.mem_cons_self⟩

theorem sign_of_numeral : sign (ds ++ '\n' :: rest) = some (false, ds ++ '\n' :: rest) := by
  obtain ⟨d, more, rfl, hd⟩ := h.exists_cons
  rw [List.cons_append, sign]
  all_goals
    rintro _ ⟨rfl, -⟩
    cases hd

/-- All digits of a numeral are taken. -/
theorem wholeDigits_of_numeral :
    wholeDigits (ds ++ '\n' :: rest) = some (ds, '\n' :: rest) := by
  obtain ⟨d, more, rfl, hd⟩ := h.exists_cons
  by_cases hzero : d = '0'
  · rw [h.first (congrArg some hzero)]
    rfl
  · obtain ⟨-, hmore⟩ := List.forall_mem_cons.1 h.digits
    rw [List.cons_append, wholeDigits, digitRun, if_pos hd, moreDigits_of_digits rest hmore]
    exact fun _ heq => hzero (List.cons.inj heq).1

/-- A numeral has neither a point nor an exponent. -/
theorem decimal_of_numeral : decimal (ds ++ '\n' :: rest) = none := by
  have hfraction : fraction ('\n' :: rest) = none := bind_of_none rfl
  have hexponent : exponent ('\n' :: rest) = none := bind_of_none ((orElse_of_none rfl).trans rfl)
  unfold decimal
  rw [bind_of_some (sign_of_numeral rest h), bind_of_some (wholeDigits_of_numeral rest h),
    bind_of_some (optional_of_none hfraction), bind_of_some (optional_of_none hexponent)]
  rfl

theorem namedNumber_of_numeral : namedNumber (ds ++ '\n' :: rest) = none := by
  obtain ⟨d, more, rfl, hd⟩ := h.exists_cons
  have hchar {c : Char} (hc : c.isDigit = false) : char c (d :: more ++ '\n' :: rest) = none := by
    refine char_of_head? ?_
    rintro ⟨rfl⟩
    rw [hc] at hd
    cases hd
  unfold namedNumber
  rw [bind_of_some (sign_of_numeral rest h)]
  refine (orElse_of_none (bind_of_none ?_)).trans (bind_of_none ?_)
  · exact bind_of_none (hchar (by decide))
  · exact bind_of_none (hchar (by decide))

theorem integer_of_numeral {n : Nat} (hn : Text.readDigits 10 (Text.bitLimit 63) 0 ds = .ok n) :
    integer (ds ++ '\n' :: rest) = some (.integer n, '\n' :: rest) := by
  obtain ⟨d, more, rfl, hd⟩ := h.exists_cons
  -- The mark of another base comes behind a zero, and a numeral ends there.
  have hmark {mark : Char} (hne : mark ≠ '\n') (cs : List Char)
      (heq : d :: more ++ '\n' :: rest = '0' :: mark :: cs) : False := by
    obtain ⟨rfl, hmore⟩ := List.cons.inj heq
    rw [(List.cons.inj (h.first rfl)).2] at hmore
    exact hne (List.cons.inj hmore).1.symm
  rw [integer]
  · rw [bind_of_some (sign_of_numeral rest h), bind_of_some (wholeDigits_of_numeral rest h)]
    simp only [Bool.false_eq_true, if_false, Nat.add_zero, hn]
    rfl
  · exact hmark (by decide)
  · exact hmark (by decide)
  · exact hmark (by decide)

end Digits

/-- A number of 63 bits is read as it was written. -/
theorem scalar_of_number {n : Nat} (hn : n < Text.bitLimit 63) (rest : List Char) :
    scalar ((Nat.repr n).toList ++ '\n' :: rest) = some (.integer n, '\n' :: rest) := by
  have h := numeral_toDigits n
  have hread : Text.readDigits 10 (Text.bitLimit 63) 0 (Nat.toDigits 10 n) = .ok n :=
    Text.readDigits_toDigits hn
  have hinteger := integer_of_numeral rest h hread
  have hmoment := moment_of_digits rest h.digits
  have hdecimal := decimal_of_numeral rest h
  have hnamed := namedNumber_of_numeral rest h
  rw [Nat.toList_repr]
  generalize Nat.toDigits 10 n = ds at *
  obtain ⟨d, more, rfl, hd⟩ := h.exists_cons
  unfold scalar
  rw [bind_peek]
  refine (congrFun (?_ : _ = orElse moment (orElse decimal (orElse namedNumber integer))) _).trans
    ((orElse_of_none hmoment).trans ((orElse_of_none hdecimal).trans
      ((orElse_of_none hnamed).trans hinteger)))
  rw [List.cons_append, List.head?_cons]
  split
  case h_5 => rfl
  all_goals
    rename_i heq
    cases heq
    cases hd

end Reader

/-! ## Scalars -/

/-- The value that a written scalar is read as. -/
def Scalar.value : Scalar → Value
  | text s => .text s
  | number n => .integer n
  | boolean b => .boolean b

/-- Whether a scalar is a truth value, a word, or a number of 63 bits. -/
def Scalar.Readable : Scalar → Prop
  | text s => IsWord s
  | number n => n < Text.bitLimit 63
  | boolean _ => True

/-- A written scalar starts neither with a blank nor like a list or a table. -/
theorem Scalar.exists_render {v : Scalar} (h : v.Readable) :
    ∃ c cs, v.render.toList = c :: cs ∧ c ∉ [' ', '\t', '[', '\x7b'] := by
  cases v with
  | text s => exact ⟨_, _, toList_writeText h, by decide⟩
  | boolean b => cases b <;> exact ⟨_, _, rfl, by decide⟩
  | number n =>
    obtain ⟨d, more, hdigits, hd⟩ := (Reader.numeral_toDigits n).exists_cons
    refine ⟨d, more, Nat.toList_repr.trans hdigits, fun hmem => ?_⟩
    simp only [List.mem_cons, List.not_mem_nil, or_false] at hmem
    rcases hmem with rfl | rfl | rfl | rfl <;> cases hd

/-- What was written is read again, up to the line end. -/
theorem Reader.scalar_render {v : Scalar} (h : v.Readable) (rest : List Char) :
    scalar (v.render.toList ++ '\n' :: rest) = some (v.value, '\n' :: rest) := by
  cases v with
  | text s =>
    have hstring := string_writeText h ('\n' :: rest)
    have hquote : ((writeText s).toList ++ '\n' :: rest).head? = some '\x22' := by
      rw [toList_writeText h]
      rfl
    change scalar ((writeText s).toList ++ '\n' :: rest) = _
    unfold scalar
    rw [bind_peek, hquote]
    exact bind_of_some hstring
  | number n => exact scalar_of_number h rest
  | boolean b => cases b <;> rfl

end Toml

end UsbSession
