/-!
# Text for terminals

A text for a terminal may have control sequences in it: it obeys them and does not show them. One
starts with the escape character, and the characters that follow decide what it is and where it
ends (`Mode.next`). Here is what remains of such a text where there is no terminal (`shown`).

* `shownFrom_append`: a text is shown after what is in front of it;
* `shown_eq_self`: a text of printable characters is shown as it is;
* `shown_strong`: and so it is where it is put in strong letters.
-/

namespace UsbSession.Text

namespace Terminal

/-! ## Control sequences -/

/-- What the next character is part of. -/
inductive Mode
  /-- The text itself. -/
  | text
  /-- A sequence of which there is only the escape character yet. -/
  | escape
  /-- A sequence that has signs behind the escape character. -/
  | signs
  /-- A sequence in brackets, with numbers, up to a letter. -/
  | control
  /-- A command to the system, up to a bell. -/
  | command
  /-- The head of a string for a device, up to a letter. -/
  | head
  /-- A string, up to a string terminator. -/
  | string
  deriving DecidableEq, Repr, Inhabited

/-- Whether a character lies between two others. -/
def isBetween (low high c : Char) : Bool := low ≤ c && c ≤ high

/-- The byte that ends a string, also within the encoding of a character. -/
def terminator : UInt8 := 0x9c

/-- What the character behind `c` is part of, if `c` is part of this. An escape character starts a
    sequence anywhere, and a cancel or substitute character ends all of them. -/
def Mode.next (m : Mode) (c : Char) : Mode :=
  if c = '\x1b' then escape
  else if c = '\x18' ∨ c = '\x1a' then text
  else
    match m with
    | text => text
    | escape =>
      if c = '[' then control
      else if c = ']' then command
      else if c = 'P' then head
      else if c = 'X' ∨ c = '^' ∨ c = '_' then string
      else if isBetween ' ' '/' c then signs
      else if isBetween '0' '~' c then text
      else escape
    | signs => if isBetween '0' '~' c then text else signs
    | control => if isBetween '@' '~' c then text else control
    | command => if c = '\x07' then text else command
    | head => if isBetween '@' '~' c then string else head
    | string => if (String.utf8EncodeChar c).contains terminator then text else string

/-! ## What is shown -/

/-- Whether a character is a control that only moves to another place. -/
def isGap (c : Char) : Bool := c == '\t' || c == '\n' || c == '\x0c' || c == '\r'

/-- Whether a character is shown as part of the text: all but controls of ASCII that are no gaps. -/
def isPrintable (c : Char) : Bool := isGap c || (' ' ≤ c && c ≠ '\x7f')

/-- Whether a character is shown that is part of this. A gap is not part of a short sequence, so it
    is shown although the sequence goes on. -/
def Mode.shows (m : Mode) (c : Char) : Bool :=
  match m with
  | text => isPrintable c
  | escape | signs | control => isGap c
  | command | head | string => false

/-- Where a text has been shown up to. -/
structure State where
  mode : Mode := .text
  /-- Whether what is printable is shown, whatever the mode: so it is behind what was shown. -/
  isShowing : Bool := true
  deriving DecidableEq, Repr, Inhabited

/-- Whether a character is shown. -/
def State.shows (s : State) (c : Char) : Bool :=
  (s.isShowing && isPrintable c) || s.mode.shows c

/-- The state behind a character. What is printable does not go on with a sequence while text is
    shown, and a character beyond ASCII ends it. -/
def State.next (s : State) (c : Char) : State where
  mode :=
    if s.isShowing && isPrintable c then if c.toNat < 0x80 then s.mode else .text
    else s.mode.next c
  isShowing := s.shows c

/-- What is shown of characters. -/
def shownFrom (s : State) : List Char → List Char
  | [] => []
  | c :: cs => if s.shows c then c :: shownFrom (s.next c) cs else shownFrom (s.next c) cs

/-- What is shown of a text. -/
def shown (text : String) : String := String.ofList (shownFrom {} text.toList)

/-- A text in strong letters: two control sequences are around it. -/
def strong (text : String) : String := "\x1b[1m" ++ text ++ "\x1b[0m"

/-! ## Lemmas -/

theorem shownFrom_append (s : State) (cs ds : List Char) :
    shownFrom s (cs ++ ds) = shownFrom s cs ++ shownFrom (cs.foldl State.next s) ds := by
  induction cs generalizing s with
  | nil => rfl
  | cons c cs ih =>
    simp only [List.cons_append, shownFrom, List.foldl_cons, ih]
    split <;> simp

theorem State.next_of_isPrintable {s : State} {c : Char} (hs : s.mode = .text)
    (h : isPrintable c = true) : s.next c = {} := by
  have hc : c ≠ '\x1b' := by
    rintro rfl
    exact absurd h (by decide)
  simp [State.next, State.shows, Mode.shows, Mode.next, hs, h, hc]

theorem mode_foldl_next {s : State} {cs : List Char} (hs : s.mode = .text)
    (h : ∀ c ∈ cs, isPrintable c = true) : (cs.foldl State.next s).mode = .text := by
  induction cs generalizing s with
  | nil => exact hs
  | cons c cs ih =>
    rw [List.foldl_cons, State.next_of_isPrintable hs (h c List.mem_cons_self)]
    exact ih rfl fun d hd => h d (List.mem_cons_of_mem c hd)

theorem shownFrom_eq_self {s : State} {cs : List Char} (hs : s.mode = .text)
    (h : ∀ c ∈ cs, isPrintable c = true) : shownFrom s cs = cs := by
  induction cs generalizing s with
  | nil => rfl
  | cons c cs ih =>
    have hc := h c List.mem_cons_self
    have shows : s.shows c = true := by simp [State.shows, Mode.shows, hs, hc]
    rw [shownFrom, if_pos shows, State.next_of_isPrintable hs hc,
      ih rfl fun d hd => h d (List.mem_cons_of_mem c hd)]

theorem shown_eq_self {text : String} (h : ∀ c ∈ text.toList, isPrintable c = true) :
    shown text = text := by
  rw [shown, shownFrom_eq_self rfl h, String.ofList_toList]

/-- An end of strong letters shows nothing behind a text. -/
theorem shownFrom_strong_end {s : State} (hs : s.mode = .text) :
    shownFrom s ['\x1b', '[', '0', 'm'] = [] := by
  obtain ⟨mode, isShowing⟩ := s
  subst hs
  cases isShowing <;> decide

theorem shown_strong {text : String} (h : ∀ c ∈ text.toList, isPrintable c = true) :
    shown (strong text) = text := by
  have hlist : (strong text).toList =
      ['\x1b', '[', '1', 'm'] ++ (text.toList ++ ['\x1b', '[', '0', 'm']) := by
    simp [strong]
  have hfront : ['\x1b', '[', '1', 'm'].foldl State.next {} = { isShowing := false } := by decide
  rw [shown, hlist, shownFrom_append, hfront, shownFrom_append, shownFrom_eq_self rfl h,
    shownFrom_strong_end (mode_foldl_next rfl h), show shownFrom {} ['\x1b', '[', '1', 'm'] = [] by
      decide, List.nil_append, List.append_nil, String.ofList_toList]

end Terminal

end UsbSession.Text
