import UsbSession.CommandLine.Switch

/-!
# Reading a command line

The words of a level are read from the left into a record (`Level.read`). An option whose value is a
word of its own is pending until the next switch is read or the words end, and only then its value
is looked at (`Reading.settle`). So of two faults, one in the value of an option and one in the word
behind it, the latter is told.

After the word `--` no word is a switch or a command any more.
-/

namespace UsbSession.CommandLine

/-! ## Words -/

/-- A word, by how it starts. -/
inductive Word
  /-- Two hyphens alone. -/
  | escape
  /-- A name behind two hyphens, and what follows an equals sign. -/
  | long (name : String) (value : Option String)
  /-- Letters behind a hyphen. -/
  | short (letters : List Char)
  | plain
  deriving DecidableEq, Repr

/-- A word, by how it starts. -/
def Word.ofText (text : String) : Word :=
  match text.toList with
  | ['-', '-'] => escape
  | '-' :: '-' :: rest =>
    let name := rest.takeWhile (· != '=')
    let value := match rest.dropWhile (· != '=') with
      | [] => none
      | _ :: value => some (String.ofList value)
    long (String.ofList name) value
  | '-' :: c :: rest => short (c :: rest)
  | _ => plain

/-! ## Levels -/

/-- What the words between one command and the next can be. -/
structure Level (σ : Type) where
  switches : List (Switch σ)
  /-- What a word that is called by no name changes, if one is taken. -/
  operand : Option (String → σ → σ) := none
  /-- The commands that end the level. -/
  commands : List String := []

/-- The state of reading a level. -/
structure Reading (σ : Type) where
  /-- The record so far. -/
  record : σ
  /-- The names of the switches that were there. -/
  seen : List String := []
  /-- An option whose value was not looked at yet, and the value, if it is there. -/
  pending : Option (Switch σ × Option String) := none
  /-- Whether the operand was there. -/
  isTaken : Bool := false
  /-- Whether two hyphens alone were there. -/
  isEscaped : Bool := false

namespace Reading

variable {σ : Type}

/-- Lets a switch take effect; a value is there where the switch needs one. -/
def take (r : Reading σ) (s : Switch σ) (value : String) : Except Stop (Reading σ) :=
  match s.effect with
  | .stop stop => .error stop
  | .flag set =>
    if s.name ∈ r.seen then .error (.misuse (.repeated s.shown))
    else .ok { r with record := set r.record, seen := s.name :: r.seen }
  | .value _ read =>
    if s.name ∈ r.seen then .error (.misuse (.repeated s.shown))
    else
      match read value r.record with
      | .ok record => .ok { r with record, seen := s.name :: r.seen }
      | .error .absent => .error (.misuse (.noValue s.shown))
      | .error e => .error (.misuse (.badValue value s.shown e))

/-- Looks at the value that is pending. -/
def settle (r : Reading σ) : Except Stop (Reading σ) :=
  match r.pending with
  | none => .ok r
  | some (s, none) => .error (.misuse (.noValue s.shown))
  | some (s, some value) => { r with pending := none }.take s value

/-- Whether the next word is the value of an option, unless it is a switch. -/
def awaits (r : Reading σ) : Bool :=
  match r.pending with
  | some (_, none) => !r.isEscaped
  | _ => false

/-- Reads a switch and the value that is attached to it, if there is one. -/
def give (r : Reading σ) (s : Switch σ) (attached : Option String) : Except Stop (Reading σ) :=
  match s.effect, attached with
  | .value .., none => do return { ← r.settle with pending := some (s, none) }
  | .value .., some value => do (← r.settle).take s value
  | _, some value => .error (.misuse (.unneeded value s.shown))
  | _, none => do (← r.settle).take s ""

/-- Reads letters behind a hyphen. What follows the letter of an option is its value. -/
def giveLetters (r : Reading σ) (l : Level σ) : List Char → Except Stop (Reading σ)
  | [] => .ok r
  | c :: rest =>
    match l.switches.find? (·.letter == some c) with
    | none => .error (.misuse (.unexpected (String.ofList ['-', c])))
    | some s =>
      match s.effect, rest with
      | .value .., [] => r.give s none
      | .value .., '=' :: value => r.give s (some (String.ofList value))
      | .value .., value => r.give s (some (String.ofList value))
      | _, _ => do (← r.give s none).giveLetters l rest

/-- Reads a word that is no switch. -/
def givePlain (r : Reading σ) (l : Level σ) (text : String) : Except Stop (Reading σ) :=
  match l.operand with
  | some set =>
    if r.isTaken then .error (.misuse (.unexpected text))
    else do
      let settled ← r.settle
      return { settled with record := set text settled.record, isTaken := true }
  | none =>
    if l.commands = [] || (r.isEscaped && text ∈ l.commands) then
      .error (.misuse (.unexpected text))
    else .error (.misuse (.unknownCommand text))

/-- Reads a word. -/
def step (r : Reading σ) (l : Level σ) (text : String) : Except Stop (Reading σ) :=
  if r.isEscaped then r.givePlain l text
  else
    match Word.ofText text with
    | .escape => .ok { r with isEscaped := true }
    | .long name value =>
      match l.switches.find? (·.name == name) with
      | none => .error (.misuse (.unexpected s!"--{name}"))
      | some s => r.give s value
    | .short letters => r.giveLetters l letters
    | .plain =>
      match r.pending with
      | some (s, none) => .ok { r with pending := some (s, some text) }
      | _ => r.givePlain l text

end Reading

/-- Reads the words of a level, up to a command or to their end. The result has the command and the
    words behind it. -/
def Level.read {σ : Type} (l : Level σ) (r : Reading σ) :
    List String → Except Stop (Reading σ × Option (String × List String))
  | [] => .ok (r, none)
  | text :: words =>
    if !r.isEscaped && !r.awaits && l.commands.contains text then .ok (r, some (text, words))
    else do l.read (← r.step l text) words

end UsbSession.CommandLine
