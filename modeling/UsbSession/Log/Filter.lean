import UsbSession.Log.Event
import UsbSession.Text.Alphanumeric
import UsbSession.Text.Blank
import UsbSession.Text.Pieces

/-!
# Log filters

A filter is a list of directives, parted by commas. A directive is a level, for all events, or a
target with a level, for the events whose target starts so; a target alone stands for all levels.
The most specific directive that applies to an event decides about it. An event that none applies
to is not let through.

* `Filter.mem_add`: the directive that was added is in the filter, whatever it took the place of.
-/

namespace UsbSession.Log

open Text

/-- Why a text is not a filter. -/
inductive FilterError
  /-- There is nothing but blanks. -/
  | empty
  /-- A directive starts with a character that no target starts with. -/
  | directive (filter : String)
  /-- What stands for a level is none. -/
  | level (filter : String)
  deriving DecidableEq, Repr

/-- The text of the error. -/
def FilterError.message : FilterError → String
  | empty => "Empty log filter"
  | directive filter => s!"Invalid log filter '{filter}': invalid filter directive"
  | level filter =>
    s!"Invalid log filter '{filter}': error parsing level filter: expected one of \"off\", " ++
      "\"error\", \"warn\", \"info\", \"debug\", \"trace\", or a number 0-5"

/-! ## Directives -/

/-- Which events of a target are let through: those up to the level, or none. -/
structure Directive where
  /-- What the target starts with; without it the directive is about all events. -/
  target : Option String := none
  /-- The least severe level that is let through, if any is. -/
  level : Option Level := some .trace
  deriving DecidableEq, Repr, Inhabited

namespace Directive

/-- The levels by name, `off` included, in the order of their numbers. -/
def levels : List (String × Option Level) :=
  [("off", none), ("error", some .error), ("warn", some .warn), ("info", some .info),
    ("debug", some .debug), ("trace", some .trace)]

/-- The level that a word names, by name in any case of letters or by number. -/
def readLevel (word : List Char) : Option (Option Level) :=
  match readUnsigned 10 (bitLimit 64) word with
  | .ok n => (levels[n]?).map Prod.snd
  | .error _ => levels.lookup (String.ofList (word.map Char.toLower))

/-- The name of a level, in small letters. -/
def levelName (level : Option Level) : String :=
  ((levels.find? fun entry => entry.2 == level).map Prod.fst).getD ""

/-- What is wrong with a directive. -/
inductive Flaw
  | start
  | level
  deriving DecidableEq, Repr

/-- Whether a target can start with the character. -/
def isTargetStart (c : Char) : Bool :=
  isAlphanumeric c || c == '-' || c == ':' || c == '_'

/-- Reads a directive: a level, a target, or both with an equals sign between them. A word that is
    no level is a target. Blanks in front do not count for where the equals sign stands, but they
    stay in the word. -/
def read (word : List Char) : Except Flaw Directive :=
  let trimmed := trim word
  let place := (trimmed.takeWhile (· != '=')).length
  match trimmed.head? with
  | none => .error .start
  | some c =>
    if !isTargetStart c then .error .start
    else if place = trimmed.length then
      match readLevel word with
      | some level => .ok { level }
      | none => .ok { target := some (String.ofList word) }
    else
      let target := some (String.ofList (word.take place))
      match word.drop (place + 1) with
      | [] => .ok { target }
      | after =>
        match readLevel after with
        | some level => .ok { target, level }
        | none => .error .level

/-- The text of a directive. -/
def toText (d : Directive) : String :=
  match d.target with
  | some t => t ++ "=" ++ levelName d.level
  | none => levelName d.level

/-- How specific a directive is: with a longer target it is more so. -/
def specificity (d : Directive) : Nat :=
  match d.target with
  | some t => t.utf8ByteSize + 1
  | none => 0

/-- Whether a directive comes before one with another target. -/
def precedes (d e : Directive) : Bool :=
  e.specificity < d.specificity ||
    (d.specificity == e.specificity && e.target.getD "" < d.target.getD "")

/-- Whether a directive is about an event. -/
def concerns (d : Directive) (e : Event) : Bool :=
  match d.target with
  | some t => t.toList.isPrefixOf e.target.toList
  | none => true

/-- Whether a directive lets an event through that it is about. -/
def admits (d : Directive) (e : Event) : Bool :=
  match d.level with
  | some level => e.isWithin level
  | none => false

end Directive

/-! ## Filters -/

/-- Directives, the most specific first, with one for a target at most. -/
abbrev Filter := List Directive

namespace Filter

/-- Adds a directive, in place of one for the same target. -/
def add (d : Directive) : Filter → Filter
  | [] => [d]
  | e :: f =>
    if e.target = d.target then d :: f
    else if d.precedes e then d :: e :: f
    else e :: add d f

theorem mem_add (d : Directive) (f : Filter) : d ∈ add d f := by
  induction f with
  | nil => simp [add]
  | cons e f ih =>
    simp only [add]
    split
    · simp
    · split <;> simp [ih]

/-- Reads the directives between commas; empty ones do not count. -/
def ofWords : List (List Char) → Filter → Except Directive.Flaw Filter
  | [], f => .ok f
  | word :: words, f =>
    if word = [] then ofWords words f
    else
      match Directive.read word with
      | .ok d => ofWords words (f.add d)
      | .error flaw => .error flaw

/-- Reads a filter as it stands. -/
def ofDirectives (text : List Char) : Except Directive.Flaw Filter :=
  ofWords (pieces (· == ',') text) []

/-- Reads a filter, without the blanks around it; something has to be there. -/
def parse (text : String) : Except FilterError Filter :=
  let trimmed := trim text.toList
  let shown := String.ofList trimmed
  if trimmed = [] then .error .empty
  else
    match ofDirectives trimmed with
    | .ok f => .ok f
    | .error .start => .error (.directive shown)
    | .error .level => .error (.level shown)

/-- The filter to use: the one of the surroundings, if there is one that can be read, or else that
    of the text. -/
def choose (override : Option String) (text : String) : Except FilterError Filter :=
  match override.map fun o => ofDirectives o.toList with
  | some (.ok f) => .ok f
  | _ => parse text

/-- The text of a filter. -/
def toText (f : Filter) : String := ",".intercalate (f.map Directive.toText)

/-- Whether the filter lets an event through. -/
def lets (f : Filter) (e : Event) : Bool :=
  match f.find? (·.concerns e) with
  | some d => d.admits e
  | none => false

end Filter

end UsbSession.Log
