import UsbSession.Text.Blank
import UsbSession.Text.Numeral
import UsbSession.Text.Terminal

/-!
# Switches

A switch is a part of a command line that is called by name: a flag, or an option with a value. Here
are the switches of a record `σ` that a command line fills in, the readers of values, and all that
can be wrong with a command line (`Misuse`).
-/

namespace UsbSession.CommandLine

open Text
open Text.Terminal (strong)

/-! ## Values -/

/-- Why a value is refused. -/
inductive ValueError
  /-- It is empty, and so none at all. -/
  | absent
  | numeral (e : NumeralError)
  /-- It is a number, but not a byte. -/
  | range (n : Int)
  /-- It is no byte; the text is what was read as one. -/
  | byte (text : String) (e : NumeralError)
  deriving DecidableEq, Repr

/-- The text of the error. -/
def ValueError.message : ValueError → String
  | absent => NumeralError.empty.message
  | numeral e => e.message
  | range n => s!"{n} is not in 0..=255"
  | byte text e => s!"invalid byte '{text}': {e.message}"

/-- Reads a number below 256 as a signed one first. -/
def readSmall (text : String) : Except ValueError UInt8 :=
  match readSigned 64 text.toList with
  | .error e => .error (.numeral e)
  | .ok n => if 0 ≤ n ∧ n < 256 then .ok (UInt8.ofNat n.toNat) else .error (.range n)

/-- Reads a byte in decimal or, with a mark in front, in hexadecimal; blanks around it do not
    count. -/
def readByte (text : String) : Except ValueError UInt8 :=
  let trimmed := trim text.toList
  let digits := dropHexMark trimmed
  let base := if digits = trimmed then 10 else 16
  match readUnsigned base (bitLimit 8) digits with
  | .ok n => .ok (UInt8.ofNat n)
  | .error e => .error (.byte (String.ofList trimmed) e)

/-- Reads a number of 64 bits. -/
def readWord (text : String) : Except ValueError Nat :=
  (readUnsigned 10 (bitLimit 64) text.toList).mapError .numeral

/-- Takes a path as it is. -/
def readPath (text : String) : Except ValueError String :=
  if text = "" then .error .absent else .ok text

/-! ## Switches -/

/-- Why no command comes out of a command line. -/
inductive Misuse
  /-- Nothing accepts the word. -/
  | unexpected (word : String)
  /-- A flag has a value. -/
  | unneeded (value shown : String)
  /-- An option has no value. -/
  | noValue (shown : String)
  /-- An option has a value that is refused. -/
  | badValue (value shown : String) (e : ValueError)
  /-- A switch is there twice. -/
  | repeated (shown : String)
  /-- An operand is missing. -/
  | noOperand (shown : String)
  /-- There is no command. -/
  | noCommand (program : String)
  /-- The word stands for no command. -/
  | unknownCommand (word : String)
  deriving DecidableEq, Repr

/-- The text of the misuse, for a terminal. What a message is about is in strong letters. -/
def Misuse.message : Misuse → String
  | unexpected word => s!"unexpected argument '{strong word}' found"
  | unneeded value shown =>
    s!"unexpected value '{strong value}' for '{strong shown}' found; no more were expected"
  | noValue shown => s!"a value is required for '{strong shown}' but none was supplied"
  | badValue value shown e => s!"invalid value '{strong value}' for '{strong shown}': {e.message}"
  | repeated shown => s!"the argument '{strong shown}' cannot be used multiple times"
  | noOperand shown => s!"the following required arguments were not provided:\n  {strong shown}"
  | noCommand program => s!"'{strong program}' requires a subcommand but one was not provided"
  | unknownCommand word => s!"unrecognized subcommand '{strong word}'"

/-- All that is said about the misuse, for a terminal. -/
def Misuse.report (m : Misuse) : String :=
  strong "error:" ++ " " ++ m.message ++ "\n\nFor more information, try '" ++ strong "--help" ++
    "'.\n"

/-- Why reading a command line stops before its end. -/
inductive Stop
  | misuse (m : Misuse)
  /-- The user asks for help. -/
  | help
  /-- There is nothing on the command line, so help is shown. -/
  | bare
  /-- The user asks for the version. -/
  | version
  deriving DecidableEq, Repr

/-- What a switch does. -/
inductive Effect (σ : Type)
  /-- Change the record. -/
  | flag (set : σ → σ)
  /-- Change the record by a value. -/
  | value (placeholder : String) (read : String → σ → Except ValueError σ)
  /-- Stop reading. -/
  | stop (s : Stop)

/-- A part of a command line that is called by name. -/
structure Switch (σ : Type) where
  /-- The name that follows two hyphens. -/
  name : String
  /-- The letter that follows a single hyphen. -/
  letter : Option Char := none
  effect : Effect σ

namespace Switch

variable {σ α : Type}

/-- The switch as messages show it. -/
def shown (s : Switch σ) : String :=
  match s.effect with
  | .value placeholder _ => s!"--{s.name} <{placeholder}>"
  | .flag _ | .stop _ => s!"--{s.name}"

/-- A flag. -/
def flag (name : String) (set : σ → σ) : Switch σ := { name, effect := .flag set }

/-- An option with a value. -/
def option (name placeholder : String) (read : String → Except ValueError α) (set : α → σ → σ)
    (letter : Option Char := none) : Switch σ where
  name
  letter
  effect := .value placeholder fun text s => (read text).map (set · s)

end Switch

end UsbSession.CommandLine
