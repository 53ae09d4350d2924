import UsbSession.Text.Numeral

/-!
# Reading text from the front

A reader takes something off the front of a text, or fails. Here are blanks, line ends and comments
as TOML has them, and its four kinds of strings.
-/

namespace UsbSession.Toml

/-- Takes something off the front of a text, or fails. -/
abbrev Reader (α : Type) := StateT (List Char) Option α

namespace Reader

/-- The next character, which stays. -/
def peek : Reader (Option Char) := fun cs => some (cs.head?, cs)

/-- Takes this character. -/
def char (c : Char) : Reader Unit
  | d :: cs => if c = d then some ((), cs) else none
  | [] => none

/-- Takes the characters from the front for which `p` holds. -/
def takeWhile (p : Char → Bool) : Reader (List Char) := fun cs =>
  some (cs.takeWhile p, cs.dropWhile p)

/-- Takes what `r` takes, or nothing where `r` fails. -/
def optional {α : Type} (r : Reader α) : Reader (Option α) := fun cs =>
  match r cs with
  | some (a, rest) => some (some a, rest)
  | none => some (none, cs)

/-- Takes what `r` takes, or else what `s` takes. -/
def orElse {α : Type} (r s : Reader α) : Reader α := fun cs =>
  match r cs with
  | some done => some done
  | none => s cs

end Reader

/-! ## Blanks, line ends and comments -/

/-- Whether a blank inside a line. -/
def isSpace (c : Char) : Bool := c == ' ' || c == '\t'

/-- Whether a character beyond ASCII. -/
def isWide (c : Char) : Bool := 0x80 ≤ c.toNat

/-- Whether a character that is no control character; a tab is none. -/
def isPlain (c : Char) : Bool := c == '\t' || (0x20 ≤ c.toNat && c.toNat ≤ 0x7e) || isWide c

namespace Reader

/-- Takes blanks. -/
def spaces : Reader Unit := do let _ ← takeWhile isSpace

/-- Takes a line end. -/
def newline : Reader Unit
  | '\n' :: cs => some ((), cs)
  | '\r' :: '\n' :: cs => some ((), cs)
  | _ => none

/-- Takes the rest of a line: blanks, a comment, and the line end or the end of the text. -/
def lineRest : Reader Unit := do
  spaces
  if (← peek) = some '#' then
    let _ ← takeWhile isPlain
  if (← peek).isSome then newline

/-- Takes blanks, comments and line ends. -/
def gap : Nat → Reader Unit
  | 0 => pure ()
  | fuel + 1 => do
    match ← peek with
    | some '#' =>
      let _ ← takeWhile isPlain
      gap fuel
    | some '\n' | some '\r' =>
      newline
      gap fuel
    | some ' ' | some '\t' =>
      spaces
      gap fuel
    | _ => pure ()

/-- Takes blanks, comments and line ends as far as they go. -/
def gaps : Reader Unit := fun cs => gap (cs.length + 1) cs

end Reader

/-! ## Strings -/

/-- The character that hexadecimal digits name. -/
def scalar? (digits : List Char) : Option Char :=
  match Text.readDigits 16 0x110000 0 digits with
  | .ok n => if n.isValidChar then some (Char.ofNat n) else none
  | .error _ => none

/-- The character that a backslash and a letter stand for. -/
def escaped? : Char → Option Char
  | 'b' => some '\x08'
  | 't' => some '\t'
  | 'n' => some '\n'
  | 'f' => some '\x0c'
  | 'r' => some '\r'
  | '\x22' => some '\x22'
  | '\\' => some '\\'
  | _ => none

/-- Puts a character in front of what was read. -/
def consRead (c : Option Char) (rest : Option (List Char × List Char)) :
    Option (List Char × List Char) := do
  let c ← c
  let (cs, after) ← rest
  return (c :: cs, after)

/-- Reads a string in double quotes from behind the opening quote. -/
def basicString : List Char → Option (List Char × List Char)
  | [] => none
  | '\x22' :: rest => some ([], rest)
  | '\\' :: 'u' :: a :: b :: c :: d :: rest => consRead (scalar? [a, b, c, d]) (basicString rest)
  | '\\' :: 'U' :: a :: b :: c :: d :: e :: f :: g :: h :: rest =>
    consRead (scalar? [a, b, c, d, e, f, g, h]) (basicString rest)
  | '\\' :: e :: rest => consRead (escaped? e) (basicString rest)
  | c :: rest => if isPlain c && c != '\\' then consRead (some c) (basicString rest) else none

/-- Reads a string in single quotes from behind the opening quote. -/
def literalString : List Char → Option (List Char × List Char)
  | [] => none
  | '\x27' :: rest => some ([], rest)
  | c :: rest => if isPlain c then consRead (some c) (literalString rest) else none

/-- Where a reader of several lines stands. -/
inductive Spot
  /-- In the text. -/
  | inside
  /-- Behind a backslash that ends the line: only blanks may come before the line end. -/
  | lineEnd
  /-- Behind such a line end: blanks and line ends are passed over. -/
  | skipping
  deriving DecidableEq, Repr

/-- Reads a string of several lines in double quotes from behind the opening quotes. The last two of
    up to five quotes at the end belong to the text. -/
def basicLines : Spot → List Char → Option (List Char × List Char)
  | .lineEnd, ' ' :: rest | .lineEnd, '\t' :: rest => basicLines .lineEnd rest
  | .lineEnd, '\n' :: rest | .lineEnd, '\r' :: '\n' :: rest => basicLines .skipping rest
  | .lineEnd, _ => none
  | .skipping, ' ' :: rest | .skipping, '\t' :: rest | .skipping, '\n' :: rest
  | .skipping, '\r' :: '\n' :: rest => basicLines .skipping rest
  | _, [] => none
  | _, '\x22' :: '\x22' :: '\x22' :: '\x22' :: '\x22' :: rest => some (['\x22', '\x22'], rest)
  | _, '\x22' :: '\x22' :: '\x22' :: '\x22' :: rest => some (['\x22'], rest)
  | _, '\x22' :: '\x22' :: '\x22' :: rest => some ([], rest)
  | _, '\\' :: 'u' :: a :: b :: c :: d :: rest =>
    consRead (scalar? [a, b, c, d]) (basicLines .inside rest)
  | _, '\\' :: 'U' :: a :: b :: c :: d :: e :: f :: g :: h :: rest =>
    consRead (scalar? [a, b, c, d, e, f, g, h]) (basicLines .inside rest)
  | _, '\\' :: '\r' :: '\n' :: rest => basicLines .skipping rest
  | _, '\\' :: e :: rest =>
    if e == '\n' then basicLines .skipping rest
    else if isSpace e then basicLines .lineEnd rest
    else consRead (escaped? e) (basicLines .inside rest)
  | _, '\r' :: '\n' :: rest => consRead (some '\n') (basicLines .inside rest)
  | _, c :: rest =>
    if (isPlain c && c != '\\') || c == '\n' then consRead (some c) (basicLines .inside rest)
    else none

/-- Reads a string of several lines in single quotes from behind the opening quotes. -/
def literalLines : List Char → Option (List Char × List Char)
  | [] => none
  | '\x27' :: '\x27' :: '\x27' :: '\x27' :: '\x27' :: rest => some (['\x27', '\x27'], rest)
  | '\x27' :: '\x27' :: '\x27' :: '\x27' :: rest => some (['\x27'], rest)
  | '\x27' :: '\x27' :: '\x27' :: rest => some ([], rest)
  | '\r' :: '\n' :: rest => consRead (some '\n') (literalLines rest)
  | c :: rest =>
    if isPlain c || c == '\n' then consRead (some c) (literalLines rest) else none

/-- The text without a line end at its front. -/
def dropNewline : List Char → List Char
  | '\n' :: cs => cs
  | '\r' :: '\n' :: cs => cs
  | cs => cs

namespace Reader

/-- Reads a string within one line. -/
def lineString : Reader String
  | '\x22' :: rest => (basicString rest).map fun (s, after) => (String.ofList s, after)
  | '\x27' :: rest => (literalString rest).map fun (s, after) => (String.ofList s, after)
  | _ => none

/-- Reads a string. A line end right behind three opening quotes does not belong to it. -/
def string : Reader String
  | '\x22' :: '\x22' :: '\x22' :: rest =>
    (basicLines .inside (dropNewline rest)).map fun (s, after) => (String.ofList s, after)
  | '\x27' :: '\x27' :: '\x27' :: rest =>
    (literalLines (dropNewline rest)).map fun (s, after) => (String.ofList s, after)
  | cs => lineString cs

end Reader

end UsbSession.Toml
