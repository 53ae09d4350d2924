import UsbSession.Text.Pieces

/-!
# Files

A tree of directories and files, as far as reading and writing configuration files needs one: there
are no links and no permissions, and one working directory.

A path is a text. Its names are gone along one after the other (`Files.walk`), and every name but
the last has to be that of a directory.

* `Files.node?_put`: writing changes one place only.
-/

namespace UsbSession

/-- What a file holds. -/
inductive Content
  | text (s : String)
  /-- Bytes that are no text. -/
  | binary
  deriving DecidableEq, Repr, Inhabited

/-- The names that lead from the root to a place. -/
abbrev Place := List String

/-- What is at a place. -/
inductive Node
  | directory
  | file (content : Content)
  deriving DecidableEq, Repr, Inhabited

/-- A tree of directories and files. The root is always there. -/
structure Files where
  /-- What is at the places below the root. -/
  nodes : List (Place × Node) := []
  /-- The working directory. -/
  working : Place := []
  deriving DecidableEq, Repr, Inhabited

namespace Files

/-- Why reading or writing failed. -/
inductive Failure
  | missing
  | exists
  | notDirectory
  | isDirectory
  /-- A name or the whole path is too long. -/
  | tooLong
  /-- The path has a zero character, so it is none at all. -/
  | noPath
  | notText
  deriving DecidableEq, Repr, Inhabited

/-- The text of the failure. -/
def Failure.message : Failure → String
  | missing => "No such file or directory (os error 2)"
  | .exists => "File exists (os error 17)"
  | notDirectory => "Not a directory (os error 20)"
  | isDirectory => "Is a directory (os error 21)"
  | tooLong => "File name too long (os error 36)"
  | noPath => "file name contained an unexpected NUL byte"
  | notText => "stream did not contain valid UTF-8"

/-! ## Places -/

/-- What is at a place. -/
def node? (fs : Files) (p : Place) : Option Node :=
  if p = [] then some .directory else fs.nodes.lookup p

/-- Puts something at a place. -/
def put (fs : Files) (p : Place) (n : Node) : Files :=
  { fs with nodes := (p, n) :: fs.nodes.filter fun entry => entry.1 != p }

theorem node?_put (fs : Files) {p : Place} (n : Node) (q : Place) (hp : p ≠ []) :
    (fs.put p n).node? q = if q = p then some n else fs.node? q := by
  simp only [node?, put]
  by_cases hq : q = p
  · simp [hq, hp]
  · have keep : List.lookup q (fs.nodes.filter fun entry => entry.1 != p) = fs.nodes.lookup q := by
      induction fs.nodes with
      | nil => rfl
      | cons entry rest ih =>
        obtain ⟨r, m⟩ := entry
        by_cases hr : r = p
        · have hqr : (q == r) = false := by rw [hr]; simpa using hq
          rw [List.filter_cons_of_neg (by simp [hr]), List.lookup_cons, hqr, ih]
        · rw [List.filter_cons_of_pos (by simp [hr]), List.lookup_cons, List.lookup_cons, ih]
    have hqp : (q == p) = false := by simpa using hq
    simp [hq, List.lookup_cons, hqp, keep]

/-! ## Paths -/

/-- The names on a path. -/
def names (path : String) : List String :=
  ((Text.pieces (· == '/') path.toList).filter (!·.isEmpty)).map String.ofList

/-- Where a path starts. -/
def start (fs : Files) (path : String) : Place :=
  if path.toList.head? = some '/' then [] else fs.working

/-- Whether a path ends in a slash. -/
def endsInSlash (path : String) : Bool := path.toList.getLast? == some '/'

/-- The place that a name leads to. -/
def next (p : Place) (name : String) : Place :=
  if name = "." then p else if name = ".." then p.dropLast else p ++ [name]

/-- How many bytes a name may have. -/
def nameLimit : Nat := 255

/-- How many bytes a path may have. -/
def pathLimit : Nat := 4095

/-- Goes along names. There need not be anything at the last place. -/
def walk (fs : Files) : Place → List String → Except Failure Place
  | p, [] => .ok p
  | p, name :: rest =>
    match fs.node? p with
    | none => .error .missing
    | some (.file _) => .error .notDirectory
    | some .directory =>
      if nameLimit < name.utf8ByteSize then .error .tooLong else walk fs (next p name) rest

/-- The place that a path leads to, before a slash at its end is looked at. -/
def locate (fs : Files) (path : String) : Except Failure Place :=
  if path.toList.contains '\x00' then .error .noPath
  else if path = "" then .error .missing
  else if pathLimit < path.utf8ByteSize then .error .tooLong
  else fs.walk (fs.start path) (names path)

/-- What a path leads to. -/
def find (fs : Files) (path : String) : Except Failure Node := do
  let p ← fs.locate path
  match fs.node? p with
  | none => .error .missing
  | some (.file content) =>
    if endsInSlash path then .error .notDirectory else .ok (.file content)
  | some .directory => .ok .directory

/-- Whether a path leads to anything. -/
def isThere (fs : Files) (path : String) : Bool := (fs.find path).isOk

/-- The text of a file. -/
def read (fs : Files) (path : String) : Except Failure String := do
  match ← fs.find path with
  | .directory => .error .isDirectory
  | .file .binary => .error .notText
  | .file (.text s) => .ok s

/-- Writes a file. -/
def write (fs : Files) (path : String) (text : String) : Except Failure Files := do
  let p ← fs.locate path
  if endsInSlash path || fs.node? p == some .directory then .error .isDirectory
  else .ok (fs.put p (.file (.text text)))

/-- Makes a directory, unless there is one; all but the last of its names have to be there. -/
def make (fs : Files) (path : String) : Except Failure Files := do
  let p ← fs.locate path
  match fs.node? p with
  | none => .ok (fs.put p .directory)
  | some .directory => .ok fs
  | some (.file _) => .error .exists

/-- Makes a directory and those above it that are missing. The paths come longest first. What was
    made before a failure stays. -/
def makeAll (fs : Files) : List String → Except Failure Unit × Files
  | [] => (.ok (), fs)
  | path :: above =>
    match fs.make path with
    | .ok made => (.ok (), made)
    | .error .missing =>
      match fs.makeAll above with
      | (.error e, made) => (.error e, made)
      | (.ok (), made) =>
        match made.make path with
        | .ok all => (.ok (), all)
        | .error e => (.error e, made)
    | .error e => (.error e, fs)

/-- The paths of the directories on the way to the last name of a path, the longest first. -/
def parents (path : String) : List String :=
  let root := if path.toList.head? = some '/' then "/" else ""
  let above := ((names path).filter (· != ".")).dropLast
  (List.range above.length).reverse.map fun i => root ++ "/".intercalate (above.take (i + 1))

/-- Makes the directories that a file of the path needs. -/
def makeParents (fs : Files) (path : String) : Except Failure Unit × Files :=
  fs.makeAll (parents path)

end Files

/-- A path behind another one. -/
def joinPath (first second : String) : String :=
  if second.toList.head? = some '/' || first = "" then second
  else if Files.endsInSlash first then first ++ second
  else first ++ "/" ++ second

end UsbSession
