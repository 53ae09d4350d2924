import UsbSession.Tool

/-!
# The program

Reads what a run of the tool may look at from the file system, runs it, and brings what it leaves to
the file system, the standard output and the standard error. There is no host library to link to, so
no context can be made.
-/

namespace UsbSession.Program

/-- The text of a place. -/
def pathOf (p : Place) : String := "/" ++ "/".intercalate p

/-- What is at a place of the file system. -/
def nodeAt (p : Place) : IO (Option Node) := do
  let path := (← IO.currentDir) / pathOf p
  if ← path.isDir then return some .directory
  if ← path.pathExists then
    let bytes ← IO.FS.readBinFile path
    return some (.file ((String.fromUTF8? bytes).elim .binary .text))
  return none

/-- Looks at what is on the way to the end of a path. -/
def look (files : Files) (path : String) : IO Files := do
  let mut found := files
  let mut p := files.start path
  for name in Files.names path do
    p := Files.next p name
    if let some node ← nodeAt p then found := found.put p node
  return found

/-- Makes what a run has made. -/
def keep (before after : Files) : IO Unit := do
  for (p, node) in after.nodes.reverse do
    if before.node? p != some node then
      match node with
      | .directory => IO.FS.createDirAll (pathOf p)
      | .file (.text s) => IO.FS.writeFile (pathOf p) s
      | .file .binary => pure ()

/-- The surroundings of the program. -/
def environment : IO Environment := do
  return {
    home := (← IO.getEnv "HOME").getD ""
    configHome := ← IO.getEnv "XDG_CONFIG_HOME"
    logFilter := ← IO.getEnv "RUST_LOG" }

/-- Runs the tool once; the result is how the run ended. -/
def run (words : List String) : IO UInt32 := do
  let env ← environment
  let mut files : Files := { working := Files.names (← IO.currentDir).toString }
  for depth in List.range files.working.length do
    files := files.put (files.working.take (depth + 1)) .directory
  for path in Tool.pathsOf env words do
    files ← look files path
  let done := Tool.run ⟨env, files, .error .notSupported⟩ words
  keep files done.files
  for line in done.output do
    IO.println line
  IO.eprint done.complaint
  return UInt32.ofNat done.exit

end UsbSession.Program

/-- The program. -/
def main (words : List String) : IO UInt32 := UsbSession.Program.run words
