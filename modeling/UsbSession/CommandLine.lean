import UsbSession.CommandLine.Reading
import UsbSession.Settings

/-!
# The command line of the tool

There are four commands (`Verb`). Some switches go with every command and may also stand in front of
it; where they do both, the one behind counts (`Globals.merge`). What is read in the end is an
`Invocation`.
-/

namespace UsbSession.CommandLine

/-! ## What a command line says -/

/-- What can be said with every command. -/
structure Globals where
  /-- The path of the configuration file. -/
  config : Option String := none
  /-- The log filter. -/
  logLevel : Option String := none
  /-- Whether results are printed as JSON. -/
  json : Bool := false
  /-- Whether log lines leave out the target. -/
  compactLogs : Bool := false
  overrides : Settings.Overrides := {}
  deriving DecidableEq, Repr, Inhabited

/-- What is said in front of a command and behind it as one; the latter counts more. -/
def Globals.merge (front behind : Globals) : Globals where
  config := behind.config.or front.config
  logLevel := behind.logLevel.or front.logLevel
  json := front.json || behind.json
  compactLogs := front.compactLogs || behind.compactLogs
  overrides := front.overrides.merge behind.overrides

/-- Which device is meant. -/
structure Selection where
  vendor : Option Id := none
  product : Option Id := none
  /-- Whether the device is reset before it is claimed. -/
  reset : Bool := false
  deriving DecidableEq, Repr, Inhabited

/-- The commands. -/
inductive Command
  /-- List the devices with the ids. -/
  | list (vendor product : Option Id)
  /-- Connect to a device and tell what was claimed. -/
  | inspect (device : Selection)
  /-- Send a payload and print the reply; the timeout is in milliseconds. -/
  | echo (device : Selection) (payload : String) (readSize timeout : Nat)
  /-- Write the default configuration. -/
  | initConfig (force : Bool)
  deriving DecidableEq, Repr, Inhabited

/-- What the tool is asked to do. -/
structure Invocation where
  globals : Globals
  command : Command
  deriving DecidableEq, Repr, Inhabited

/-! ## How it is said -/

/-- The name of the tool. -/
def program : String := "zerousb"

/-- All that the words of a level can say. -/
structure Draft where
  globals : Globals := {}
  device : Selection := {}
  payload : Option String := none
  readSize : Nat := 64
  timeout : Nat := 0
  force : Bool := false
  deriving DecidableEq, Repr, Inhabited

open Switch (flag option)

/-- Asks for help. -/
def helpSwitch : Switch Draft := { name := "help", letter := some 'h', effect := .stop .help }

/-- Asks for the version. -/
def versionSwitch : Switch Draft :=
  { name := "version", letter := some 'V', effect := .stop .version }

/-- Takes a text as it is. -/
def readText (text : String) : Except ValueError String := .ok text

/-- Reads an id. -/
def readId (text : String) : Except ValueError Id := (Id.parse text).mapError .numeral

/-- The switches that go with every command. -/
def globalSwitches : List (Switch Draft) := [
  option "config" "PATH" readPath (fun v d => { d with globals.config := some v }) (some 'c'),
  option "log-level" "LEVEL" readText (fun v d => { d with globals.logLevel := some v }) (some 'l'),
  flag "json" fun d => { d with globals.json := true },
  flag "compact-logs" fun d => { d with globals.compactLogs := true },
  option "interface" "INTERFACE" readSmall fun v d =>
    { d with globals.overrides.interface := some v },
  option "configuration" "CONFIGURATION" readSmall fun v d =>
    { d with globals.overrides.configuration := some v },
  option "endpoint-in" "ENDPOINT_IN" readByte fun v d =>
    { d with globals.overrides.endpointIn := some v },
  option "endpoint-out" "ENDPOINT_OUT" readByte fun v d =>
    { d with globals.overrides.endpointOut := some v },
  flag "debug" fun d => { d with globals.overrides.debug := true },
  flag "retry-zero-length" fun d => { d with globals.overrides.retryZeroLength := true },
  helpSwitch]

/-- The switches that name a device. -/
def idSwitches : List (Switch Draft) := [
  option "vendor" "VENDOR" readId (fun v d => { d with device.vendor := some v }) (some 'v'),
  option "product" "PRODUCT" readId (fun v d => { d with device.product := some v }) (some 'p')]

/-- The switches that choose a device to connect to. -/
def deviceSwitches : List (Switch Draft) :=
  idSwitches ++ [flag "reset" fun d => { d with device.reset := true }]

/-- A command, by its name alone. -/
inductive Verb
  | list
  | inspect
  | echo
  | initConfig
  deriving DecidableEq, Repr, Inhabited

namespace Verb

/-- The commands with their names. -/
def named : List (String × Verb) :=
  [("list", list), ("inspect", inspect), ("echo", echo), ("init-config", initConfig)]

/-- The words that go with a command. -/
def level : Verb → Level Draft
  | list => { switches := idSwitches ++ globalSwitches }
  | inspect => { switches := deviceSwitches ++ globalSwitches }
  | echo =>
    { switches := deviceSwitches ++ [
        option "read-size" "READ_SIZE" readWord fun v d => { d with readSize := v },
        option "timeout" "TIMEOUT" readWord fun v d => { d with timeout := v }] ++ globalSwitches
      operand := some fun text d => { d with payload := some text } }
  | initConfig =>
    { switches := flag "force" (fun d => { d with force := true }) :: globalSwitches }

/-- The command that the words say. -/
def command (d : Draft) : Verb → Except Stop Command
  | list => .ok (.list d.device.vendor d.device.product)
  | inspect => .ok (.inspect d.device)
  | echo =>
    match d.payload with
    | some payload => .ok (.echo d.device payload d.readSize d.timeout)
    | none => .error (.misuse (.noOperand "<PAYLOAD>"))
  | initConfig => .ok (.initConfig d.force)

end Verb

/-- The name of the command that shows help. -/
def helpName : String := "help"

/-- The names of all commands. -/
def commandNames : List String := Verb.named.map Prod.fst ++ [helpName]

/-- The words in front of a command. -/
def frontLevel : Level Draft where
  switches := versionSwitch :: globalSwitches
  commands := commandNames

/-- Shows help about a command, if it is one. -/
def helpAbout : List String → Stop
  | [] => .help
  | name :: words =>
    if name ∈ commandNames then
      match words with
      | [] => .help
      | word :: _ => .misuse (.unknownCommand word)
    else .misuse (.unknownCommand name)

/-- Reads the words behind the name of a command. -/
def readVerb (verb : Verb) (words : List String) : Except Stop (Draft × Command) := do
  let (reading, _) ← verb.level.read { record := {} } words
  let settled ← reading.settle
  return (settled.record, ← verb.command settled.record)

/-- Reads a command line. What is pending in front of the command is looked at last. -/
def read (words : List String) : Except Stop Invocation := do
  let (reading, found) ← frontLevel.read { record := {} } words
  match found with
  | none =>
    let settled ← reading.settle
    .error (if settled.seen = [] then .bare else .misuse (.noCommand program))
  | some (name, rest) =>
    match Verb.named.lookup name with
    | none => .error (helpAbout rest)
    | some verb =>
      let (behind, command) ← readVerb verb rest
      let settled ← reading.settle
      return { globals := settled.record.globals.merge behind.globals, command }

end UsbSession.CommandLine
