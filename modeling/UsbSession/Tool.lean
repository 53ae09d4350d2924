import UsbSession.Host.System
import UsbSession.Settings.Store
import UsbSession.Tool.Job

/-!
# The tool

A run of the tool, from the words of the command line to what is printed and how the run ends
(`Tool.run`). Only writing the default configuration changes files, and only the other commands
reach the host.

* `Tool.files_run_of_ne_initConfig`: no other command changes files.
-/

namespace UsbSession.Tool

open CommandLine (Invocation Stop)
open Log (Logger)

/-- What a run starts from. -/
structure Surroundings where
  environment : Environment
  files : Files
  /-- The host, unless a context of it cannot be made. -/
  host : Except Failure Bus

/-- How a run ended, and what it left. -/
structure Run where
  /-- Zero for success, one for failure, two for a command line that makes no sense. -/
  exit : Nat := 0
  /-- The lines on the standard output. -/
  output : List String := []
  /-- The text on the standard error. -/
  complaint : String := ""
  /-- The host calls, if a context was made. -/
  calls : Option (List (Nat × Call)) := none
  files : Files

/-! ## Runs without a host -/

/-- The version of the tool. -/
def version : String := "0.1.0"

/-- What the tool is for. -/
def purpose : String := "Talk to generic USB devices over bulk and interrupt endpoints"

/-- The lines of help. -/
def helpLines : List String :=
  [purpose, "", s!"Usage: {CommandLine.program} [OPTIONS] <COMMAND>", "", "Commands:"] ++
    CommandLine.commandNames.map ("  " ++ ·)

/-- The run of a command line that asks for no command. The standard error is no terminal. -/
def stopped (files : Files) : Stop → Run
  | .misuse m => { exit := 2, complaint := Text.Terminal.shown m.report, files }
  | .bare => { exit := 2, complaint := String.join (helpLines.map (· ++ "\n")), files }
  | .help => { output := helpLines, files }
  | .version => { output := [s!"{CommandLine.program} {version}"], files }

/-- The run that ends with a report. -/
def failed (files : Files) (r : Report) : Run := { exit := 1, complaint := r.render, files }

/-- Writes the default configuration, but not over anything unless forced. Whether anything is there
    is asked of the path as it was given. -/
def initConfig (s : Surroundings) (path : Option String) (force : Bool) : Run :=
  let path := path.getD s.environment.configPath
  if s.files.isThere path && !force then
    failed s.files ⟨s!"{path} already exists, pass --force to overwrite", []⟩
  else
    match (Settings.save s.environment s.files {} path).value with
    | (.error f, files) => failed files ((Report.ofFault f).during "Failed to save configuration")
    | (.ok (), files) => { output := Text.lines s!"Configuration saved to: {path}", files }

/-! ## Runs with a host -/

/-- The settings of a run. A configuration file that was named has to be good; one that was found
    may be bad, and then the defaults are used. -/
def settingsFor (s : Surroundings) (g : CommandLine.Globals) : Except Report Settings :=
  match g.config with
  | some path =>
    (Settings.load s.environment s.files (some path)).value.mapError fun f =>
      (Report.ofFault f).during "Failed to load configuration"
  | none => .ok (Settings.loadOrDefault s.environment s.files).value

/-- The settings and the logger of a run. Until there is a logger, events are lost. -/
def prepare (s : Surroundings) (g : CommandLine.Globals) : Except Report (Settings × Logger) := do
  let (settings, checked) := ((← settingsFor s g).overrideChecked g.overrides).value
  match checked with
  | .error e => .error ((Report.ofFault (.config e)).during "Invalid command-line options")
  | .ok () =>
    let level := g.logLevel.getD settings.logLevel
    match Logger.install none s.environment.logFilter level g.compactLogs with
    | .error e => .error ((Report.ofFault (.config e)).during "Failed to setup logging")
    | .ok logger => .ok (settings, logger)

/-- A run that ends with a result. -/
def ended (files : Files) : Except Report Unit → Run
  | .ok () => { files }
  | .error r => failed files r

/-- Makes a context of the host and does the job of a command. -/
def withHost (s : Surroundings) (i : Invocation) (settings : Settings) (logger : Logger) : Run :=
  match s.host with
  | .error code =>
    { failed s.files ((Report.ofError (.initialization code)).during "Failed to initialize USB")
        with output := logger.lines [.started] }
  | .ok bus =>
    let driven := { bus with devices := bus.devices.map Host.onSystem }
    let done := (Job.ofCommand i.globals.json settings i.command).withContext.run driven
    { ended s.files done.value with
      output := logger.lines [.started] ++ done.trace.flatMap (Output.shown logger)
      calls := some (Host.arriving driven [] (Output.marks done.trace)) }

/-- Runs a command. -/
def runCommand (s : Surroundings) (i : Invocation) : Run :=
  match i.command with
  | .initConfig force => initConfig s i.globals.config force
  | .list .. | .inspect _ | .echo .. =>
    match prepare s i.globals with
    | .error r => failed s.files r
    | .ok (settings, logger) => withHost s i settings logger

/-- The paths that a run with these words may look at. -/
def pathsOf (env : Environment) (words : List String) : List String :=
  let named := match CommandLine.read words with
    | .ok i => i.globals.config.toList
    | .error _ => []
  named ++ named.map env.expand ++ env.searchPaths

/-- Runs the tool with the words of a command line. -/
def run (s : Surroundings) (words : List String) : Run :=
  match CommandLine.read words with
  | .error stop => stopped s.files stop
  | .ok i => runCommand s i

@[simp] theorem files_ended (files : Files) (result : Except Report Unit) :
    (ended files result).files = files := by
  cases result <;> rfl

theorem files_run_of_ne_initConfig {s : Surroundings} {i : Invocation}
    (h : ∀ force, i.command ≠ .initConfig force) : (runCommand s i).files = s.files := by
  have hostless (settings : Settings) (logger : Logger) :
      (withHost s i settings logger).files = s.files := by
    simp only [withHost]
    split
    · rfl
    · simp
  simp only [runCommand]
  split
  · next force hc => exact absurd hc (h force)
  all_goals
    split
    · rfl
    · exact hostless _ _

end UsbSession.Tool
