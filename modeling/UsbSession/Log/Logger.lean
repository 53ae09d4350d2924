import UsbSession.Fault

/-!
# Log output

A logger lets some events through and writes a line for each. It can be installed once
(`Logger.install`).

* `Logger.install_some`: a second logger is never installed.
-/

namespace UsbSession.Log

/-- What is written for events. -/
structure Logger where
  /-- Which events are let through. -/
  filter : Filter
  /-- Whether lines leave out the target. -/
  compact : Bool := false
  deriving DecidableEq, Repr

namespace Logger

/-- Installs a logger where there is none: with the filter of the surroundings, if there is one that
    can be read, or else with that of the text. -/
def install (installed : Option Logger) (override : Option String) (text : String)
    (compact : Bool) : Except ConfigError Logger :=
  match Filter.choose override text, installed with
  | .error e, _ => .error (.filter e)
  | .ok _, some _ => .error .loggerInstalled
  | .ok filter, none => .ok { filter, compact }

theorem install_some (logger : Logger) (override : Option String) (text : String)
    (compact : Bool) : (install (some logger) override text compact).isOk = false := by
  simp only [install]
  split <;> simp_all [Except.isOk, Except.toBool]

/-- The columns of the name of a level. -/
def levelWidth : Nat := 5

/-- The line of an event. -/
def line (l : Logger) (e : Event) : String :=
  let level := String.ofList (List.replicate (levelWidth - e.level.name.length) ' ') ++ e.level.name
  if l.compact then s!"{level} {e.message}" else s!"{level} {e.target}: {e.message}"

/-- The lines of the events that are let through. -/
def lines (l : Logger) (events : List Event) : List String :=
  (events.filter l.filter.lets).map l.line

end Logger

end UsbSession.Log
