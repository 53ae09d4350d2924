import UsbSession.Error
import UsbSession.Files
import UsbSession.Log.Filter
import UsbSession.Payload
import UsbSession.Toml.Misfit

/-!
# Faults

What can go wrong around the sessions: with the host, with the configuration, with files, or with
what the user asks for. A fault holds its cause (`Fault.reasons` tells it in words), so nothing that
went wrong below is lost.

* `Fault.isDisconnect_iff`: the faults of a lost device are those that hold this one cause.
-/

namespace UsbSession

/-- Why a configuration cannot be used. -/
inductive ConfigError
  /-- The log filter cannot be read. -/
  | filter (e : Log.FilterError)
  /-- Log lines are being written already. -/
  | loggerInstalled
  /-- There is no configuration file. -/
  | noFile
  /-- A file holds a value that does not fit or, without one, no TOML at all. -/
  | unreadable (path : String) (misfit : Option Toml.Misfit)
  /-- The log level has another name than the known ones. -/
  | level (name : String)
  /-- The address to read from is one to write to. -/
  | notIncoming (address : UInt8)
  /-- The address to write to is one to read from. -/
  | notOutgoing (address : UInt8)
  deriving Repr

/-- The names of the log levels that a configuration may have. -/
def levelNames : List String := ["trace", "debug", "info", "warn", "error"]

/-- The text of the error. -/
def ConfigError.message : ConfigError → String
  | filter e => e.message
  | loggerInstalled =>
    "Failed to install logger: a global default trace dispatcher has already been set"
  | noFile => "No configuration file found"
  | unreadable path none => s!"Failed to parse config file {path}: TOML parse error"
  | unreadable path (some misfit) =>
    s!"Failed to parse config file {path}: TOML parse error: {misfit.message}"
  | level name =>
    s!"Invalid log level '{name}', must be one of: " ++ ", ".intercalate levelNames
  | notIncoming address => s!"endpoint_in {Text.byteMarked address} is not an IN address"
  | notOutgoing address => s!"endpoint_out {Text.byteMarked address} is not an OUT address"

/-- What is wrong with something that the user asks for. -/
inductive ArgumentError
  | payload (refusal : Payload.Refusal)
  /-- One of the ids that are needed to connect is missing. -/
  | noTarget (vendor product : Id)
  deriving DecidableEq, Repr

/-- The text of the error. -/
def ArgumentError.message : ArgumentError → String
  | payload refusal => refusal.message
  | noTarget vendor product =>
    s!"Both vendor and product id are required to connect (got {vendor}:{product})"

/-- Something that went wrong. -/
inductive Fault
  | usb (e : Error)
  | config (e : ConfigError)
  | files (e : Files.Failure)
  | argument (e : ArgumentError)
  deriving Repr

namespace Fault

/-- The text of the fault. -/
def message : Fault → String
  | usb e => s!"USB error: {e}"
  | config e => s!"Configuration error: {e.message}"
  | files e => s!"IO error: {e.message}"
  | argument e => s!"Invalid argument: {e.message}"

/-- The texts of what caused the fault, the nearest cause first. -/
def reasons : Fault → List String
  | usb e => e.message :: (e.code?.map Failure.message).toList
  | files e => [e.message]
  | config _ | argument _ => []

/-- Whether the device went away. -/
def isDisconnect : Fault → Bool
  | usb e => e.isDisconnect
  | config _ | files _ | argument _ => false

theorem isDisconnect_iff {f : Fault} : f.isDisconnect = true ↔ f = .usb .disconnected := by
  cases f <;> simp [isDisconnect, Error.isDisconnect]

end Fault

end UsbSession
