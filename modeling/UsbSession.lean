import UsbSession.Main
import UsbSession.Scenario.World
import UsbSession.Proofs.Calls
import UsbSession.Proofs.Overlap.Crowd
import UsbSession.Proofs.Overlap.Exclusion
import UsbSession.Proofs.Overlap.Closing
import UsbSession.Proofs.Connect.Attempt
import UsbSession.Proofs.Connect.Outcome
import UsbSession.Proofs.Life.Conduct
import UsbSession.Proofs.Life.Opening
import UsbSession.Proofs.Life.Annals
import UsbSession.Proofs.Life.Cycle
import UsbSession.Proofs.Life.Custody
import UsbSession.Proofs.Life.Ledger
import UsbSession.Proofs.Overlap.Rest
import UsbSession.Proofs.Overlap.Handle
import UsbSession.Proofs.Overlap.Deadlock
import UsbSession.Proofs.Transfer.Integrity
import UsbSession.Proofs.Binding.Kinds
import UsbSession.Proofs.Binding.Fixed
import UsbSession.Proofs.Life.Privacy
import UsbSession.Proofs.Failures.World
import UsbSession.Proofs.Settings.Declared
import UsbSession.Proofs.Toml.Scalars
import UsbSession.Proofs.Toml.Sheets
import UsbSession.Proofs.Toml.Records
import UsbSession.Proofs.Files
import UsbSession.Proofs.Settings.Storage
import UsbSession.Proofs.Guise.Connect
import UsbSession.Proofs.Guise.World
import UsbSession.Proofs.Life.Debug
import UsbSession.Proofs.Guise.Later
import UsbSession.Proofs.Life.Effects
import UsbSession.Proofs.Life.Independence
import UsbSession.Proofs.Binding.Choice
import UsbSession.Proofs.Transfer.Repetition
import UsbSession.Proofs.Transfer.Deadline
import UsbSession.Proofs.Overlap.Deadline
import UsbSession.Proofs.Transfer.Draining
import UsbSession.Proofs.Connect.Listing
import UsbSession.Proofs.Settings.Keeping
import UsbSession.Proofs.Payload.Grammar
import UsbSession.Proofs.Payload.Parts
import UsbSession.Proofs.Settings.Overrides
import UsbSession.Proofs.Numerals
import UsbSession.Proofs.Id
import UsbSession.Proofs.Toml.Sound
import UsbSession.Proofs.Toml.Order
import UsbSession.Proofs.Settings.Draft
import UsbSession.Proofs.Settings.Loading
