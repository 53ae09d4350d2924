import UsbSession.Manager

/-!
# The host library of the system

What becomes of host calls where they go through the host library of the system, which is asked to
cancel nothing (`onSystem`).

That library is no part of this one, so what is said of it here is an assumption, and no more than
it documents of itself:

* it takes timeouts in whole milliseconds of 32 bits, and zero of them for no limit
  (`wholeTimeout`);
* a handle that is closed first releases what is still claimed on it (`claimsAfter`, `arriving`).

Nothing that sessions do depends on it. It matters for the calls that a run of the tool is seen to
make, and for what the host makes of a timeout that it is given.
-/

namespace UsbSession.Host

/-- The device, where nothing that is pending can be cancelled. -/
def onSystem (d : Device) : Device :=
  { d with script.cancelError := some .notSupported }

/-- How many timeouts there are; a longer one is cut down. -/
def timeoutLimit : Nat := Text.bitLimit 32

/-- The timeout that arrives. The library is assumed to cut it down to whole milliseconds, and to
    wait without a limit where nothing is left of it. -/
def wholeTimeout (timeout : Nat) : Nat := timeout / millisecond % timeoutLimit * millisecond

/-- An interface that is claimed on a device. -/
abbrev Claim := Nat × UInt8

/-- What is claimed after a call, if the device behaves as its script says. The library is assumed
    to keep account of this for each handle. -/
def claimsAfter (script : Script) (claims : List Claim) (place : Nat) : Call → List Claim
  | .claim i => if script.claimError.isSome then claims else (place, i) :: claims
  | .release i => if script.releaseError.isSome then claims else claims.erase (place, i)
  | .close => claims.filter (·.1 != place)
  | _ => claims

/-- What arrives for one call. The library is assumed to release what is claimed before it closes a
    handle. -/
def arrivingFor (claims : List Claim) (place : Nat) : Call → List Call
  | .cancel => []
  | .transfer kind endpoint what timeout again =>
    [.transfer kind endpoint what (wholeTimeout timeout) again]
  | .close => (claims.filter (·.1 == place)).map (fun claim => Call.release claim.2) ++ [.close]
  | c => [c]

/-- The calls that arrive, each with the place of its device. -/
def arriving (bus : Bus) (claims : List Claim) : List Mark → List (Nat × Call)
  | [] => []
  | .log _ :: marks => arriving bus claims marks
  | .call place c :: marks =>
    (arrivingFor claims place c).map (place, ·) ++
      arriving bus (claimsAfter (bus.device place).script claims place c) marks

end UsbSession.Host
