import Mathlib.Tactic.Common
import UsbSession.Proofs.Calls

/-!
# One attempt to connect

What opening a session on one candidate comes to, as a function of the script of the device
(`Manager.does_openSession`): whether the device refuses (`Manager.refusal?`), the calls that are
made (`Manager.attemptCalls`), and what is left of the device (`Manager.attempted`).

Only three calls can make the device refuse: open, set configuration and claim. The others may fail
without that (`Manager.refusal?_of_agrees`), but a failed get configuration has the configuration
selected that was active already.
-/

namespace UsbSession

open Traced (Does)

/-! ## What the script decides -/

/-- The script after a configuration was selected, if it could be. -/
def Script.selecting (number : UInt8) (sc : Script) : Script :=
  if sc.setConfigurationError.isSome then sc else { sc with activeConfiguration := number }

/-- The scripts differ at most in failures that do not keep a session from being opened. A failure
    to tell the active configuration is one, if the configuration can be selected. -/
structure Script.Agrees (sc sc' : Script) : Prop where
  openError : sc.openError = sc'.openError
  activeConfiguration : sc.activeConfiguration = sc'.activeConfiguration
  getConfigurationError :
    sc.getConfigurationError = sc'.getConfigurationError ∨ sc.setConfigurationError = none
  setConfigurationError : sc.setConfigurationError = sc'.setConfigurationError
  claimError : sc.claimError = sc'.claimError

theorem Device.setConfiguration_eq (number : UInt8) (d : Device) :
    d.setConfiguration number = (answering d.script.setConfigurationError (),
      { d with script := d.script.selecting number }) := by
  unfold setConfiguration
  split <;> rename_i herror <;> simp [answering, Script.selecting, herror]

theorem Act.does_setConfiguration (number : UInt8) (p : Clocked) :
    Does Entry.call? (setConfiguration number) p
      (answering p.device.script.setConfigurationError ()) [.setConfiguration number]
      { p with device.script := p.device.script.selecting number } := by
  have h := does_call p (.setConfiguration number) (Device.setConfiguration number)
  rwa [Device.setConfiguration_eq] at h

theorem Device.openHandle_eq (d : Device) :
    d.openHandle = (answering d.script.openError (),
      { d with openHandles := d.openHandles + if d.script.openError.isSome then 0 else 1 }) := by
  unfold openHandle
  split <;> rename_i herror <;> simp [answering, herror]

theorem Act.does_openHandle (p : Clocked) :
    Does Entry.call? openHandle p (answering p.device.script.openError ()) [.open]
      { p with
        device.openHandles := p.device.openHandles +
          if p.device.script.openError.isSome then 0 else 1 } := by
  have h := does_call p .open Device.openHandle
  rwa [Device.openHandle_eq] at h

namespace Manager

variable (m : Manager)

section Script

variable (sc : Script)

/-- The configuration that is selected: the wanted one, unless it is known to be active. -/
def selected? : Option UInt8 :=
  m.options.configuration.filter fun wanted =>
    (answering sc.getConfigurationError sc.activeConfiguration).toOption != some wanted

/-- Why the wanted configuration cannot be selected. -/
def configurationError? : Option Failure := (m.selected? sc).bind fun _ => sc.setConfigurationError

/-- The script after the wanted configuration was selected, if it could be. -/
def configured : Script :=
  match m.selected? sc with
  | none => sc
  | some number => sc.selecting number

/-- Whether a kernel driver has to be given back in the end. -/
def owesDriver : Bool :=
  m.canDetach &&
    match sc.kernelDriverError with
    | none => sc.kernelDriverActive
    | some _ => sc.detachError.isNone

/-- Why the device refuses a session on a handle that is open. -/
def objection? (c : Candidate) : Option Error :=
  ((m.configurationError? sc).map .usb).or (sc.claimError.map (.claim c.binding.interface))

/-- Why the device refuses a session. -/
def refusal? (c : Candidate) : Option Error := (sc.openError.map .usb).or (m.objection? sc c)

/-- The session on a candidate. -/
def opened (place : Nat) (c : Candidate) : Session :=
  ⟨place, c.details, c.binding, m.options, m.owesDriver sc, .open⟩

/-- What comes of an attempt. -/
def attempt (place : Nat) (c : Candidate) : Except Error Session :=
  match m.refusal? sc c with
  | some e => .error e
  | none => .ok (m.opened sc place c)

/-- The calls that have to do with the configuration. -/
def configurationCalls : List Call :=
  match m.options.configuration with
  | none => []
  | some _ => .getConfiguration :: (m.selected? sc).toList.map .setConfiguration

/-- The calls that take the kernel driver off the interface. -/
def driverCalls (interface : UInt8) : List Call :=
  if m.canDetach then
    .kernelDriverActive interface ::
      if sc.kernelDriverError.isNone && !sc.kernelDriverActive then [] else [.detach interface]
  else []

/-- The calls that give the kernel driver back. -/
def restoreCalls (interface : UInt8) : List Call :=
  if m.owesDriver sc then [.attach interface] else []

/-- The calls from the claim on. -/
def claimCalls (interface : UInt8) : List Call :=
  .claim interface :: if sc.claimError.isSome then m.restoreCalls sc interface ++ [.close] else []

/-- The calls of an attempt. -/
def attemptCalls (c : Candidate) (reset : Bool) : List Call :=
  .open :: if sc.openError.isSome then [] else
    (if reset then [.reset] else []) ++ (m.configurationCalls sc ++
      if (m.configurationError? sc).isSome then [.close]
      else m.driverCalls sc c.binding.interface ++ m.claimCalls sc c.binding.interface)

end Script

/-- The device after an attempt. -/
def attempted (d : Device) (c : Candidate) : Device :=
  if d.script.openError.isSome then d else
    { d with
      script := m.configured d.script
      openHandles := d.openHandles + if (m.refusal? d.script c).isSome then 0 else 1 }

/-! ## What is done -/

theorem does_selectConfiguration (p : Clocked) :
    Does Entry.call? m.selectConfiguration p
      (match m.configurationError? p.device.script with
        | none => .ok ()
        | some code => .error (.usb code))
      (m.configurationCalls p.device.script)
      { p with device.script := m.configured p.device.script } := by
  unfold selectConfiguration configurationError? configurationCalls configured selected?
  cases m.options.configuration with
  | none => exact .pure _ _
  | some wanted =>
    refine (Act.does_ask p _ _).bind ?_
    by_cases hactive : (answering p.device.script.getConfigurationError
        p.device.script.activeConfiguration).toOption = some wanted
    · rw [if_pos (by rw [hactive]; exact beq_self_eq_true _)]
      simp only [Option.filter_some, hactive, bne_self_eq_false, Bool.false_eq_true, if_false]
      exact (Act.does_log p _).bind_silent (.pure _ _)
    · rw [if_neg (by simpa using hactive)]
      have hselected : ((answering p.device.script.getConfigurationError
          p.device.script.activeConfiguration).toOption != some wanted) = true := by
        simpa using hactive
      simp only [Option.filter_some, hselected, if_true, Option.bind_some]
      have hselect := Act.does_setConfiguration wanted p
      -- The two ways to come here differ in the log event only.
      cases answering p.device.script.getConfigurationError p.device.script.activeConfiguration <;>
      · refine (Act.does_log p _).bind_silent (hselect.bind_pure ?_)
        cases p.device.script.setConfigurationError with
        | none => exact .pure _ _
        | some code => exact (Act.does_log _ _).bind_silent (.pure _ _)

theorem does_detachDriver (interface : UInt8) (p : Clocked) :
    Does Entry.call? (m.detachDriver interface) p (m.owesDriver p.device.script)
      (m.driverCalls p.device.script interface) p := by
  unfold detachDriver owesDriver driverCalls
  cases m.canDetach with
  | false => exact .pure _ _
  | true =>
    rw [if_pos rfl, if_pos rfl]
    refine (Act.does_ask p _ _).bind ?_
    cases herror : p.device.script.kernelDriverError with
    | none =>
      cases hactive : p.device.script.kernelDriverActive with
      | false => exact (Act.does_log p _).bind_silent (.pure _ _)
      | true =>
        refine (Act.does_log p _).bind_silent ((Act.does_ask p _ _).bind_pure ?_)
        cases p.device.script.detachError with
        | none => exact .pure _ _
        | some code => exact (Act.does_log p _).bind_silent (.pure _ _)
    | some code =>
      -- Where it is not known whether there is a driver, it is taken off all the same.
      refine (Act.does_log p _).bind_silent ((Act.does_ask p _ _).bind_pure ?_)
      cases p.device.script.detachError with
      | none => exact .pure _ _
      | some code => exact (Act.does_log p _).bind_silent (.pure _ _)

theorem does_claimInterface (place : Nat) (c : Candidate) (p : Clocked) :
    Does Entry.call? (m.claimInterface place c) p
      (match p.device.script.claimError with
        | none => .ok (m.opened p.device.script place c)
        | some code => .error (.claim c.binding.interface code))
      (m.driverCalls p.device.script c.binding.interface ++
        m.claimCalls p.device.script c.binding.interface)
      { p with
        device.openHandles := p.device.openHandles -
          if p.device.script.claimError.isSome then 1 else 0 } := by
  unfold claimInterface claimCalls restoreCalls
  refine (m.does_detachDriver c.binding.interface p).bind ((Act.does_ask p _ _).bind ?_)
  cases p.device.script.claimError with
  | none => exact (Act.does_log p _).bind_silent (.pure _ _)
  | some code =>
    -- The driver goes back before the handle is closed, whether or not the attach fails.
    refine (Act.does_log p _).bind_silent ?_
    cases howes : m.owesDriver p.device.script with
    | false => exact (Act.does_call p _ _).bind_pure (.pure _ _)
    | true =>
      refine (Act.does_ask p _ _).bind ?_
      cases p.device.script.attachError with
      | none => exact (Act.does_call p _ _).bind_pure (.pure _ _)
      | some code =>
        exact (Act.does_log p _).bind_silent ((Act.does_call p _ _).bind_pure (.pure _ _))

/-- Selecting a configuration leaves the rest of the script as it is. -/
theorem configured_eq (sc : Script) :
    ∃ number, m.configured sc = { sc with activeConfiguration := number } := by
  unfold configured Script.selecting
  split
  · exact ⟨sc.activeConfiguration, rfl⟩
  · rename_i number _
    split
    · exact ⟨sc.activeConfiguration, rfl⟩
    · exact ⟨number, rfl⟩

/-- The wanted configuration is active, if it can be selected. -/
theorem configured_activeConfiguration {sc : Script} {number : UInt8}
    (hselect : m.configurationError? sc = none)
    (hwanted : m.options.configuration = some number) :
    (m.configured sc).activeConfiguration = number := by
  unfold configurationError? at hselect
  unfold configured
  cases hselected : m.selected? sc with
  | none =>
    -- Nothing was selected, so the wanted configuration was known to be active.
    rw [selected?, hwanted, Option.filter_some] at hselected
    split at hselected
    · cases hselected
    · rename_i hactive
      cases herror : sc.getConfigurationError with
      | none => simpa [answering, herror, Except.toOption] using hactive
      | some code => simp [answering, herror, Except.toOption] at hactive
  | some wanted =>
    have hsame : wanted = number := by
      rw [selected?, hwanted, Option.filter_some] at hselected
      split at hselected
      · exact (Option.some.inj hselected).symm
      · cases hselected
    rw [hselected, Option.bind_some] at hselect
    simp [Script.selecting, hselect, hsame]

section Configured

variable (sc : Script)

@[simp] theorem configured_claimError : (m.configured sc).claimError = sc.claimError := by
  obtain ⟨number, h⟩ := m.configured_eq sc
  rw [h]

@[simp] theorem opened_configured (place : Nat) (c : Candidate) :
    m.opened (m.configured sc) place c = m.opened sc place c := by
  obtain ⟨number, h⟩ := m.configured_eq sc
  rw [h]
  rfl

@[simp] theorem driverCalls_configured (interface : UInt8) :
    m.driverCalls (m.configured sc) interface = m.driverCalls sc interface := by
  obtain ⟨number, h⟩ := m.configured_eq sc
  rw [h]
  rfl

@[simp] theorem claimCalls_configured (interface : UInt8) :
    m.claimCalls (m.configured sc) interface = m.claimCalls sc interface := by
  obtain ⟨number, h⟩ := m.configured_eq sc
  rw [h]
  rfl

end Configured

/-- What a session on an open handle takes. -/
theorem does_configure (place : Nat) (c : Candidate) (p : Clocked) :
    Does Entry.call? (do
        match ← m.selectConfiguration with
        | .error e =>
          Act.closeHandle
          return .error e
        | .ok () => m.claimInterface place c) p
      (match m.objection? p.device.script c with
        | some e => .error e
        | none => .ok (m.opened p.device.script place c))
      (m.configurationCalls p.device.script ++
        if (m.configurationError? p.device.script).isSome then [.close]
        else m.driverCalls p.device.script c.binding.interface ++
          m.claimCalls p.device.script c.binding.interface)
      { p with
        device.script := m.configured p.device.script
        device.openHandles := p.device.openHandles -
          if (m.objection? p.device.script c).isSome then 1 else 0 } := by
  refine (m.does_selectConfiguration p).bind ?_
  unfold objection?
  -- What selecting a configuration leaves of the script does not matter to the claim.
  cases m.configurationError? p.device.script with
  | some code => exact (Act.does_call _ _ _).bind_pure (.pure _ _)
  | none =>
    have h := m.does_claimInterface place c
      { p with device.script := m.configured p.device.script }
    simp only [configured_claimError, opened_configured, driverCalls_configured,
      claimCalls_configured] at h
    revert h
    cases p.device.script.claimError <;> exact id

/-- What opening a session on a candidate does. -/
theorem does_openSession (place : Nat) (c : Candidate) (reset : Bool) (p : Clocked) :
    Does Entry.call? (m.openSession place c reset) p (m.attempt p.device.script place c)
      (m.attemptCalls p.device.script c reset) { p with device := m.attempted p.device c } := by
  unfold openSession attempt attemptCalls attempted refusal?
  refine (Act.does_openHandle p).bind ?_
  cases p.device.script.openError with
  | some code => exact .pure _ _
  | none =>
    have hhandles : p.device.openHandles + 1 -
        (if (m.objection? p.device.script c).isSome then 1 else 0) =
        p.device.openHandles + if (m.objection? p.device.script c).isSome then 0 else 1 := by
      cases m.objection? p.device.script c <;> rfl
    have h := m.does_configure place c { p with device.openHandles := p.device.openHandles + 1 }
    dsimp only at h
    rw [hhandles] at h
    cases reset with
    | false => exact h
    | true =>
      -- A reset that fails is only logged.
      refine (Act.does_ask _ _ _).bind ?_
      cases answering p.device.script.resetError () with
      | ok _ => exact h
      | error code => exact (Act.does_log _ _).bind_silent h

/-! ## What does not keep a session from being opened -/

theorem configurationError?_of_agrees {sc sc' : Script} (h : sc.Agrees sc') :
    m.configurationError? sc = m.configurationError? sc' := by
  unfold configurationError? selected?
  rw [h.setConfigurationError, h.activeConfiguration]
  rcases h.getConfigurationError with hsame | hselects
  · rw [hsame]
  · -- Whether or not the configuration is selected, that does not fail.
    rw [← h.setConfigurationError, hselects, Option.bind_fun_none, Option.bind_fun_none]

/-- Scripts that agree refuse the same sessions, for the same reason. -/
theorem refusal?_of_agrees {sc sc' : Script} (h : sc.Agrees sc') (c : Candidate) :
    m.refusal? sc c = m.refusal? sc' c := by
  unfold refusal? objection?
  rw [h.openError, m.configurationError?_of_agrees h, h.claimError]

end Manager

end UsbSession
