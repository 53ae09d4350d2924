import UsbSession.Proofs.Connect.Attempt
import UsbSession.Proofs.Failures.Audit

/-!
# Calls that fail

What a call does to a device and whether it fails is a matter of the device alone (`Device.after`,
`Device.failure?`), so the calls of an action can be made again (`Act.audit`).

* `Act.Answers.settles`: a call owes its failure to the one who has made it;
* `Act.Answers.settles_bind`: a failure that is tolerated has to be told of next.
-/

namespace UsbSession

open Log (Event)

/-! ## Calls to a device -/

/-- Why the script makes a call fail that the device answers at once, if it does. -/
def Script.failure? (sc : Script) : Call → Option Failure
  | .open => sc.openError
  | .reset => sc.resetError
  | .getConfiguration => sc.getConfigurationError
  | .setConfiguration _ => sc.setConfigurationError
  | .kernelDriverActive _ => sc.kernelDriverError
  | .detach _ => sc.detachError
  | .attach _ => sc.attachError
  | .claim _ => sc.claimError
  | .release _ => sc.releaseError
  | .cancel => sc.cancelError
  | .close | .transfer .. => none

/-- Why a call to the device fails, if it does. -/
def Device.failure? (d : Device) : Call → Option Failure
  | .transfer _ _ t _ _ => failureOf (d.enter t).1.answer
  | c => d.script.failure? c

/-- The device after a call. -/
def Device.after (d : Device) : Call → Device
  | .open => d.openHandle.2
  | .close => d.closeHandle.2
  | .setConfiguration number => (d.setConfiguration number).2
  | .transfer _ _ t _ _ => (d.enter t).2.leave t (d.enter t).1.answer
  | _ => d

namespace Act

/-- The audit of an action. -/
def audit : Audit Clocked Entry Device Call where
  view := Clocked.device
  call? := Entry.call?
  event? := Entry.event?
  failure? := Device.failure?
  after := Device.after

variable {α β : Type} {c : Call} {blames : Call → Prop} {may : Failure → Prop}
  {debt : Option Failure}

/-- The action is a call, and its result is as the device answers the call. -/
structure Answers (x : Act (Except Failure α)) (c : Call) : Prop where
  device : ∀ p, (x.run p).state.device = p.device.after c
  trace : ∀ p, (x.run p).trace = [.call c]
  value : ∀ p, failureOf (x.run p).value = p.device.failure? c

@[simp] theorem failureOf_answering (code : Option Failure) (a : α) :
    failureOf (answering code a) = code := by
  cases code <;> rfl

/-- What is only asked fails as the script says, and leaves the device as it is. -/
theorem answers_ask {code : Script → Option Failure} {a : Script → α}
    (hafter : ∀ d, Device.after d c = d) (hcode : ∀ d, Device.failure? d c = code d.script) :
    Answers (ask c fun s => answering (code s) (a s)) c where
  device p := (hafter p.device).symm
  trace _ := rfl
  value p := by rw [hcode, run_ask, failureOf_answering]

section Calls

variable (interface number : UInt8)

theorem answers_openHandle : Answers openHandle .open where
  device _ := rfl
  trace _ := rfl
  value p := by
    change failureOf p.device.openHandle.1 = _
    rw [Device.openHandle_eq, failureOf_answering]
    rfl

theorem answers_setConfiguration :
    Answers (setConfiguration number) (.setConfiguration number) where
  device _ := rfl
  trace _ := rfl
  value p := by
    change failureOf (p.device.setConfiguration number).1 = _
    rw [Device.setConfiguration_eq, failureOf_answering]
    rfl

theorem answers_reset : Answers reset .reset :=
  answers_ask (fun _ => rfl) fun _ => rfl

theorem answers_getConfiguration : Answers getConfiguration .getConfiguration :=
  answers_ask (fun _ => rfl) fun _ => rfl

theorem answers_kernelDriverActive :
    Answers (kernelDriverActive interface) (.kernelDriverActive interface) :=
  answers_ask (fun _ => rfl) fun _ => rfl

theorem answers_detach : Answers (detach interface) (.detach interface) :=
  answers_ask (fun _ => rfl) fun _ => rfl

theorem answers_attach : Answers (attach interface) (.attach interface) :=
  answers_ask (fun _ => rfl) fun _ => rfl

theorem answers_claim : Answers (claim interface) (.claim interface) :=
  answers_ask (fun _ => rfl) fun _ => rfl

theorem answers_release : Answers (release interface) (.release interface) :=
  answers_ask (fun _ => rfl) fun _ => rfl

theorem answers_cancel : Answers cancel .cancel :=
  answers_ask (fun _ => rfl) fun _ => rfl

theorem answers_transfer (pipe : Pipe) (t : Transfer) (timeout : Nat) (again : Bool) :
    Answers (transfer pipe t timeout again) (.transfer pipe.kind pipe.address t timeout again) where
  device _ := rfl
  trace _ := rfl
  value _ := rfl

end Calls

/-- The action tells of its failures, but for what its value owes. -/
abbrev Settles (blames : Call → Prop) (may : Failure → Prop) (debt : Option Failure) (x : Act α)
    (p : Clocked) (owed : α → Option Failure) : Prop :=
  audit.Settles blames may debt x p owed

/-- A call owes its failure. -/
theorem Answers.settles {x : Act (Except Failure α)} (hx : Answers x c) (hc : blames c)
    (p : Clocked) : Settles blames may none x p failureOf := by
  have hmishaps : audit.mishapsOf p (x.run p) = (p.device.failure? c).toList.map (c, ·) := by
    rw [Audit.mishapsOf, hx.trace]
    exact List.append_nil _
  refine ⟨?_, fun code h => .inl ?_, fun code h => .inr ⟨c, ?_, hc⟩⟩
  · rw [hx.trace]
    exact hx.device p
  · rw [hmishaps] at h
    rcases h with h | ⟨c', hc'⟩
    · cases h
    · obtain ⟨code', hcode, hsame⟩ := List.mem_map.1 hc'
      cases hsame
      rw [hx.value]
      exact Option.mem_toList.1 hcode
  · rw [hmishaps]
    rw [hx.value] at h
    exact List.mem_map_of_mem (Option.mem_toList.2 h)

theorem settles_log (e : Event) (p : Clocked) : Settles blames may none (log e) p fun _ => none :=
  .tell rfl forall_none

section Log

variable {e : Event} {f : Unit → Act β} {p : Clocked} {owed : β → Option Failure}

/-- The debt is told of before anything else is done. -/
theorem settles_report (h : debt = e.code?) (hf : Settles blames may none (f ()) p owed) :
    Settles blames may debt (log e >>= f) p owed :=
  .tell_bind rfl (fun _ hcode => ⟨e, List.mem_singleton.2 rfl, h.symm.trans hcode⟩) hf

theorem settles_log_bind (hf : Settles blames may none (f ()) p owed) :
    Settles blames may none (log e >>= f) p owed :=
  .tell_bind rfl forall_none hf

end Log

/-- Closing a handle cannot fail, and leaves the debt. -/
theorem settles_closeHandle (hdebt : ∀ code, debt = some code → may code) (p : Clocked) :
    Settles blames may debt closeHandle p fun _ => debt where
  replay := rfl
  told := by
    rintro code (h | ⟨c, hc⟩)
    · exact .inl h
    · cases hc
  held code h := .inl (hdebt code h)

/-- A call whose failure is tolerated is followed by a log event that tells of it. -/
theorem Answers.settles_bind {x : Act (Except Failure α)} (hx : Answers x c)
    {f : Except Failure α → Act β} {p : Clocked} {owed : β → Option Failure}
    (hf : ∀ a p', Settles blames may (failureOf a) (f a) p' owed) :
    Settles blames may none (x >>= f) p owed := by
  have hcall : Settles (fun _ => True) may none x p failureOf := hx.settles trivial p
  exact hcall.bind_tolerated (hf _ _)

end Act

end UsbSession
