import UsbSession.Proofs.Binding.Fixed
import UsbSession.Proofs.Failures.Connect
import UsbSession.Proofs.Failures.Session

/-!
# No failure is lost

Whatever fails while an operation runs is told of by the operation, in the error that it returns or
in the log (`World.no_failure_lost`): each call that fails, a list of devices that is not handed
out, and each device that cannot be read (`World.TellsAll`). An error holds no failure but one that
is to blame for it, or that the time of a read is spent.

Requests are performed from beginning to end here, as nothing happens during transfers.

* `World.settles_step`, `World.settles_finish`: an operation, and the end of a scenario.
-/

namespace UsbSession

open Traced (Does)

/-! ## Answers -/

/-- The error that the answer tells. -/
def Answer.error? : Answer → Option Error
  | .failed e => some e
  | .replied reply _ => reply.bind Reply.error?
  | _ => none

/-- The failure that the error of the answer holds. -/
def Answer.code? (answer : Answer) : Option Failure := answer.error?.bind Error.code?

/-- The calls whose failure an error may hold. -/
def Operation.blames : Operation → Call → Prop
  | .connect .. => Call.Refuses
  | .request _ r => r.blames
  | _ => fun _ => False

/-- Whether the operation changes a device from outside. -/
def Operation.isChange : Operation → Bool
  | .script .. | .inbound .. | .outbound .. => true
  | _ => false

theorem Log.Event.isWithin_trace (e : Event) : e.isWithin .trace = true := by
  rw [isWithin]
  cases e.level <;> rfl

namespace World

variable {w : World} {α β : Type} {blames : Call → Prop} {may : Failure → Prop}
  {debt : Option Failure}

/-- The audit of what happens in a world. -/
def audit : Audit World Mark (List Device) (Nat × Call) where
  toResponder := Bus.audit.toResponder
  view w := w.bus.devices
  call? := Mark.call?
  event? := Mark.event?

/-- What happens tells of its failures, but for what its value owes. -/
abbrev Settles (blames : Call → Prop) (may : Failure → Prop) (debt : Option Failure)
    (x : Happening α) (w : World) (owed : α → Option Failure) : Prop :=
  audit.Settles (fun c => blames c.2) may debt x w owed

theorem settles_onBus {x : Traced Bus Mark α} {owed : α → Option Failure}
    (h : Bus.Settles blames may debt x w.bus owed) : Settles blames may debt (onBus x) w owed :=
  ⟨h.replay, h.told, h.held⟩

theorem settles_letGo {s : Session} (hplace : s.device < w.bus.devices.length) :
    Settles blames may none (letGo s) w fun _ => none :=
  settles_onBus (Bus.settles_act hplace (s.settles_drop _))

theorem settles_put (slot : String) (s : Session) (hdebt : ∀ code, debt = some code → may code) :
    Settles blames may debt (put slot s) w fun _ => debt :=
  .change rfl hdebt

/-! ## What fails -/

/-- Why the devices are not listed, if the operation is to list them and they are not. -/
def unlisted? (w : World) : Operation → Option Failure
  | .connect .. | .find .. => w.manager.bind fun _ => w.bus.listError
  | _ => none

/-- Why devices that the operation looks at cannot be read. -/
def unread (w : World) : Operation → List Failure
  | .connect _ vendor product reset =>
    match w.manager, w.bus.listError with
    | some m, none => (m.lookedAt vendor product reset w.bus).filterMap fun place =>
        (w.bus.device place).unreadable? vendor product
    | _, _ => []
  | .find .. =>
    match w.manager, w.bus.listError with
    | some _, none => w.bus.devices.filterMap fun d => failureOf d.details
    | _, _ => []
  | _ => []

/-- The operation is a read that has spent its time. -/
def Overdue (w : World) : Operation → Prop
  | .request slot r => ∃ s, Slots.get? slot w.slots = some s ∧
      s.Overdue w.bus.now ((step (.request slot r)).run w).state.bus.now r
  | _ => False

/-- What may be held by an error of the operation though no call has failed with it. -/
def MayHold (w : World) (op : Operation) (code : Failure) : Prop :=
  w.unlisted? op = some code ∨ code = .timeout ∧ w.Overdue op

/-! ## Operations -/

theorem settles_request {slot : String} {s : Session} {r : Request}
    (hplace : s.device < w.bus.devices.length)
    (hcalm : (w.bus.device s.device).hasInterludes = false)
    (hspent : s.Overdue w.bus.now ((request slot s r).run w).state.bus.now r → may .timeout) :
    Settles r.blames may none (request slot s r) w Answer.code? := by
  have hdoes : Does Mark.call? (request slot s r) w _ _ _ :=
    does_request hcalm (Act.does_run _ (s.perform r))
  rw [hdoes.state] at hspent
  unfold request
  refine Audit.Settles.look.bind_settled_at ?_
  rw [if_neg (by rw [Traced.run_look, hcalm, Bool.and_false]; exact Bool.false_ne_true)]
  refine (settles_onBus (Bus.settles_act hplace (s.settles_perform r hspent))).bind fun o w' => ?_
  refine (settles_put slot o.2 fun _ => .inr).bind fun _ _ => ?_
  exact .passed rfl

theorem settles_connect (m : Manager) {slot : String} {vendor product : Id} {reset : Bool}
    (hplaces : ∀ s, Slots.get? slot w.slots = some s → s.device < w.bus.devices.length)
    (hmay : ∀ code, w.bus.listError = some code → may code) :
    Settles Call.Refuses may none (connect m slot vendor product reset) w Answer.code? := by
  have hlength := m.length_connect vendor product reset w.bus
  refine (settles_onBus (m.settles_connect vendor product reset hmay)).bind_at ?_
  split <;> rename_i result hvalue <;> rw [hvalue]
  · exact .passed rfl
  · refine Audit.Settles.look.bind_settled_at ?_
    refine (settles_put slot result forall_none).bind_settled_at ?_
    split
    · rename_i old hold
      have hplace : old.device <
          ((m.connect vendor product reset).run w.bus).state.devices.length :=
        hlength ▸ hplaces old hold
      refine (settles_letGo hplace).bind_settled fun _ _ => ?_
      exact .done rfl
    · exact .done rfl

/-- An operation tells of the calls that fail, unless it changes a device. -/
theorem settles_step {op : Operation} (hop : op.isChange = false) (hcalm : w.Calm)
    (hplaces : ∀ slot s, Slots.get? slot w.slots = some s → s.device < w.bus.devices.length) :
    Settles op.blames (w.MayHold op) none (step op) w Answer.code? := by
  cases op with
  | connect slot vendor product reset =>
    refine Audit.Settles.look.bind_settled_at ?_
    rw [Traced.run_look]
    cases hm : w.manager with
    | none => exact .done rfl
    | some m =>
      refine settles_connect m (hplaces slot) fun code hcode => .inl ?_
      rw [unlisted?, hm]
      exact hcode
  | find vendor product =>
    refine Audit.Settles.look.bind_settled_at ?_
    rw [Traced.run_look]
    cases hm : w.manager with
    | none => exact .done rfl
    | some m =>
      have hfind : Settles (Operation.find vendor product).blames (w.MayHold (.find vendor product))
          none (onBus (Manager.find vendor product)) w codeOf :=
        settles_onBus (Manager.settles_find vendor product fun code hcode => .inl (by
          rw [unlisted?, hm]
          exact hcode))
      refine hfind.bind fun result w' => ?_
      cases result with
      | error e => exact .passed rfl
      | ok devices => exact .done rfl
  | request slot r =>
    refine Audit.Settles.look.bind_settled_at ?_
    rw [Traced.run_look]
    cases hslot : Slots.get? slot w.slots with
    | none => exact .done rfl
    | some s =>
      refine settles_request (hplaces slot s hslot) (Bus.hasInterludes_device hcalm s.device)
        fun hlate => .inr ⟨rfl, s, hslot, ?_⟩
      rw [step, Traced.run_bind, Traced.run_look, hslot]
      exact hlate
  | drop slot =>
    refine Audit.Settles.look.bind_settled_at ?_
    rw [Traced.run_look]
    cases hslot : Slots.get? slot w.slots with
    | none => exact .done rfl
    | some s =>
      refine (Audit.Settles.change rfl forall_none).bind_settled_at ?_
      have hletGo : Settles (fun _ => False) (w.MayHold (.drop slot)) none (letGo s)
          { w with slots := Slots.erase slot w.slots } fun _ => none :=
        settles_letGo (hplaces slot s hslot)
      refine hletGo.bind_settled fun _ _ => ?_
      exact .done rfl
  | options =>
    refine Audit.Settles.look.bind_settled fun _ _ => ?_
    exact .done rfl
  | closeManager =>
    have hclose (w' : World) : Settles (fun _ => False) (w.MayHold .closeManager) none (do
        Traced.change fun w => { w with manager := none }
        return .done) w' Answer.code? := by
      refine (Audit.Settles.change rfl forall_none).bind_settled fun _ _ => ?_
      exact .done rfl
    refine Audit.Settles.look.bind_settled_at ?_
    rw [Traced.run_look]
    cases w.manager with
    | none => exact hclose w
    | some m =>
      have hlog : Bus.Settles (fun _ => False) (w.MayHold .closeManager) none Manager.close w.bus
          fun _ => none := .tell rfl forall_none
      exact (settles_onBus hlog).bind_settled fun _ w' => hclose w'
  | script => cases hop
  | inbound => cases hop
  | outbound => cases hop

theorem settles_letGoEach {slots : Slots}
    (hplaces : ∀ x ∈ slots, x.2.device < w.bus.devices.length) :
    Settles blames may none (letGoEach slots) w fun _ => none := by
  induction slots generalizing w with
  | nil => exact .done rfl
  | cons slot slots ih =>
    obtain ⟨hslot, hslots⟩ := List.forall_mem_cons.1 hplaces
    have hslots : ∀ x ∈ slots, x.2.device < ((letGo slot.2).run w).state.bus.devices.length :=
      fun x hx => lt_of_lt_of_eq (hslots x hx) List.length_set.symm
    exact (settles_letGo hslot).bind_settled_at (ih hslots)

/-- The end of a scenario tells of the calls that fail. -/
theorem settles_finish (hplaces : ∀ x ∈ w.slots, x.2.device < w.bus.devices.length) :
    Settles blames may none finish w fun _ => none := by
  rw [finish_eq]
  refine Audit.Settles.look.bind_settled_at ?_
  exact (settles_letGoEach hplaces).bind_settled fun _ _ => .change rfl forall_none

/-! ## What cannot be read -/

/-- A list of devices that is not handed out is told of by the error. -/
theorem code?_of_unlisted {op : Operation} {code : Failure} (h : w.unlisted? op = some code) :
    ((step op).run w).value.code? = some code := by
  obtain ⟨bus, manager, slots⟩ := w
  cases op with
  | connect slot vendor product reset =>
    obtain ⟨m, rfl, hlist⟩ := Option.bind_eq_some_iff.1 h
    have hconnect : Does Mark.call? (connect m slot vendor product reset) ⟨bus, some m, slots⟩
        _ _ _ := does_connect_of_error (m.does_connect_of_error vendor product reset hlist)
    change ((connect m slot vendor product reset).run ⟨bus, some m, slots⟩).value.code? = _
    rw [hconnect.value]
    rfl
  | find vendor product =>
    obtain ⟨m, rfl, hlist⟩ := Option.bind_eq_some_iff.1 h
    have hfind : Does Mark.call? (Manager.find vendor product) bus (.error (.usb code)) [] bus :=
      (Bus.does_enumerate_of_error hlist).bind_silent (.pure _ _)
    have hstep : Does Mark.call? (step (.find vendor product)) ⟨bus, some m, slots⟩
        (.failed (.usb code)) [] ⟨bus, some m, slots⟩ :=
      (Does.look _ _).bind_silent ((does_onBus hfind).bind_silent (.pure _ _))
    rw [hstep.value]
    rfl
  | _ => cases h

/-- The devices that cannot be read are told of in the log. -/
theorem told_of_unread {op : Operation} {code : Failure} (h : code ∈ w.unread op) :
    audit.Tells ((step op).run w) code := by
  obtain ⟨bus, manager, slots⟩ := w
  cases op with
  | connect slot vendor product reset =>
    rw [unread] at h
    split at h
    · rename_i m hm hlist
      cases hm
      obtain ⟨place, hplace, hcode⟩ := List.mem_filterMap.1 h
      refine Audit.tells_bind.2 (.inr (Audit.tells_bind.2 (.inl ?_)))
      exact Manager.told_connect hlist hplace hcode
    · cases h
  | find vendor product =>
    rw [unread] at h
    split at h
    · rename_i m hm hlist
      cases hm
      obtain ⟨d, hd, hcode⟩ := List.mem_filterMap.1 h
      have hdetails : d.details = .error code := by
        cases hd' : d.details with
        | ok details => rw [hd'] at hcode; cases hcode
        | error c => rw [hd'] at hcode; cases hcode; rfl
      refine Audit.tells_bind.2 (.inr (Audit.tells_bind.2 (.inl ?_)))
      exact Manager.told_find hlist hd hdetails
    · cases h
  | _ => cases h

/-! ## Scenarios -/

/-- The text of the failure is a part of that of the error that is returned, or of a log event. -/
def Tells (o : Outcome World Mark Answer) (code : Failure) : Prop :=
  (∃ e, o.value.error? = some e ∧ code.OccursIn e.message) ∨
    ∃ e ∈ o.trace.filterMap Mark.event?, e.isWithin .trace = true ∧ code.OccursIn e.message

theorem Tells.of_settled {o : Outcome World Mark Answer} {code : Failure}
    (h : o.value.code? = some code ∨ audit.Tells o code) : Tells o code := by
  rcases h with h | ⟨e, he, hcode⟩
  · obtain ⟨e, he, hcode⟩ := Option.bind_eq_some_iff.1 h
    exact .inl ⟨e, he, Error.occursIn_message hcode⟩
  · exact .inr ⟨e, he, e.isWithin_trace, Log.Event.occursIn_message hcode⟩

/-- What an operation tells of the failures on its way. -/
structure TellsAll (w : World) (op : Operation) : Prop where
  /-- Made again, the calls leave of the devices what the operation leaves, if it does not change
      them from outside. So the calls that fail are those that failed. -/
  replay : op.isChange = false → ((step op).run w).state.bus.devices =
    audit.replay w.bus.devices (Mark.calls ((step op).run w).trace)
  /-- Every call that fails is told of. -/
  calls : ∀ c code, (c, code) ∈ audit.mishapsOf w ((step op).run w) → Tells ((step op).run w) code
  /-- A list of devices that is not handed out is told of. -/
  listing : ∀ code, w.unlisted? op = some code → Tells ((step op).run w) code
  /-- Every descriptor and every active configuration that cannot be read is told of. -/
  reading : ∀ code ∈ w.unread op, Tells ((step op).run w) code
  /-- An error holds the failure of a list, or of a call that is to blame, or that the time of a
      read is spent. -/
  held : ∀ e code, ((step op).run w).value.error? = some e → e.code? = some code →
    w.unlisted? op = some code ∨ code = .timeout ∧ w.Overdue op ∨
      ∃ c, (c, code) ∈ audit.mishapsOf w ((step op).run w) ∧ op.blames c.2

theorem tellsAll (hcalm : w.Calm)
    (hplaces : ∀ slot s, Slots.get? slot w.slots = some s → s.device < w.bus.devices.length)
    (op : Operation) : w.TellsAll op := by
  have hlisting : ∀ code, w.unlisted? op = some code → Tells ((step op).run w) code :=
    fun _ h => .of_settled (.inl (code?_of_unlisted h))
  have hreading : ∀ code ∈ w.unread op, Tells ((step op).run w) code :=
    fun _ h => .of_settled (.inr (told_of_unread h))
  cases hop : op.isChange with
  | false =>
    have h := settles_step hop hcalm hplaces
    refine ⟨fun _ => h.replay, fun c code hc => .of_settled (h.told code (.inr ⟨c, hc⟩)), hlisting,
      hreading, fun e code he hcode => or_assoc.1 (h.held code ?_)⟩
    rw [Answer.code?, he]
    exact hcode
  | true =>
    -- A change from outside makes no calls and cannot fail.
    have hsilent : ((step op).run w).value = .done ∧ ((step op).run w).trace = [] := by
      cases op with
      | script | inbound | outbound => exact ⟨rfl, rfl⟩
      | _ => cases hop
    refine ⟨fun h => absurd (h.symm.trans hop) Bool.false_ne_true, fun c code hc => ?_, hlisting,
      hreading, fun e code he _ => ?_⟩
    · rw [Audit.mishapsOf, hsilent.2] at hc
      cases hc
    · rw [hsilent.1] at he
      cases he

/-- The device of a session is on the bus, as what the session is bound to was read from it. -/
theorem Bound.device_lt {bus : Bus} {m : Manager} (h : Bound bus m w) {x : String × Session}
    (hx : x ∈ w.slots) : x.2.device < w.bus.devices.length := by
  obtain ⟨layout, hlayout, -⟩ := Bus.resolve?_eq_some_iff.1 (h.sessions x hx).binding
  by_contra hlt
  have hdefault : w.bus.device x.2.device = default := by
    rw [Bus.device, List.getD_eq_getElem?_getD, List.getElem?_eq_none (Nat.le_of_not_lt hlt)]
    rfl
  have hsame := h.layouts x.2.device
  rw [hdefault, hlayout] at hsame
  cases hsame

/-- Nothing that fails is lost, in any scenario where nothing happens during transfers: every
    operation tells of what fails on its way, and so does the end, which returns no error. -/
theorem no_failure_lost {bus : Bus} {m : Manager} {ops : List Operation}
    (hcalm : ∀ d ∈ bus.devices, d.hasInterludes = false) (hplain : ∀ op ∈ ops, op.plain = true) :
    let w := World.after { bus, manager := some m } ops
    (∀ op, w.TellsAll op) ∧
      (finish.run w).state.bus.devices =
        audit.replay w.bus.devices (Mark.calls (finish.run w).trace) ∧
      ∀ c code, (c, code) ∈ audit.mishapsOf w (finish.run w) →
        ∃ e ∈ (finish.run w).trace.filterMap Mark.event?,
          e.isWithin .trace = true ∧ code.OccursIn e.message := by
  intro w
  have hcalm : w.Calm := Calm.after (w := { bus, manager := some m }) hcalm hplain
  have hbound : Bound bus m w := (bound_start bus m).after ops
  have hfinish : Settles (fun _ => False) (fun _ => False) none finish w fun _ => none :=
    settles_finish fun x hx => hbound.device_lt hx
  refine ⟨fun op => tellsAll hcalm (fun slot s hslot => ?_) op, hfinish.replay, fun c code hc => ?_⟩
  · exact hbound.device_lt (Slots.mem_of_get? hslot)
  · rcases hfinish.told code (.inr ⟨c, hc⟩) with h | ⟨e, he, hcode⟩
    · cases h
    · exact ⟨e, he, e.isWithin_trace, Log.Event.occursIn_message hcode⟩

/-- A device is lost while it is read, and its interface cannot be released. -/
theorem no_failure_lost_disconnected :
    let endpoints := [.ofAddress 0x81 .bulk, .ofAddress 0x01 .bulk]
    let device : Device := {
      details := .ok { (default : Details) with vendor := ⟨0x0483⟩, product := ⟨0xa27e⟩ }
      layout := .ok ⟨1, [⟨0, 0, 255, endpoints⟩]⟩
      script := { releaseError := some .busy }
      inbound := [{ answer := .failure .noDevice }] }
    let m : Manager := { options := {} }
    let ops : List Operation := [.connect "a" ⟨0x0483⟩ ⟨0xa27e⟩ false]
    let w := World.after { bus := { devices := [device] }, manager := some m } ops
    let read := (step (.request "a" (.read 8 1000))).run w
    (∀ d ∈ [device], d.hasInterludes = false) ∧ (∀ op ∈ ops, op.plain = true) ∧
      ((0, .transfer .bulk 0x81 (.read 8) 1000 false), .noDevice) ∈ audit.mishapsOf w read ∧
      read.value.error? = some .disconnected ∧ Tells read .noDevice ∧
      ((0, .release 0), .busy) ∈ audit.mishapsOf w (finish.run w) ∧
      ∃ e ∈ (finish.run w).trace.filterMap Mark.event?,
        e.isWithin .trace = true ∧ Failure.busy.OccursIn e.message := by
  intro endpoints device m ops w read
  have hcalm : ∀ d ∈ [device], d.hasInterludes = false := by decide
  have hplain : ∀ op ∈ ops, op.plain = true := by decide
  have hread : ((0, .transfer .bulk 0x81 (.read 8) 1000 false), .noDevice) ∈
      audit.mishapsOf w read := by decide +kernel
  have hrelease : ((0, .release 0), .busy) ∈ audit.mishapsOf w (finish.run w) := by decide +kernel
  have herror : read.value.error? = some .disconnected := by decide +kernel
  have h : (∀ op, w.TellsAll op) ∧ _ := no_failure_lost (m := m) hcalm hplain
  exact ⟨hcalm, hplain, hread, herror, (h.1 _).calls _ _ hread, hrelease, h.2.2 _ _ hrelease⟩

end World

end UsbSession
