import UsbSession.Proofs.Failures.Calls
import UsbSession.Proofs.Life.World

/-!
# The failures of connecting

Connecting tells of all its failures (`Manager.settles_connect`). An error holds one that is to
blame for it (`Call.Refuses`): of enumeration, or of opening the device, selecting the
configuration, or claiming the interface of a candidate. The other calls are tolerated, and their
failures are in the log. So is the failure of a candidate, as that of the next one takes its place
in the result.

A device that is no candidate because it cannot be read leaves its failure in the log
(`Manager.told_connect`).
-/

namespace UsbSession

/-- The calls whose failure keeps a session from being opened. -/
def Call.Refuses : Call → Prop
  | .open | .setConfiguration _ | .claim _ => True
  | _ => False

namespace Manager

variable (m : Manager) {blames : Call → Prop} {may : Failure → Prop}

/-! ## One attempt -/

section Attempt

open Act (Settles)

theorem settles_selectConfiguration (p : Clocked) :
    Settles Call.Refuses may none m.selectConfiguration p codeOf := by
  unfold selectConfiguration
  cases m.options.configuration with
  | none => exact .done rfl
  | some wanted =>
    refine Act.answers_getConfiguration.settles_bind fun current p' => ?_
    dsimp only
    split
    · rename_i hactive
      cases current with
      | ok number => exact Act.settles_log_bind (.done rfl)
      | error code => cases hactive
    · -- Whether or not it is known what is active, the wanted configuration is selected.
      rcases current with code | number
      on_goal 1 => refine Act.settles_report rfl ?_
      on_goal 2 => refine Act.settles_log_bind ?_
      all_goals
        have hcall : Settles Call.Refuses may none (Act.setConfiguration wanted) p' failureOf :=
          (Act.answers_setConfiguration wanted).settles trivial p'
        refine hcall.bind fun answer p' => ?_
        cases answer with
        | ok _ => exact .done rfl
        | error code => exact Act.settles_report rfl (.pure forall_none fun _ => .inr)

theorem settles_detachDriver (interface : UInt8) (p : Clocked) :
    Settles blames may none (m.detachDriver interface) p fun _ => none := by
  unfold detachDriver
  cases m.canDetach with
  | false => exact .done rfl
  | true =>
    refine (Act.answers_kernelDriverActive interface).settles_bind fun active p' => ?_
    rcases active with code | _ | _
    on_goal 2 => exact Act.settles_log_bind (.done rfl)
    -- Where it is not known whether there is a driver, it is taken off all the same.
    on_goal 1 => refine Act.settles_report rfl ?_
    on_goal 2 => refine Act.settles_log_bind ?_
    all_goals
      refine (Act.answers_detach interface).settles_bind fun answer p' => ?_
      cases answer with
      | ok _ => exact .done rfl
      | error code => exact Act.settles_report rfl (.done rfl)

theorem settles_claimInterface (place : Nat) (c : Candidate) (p : Clocked) :
    Settles Call.Refuses may none (m.claimInterface place c) p codeOf := by
  unfold claimInterface
  refine (m.settles_detachDriver c.binding.interface p).bind_settled fun detached p' => ?_
  refine ((Act.answers_claim c.binding.interface).settles trivial p').bind fun answer p' => ?_
  cases answer with
  | ok _ => exact Act.settles_log_bind (.done rfl)
  | error code =>
    refine Act.settles_report rfl ?_
    -- The error holds the failure of the claim, whatever comes of giving the driver back.
    have hclose (p : Clocked) : Settles Call.Refuses (fun code' => may code' ∨
        failureOf (.error code : Except Failure Unit) = some code') none (do
          Act.closeHandle
          return (.error (.claim c.binding.interface code) : Except Error Session)) p codeOf := by
      refine (Act.settles_closeHandle forall_none p).bind_settled fun _ _ => ?_
      exact .pure forall_none fun _ => .inr
    cases detached with
    | false => exact hclose p'
    | true =>
      refine (Act.answers_attach c.binding.interface).settles_bind fun answer p' => ?_
      cases answer with
      | ok _ => exact hclose p'
      | error _ => exact Act.settles_report rfl (hclose p')

theorem settles_openSession (place : Nat) (c : Candidate) (reset : Bool) (p : Clocked) :
    Settles Call.Refuses may none (m.openSession place c reset) p codeOf := by
  unfold openSession
  refine (Act.answers_openHandle.settles trivial p).bind fun answer p' => ?_
  cases answer with
  | error code => exact .passed rfl
  | ok _ =>
    -- What is done next does not depend on whether there is a reset, and whether it fails.
    rcases reset with _ | _
    on_goal 2 =>
      refine Act.answers_reset.settles_bind fun answer p' => ?_
      rcases answer with code | _
      on_goal 1 => refine Act.settles_report rfl ?_
    all_goals
      refine (m.settles_selectConfiguration p').bind fun selected p' => ?_
      cases selected with
      | error e =>
        refine (Act.settles_closeHandle (fun _ => .inr) p').bind fun _ _ => ?_
        exact .passed rfl
      | ok _ => exact m.settles_claimInterface place c p'

end Attempt

end Manager

/-! ## On the bus -/

namespace Bus

/-- The audit of what is done on a bus. -/
def audit : Audit Bus Mark (List Device) (Nat × Call) where
  view := Bus.devices
  call? := Mark.call?
  event? := Mark.event?
  failure? devices c := (devices.getD c.1 default).failure? c.2
  after devices c := devices.set c.1 ((devices.getD c.1 default).after c.2)

variable {α β : Type} {blames : Call → Prop} {may : Failure → Prop} {debt : Option Failure}
  {bus : Bus}

/-- What is done on the bus tells of its failures, but for what its value owes. -/
abbrev Settles (blames : Call → Prop) (may : Failure → Prop) (debt : Option Failure)
    (x : Traced Bus Mark α) (bus : Bus) (owed : α → Option Failure) : Prop :=
  audit.Settles (fun c => blames c.2) may debt x bus owed

section Act

variable {place : Nat} {devices : List Device}

theorem replay_map (hplace : place < devices.length) (cs : List Call) :
    audit.replay devices (cs.map (place, ·)) =
      devices.set place (Act.audit.replay (devices.getD place default) cs) := by
  induction cs generalizing devices with
  | nil => simp [Responder.replay, hplace]
  | cons c cs ih =>
    have hlength : place < (audit.after devices (place, c)).length := by
      rwa [audit, List.length_set]
    change audit.replay (audit.after devices (place, c)) _ = _
    rw [ih hlength]
    simp [audit, Act.audit, Responder.replay, hplace]

theorem mishaps_map (hplace : place < devices.length) (cs : List Call) :
    audit.mishaps devices (cs.map (place, ·)) =
      (Act.audit.mishaps (devices.getD place default) cs).map fun x => ((place, x.1), x.2) := by
  induction cs generalizing devices with
  | nil => rfl
  | cons c cs ih =>
    have hlength : place < (audit.after devices (place, c)).length := by
      rwa [audit, List.length_set]
    rw [List.map_cons, Responder.mishaps, ih hlength, Responder.mishaps, List.map_append,
      List.map_map]
    simp [audit, Act.audit, hplace]

variable {x : Act α} {owed : α → Option Failure}

theorem mishapsOf_act (hplace : place < bus.devices.length) :
    audit.mishapsOf bus ((act place x).run bus) =
      (Act.audit.mishapsOf ⟨bus.device place, bus.now⟩ (x.run ⟨bus.device place, bus.now⟩)).map
        fun x => ((place, x.1), x.2) := by
  rw [Audit.mishapsOf, show ((act place x).run bus).trace.filterMap audit.call? = _ from
    Mark.calls_map_ofEntry place _]
  exact mishaps_map hplace _

theorem tells_act {code : Failure} : audit.Tells ((act place x).run bus) code ↔
    Act.audit.Tells (x.run ⟨bus.device place, bus.now⟩) code := by
  have hevents : (Mark.event? ∘ Mark.ofEntry place) = Entry.event? := by
    funext e
    cases e <;> rfl
  change (∃ e ∈ (_ : List Entry).map (Mark.ofEntry place) |>.filterMap Mark.event?, _) ↔ _
  rw [List.filterMap_map, hevents]
  rfl

/-- What is done on a device makes its calls there. -/
theorem settles_act (hplace : place < bus.devices.length)
    (h : Act.Settles blames may debt x ⟨bus.device place, bus.now⟩ owed) :
    Settles blames may debt (act place x) bus owed where
  replay := by
    rw [show ((act place x).run bus).trace.filterMap audit.call? = _ from
      Mark.calls_map_ofEntry place _]
    refine .trans ?_ (replay_map hplace _).symm
    exact congrArg (bus.devices.set place) h.replay
  told code hcode := by
    rw [tells_act]
    refine h.told code (hcode.imp_right ?_)
    rw [mishapsOf_act hplace]
    rintro ⟨c, hc⟩
    obtain ⟨⟨c', code'⟩, hc', hsame⟩ := List.mem_map.1 hc
    cases hsame
    exact ⟨c', hc'⟩
  held code hcode := by
    rw [mishapsOf_act hplace]
    refine (h.held code hcode).imp_right fun ⟨c, hc, hblames⟩ => ⟨(place, c), ?_, hblames⟩
    exact List.mem_map.2 ⟨(c, code), hc, rfl⟩

end Act

section Log

variable {e : Log.Event} {f : Unit → Traced Bus Mark β} {owed : β → Option Failure}

/-- The debt is told of before anything else is done. -/
theorem settles_report (h : debt = e.code?) (hf : Settles blames may none (f ()) bus owed) :
    Settles blames may debt (log e >>= f) bus owed :=
  .tell_bind rfl (fun _ hcode => ⟨e, List.mem_singleton.2 rfl, h.symm.trans hcode⟩) hf

theorem settles_log_bind (hf : Settles blames may none (f ()) bus owed) :
    Settles blames may none (log e >>= f) bus owed :=
  .tell_bind rfl forall_none hf

end Log

theorem settles_logged (x : Log.Logged α) :
    Settles blames may none (logged x) bus fun _ => none :=
  .of_silent rfl (bus.does_logged x).calls forall_none forall_none

/-- Enumeration owes its failure. -/
theorem settles_enumerate (hmay : ∀ code, bus.listError = some code → may code) :
    Settles blames may none enumerate bus failureOf := by
  cases hlist : bus.listError with
  | some code =>
    have h := does_enumerate_of_error hlist
    refine .of_silent (by rw [h.state]) h.calls forall_none fun c hc => ?_
    rw [h.value] at hc
    cases hc
    exact hmay code hlist
  | none =>
    have h := does_enumerate hlist
    refine .of_silent (by rw [h.state]; rfl) h.calls forall_none fun c hc => ?_
    rw [h.value] at hc
    cases hc

end Bus

namespace Manager

variable (m : Manager) {bus : Bus} {may : Failure → Prop} (vendor product : Id) (reset : Bool)

open Bus (Settles)

theorem settles_tryEach {places : List Nat} {last : Option Error}
    (hplaces : ∀ i ∈ places, i < bus.devices.length)
    (hlast : ∀ e, last = some e → ∀ code, e.code? = some code → may code) :
    Settles Call.Refuses may none (m.tryEach vendor product reset last places) bus codeOf := by
  induction places generalizing bus last may with
  | nil =>
    refine Bus.settles_log_bind (.pure forall_none fun code hcode => ?_)
    cases last with
    | none => cases hcode
    | some e => exact hlast e rfl code hcode
  | cons place places ih =>
    obtain ⟨hplace, hplaces⟩ := List.forall_mem_cons.1 hplaces
    rw [tryEach]
    refine Audit.Settles.look.bind_settled_at ?_
    refine (Bus.settles_logged _).bind_settled_at ?_
    change Settles _ _ _ _ bus _
    split
    · exact ih hplaces hlast
    · rename_i c _
      refine (Bus.settles_act hplace (m.settles_openSession place c reset _)).bind_at ?_
      cases ((Bus.act place (m.openSession place c reset)).run bus).value with
      | ok s => exact Bus.settles_log_bind (.done rfl)
      | error e =>
        have hplaces : ∀ i ∈ places, i <
            ((Bus.act place (m.openSession place c reset)).run bus).state.devices.length :=
          fun i hi => lt_of_lt_of_eq (hplaces i hi) List.length_set.symm
        refine Bus.settles_report rfl (ih hplaces fun e' he code hcode => ?_)
        cases he
        exact .inr hcode

/-- Connecting tells of its failures, and an error holds one that is to blame for it. -/
theorem settles_connect (hmay : ∀ code, bus.listError = some code → may code) :
    Settles Call.Refuses may none (m.connect vendor product reset) bus codeOf := by
  refine (Bus.settles_enumerate hmay).bind_at ?_
  cases (Bus.enumerate.run bus).value with
  | error code => exact .passed rfl
  | ok _ =>
    refine Audit.Settles.look.bind_settled_at (Bus.settles_log_bind ?_)
    refine (m.settles_tryEach vendor product reset (fun i hi => List.mem_range.1 hi)
      forall_none).bind fun result bus' => ?_
    refine (Audit.Settles.change rfl fun _ => .inr).bind fun _ _ => ?_
    exact .passed rfl

theorem settles_find {blames : Call → Prop} (hmay : ∀ code, bus.listError = some code → may code) :
    Settles blames may none (find vendor product) bus codeOf := by
  refine (Bus.settles_enumerate hmay).bind fun result bus' => ?_
  cases result with
  | error code => exact .passed rfl
  | ok _ =>
    refine Audit.Settles.look.bind_settled fun devices _ => ?_
    refine (Bus.settles_logged _).bind_settled fun found _ => Bus.settles_log_bind ?_
    refine (Audit.Settles.change rfl forall_none).bind_settled fun _ _ => ?_
    exact .done rfl

end Manager

/-! ## Devices that cannot be read -/

namespace Device

variable {d : Device} {vendor product : Id} {code : Failure}

/-- Why the device cannot be looked at, if it cannot: its descriptor cannot be read or, where the
    ids are those that are wanted, its active configuration. -/
def unreadable? (d : Device) (vendor product : Id) : Option Failure :=
  match d.details with
  | .error code => some code
  | .ok details =>
    if details.isHid || details.vendor != vendor || details.product != product then none
    else failureOf d.layout

theorem told_candidate? (o : Options) (h : d.unreadable? vendor product = some code) :
    ∃ e ∈ (d.candidate? vendor product o).events, e.code? = some code := by
  unfold unreadable? at h
  cases hdetails : d.details with
  | error c =>
    rw [hdetails] at h
    cases h
    refine ⟨.descriptorUnreadable code, ?_, rfl⟩
    simp [candidate?, readDetails, hdetails, Log.Logged.log]
  | ok details =>
    rw [hdetails] at h
    cases hlayout : d.layout with
    | ok layout => simp [hlayout, failureOf] at h
    | error c =>
      simp only [hlayout, failureOf] at h
      refine ⟨.layoutUnreadable code, ?_, rfl⟩
      split at h
      · cases h
      · rename_i hids
        cases h
        simp_all [candidate?, readDetails, readBinding, Log.Logged.log]

end Device

/-- Listing tells of the descriptors that cannot be read. -/
theorem told_listed {vendor product : Id} {devices : List Device} {d : Device} {code : Failure}
    (hd : d ∈ devices) (h : d.details = .error code) :
    .descriptorUnreadable code ∈ (listed vendor product devices).events := by
  induction devices with
  | nil => cases hd
  | cons d' devices ih =>
    rw [listed, Log.Logged.events_bind, Log.Logged.events_bind]
    rcases List.mem_cons.1 hd with rfl | hd
    · refine List.mem_append_left _ ?_
      rw [Device.readDetails, h]
      exact List.mem_singleton.2 rfl
    · exact List.mem_append_right _ (List.mem_append_left _ (ih hd))

namespace Manager

variable {m : Manager} {bus : Bus} {vendor product : Id} {reset : Bool} {code : Failure}

/-- The places of the devices that are looked at: up to the one that accepts a session, or all if
    none does. -/
def lookedAt (m : Manager) (vendor product : Id) (reset : Bool) (bus : Bus) : List Nat :=
  (List.range bus.devices.length).filter fun place =>
    match ((m.connect vendor product reset).run bus).value with
    | .ok s => place ≤ s.device
    | .error _ => true

/-- Where a session was opened, it is at the place or after it. -/
def Reaches (place : Nat) (result : Except Error Session) : Prop :=
  ∀ s, result = .ok s → place ≤ s.device

/-- What the second part tells of, where its result reaches the place, is told of by both. -/
theorem told_bind {α : Type} {place : Nat} {x : Traced Bus Mark α}
    {f : α → Traced Bus Mark (Except Error Session)}
    (h : Reaches place ((f (x.run bus).value).run (x.run bus).state).value →
      Bus.audit.Tells ((f (x.run bus).value).run (x.run bus).state) code) :
    Reaches place ((x >>= f).run bus).value → Bus.audit.Tells ((x >>= f).run bus) code :=
  fun hreaches => Audit.tells_bind.2 (.inr (h hreaches))

theorem told_tryEach {place : Nat} {places : List Nat} {last : Option Error}
    (hsorted : places.Pairwise (· < ·)) (hplace : place ∈ places)
    (hcode : (bus.device place).unreadable? vendor product = some code) :
    Reaches place ((m.tryEach vendor product reset last places).run bus).value →
    Bus.audit.Tells ((m.tryEach vendor product reset last places).run bus) code := by
  induction places generalizing bus last with
  | nil => cases hplace
  | cons first places ih =>
    obtain ⟨hfirst, hsorted⟩ := List.pairwise_cons.1 hsorted
    rw [tryEach]
    rcases List.mem_cons.1 hplace with rfl | hplace
    · obtain ⟨e, he, htells⟩ := Device.told_candidate? m.options hcode
      rw [Audit.tells_bind, Audit.tells_bind]
      intro _
      refine .inr (.inl ⟨e, List.mem_filterMap.2 ⟨.log e, ?_, rfl⟩, htells⟩)
      exact List.mem_append_left _ (List.mem_map_of_mem he)
    · refine told_bind (told_bind ?_)
      split
      · exact ih hsorted hplace hcode
      · rename_i c _
        refine told_bind ?_
        split
        · -- The session was opened on a device before the place.
          rename_i s hvalue
          intro hreaches
          have hanswer : m.answer ⟨first, bus.device first, c⟩ = .ok s :=
            (m.does_openSession first c reset ⟨bus.device first, bus.now⟩).value.symm.trans hvalue
          have hle : place ≤ first :=
            (hreaches s rfl).trans (Nat.le_of_eq (of_answer_ok hanswer).2)
          exact absurd (hfirst place hplace) (Nat.not_lt.2 hle)
        · have hother : (bus.after first ((m.openSession first c reset).run
              ⟨bus.device first, bus.now⟩).state).device place = bus.device place :=
            Bus.device_after_of_ne _ (Nat.ne_of_gt (hfirst place hplace))
          exact told_bind (ih hsorted hplace (hother ▸ hcode))

/-- Connecting tells of the devices that cannot be read. -/
theorem told_connect (hlist : bus.listError = none) {place : Nat}
    (hplace : place ∈ m.lookedAt vendor product reset bus)
    (hcode : (bus.device place).unreadable? vendor product = some code) :
    Bus.audit.Tells ((m.connect vendor product reset).run bus) code := by
  obtain ⟨hrange, hreaches⟩ := List.mem_filter.1 hplace
  have hreaches : Reaches place ((m.connect vendor product reset).run bus).value := by
    intro s hs
    rw [hs] at hreaches
    exact of_decide_eq_true hreaches
  revert hreaches
  rw [connect]
  refine told_bind ?_
  rw [(Bus.does_enumerate hlist).value, (Bus.does_enumerate hlist).state]
  refine told_bind (told_bind fun hreaches => ?_)
  exact Audit.tells_bind.2 (.inl (told_tryEach List.pairwise_lt_range hrange hcode hreaches))

/-- Listing tells of the devices whose descriptor cannot be read. -/
theorem told_find (hlist : bus.listError = none) {d : Device} (hd : d ∈ bus.devices)
    (hcode : d.details = .error code) :
    Bus.audit.Tells ((find vendor product).run bus) code := by
  rw [find, Audit.tells_bind, (Bus.does_enumerate hlist).value, (Bus.does_enumerate hlist).state]
  refine .inr (Audit.tells_bind.2 (.inr (Audit.tells_bind.2 (.inl ?_))))
  refine ⟨.descriptorUnreadable code, List.mem_filterMap.2 ⟨.log _, ?_, rfl⟩, rfl⟩
  exact List.mem_append_left _ (List.mem_map_of_mem (told_listed hd hcode))

end Manager

end UsbSession
