import Mathlib.Data.String.Basic
import UsbSession.Proofs.Connect.Outcome
import UsbSession.Scenario.World
import UsbSession.Proofs.Life.Conduct

/-!
# Worlds without overlap

What the operations of a scenario do when nothing happens during transfers (`World.Calm`), so that
every request is performed from beginning to end.

* `World.does_request`, `World.does_connect_of_held`: sessions move between slots as they are
  performed, opened and let go of.
-/

namespace UsbSession

open Traced (Does)

/-! ## Calm worlds -/

namespace World

/-- Nothing happens during transfers. -/
def Calm (w : World) : Prop := ∀ d ∈ w.bus.devices, d.hasInterludes = false

end World

theorem Bus.hasInterludes_device {bus : Bus} (h : ∀ d ∈ bus.devices, d.hasInterludes = false)
    (place : Nat) : (bus.device place).hasInterludes = false := by
  rw [Bus.device, List.getD_eq_getElem?_getD]
  cases hd : bus.devices[place]? with
  | none => rfl
  | some d => exact h d (List.mem_of_getElem? hd)

theorem Bus.hasInterludes_after {bus : Bus} {place : Nat} {p : Clocked}
    (h : ∀ d ∈ bus.devices, d.hasInterludes = false) (hp : p.device.hasInterludes = false) :
    ∀ d ∈ (bus.after place p).devices, d.hasInterludes = false := by
  intro d hd
  rcases List.mem_or_eq_of_mem_set hd with hd | rfl
  · exact h d hd
  · exact hp

theorem Bus.device_after_of_ne {bus : Bus} {place i : Nat} (p : Clocked) (h : i ≠ place) :
    (bus.after place p).device i = bus.device i := by
  rw [device, device, after, List.getD_eq_getElem?_getD, List.getD_eq_getElem?_getD,
    List.getElem?_set_ne h.symm]

theorem Bus.device_modify (bus : Bus) (place : Nat) (f : Device → Device) (i : Nat) :
    Bus.device { bus with devices := bus.devices.modify place f } i =
      if place = i ∧ i < bus.devices.length then f (bus.device i) else bus.device i := by
  rw [device, device, List.getD_eq_getElem?_getD, List.getD_eq_getElem?_getD, List.getElem?_modify]
  cases hd : bus.devices[i]? with
  | none =>
    have hi : ¬(i < bus.devices.length) := by simpa using hd
    rw [if_neg fun h => hi h.2]
    rfl
  | some d =>
    have hi : i < bus.devices.length := (List.getElem?_eq_some_iff.1 hd).1
    simp only [hi, and_true]
    split <;> rfl

namespace Manager

variable {m : Manager} {vendor product : Id} {bus : Bus} {tried rest : List Prospect}

/-- An attempt has nothing happen during transfers where nothing did. -/
theorem hasInterludes_attempted {d : Device} (h : d.hasInterludes = false) (c : Candidate) :
    (m.attempted d c).hasInterludes = false := by
  rw [attempted]
  split
  · exact h
  · exact h

theorem hasInterludes_foldl_afterTrying {devices : List Device}
    (hqs : ∀ q ∈ tried, q.device.hasInterludes = false)
    (h : ∀ d ∈ devices, d.hasInterludes = false) :
    ∀ d ∈ tried.foldl m.afterTrying devices, d.hasInterludes = false := by
  induction tried generalizing devices with
  | nil => exact h
  | cons q tried ih =>
    obtain ⟨hq, hqs⟩ := List.forall_mem_cons.1 hqs
    refine ih hqs fun d hd => ?_
    rcases List.mem_or_eq_of_mem_set hd with hd | rfl
    · exact h d hd
    · exact hasInterludes_attempted hq q.candidate

end Manager

/-- Whether the operation asks for a device list. -/
def Operation.searches : Operation → Bool
  | .connect .. | .find .. => true
  | _ => false

/-- Whether the operation brings nothing that happens during transfers. -/
def Operation.plain : Operation → Bool
  | .inbound _ items => items.all (·.during.isNone)
  | .outbound _ items => items.all (·.during.isNone)
  | _ => true

namespace World

variable {w : World} {slot : String} {s : Session} {α : Type}

/-! ### Single operations -/

theorem does_onBus {x : Traced Bus Mark α} {a : α} {cs : List (Nat × Call)} {bus : Bus}
    (h : Does Mark.call? x w.bus a cs bus) :
    Does Mark.call? (onBus x) w a cs { w with bus } where
  value := h.value
  state := by rw [← h.state]; rfl
  calls := h.calls

theorem does_letGo {cs : List Call} {p : Clocked}
    (h : Does Entry.call? s.drop ⟨w.bus.device s.device, w.bus.now⟩ () cs p) :
    Does Mark.call? (letGo s) w () (cs.map (s.device, ·))
      { w with bus := w.bus.after s.device p } :=
  does_onBus (Bus.does_act h)

/-- Putting a session into a slot makes no calls. -/
theorem does_put (w : World) (slot : String) (s : Session) (answer : Answer) :
    Does Mark.call? (do
        put slot s
        return answer) w answer [] { w with slots := Slots.set slot s w.slots } :=
  (Does.change _ _).bind_silent (.pure _ _)

theorem does_request {r : Request} {reply : Reply} {after : Session} {cs : List Call} {p : Clocked}
    (hcalm : (w.bus.device s.device).hasInterludes = false)
    (h : Does Entry.call? (s.perform r) ⟨w.bus.device s.device, w.bus.now⟩ (reply, after) cs p) :
    Does Mark.call? (request slot s r) w (.replied (some reply) []) (cs.map (s.device, ·))
      { w with bus := w.bus.after s.device p, slots := Slots.set slot after w.slots } := by
  refine (Does.look _ _).bind_silent ?_
  rw [if_neg (by rw [hcalm, Bool.and_false]; exact Bool.false_ne_true)]
  exact (does_onBus (Bus.does_act h)).bind_pure (does_put _ slot after _)

/-- A session in a slot performs what is asked of it. -/
theorem does_step_request {r : Request} {reply : Reply} {after : Session} {cs : List Call}
    {p : Clocked} (hslot : Slots.get? slot w.slots = some s)
    (hcalm : (w.bus.device s.device).hasInterludes = false)
    (h : Does Entry.call? (s.perform r) ⟨w.bus.device s.device, w.bus.now⟩ (reply, after) cs p) :
    Does Mark.call? (step (.request slot r)) w (.replied (some reply) []) (cs.map (s.device, ·))
      { w with bus := w.bus.after s.device p, slots := Slots.set slot after w.slots } := by
  refine (Does.look _ _).bind_silent ?_
  rw [hslot]
  exact does_request hcalm h

/-- A session performs a request from beginning to end, or overlapped by others. -/
theorem run_request (w : World) (slot : String) (r : Request) :
    let w' := ((step (.request slot r)).run w).state
    (Slots.get? slot w.slots = none ∧ w' = w) ∨
      ∃ s p after, Slots.get? slot w.slots = some s ∧
        w' = { w with bus := w.bus.after s.device p, slots := Slots.set slot after w.slots } ∧
        let here : Clocked := ⟨w.bus.device s.device, w.bus.now⟩
        ((∃ reply trace, (s.perform r).run here = ⟨(reply, after), p, trace⟩) ∨
          r.isTransfer = true ∧ here.device.hasInterludes = true ∧ ∃ reply nested trace,
            (s.overlapping r).run here = ⟨⟨reply, nested, after⟩, p, trace⟩) := by
  intro w'
  have hstep : w' = ((step (.request slot r)).run w).state := rfl
  rw [step, Traced.run_bind, Traced.run_look] at hstep
  cases hslot : Slots.get? slot w.slots with
  | none =>
    rw [hslot] at hstep
    exact .inl ⟨rfl, hstep⟩
  | some s =>
    rw [hslot] at hstep
    dsimp only at hstep
    rw [request, Traced.run_bind, Traced.run_look] at hstep
    dsimp only at hstep
    refine .inr ⟨s, ?_⟩
    split at hstep
    · rename_i hoverlap
      obtain ⟨htransfer, hinterludes⟩ := Bool.and_eq_true_iff.1 hoverlap
      have hdoes := does_onBus (w := w) (Bus.does_act (Act.does_run
        ⟨w.bus.device s.device, w.bus.now⟩ (s.overlapping r)))
      exact ⟨_, _, rfl, hstep.trans (hdoes.bind_pure (does_put _ slot _ _)).state,
        .inr ⟨htransfer, hinterludes, _, _, _, rfl⟩⟩
    · have hdoes := does_onBus (w := w) (Bus.does_act (Act.does_run
        ⟨w.bus.device s.device, w.bus.now⟩ (s.perform r)))
      exact ⟨_, _, rfl, hstep.trans (hdoes.bind_pure (does_put _ slot _ _)).state,
        .inl ⟨_, _, rfl⟩⟩

/-- Letting go of a session takes it out of its slot. -/
theorem run_drop (w : World) (slot : String) :
    let w' := ((step (.drop slot)).run w).state
    (Slots.get? slot w.slots = none ∧ w' = w) ∨
      ∃ s, Slots.get? slot w.slots = some s ∧
        w' = { w with
          bus := w.bus.after s.device (s.drop.run ⟨w.bus.device s.device, w.bus.now⟩).state
          slots := Slots.erase slot w.slots } := by
  intro w'
  have hstep : w' = ((step (.drop slot)).run w).state := rfl
  rw [step, Traced.run_bind, Traced.run_look] at hstep
  cases hslot : Slots.get? slot w.slots with
  | none =>
    rw [hslot] at hstep
    exact .inl ⟨rfl, hstep⟩
  | some s =>
    rw [hslot] at hstep
    exact .inr ⟨s, rfl, hstep⟩

/-- What a session leaves of a request: the answer and the session. It runs as one of several
    threads where the script of the device has something happen during transfers. -/
def serve (s : Session) (r : Request) : Act (Answer × Session) := fun p =>
  if r.isTransfer && p.device.hasInterludes then
    let o := (s.overlapping r).run p
    { o with value := (.replied o.value.reply o.value.nested, o.value.session) }
  else
    let o := (s.perform r).run p
    { o with value := (.replied (some o.value.1) [], o.value.2) }

theorem serve_of_calm {r : Request} {p : Clocked} (h : p.device.hasInterludes = false) :
    (serve s r).run p =
      let o := (s.perform r).run p
      { o with value := (.replied (some o.value.1) [], o.value.2) } :=
  if_neg (by rw [h, Bool.and_false]; exact Bool.false_ne_true)

/-- A request changes the device of the session and the slot, and is traced where the device is. -/
theorem run_step_request (hslot : Slots.get? slot w.slots = some s) (r : Request) :
    (step (.request slot r)).run w =
      let o := (serve s r).run ⟨w.bus.device s.device, w.bus.now⟩
      ⟨o.value.1,
        { w with
          bus := w.bus.after s.device o.state
          slots := Slots.set slot o.value.2 w.slots },
        o.trace.map (.ofEntry s.device)⟩ := by
  rw [step, Traced.run_bind, Traced.run_look, hslot]
  dsimp only
  rw [request, Traced.run_bind, Traced.run_look]
  dsimp only
  rw [List.nil_append, List.nil_append]
  unfold serve Traced.run
  dsimp only
  split <;> exact congrArg (Outcome.mk _ _) (List.append_nil _)

theorem run_step_drop (hslot : Slots.get? slot w.slots = some s) :
    (step (.drop slot)).run w =
      let o := s.drop.run ⟨w.bus.device s.device, w.bus.now⟩
      ⟨.dropped true,
        { w with bus := w.bus.after s.device o.state, slots := Slots.erase slot w.slots },
        o.trace.map (.ofEntry s.device)⟩ := by
  rw [step, Traced.run_bind, Traced.run_look, hslot]
  exact congrArg (Outcome.mk _ _) (List.append_nil _)

/-- Changing a device makes no calls. -/
theorem does_changeDevice (place : Nat) (f : Device → Device) :
    Does Mark.call? (do
        changeDevice place f
        return .done) w Answer.done []
      { w with bus.devices := w.bus.devices.modify place f } :=
  (Does.change _ _).bind_silent (.pure _ _)

theorem Calm.modify (h : w.Calm) (place : Nat) {f : Device → Device}
    (hf : ∀ d, d.hasInterludes = false → (f d).hasInterludes = false) :
    Calm { w with bus.devices := w.bus.devices.modify place f } := by
  intro d hd
  obtain ⟨i, hi⟩ := List.getElem?_of_mem hd
  rw [List.getElem?_modify] at hi
  obtain ⟨d', hd', rfl⟩ := Option.map_eq_some_iff.1 hi
  split
  · exact hf d' (h d' (List.mem_of_getElem? hd'))
  · exact h d' (List.mem_of_getElem? hd')

/-- Listing devices makes no calls and leaves the devices and the sessions alone. -/
theorem does_find (w : World) (vendor product : Id) : ∃ answer,
    Does Mark.call? (step (.find vendor product)) w answer []
      { w with bus := if w.manager.isSome then w.bus.listing else w.bus } := by
  obtain ⟨bus, manager, slots⟩ := w
  cases manager with
  | none => exact ⟨.managerClosed, (Does.look _ _).bind_silent (.pure _ _)⟩
  | some m =>
    obtain ⟨value, hfind⟩ := Manager.does_find vendor product bus
    rcases value with e | devices
    · exact ⟨.failed e, (Does.look _ _).bind_silent ((does_onBus hfind).bind_silent (.pure _ _))⟩
    · exact ⟨.found devices,
        (Does.look _ _).bind_silent ((does_onBus hfind).bind_silent (.pure _ _))⟩

theorem Calm.find (h : w.Calm) :
    Calm { w with bus := if w.manager.isSome then w.bus.listing else w.bus } := by
  intro d hd
  refine h d ?_
  dsimp only at hd
  split at hd
  · rwa [Bus.devices_listing] at hd
  · exact hd

section Connect

variable {m : Manager} {vendor product : Id} {reset : Bool} {cs : List (Nat × Call)} {bus : Bus}

/-- Connecting that fails leaves the slots alone. -/
theorem does_connect_of_error {e : Error}
    (h : Does Mark.call? (m.connect vendor product reset) w.bus (.error e) cs bus) :
    Does Mark.call? (connect m slot vendor product reset) w (.failed e) cs { w with bus } :=
  (does_onBus h).bind_pure (.pure _ _)

/-- A new session goes into an empty slot. -/
theorem does_connect_of_empty
    (h : Does Mark.call? (m.connect vendor product reset) w.bus (.ok s) cs bus)
    (hslot : Slots.get? slot w.slots = none) :
    Does Mark.call? (connect m slot vendor product reset) w (.connected s.details s.binding) cs
      { w with bus, slots := Slots.set slot s w.slots } := by
  refine (does_onBus h).bind_pure ((Does.look _ _).bind_silent ((Does.change _ _).bind_silent ?_))
  rw [hslot]
  exact .pure _ _

/-- A new session takes the place of another, which is let go of afterwards. -/
theorem does_connect_of_held {old : Session} {ds : List Call} {p : Clocked}
    (h : Does Mark.call? (m.connect vendor product reset) w.bus (.ok s) cs bus)
    (hslot : Slots.get? slot w.slots = some old)
    (hold : Does Entry.call? old.drop ⟨bus.device old.device, bus.now⟩ () ds p) :
    Does Mark.call? (connect m slot vendor product reset) w (.connected s.details s.binding)
      (cs ++ ds.map (old.device, ·))
      { w with bus := bus.after old.device p, slots := Slots.set slot s w.slots } := by
  refine (does_onBus h).bind ((Does.look _ _).bind_silent ((Does.change _ _).bind_silent ?_))
  rw [hslot]
  exact (does_onBus (Bus.does_act hold)).bind_pure (.pure _ _)

variable (w m slot vendor product reset) in
/-- Connecting fails, or its session goes into the slot, from which another is let go of if it was
    there. -/
theorem run_connect :
    let o := (m.connect vendor product reset).run w.bus
    let w' := ((connect m slot vendor product reset).run w).state
    (∃ e, o.value = .error e ∧ w' = { w with bus := o.state }) ∨
      ∃ s, o.value = .ok s ∧
        (Slots.get? slot w.slots = none ∧
            w' = { w with bus := o.state, slots := Slots.set slot s w.slots } ∨
          ∃ old, Slots.get? slot w.slots = some old ∧
            w' = { w with
              bus := o.state.after old.device
                (old.drop.run ⟨o.state.device old.device, o.state.now⟩).state
              slots := Slots.set slot s w.slots }) := by
  intro o w'
  cases hvalue : o.value with
  | error e =>
    have hdoes : Does Mark.call? (m.connect vendor product reset) w.bus _ _ _ := ⟨hvalue, rfl, rfl⟩
    exact .inl ⟨e, rfl, (does_connect_of_error hdoes).state⟩
  | ok s =>
    have hdoes : Does Mark.call? (m.connect vendor product reset) w.bus _ _ _ := ⟨hvalue, rfl, rfl⟩
    cases hslot : Slots.get? slot w.slots with
    | none => exact .inr ⟨s, rfl, .inl ⟨rfl, (does_connect_of_empty hdoes hslot).state⟩⟩
    | some old =>
      have hdrop := Act.does_run ⟨o.state.device old.device, o.state.now⟩ old.drop
      exact .inr ⟨s, rfl, .inr ⟨old, rfl, (does_connect_of_held hdoes hslot hdrop).state⟩⟩

end Connect

/-! ### Scenarios -/

/-- Lets go of the sessions in the slots, one after the other. -/
def letGoEach : Slots → Happening Unit
  | [] => pure ()
  | slot :: slots => do
    letGo slot.2
    letGoEach slots

/-- Runs operations one after the other, up to the end of the sessions that are left. -/
def runs : List Operation → Happening Unit
  | [] => finish
  | op :: ops => do
    let _ ← step op
    runs ops

/-- The world after operations. -/
def after (w : World) : List Operation → World
  | [] => w
  | op :: ops => after ((step op).run w).state ops

/-- The answers to operations, one after the other. -/
def answers (w : World) : List Operation → List Answer
  | [] => []
  | op :: ops => ((step op).run w).value :: answers ((step op).run w).state ops

theorem forIn_letGo (slots : Slots) :
    (forIn slots PUnit.unit fun slot _ => do
      letGo slot.2
      return ForInStep.yield PUnit.unit : Happening PUnit) = letGoEach slots := by
  induction slots with
  | nil => rfl
  | cons slot slots ih => simp [letGoEach, ← ih]

theorem finish_eq :
    finish = (Traced.look World.slots >>= fun slots => do
      letGoEach slots
      Traced.change fun w => { w with slots := [] }) := by
  rw [finish]
  simp only [forIn_letGo]

end World

/-! ## Slots -/

namespace Slots

variable {name : String} {s : Session} {slots : Slots}

/-- The names of the slots go up. -/
def Sorted (slots : Slots) : Prop := slots.Pairwise fun x y => x.1 < y.1

theorem get?_set_self (name : String) (s : Session) (slots : Slots) :
    get? name (set name s slots) = some s := by
  rw [get?_set, if_pos rfl]

theorem get?_set_of_ne {other : String} (h : other ≠ name) (s : Session) (slots : Slots) :
    get? other (set name s slots) = get? other slots := by
  rw [get?_set, if_neg h.symm]

theorem get?_erase_self (name : String) (slots : Slots) : get? name (erase name slots) = none := by
  rw [get?_erase, if_pos rfl]

theorem get?_erase_of_ne {other : String} (h : other ≠ name) (slots : Slots) :
    get? other (erase name slots) = get? other slots := by
  rw [get?_erase, if_neg h.symm]

theorem mem_set {x : String × Session} (hx : x ∈ set name s slots) : x = (name, s) ∨ x ∈ slots := by
  fun_induction set name s slots with
  | case1 => exact .inl (List.mem_singleton.1 hx)
  | case2 => exact List.mem_cons.1 hx
  | case3 => exact (List.mem_cons.1 hx).imp_right (List.mem_cons_of_mem _)
  | case4 other t slots _ _ ih =>
    rcases List.mem_cons.1 hx with rfl | hx
    · exact .inr List.mem_cons_self
    · exact (ih hx).imp_right (List.mem_cons_of_mem _)

theorem Sorted.set (h : Sorted slots) : Sorted (set name s slots) := by
  fun_induction Slots.set name s slots with
  | case1 => exact List.pairwise_singleton _ _
  | case2 other t slots hlt =>
    obtain ⟨hrest, -⟩ := List.pairwise_cons.1 h
    refine List.pairwise_cons.2 ⟨fun x hx => ?_, h⟩
    rcases List.mem_cons.1 hx with rfl | hx
    · exact hlt
    · exact hlt.trans (hrest x hx)
  | case3 t slots hlt =>
    obtain ⟨hrest, hsorted⟩ := List.pairwise_cons.1 h
    exact List.pairwise_cons.2 ⟨hrest, hsorted⟩
  | case4 other t slots hlt hne ih =>
    obtain ⟨hrest, hsorted⟩ := List.pairwise_cons.1 h
    refine List.pairwise_cons.2 ⟨fun x hx => ?_, ih hsorted⟩
    rcases mem_set hx with rfl | hx
    · exact lt_of_le_of_ne (not_lt.1 hlt) (Ne.symm hne)
    · exact hrest x hx

theorem erase_sublist (name : String) (slots : Slots) : (erase name slots).Sublist slots := by
  fun_induction erase name slots with
  | case1 => exact .slnil
  | case2 slot slots _ ih => exact ih.cons slot
  | case3 slot slots _ ih => exact ih.cons_cons slot

theorem mem_of_get? (h : get? name slots = some s) : (name, s) ∈ slots := by
  fun_induction get? name slots with
  | case1 => cases h
  | case2 =>
    cases h
    exact List.mem_cons_self
  | case3 other t slots _ ih => exact List.mem_cons_of_mem _ (ih h)

theorem get?_eq_none (h : ∀ x ∈ slots, x.1 ≠ name) : get? name slots = none := by
  induction slots with
  | nil => rfl
  | cons x slots ih =>
    obtain ⟨hx, hslots⟩ := List.forall_mem_cons.1 h
    rw [get?, if_neg hx]
    exact ih hslots

end Slots

end UsbSession
