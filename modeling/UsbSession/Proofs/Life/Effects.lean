import UsbSession.Proofs.Guise.Later
import UsbSession.Proofs.Life.World

/-!
# Effects of single operations

An operation concerns the slot that it is about, the device that the session in this slot is on, or
the manager (`World.concerns`); only a search goes through all devices. What an operation does that
does not search is its *effect*: an answer, a trace, and what it changes (`World.Effect`).

* `World.exists_hasEffect`: the effect changes only those that are concerned, and it is the same in
  all worlds that are the same to them — except for the time, which decides nothing
  (`World.timeless_serve`);
* `World.Effect.apply_comm`: the changes of two effects that concern different parties come to the
  same in both orders, as slots are sorted by name (`World.sorted_after`).
-/

namespace UsbSession

/-! ## Slots -/

namespace Slots

variable {name : String} {slots slots' : Slots}

/-- Puts a session into a slot, or empties it. -/
def assign (name : String) : Option Session → Slots → Slots
  | none => erase name
  | some s => set name s

theorem get?_assign (name other : String) (s? : Option Session) (slots : Slots) :
    get? other (assign name s? slots) = if name = other then s? else get? other slots := by
  cases s? with
  | none => exact get?_erase ..
  | some s => exact get?_set ..

theorem Sorted.assign (h : Sorted slots) (name : String) (s? : Option Session) :
    Sorted (assign name s? slots) := by
  cases s? with
  | none => exact h.sublist (erase_sublist name slots)
  | some s => exact h.set

theorem Sorted.mem_iff (h : Sorted slots) (x : String × Session) :
    x ∈ slots ↔ get? x.1 slots = some x.2 := by
  refine ⟨fun hx => ?_, mem_of_get?⟩
  induction slots with
  | nil => cases hx
  | cons y slots ih =>
    obtain ⟨hy, hsorted⟩ := List.pairwise_cons.1 h
    rcases List.mem_cons.1 hx with rfl | hx
    · exact if_pos rfl
    · exact (if_neg (hy x hx).ne).trans (ih hsorted hx)

/-- What the slots hold decides how they are kept. -/
theorem Sorted.ext (h : Sorted slots) (h' : Sorted slots')
    (hget : ∀ name, get? name slots = get? name slots') : slots = slots' := by
  have hnodup {l : Slots} (hl : Sorted l) : l.Nodup :=
    hl.imp fun hlt heq => hlt.ne (congrArg Prod.fst heq)
  have hperm : slots.Perm slots' := by
    refine (List.perm_ext_iff_of_nodup (hnodup h) (hnodup h')).2 fun x => ?_
    rw [h.mem_iff, h'.mem_iff, hget]
  exact hperm.eq_of_pairwise (fun _ _ _ _ hlt hgt => absurd hgt hlt.asymm) h h'

theorem Sorted.assign_comm (h : Sorted slots) {other : String} (hne : name ≠ other)
    (s? t? : Option Session) :
    Slots.assign name s? (Slots.assign other t? slots) =
      Slots.assign other t? (Slots.assign name s? slots) := by
  refine ((h.assign other t?).assign name s?).ext ((h.assign name s?).assign other t?) fun x => ?_
  rw [get?_assign, get?_assign, get?_assign, get?_assign]
  by_cases hname : name = x
  · rw [if_pos hname, if_pos hname, if_neg fun hother => hne (hname.trans hother.symm)]
  · rw [if_neg hname, if_neg hname]

end Slots

/-! ## Parties -/

/-- Who can be concerned by an operation. -/
inductive Party
  /-- The device at a place. -/
  | device (place : Nat)
  | slot (name : String)
  | manager
  deriving DecidableEq, Repr

/-- The slot that the operation is about. -/
def Operation.slot? : Operation → Option String
  | request slot _ | drop slot => some slot
  | _ => none

namespace World

variable {w w' : World} {op : Operation} {slot : String} {s : Session}

/-- Whether an operation concerns a party. A search concerns everyone. -/
def concerns (w : World) (op : Operation) (p : Party) : Bool :=
  match op with
  | .connect .. | .find .. => true
  | .request slot _ | .drop slot =>
    p = .slot slot || (Slots.get? slot w.slots).any fun s => p = .device s.device
  | .script place _ | .inbound place _ | .outbound place _ => p = .device place
  | .options | .closeManager => p = .manager

theorem concerns_of_searches (h : op.searches = true) (p : Party) : w.concerns op p = true := by
  cases op with
  | connect | find => rfl
  | _ => cases h

theorem concerns_of_slot? (hop : op.slot? = some slot) (p : Party) :
    w.concerns op p =
      (p = .slot slot || (Slots.get? slot w.slots).any fun s => p = .device s.device) := by
  cases op with
  | request | drop => cases hop; rfl
  | _ => cases hop

theorem concerns_slot (hop : op.slot? = some slot) : w.concerns op (.slot slot) = true := by
  rw [concerns_of_slot? hop, decide_eq_true rfl, Bool.true_or]

theorem concerns_device (hop : op.slot? = some slot) (hslot : Slots.get? slot w.slots = some s) :
    w.concerns op (.device s.device) = true := by
  rw [concerns_of_slot? hop, hslot, Option.any_some, decide_eq_true rfl, Bool.or_true]

theorem exists_concerns (w : World) (op : Operation) : ∃ p, w.concerns op p = true := by
  cases op with
  | connect | find => exact ⟨.manager, rfl⟩
  | request slot | drop slot => exact ⟨.slot slot, concerns_slot rfl⟩
  | script place | inbound place | outbound place =>
    exact ⟨.device place, decide_eq_true rfl⟩
  | options | closeManager => exact ⟨.manager, rfl⟩

/-- The worlds are the same to those concerned. -/
structure SameTo (concerned : Party → Bool) (w w' : World) : Prop where
  device : ∀ place, concerned (.device place) = true → w'.bus.device place = w.bus.device place
  slot : ∀ name, concerned (.slot name) = true →
    Slots.get? name w'.slots = Slots.get? name w.slots
  manager : concerned .manager = true → w'.manager = w.manager

theorem SameTo.refl (concerned : Party → Bool) (w : World) : SameTo concerned w w :=
  ⟨fun _ _ => rfl, fun _ _ => rfl, fun _ => rfl⟩

theorem SameTo.symm {concerned : Party → Bool} (h : SameTo concerned w w') :
    SameTo concerned w' w :=
  ⟨fun place hp => (h.device place hp).symm, fun name hp => (h.slot name hp).symm,
    fun hp => (h.manager hp).symm⟩

/-- Whom an operation concerns, it concerns in every world that is the same to them. -/
theorem SameTo.concerns_eq (h : SameTo (w.concerns op) w w') :
    w'.concerns op = w.concerns op := by
  funext p
  cases op with
  | request slot | drop slot =>
    have hslot := h.slot slot (concerns_slot rfl)
    rw [concerns, concerns, hslot]
  | _ => rfl

/-! ## Effects -/

/-- What an operation does. -/
structure Effect where
  answer : Answer
  trace : List Mark := []
  /-- The place of the device that it changes, and the device it leaves there. -/
  device : Option (Nat × Device) := none
  /-- The slot that it changes, and what it leaves there. -/
  slot : Option (String × Option Session) := none
  /-- Whether the manager is closed. -/
  closes : Bool := false
  /-- The time that it takes. -/
  takes : Nat := 0

namespace Effect

variable {e e' : Effect} {concerned concerned' : Party → Bool}

/-- The world with the changes made. -/
def apply (e : Effect) (w : World) : World where
  bus := { w.bus with
    devices := e.device.elim w.bus.devices fun d => w.bus.devices.set d.1 d.2
    now := w.bus.now + e.takes }
  manager := if e.closes then none else w.manager
  slots := e.slot.elim w.slots fun x => Slots.assign x.1 x.2 w.slots

/-- What an operation with this effect leaves. -/
def outcome (e : Effect) (w : World) : Outcome World Mark Answer := ⟨e.answer, e.apply w, e.trace⟩

/-- All that is changed, and all devices that are called, are concerned. -/
structure Within (e : Effect) (concerned : Party → Bool) : Prop where
  device : ∀ place d, e.device = some (place, d) → concerned (.device place) = true
  slot : ∀ name s?, e.slot = some (name, s?) → concerned (.slot name) = true
  manager : e.closes = true → concerned .manager = true
  calls : ∀ c ∈ Mark.calls e.trace, concerned (.device c.1) = true

/-- To those that it does not concern, an operation leaves the world the same. -/
theorem Within.sameTo (h : e.Within concerned) (w : World)
    (hapart : ∀ p, concerned p = true → concerned' p ≠ true) :
    SameTo concerned' w (e.apply w) where
  device place hplace := by
    unfold apply Bus.device
    cases hdevice : e.device with
    | none => rfl
    | some d =>
      have hne : d.1 ≠ place := fun heq =>
        hapart (.device d.1) (h.device d.1 d.2 hdevice) (heq ▸ hplace)
      dsimp only [Option.elim_some]
      rw [List.getD_eq_getElem?_getD, List.getElem?_set_ne hne, List.getD_eq_getElem?_getD]
  slot name hname := by
    unfold apply
    cases hslot : e.slot with
    | none => rfl
    | some x =>
      have hne : x.1 ≠ name := fun heq => hapart (.slot x.1) (h.slot x.1 x.2 hslot) (heq ▸ hname)
      exact (Slots.get?_assign ..).trans (if_neg hne)
  manager hmanager := if_neg fun hcloses => hapart .manager (h.manager hcloses) hmanager

theorem sorted_apply (h : w.slots.Sorted) (e : Effect) : (e.apply w).slots.Sorted := by
  unfold apply
  cases e.slot with
  | none => exact h
  | some x => exact h.assign x.1 x.2

/-- Effects that concern different parties come to the same in both orders. -/
theorem apply_comm (h : e.Within concerned) (h' : e'.Within concerned')
    (hapart : ∀ p, concerned p = true → concerned' p ≠ true) (hsorted : w.slots.Sorted) :
    e.apply (e'.apply w) = e'.apply (e.apply w) := by
  have hdevices : (e.apply (e'.apply w)).bus.devices = (e'.apply (e.apply w)).bus.devices := by
    unfold apply
    cases hd : e.device with
    | none => rfl
    | some d =>
      cases hd' : e'.device with
      | none => rfl
      | some d' =>
        have hne : d'.1 ≠ d.1 := fun heq =>
          hapart (.device d.1) (h.device _ _ hd) (heq ▸ h'.device _ _ hd')
        exact List.set_comm d'.2 d.2 hne
  have hslots : (e.apply (e'.apply w)).slots = (e'.apply (e.apply w)).slots := by
    unfold apply
    cases hx : e.slot with
    | none => rfl
    | some x =>
      cases hx' : e'.slot with
      | none => rfl
      | some x' =>
        have hne : x.1 ≠ x'.1 := fun heq =>
          hapart (.slot x.1) (h.slot _ _ hx) (heq ▸ h'.slot _ _ hx')
        exact hsorted.assign_comm hne x.2 x'.2
  have hmanager : (e.apply (e'.apply w)).manager = (e'.apply (e.apply w)).manager := by
    unfold apply
    dsimp only
    split <;> split <;> rfl
  have hnow : (e.apply (e'.apply w)).bus.now = (e'.apply (e.apply w)).bus.now :=
    Nat.add_right_comm ..
  change World.mk (Bus.mk _ _ _ _ _) _ _ = World.mk (Bus.mk _ _ _ _ _) _ _
  rw [World.mk.injEq, Bus.mk.injEq]
  exact ⟨⟨hdevices, rfl, hnow, rfl, rfl⟩, hmanager, hslots⟩

end Effect

/-! ## Operations have effects -/

/-- A request takes its time whenever it starts. -/
theorem timeless_serve (s : Session) (r : Request) : (serve s r).Timeless := by
  intro k p
  have hoverlapping := s.timeless_overlapping r k p
  have hperform := s.timeless_perform r k p
  by_cases h : (r.isTransfer && p.device.hasInterludes) = true
  · have hserve (q : Clocked) (hq : q.device = p.device) : (serve s r).run q =
        let o := (s.overlapping r).run q
        { o with value := (.replied o.value.reply o.value.nested, o.value.session) } :=
      if_pos (hq ▸ h)
    rw [hserve (p.later k) rfl, hserve p rfl, hoverlapping]
  · have hserve (q : Clocked) (hq : q.device = p.device) : (serve s r).run q =
        let o := (s.perform r).run q
        { o with value := (.replied (some o.value.1) [], o.value.2) } :=
      if_neg (hq ▸ h)
    rw [hserve (p.later k) rfl, hserve p rfl, hperform]

/-- What starts at a time is done as at the beginning of time, later. -/
theorem run_of_timeless {α : Type} {x : Act α} (h : x.Timeless) (d : Device) (now : Nat) :
    x.run ⟨d, now⟩ =
      let o := x.run ⟨d, 0⟩
      { o with state := ⟨o.state.device, now + o.state.now⟩ } := by
  have hlater := h now ⟨d, 0⟩
  rw [Clocked.later, Clocked.later, Nat.zero_add] at hlater
  rw [hlater, Nat.add_comm]

/-- The operation has the effect in every world that is the same to those it concerns. -/
structure HasEffect (w : World) (op : Operation) (e : Effect) : Prop where
  within : e.Within (w.concerns op)
  run : ∀ w', SameTo (w.concerns op) w w' → (step op).run w' = e.outcome w'

theorem within_answer (a : Answer) (concerned : Party → Bool) :
    Effect.Within { answer := a } concerned where
  device _ _ h := by cases h
  slot _ _ h := by cases h
  manager h := by cases h
  calls := List.forall_mem_nil _

section Sessions

variable {α : Type} {o : Outcome Clocked Entry α}

/-- What a session does for an operation in its slot. -/
def Effect.ofAct (slot : String) (s : Session) (o : Outcome Clocked Entry α) (answer : Answer)
    (left : Option Session) : Effect where
  answer := answer
  trace := o.trace.map (.ofEntry s.device)
  device := some (s.device, o.state.device)
  slot := some (slot, left)
  takes := o.state.now

theorem within_ofAct (hop : op.slot? = some slot) (hslot : Slots.get? slot w.slots = some s)
    (answer : Answer) (left : Option Session) :
    (Effect.ofAct slot s o answer left).Within (w.concerns op) where
  device _ _ h := by
    cases h
    exact concerns_device hop hslot
  slot _ _ h := by
    cases h
    exact concerns_slot hop
  manager h := by cases h
  calls c hc := by
    rw [Effect.ofAct, Mark.calls_map_ofEntry] at hc
    obtain ⟨c, -, rfl⟩ := List.mem_map.1 hc
    exact concerns_device hop hslot

theorem hasEffect_request (hslot : Slots.get? slot w.slots = some s) (r : Request) :
    let o := (serve s r).run ⟨w.bus.device s.device, 0⟩
    w.HasEffect (.request slot r) (.ofAct slot s o o.value.1 (some o.value.2)) := by
  refine ⟨within_ofAct rfl hslot _ _, fun w' hsame => ?_⟩
  have hget := (hsame.slot slot (concerns_slot rfl)).trans hslot
  have hdevice := hsame.device s.device (concerns_device rfl hslot)
  rw [run_step_request hget, run_of_timeless (timeless_serve s r), hdevice]
  rfl

theorem hasEffect_drop (hslot : Slots.get? slot w.slots = some s) :
    let o := s.drop.run ⟨w.bus.device s.device, 0⟩
    w.HasEffect (.drop slot) (.ofAct slot s o (.dropped true) none) := by
  refine ⟨within_ofAct rfl hslot _ _, fun w' hsame => ?_⟩
  have hget := (hsame.slot slot (concerns_slot rfl)).trans hslot
  have hdevice := hsame.device s.device (concerns_device rfl hslot)
  rw [run_step_drop hget, run_of_timeless s.timeless_drop, hdevice]
  rfl

end Sessions

theorem hasEffect_changeDevice {place : Nat} {f : Device → Device}
    (hconcerns : w.concerns op = fun p => decide (p = .device place))
    (hstep : step op = do
      changeDevice place f
      return .done) :
    w.HasEffect op { answer := .done, device := some (place, f (w.bus.device place)) } where
  within := by
    refine ⟨fun _ _ h => ?_, fun _ _ h => ?_, fun h => ?_, List.forall_mem_nil _⟩
    · cases h
      rw [hconcerns]
      exact decide_eq_true rfl
    · cases h
    · cases h
  run w' hsame := by
    have hdevice := hsame.device place (hconcerns ▸ decide_eq_true rfl)
    have hset : w'.bus.devices.modify place f =
        w'.bus.devices.set place (f (w.bus.device place)) := by
      rw [List.modify_eq_set, ← hdevice, Bus.device, List.getD_eq_getElem?_getD]
    rw [hstep, Effect.outcome, Effect.apply, Option.elim_some, ← hset]
    rfl

/-- In an empty slot there is nobody to ask. -/
theorem hasEffect_of_empty {a : Answer} (hslot? : op.slot? = some slot)
    (hslot : Slots.get? slot w.slots = none)
    (hstep : ∀ w', Slots.get? slot w'.slots = none → (step op).run w' = ⟨a, w', []⟩) :
    w.HasEffect op { answer := a } :=
  ⟨within_answer a _, fun w' hsame =>
    hstep w' ((hsame.slot slot (concerns_slot hslot?)).trans hslot)⟩

theorem hasEffect_options (w : World) :
    w.HasEffect .options { answer := .options (w.manager.map Manager.options) } := by
  refine ⟨within_answer _ _, fun w' hsame => ?_⟩
  have hmanager : w'.manager = w.manager := hsame.manager rfl
  rw [← hmanager]
  rfl

theorem hasEffect_closeManager (w : World) :
    w.HasEffect .closeManager
      { answer := .done
        trace := if w.manager.isSome then [.log .contextClosed] else []
        closes := true } where
  within := by
    refine ⟨fun _ _ h => ?_, fun _ _ h => ?_, fun _ => rfl, ?_⟩
    · cases h
    · cases h
    · cases w.manager <;> exact List.forall_mem_nil _
  run w' hsame := by
    have hmanager : w'.manager = w.manager := hsame.manager rfl
    rw [← hmanager]
    obtain ⟨bus, manager, slots⟩ := w'
    cases manager <;> rfl

/-- What does not search has an effect on those it concerns. -/
theorem exists_hasEffect (w : World) (hop : op.searches = false) : ∃ e, w.HasEffect op e := by
  cases op with
  | connect | find => cases hop
  | request slot r =>
    cases hslot : Slots.get? slot w.slots with
    | none =>
      refine ⟨_, hasEffect_of_empty (a := .noSession) rfl hslot fun w' hget => ?_⟩
      rw [step, Traced.run_bind, Traced.run_look, hget]
      rfl
    | some s => exact ⟨_, hasEffect_request hslot r⟩
  | drop slot =>
    cases hslot : Slots.get? slot w.slots with
    | none =>
      refine ⟨_, hasEffect_of_empty (a := .dropped false) rfl hslot fun w' hget => ?_⟩
      rw [step, Traced.run_bind, Traced.run_look, hget]
      rfl
    | some s => exact ⟨_, hasEffect_drop hslot⟩
  | script | inbound | outbound => exact ⟨_, hasEffect_changeDevice rfl rfl⟩
  | options => exact ⟨_, hasEffect_options w⟩
  | closeManager => exact ⟨_, hasEffect_closeManager w⟩

theorem HasEffect.run_self {e : Effect} (h : w.HasEffect op e) : (step op).run w = e.outcome w :=
  h.run w (.refl _ w)

theorem HasEffect.after {e : Effect} (h : w.HasEffect op e) (hsame : SameTo (w.concerns op) w w') :
    w'.after [op] = e.apply w' :=
  congrArg Outcome.state (h.run w' hsame)

/-! ## Slots stay sorted -/

theorem sorted_step (h : w.slots.Sorted) (op : Operation) :
    ((step op).run w).state.slots.Sorted := by
  by_cases hop : op.searches = true
  · cases op with
    | connect slot vendor product reset =>
      obtain ⟨bus, manager, slots⟩ := w
      cases manager with
      | none => exact h
      | some m =>
        change ((connect m slot vendor product reset).run ⟨bus, some m, slots⟩).state.slots.Sorted
        rcases run_connect ⟨bus, some m, slots⟩ slot m vendor product reset with
          ⟨e, -, hrun⟩ | ⟨s, -, ⟨-, hrun⟩ | ⟨old, -, hrun⟩⟩
        · rw [hrun]
          exact h
        · rw [hrun]
          exact h.set
        · rw [hrun]
          exact h.set
    | find vendor product =>
      obtain ⟨answer, hfind⟩ := w.does_find vendor product
      rw [hfind.state]
      exact h
    | _ => cases hop
  · obtain ⟨e, he⟩ := w.exists_hasEffect (Bool.eq_false_iff.2 hop)
    rw [he.run_self]
    exact Effect.sorted_apply h e

theorem sorted_after (h : w.slots.Sorted) (ops : List Operation) : (w.after ops).slots.Sorted := by
  induction ops generalizing w with
  | nil => exact h
  | cons op ops ih => exact ih (sorted_step h op)

end World

end UsbSession
