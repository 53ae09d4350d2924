import UsbSession.Proofs.Life.World
import UsbSession.Proofs.Overlap.Progress

/-!
# What is open, and who answers for it

The accounts of a scenario. A device has one open handle for every session on it that is in a slot
and not closed (`World.Balanced`), however sessions fail to open, take turns, are closed, replaced
and let go of. Every device list that is handed out is released (`Bus.Lists`).

The handles need that operations come to their ends (`World.Returns`): when threads wait for each
other for ever, the session that one of them is closing is neither open nor closed for good. They do
where no transfer has to wait for a read or write that is made meanwhile
(`World.Balanced.returnAll`).

* `World.Balanced.step`, `World.lists_step`: one operation;
* `World.no_leak`: the whole.
-/

namespace UsbSession

open Traced (Does)

/-! ## Sessions that answer for a handle -/

/-- Whether the session is on the device at the place and not closed. -/
def Session.isLive (s : Session) (place : Nat) : Bool := s.device == place && s.state != .closed

theorem Session.isLive_device (s : Session) : (s.isLive s.device).toNat = s.state.handles := by
  rw [isLive, beq_self_eq_true]
  cases s.state <;> rfl

namespace Slots

variable {name : String} {s : Session} {slots : Slots}

/-- How many slots hold a session on the device at the place that is not closed. -/
def live (place : Nat) (slots : Slots) : Nat := slots.countP (·.2.isLive place)

theorem live_cons (place : Nat) (slot : String × Session) (slots : Slots) :
    live place (slot :: slots) = live place slots + (slot.2.isLive place).toNat := by
  rw [live, List.countP_cons]
  cases slot.2.isLive place <;> rfl

/-- The name of a slot is not found further on. -/
theorem Sorted.get?_tail {slot : String × Session} (h : Sorted (slot :: slots)) :
    get? slot.1 slots = none :=
  get?_eq_none fun x hx => (ne_of_lt ((List.pairwise_cons.1 h).1 x hx)).symm

theorem erase_of_get?_none (h : get? name slots = none) : erase name slots = slots := by
  fun_induction erase name slots with
  | case1 => rfl
  | case2 slot slots hname => rw [get?, if_pos hname] at h; cases h
  | case3 slot slots hname ih =>
    rw [get?, if_neg hname] at h
    rw [ih h]

/-- A session in a slot, and the other slots. -/
theorem Sorted.perm_erase (h : Sorted slots) (hslot : get? name slots = some s) :
    slots.Perm ((name, s) :: erase name slots) := by
  fun_induction erase name slots with
  | case1 => cases hslot
  | case2 slot slots hname ih =>
    subst hname
    rw [get?, if_pos rfl, Option.some.injEq] at hslot
    rw [erase_of_get?_none h.get?_tail, ← hslot]
  | case3 slot slots hname ih =>
    rw [get?, if_neg hname] at hslot
    exact ((ih (List.pairwise_cons.1 h).2 hslot).cons slot).trans (.swap ..)

theorem Sorted.perm_set (h : Sorted slots) (name : String) (s : Session) :
    (Slots.set name s slots).Perm ((name, s) :: erase name slots) := by
  fun_induction Slots.set name s slots with
  | case1 => exact .refl _
  | case2 other t slots hlt =>
    rw [erase_of_get?_none (get?_eq_none fun x hx => ?_)]
    rcases List.mem_cons.1 hx with rfl | hx
    · exact (ne_of_lt hlt).symm
    · exact (ne_of_lt (hlt.trans ((List.pairwise_cons.1 h).1 x hx))).symm
  | case3 t slots => rw [erase, if_pos rfl, erase_of_get?_none h.get?_tail]
  | case4 other t slots _ hne ih =>
    rw [erase, if_neg (Ne.symm hne)]
    exact ((ih (List.pairwise_cons.1 h).2).cons _).trans (.swap ..)

end Slots

/-! ## Devices -/

namespace Bus

variable {bus : Bus} {p : Clocked} {s t : Session}

/-- When a session becomes another on the same device, the handles are again those that sessions
    answer for. -/
theorem openHandles_after (hplaced : s.device < bus.devices.length) (hsame : t.device = s.device)
    (h : p.device.openHandles + s.state.handles =
      (bus.device s.device).openHandles + t.state.handles) (place : Nat) :
    ((bus.after s.device p).device place).openHandles + (s.isLive place).toNat =
      (bus.device place).openHandles + (t.isLive place).toNat := by
  rw [device_after p place hplaced]
  split
  · rename_i hplace
    subst hplace
    rw [s.isLive_device, ← hsame, t.isLive_device, hsame]
    exact h
  · rename_i hplace
    have hnot (s : Session) (hne : place ≠ s.device) : s.isLive place = false := by
      rw [Session.isLive, beq_eq_false_iff_ne.2 hne.symm, Bool.false_and]
    rw [hnot s hplace, hnot t (hsame ▸ hplace)]

end Bus

namespace Session

variable {s : Session} {r : Request} {p : Clocked}

/-- What a request makes of a session is on the same device, and closing only if that is where it
    was before. -/
theorem of_perform (s : Session) (r : Request) (p : Clocked) :
    ((s.perform r).run p).value.2.device = s.device ∧
      (s.state ≠ .closing → ((s.perform r).run p).value.2.state ≠ .closing) := by
  cases r with
  | close disconnected =>
    change ((s.close disconnected).run p).value.device = s.device ∧
      (s.state ≠ .closing → ((s.close disconnected).run p).value.state ≠ .closing)
    by_cases hopen : s.state = .open
    · obtain ⟨reads, p', hdoes⟩ := s.does_close_of_open hopen disconnected p
      rw [hdoes.value]
      exact ⟨rfl, fun _ => nofun⟩
    · rw [(s.does_close_of_not_open hopen disconnected p).value]
      exact ⟨rfl, id⟩
  | read | write | state | details | debug => exact ⟨rfl, id⟩

end Session

namespace World

variable {w : World} {op : Operation} {ops : List Operation} {slots : Slots}

/-! ## Handles -/

/-- The sessions are whole, and they answer for the open handles of the devices on the bus. -/
structure Covers (bus : Bus) (slots : Slots) : Prop where
  placed : ∀ x ∈ slots, x.2.device < bus.devices.length
  /-- No session was left half closed. -/
  whole : ∀ x ∈ slots, x.2.state ≠ .closing
  handles : ∀ place, (bus.device place).openHandles = Slots.live place slots

namespace Covers

variable {bus : Bus} {p : Clocked} {slots more : Slots} {slot : String × Session} {t : Session}

theorem perm (h : Covers bus slots) (hperm : more.Perm slots) : Covers bus more where
  placed x hx := h.placed x (hperm.mem_iff.1 hx)
  whole x hx := h.whole x (hperm.mem_iff.1 hx)
  handles place := (h.handles place).trans (hperm.countP_eq _).symm

theorem of_devices {bus' : Bus} (h : Covers bus slots) (hsame : bus'.devices = bus.devices) :
    Covers bus' slots where
  placed := hsame ▸ h.placed
  whole := h.whole
  handles place := by
    rw [Bus.device, hsame]
    exact h.handles place

theorem le (h : Covers bus (slot :: slots)) :
    slot.2.state.handles ≤ (bus.device slot.2.device).openHandles := by
  rw [h.handles, Slots.live_cons, Session.isLive_device]
  exact Nat.le_add_left _ _

/-- A session becomes another on the same device. -/
theorem become (h : Covers bus (slot :: slots)) (hsame : t.device = slot.2.device)
    (hwhole : t.state ≠ .closing)
    (hhandles : p.device.openHandles + slot.2.state.handles =
      (bus.device slot.2.device).openHandles + t.state.handles) :
    Covers (bus.after slot.2.device p) ((slot.1, t) :: slots) where
  placed x hx := by
    rw [Bus.after, List.length_set]
    rcases List.mem_cons.1 hx with rfl | hx
    · exact hsame ▸ h.placed slot List.mem_cons_self
    · exact h.placed x (List.mem_cons_of_mem _ hx)
  whole := List.forall_mem_cons.2 ⟨hwhole, (List.forall_mem_cons.1 h.whole).2⟩
  handles place := by
    have hafter := Bus.openHandles_after (h.placed slot List.mem_cons_self) hsame hhandles place
    have hbefore := h.handles place
    rw [Slots.live_cons] at hbefore ⊢
    dsimp only
    omega

/-- A session that is let go of leaves the others with their handles. -/
theorem letGo (h : Covers bus (slot :: slots)) :
    Covers (bus.after slot.2.device
      (slot.2.drop.run ⟨bus.device slot.2.device, bus.now⟩).state) slots := by
  have hwhole := h.whole slot List.mem_cons_self
  have hdrop := Session.openHandles_drop hwhole ⟨bus.device slot.2.device, bus.now⟩
  have hgone := h.become (t := { slot.2 with state := .closed }) rfl nofun
    (hdrop ▸ Nat.sub_add_cancel h.le)
  exact {
    placed := (List.forall_mem_cons.1 hgone.placed).2
    whole := (List.forall_mem_cons.1 hgone.whole).2
    handles := fun place => by
      rw [hgone.handles, Slots.live_cons, Session.isLive]
      simp }

end Covers

/-- Every open handle has a session in a slot that is not closed, and every such session has one. -/
structure Balanced (w : World) : Prop where
  covers : Covers w.bus w.slots
  sorted : w.slots.Sorted

/-- The operation comes to its end: no thread waits for ever. -/
def Returns (w : World) : Operation → Prop
  | .request slot r => ∀ s, Slots.get? slot w.slots = some s → r.isTransfer = true →
      (w.bus.device s.device).hasInterludes = true →
      ∀ t ∈ (s.rested r ⟨w.bus.device s.device, w.bus.now⟩).threads, t.point.reply?.isSome = true
  | _ => True

/-- All operations come to their ends, one after the other. -/
def ReturnAll : World → List Operation → Prop
  | _, [] => True
  | w, op :: ops => w.Returns op ∧ ReturnAll ((step op).run w).state ops

theorem Balanced.request (h : w.Balanced) {slot : String} {r : Request}
    (hop : w.Returns (.request slot r)) : Balanced ((step (.request slot r)).run w).state := by
  rcases w.run_request slot r with ⟨-, hstate⟩ | ⟨s, p, after, hslot, hstate, hrun⟩ <;> rw [hstate]
  · exact h
  · have hcovers := h.covers.perm (h.sorted.perm_erase hslot).symm
    refine ⟨Covers.perm ?_ (h.sorted.perm_set slot after), h.sorted.set⟩
    have hwhole := hcovers.whole _ List.mem_cons_self
    have hle : s.state.handles ≤
      (Clocked.mk (w.bus.device s.device) w.bus.now).device.openHandles := hcovers.le
    -- However the request was run, the handles of the device changed with the session.
    rcases hrun with ⟨reply, trace, hrun⟩ | ⟨htransfer, hinterludes, reply, nested, trace, hrun⟩
    · have hafter := s.of_perform r ⟨w.bus.device s.device, w.bus.now⟩
      have hhandles := Session.openHandles_perform r hle
      rw [hrun] at hafter hhandles
      exact hcovers.become hafter.1 (hafter.2 hwhole) hhandles
    · have hhandles := Session.openHandles_overlapping r hwhole hle
      have hne := Session.overlapping_ne_closing r hwhole hle (hop s hslot htransfer hinterludes)
      have hsame := s.device_overlapping r ⟨w.bus.device s.device, w.bus.now⟩
      rw [hrun] at hhandles hne hsame
      exact hcovers.become hsame hne hhandles

theorem Balanced.drop (h : w.Balanced) (slot : String) :
    Balanced ((step (.drop slot)).run w).state := by
  rcases w.run_drop slot with ⟨-, hstate⟩ | ⟨s, hslot, hstate⟩ <;> rw [hstate]
  · exact h
  · have hcovers := h.covers.perm (h.sorted.perm_erase hslot).symm
    exact ⟨hcovers.letGo, h.sorted.sublist (Slots.erase_sublist slot w.slots)⟩

theorem Balanced.connect (h : w.Balanced) (m : Manager) (slot : String) (vendor product : Id)
    (reset : Bool) : Balanced ((connect m slot vendor product reset).run w).state := by
  have hlength := m.length_connect vendor product reset w.bus
  obtain ⟨hok, hhandles⟩ := m.openHandles_connect vendor product reset w.bus
  rcases w.run_connect slot m vendor product reset with ⟨e, hvalue, hstate⟩ | ⟨s, hvalue, hslot⟩
  · rw [hvalue] at hhandles
    rw [hstate]
    refine ⟨⟨fun x hx => ?_, h.covers.whole, fun place => ?_⟩, h.sorted⟩
    · exact hlength.symm ▸ h.covers.placed x hx
    · exact (hhandles place).trans (h.covers.handles place)
  · obtain ⟨hopen, hplaced⟩ := hok s hvalue
    rw [hvalue] at hhandles
    have hcovers : Covers ((m.connect vendor product reset).run w.bus).state
        ((slot, s) :: w.slots) := {
      placed := List.forall_mem_cons.2 ⟨hlength.symm ▸ hplaced, fun x hx =>
        hlength.symm ▸ h.covers.placed x hx⟩
      whole := List.forall_mem_cons.2 ⟨by rw [hopen]; exact nofun, h.covers.whole⟩
      handles := fun place => by
        rw [hhandles place, h.covers.handles place, Slots.live_cons, Session.isLive, hopen,
          show (Session.State.open != .closed) = true from rfl, Bool.and_true]
        rfl }
    have hperm := h.sorted.perm_set slot s
    rcases hslot with ⟨hslot, hstate⟩ | ⟨old, hslot, hstate⟩ <;> rw [hstate]
    · rw [Slots.erase_of_get?_none hslot] at hperm
      exact ⟨hcovers.perm hperm, h.sorted.set⟩
    · -- With the new session in its slot the old one is still to be let go of.
      have hmore := (hperm.cons (slot, old)).trans (.swap ..)
      have hboth := hcovers.perm (hmore.trans ((h.sorted.perm_erase hslot).symm.cons _))
      exact ⟨hboth.letGo, h.sorted.set⟩

/-- Changing a device otherwise leaves its handles alone. -/
theorem Balanced.modify (h : w.Balanced) (place : Nat) {f : Device → Device}
    (hf : ∀ d, (f d).openHandles = d.openHandles) :
    Balanced { w with bus.devices := w.bus.devices.modify place f } := by
  refine ⟨⟨fun x hx => ?_, h.covers.whole, fun i => ?_⟩, h.sorted⟩
  · rw [List.length_modify]
    exact h.covers.placed x hx
  · rw [Bus.device_modify, ← h.covers.handles i]
    split
    · exact hf _
    · rfl

theorem Balanced.step (h : w.Balanced) (hop : w.Returns op) :
    Balanced ((step op).run w).state := by
  cases op with
  | connect slot vendor product reset =>
    obtain ⟨bus, manager, slots⟩ := w
    cases manager with
    | none => exact h
    | some m => exact h.connect m slot vendor product reset
  | find vendor product =>
    obtain ⟨answer, hfind⟩ := w.does_find vendor product
    rw [hfind.state]
    refine ⟨h.covers.of_devices ?_, h.sorted⟩
    dsimp only
    split
    · exact w.bus.devices_listing
    · rfl
  | request slot r => exact h.request hop
  | drop slot => exact h.drop slot
  | script place changes => exact h.modify place fun d => rfl
  | inbound place items => exact h.modify place fun d => rfl
  | outbound place items => exact h.modify place fun d => rfl
  | options => exact h
  | closeManager =>
    obtain ⟨bus, manager, slots⟩ := w
    cases manager with
    | none => exact ⟨h.covers, h.sorted⟩
    | some m => exact ⟨h.covers, h.sorted⟩

theorem Balanced.after (h : w.Balanced) (hops : w.ReturnAll ops) : (w.after ops).Balanced := by
  induction ops generalizing w with
  | nil => exact h
  | cons op ops ih => exact ih (h.step hops.1) hops.2

/-- When the sessions that answer for the open handles are let go of, none is open any more. -/
theorem Covers.letGoEach (h : Covers w.bus slots) :
    Covers ((letGoEach slots).run w).state.bus [] := by
  induction slots generalizing w with
  | nil => exact h
  | cons slot slots ih => exact ih (w := { w with bus := _ }) h.letGo

end World

/-! ### Scenarios that come to their ends -/

/-- All that happens during transfers of the devices is of a kind. -/
def Bus.Only (f : Interlude → Bool) (bus : Bus) : Prop := ∀ place, (bus.device place).Only f

/-- What the operation has happen during transfers is of a kind. -/
def Operation.Only (f : Interlude → Bool) : Operation → Prop
  | .inbound _ items => items.Only f
  | .outbound _ items => items.Only f
  | _ => True

namespace Bus.Only

variable {f : Interlude → Bool} {bus : Bus}

theorem after (h : bus.Only f) (place : Nat) {p : Clocked} (hp : p.device.Only f) :
    (bus.after place p).Only f := by
  intro i
  by_cases hi : i = place
  · subst hi
    by_cases hplace : i < bus.devices.length
    · rwa [Bus.device_after p i hplace, if_pos rfl]
    · rw [Bus.device, Bus.after, List.getD_eq_getElem?_getD, List.getElem?_set_self']
      rw [List.getElem?_eq_none (Nat.le_of_not_lt hplace)]
      exact ⟨List.forall_mem_nil _, List.forall_mem_nil _⟩
  · rw [Bus.device_after_of_ne p hi]
    exact h i

theorem modify (h : bus.Only f) (place : Nat) {g : Device → Device}
    (hg : ∀ d : Device, d.Only f → (g d).Only f) :
    Bus.Only f { bus with devices := bus.devices.modify place g } := by
  intro i
  rw [Bus.device_modify]
  split
  · exact hg _ (h i)
  · exact h i

theorem connect (h : bus.Only f) (m : Manager) (vendor product : Id) (reset : Bool) :
    ((m.connect vendor product reset).run bus).state.Only f := by
  intro i
  obtain ⟨hin, hout⟩ := m.queues_connect vendor product reset bus i
  exact (Device.byQueues_only f).same (bus.device i) _ hin hout (h i)

end Bus.Only

namespace World

variable {w : World} {op : Operation} {ops : List Operation} {f : Interlude → Bool}

theorem only_connect (h : w.bus.Only f) (m : Manager) (slot : String) (vendor product : Id)
    (reset : Bool) : ((connect m slot vendor product reset).run w).state.bus.Only f := by
  have honly := h.connect m vendor product reset
  rcases w.run_connect slot m vendor product reset with
    ⟨e, -, hstate⟩ | ⟨s, -, ⟨-, hstate⟩ | ⟨old, -, hstate⟩⟩ <;> rw [hstate]
  · exact honly
  · exact honly
  · exact honly.after old.device
      (old.preserves_drop (Device.byQueues_only f).enduring _ (honly old.device))

/-- What happens during transfers stays of the kind. -/
theorem only_step (h : w.bus.Only f) (hop : op.Only f) : ((step op).run w).state.bus.Only f := by
  cases op with
  | connect slot vendor product reset =>
    obtain ⟨bus, manager, slots⟩ := w
    cases manager with
    | none => exact h
    | some m => exact only_connect h m slot vendor product reset
  | find vendor product =>
    obtain ⟨answer, hfind⟩ := w.does_find vendor product
    rw [hfind.state]
    dsimp only
    split
    · intro i
      rw [Bus.device, Bus.devices_listing]
      exact h i
    · exact h
  | request slot r =>
    rcases w.run_request slot r with ⟨-, hstate⟩ | ⟨s, p, after, -, hstate, hrun⟩ <;> rw [hstate]
    · exact h
    · refine h.after s.device ?_
      have hP := (Device.byQueues_only f).enduring
      have hs := h s.device
      rcases hrun with ⟨reply, trace, hrun⟩ | ⟨-, -, reply, nested, trace, hrun⟩
      · have hperform := s.preserves_perform hP r ⟨w.bus.device s.device, w.bus.now⟩ hs
        rwa [hrun] at hperform
      · have hoverlap := s.preserves_overlapping hP r ⟨w.bus.device s.device, w.bus.now⟩ hs
        rwa [hrun] at hoverlap
  | drop slot =>
    rcases w.run_drop slot with ⟨-, hstate⟩ | ⟨s, -, hstate⟩ <;> rw [hstate]
    · exact h
    · exact h.after s.device (s.preserves_drop (Device.byQueues_only f).enduring _ (h s.device))
  | script place changes => exact h.modify place fun d hd => hd
  | inbound place items =>
    exact h.modify place fun d hd => ⟨List.forall_mem_append.2 ⟨hd.1, hop⟩, hd.2⟩
  | outbound place items =>
    exact h.modify place fun d hd => ⟨hd.1, List.forall_mem_append.2 ⟨hd.2, hop⟩⟩
  | options => exact h
  | closeManager =>
    obtain ⟨bus, manager, slots⟩ := w
    cases manager <;> exact h

theorem calm_iff : w.Calm ↔ w.bus.Only fun _ => false := by
  refine ⟨fun h place => Device.hasInterludes_eq_false.1 (Bus.hasInterludes_device h place),
    fun h d hd => ?_⟩
  obtain ⟨i, hi⟩ := List.getElem?_of_mem hd
  have hdevice : w.bus.device i = d := by rw [Bus.device, List.getD_eq_getElem?_getD, hi]; rfl
  exact Device.hasInterludes_eq_false.2 (hdevice ▸ h i)

theorem only_of_plain (hop : op.plain = true) : op.Only fun _ => false := by
  have hitems {α : Type} {items : Queue α} (h : items.all (·.during.isNone) = true) :
      items.Only fun _ => false := by
    intro i hi x hx
    have hnone := List.all_eq_true.1 h i hi
    rw [hx] at hnone
    cases hnone
  cases op with
  | inbound place items => exact hitems hop
  | outbound place items => exact hitems hop
  | _ => trivial

/-- A calm world stays so, if nothing is to happen during transfers. -/
theorem Calm.step (h : w.Calm) (hop : op.plain = true) : Calm ((step op).run w).state :=
  calm_iff.2 (only_step (calm_iff.1 h) (only_of_plain hop))

theorem Calm.after (h : w.Calm) (hops : ∀ op ∈ ops, op.plain = true) : (w.after ops).Calm := by
  induction ops generalizing w with
  | nil => exact h
  | cons op ops ih =>
    obtain ⟨hop, hops⟩ := List.forall_mem_cons.1 hops
    exact ih (h.step hop) hops

/-- Where no transfer has to wait for the end of a read or write, every operation comes to its end.
    -/
theorem Balanced.returns (h : w.Balanced) (hw : w.bus.Only Interlude.gentle) (op : Operation) :
    w.Returns op := by
  cases op with
  | request slot r =>
    intro s hslot _ _
    have hcovers := h.covers.perm (h.sorted.perm_erase hslot).symm
    exact s.returns_of_gentle r (hcovers.whole _ List.mem_cons_self) hcovers.le (hw s.device)
  | _ => trivial

theorem Balanced.returnAll (h : w.Balanced) (hw : w.bus.Only Interlude.gentle)
    (hops : ∀ op ∈ ops, op.Only Interlude.gentle) : w.ReturnAll ops := by
  induction ops generalizing w with
  | nil => trivial
  | cons op ops ih =>
    obtain ⟨hop, hops⟩ := List.forall_mem_cons.1 hops
    have hreturns := h.returns hw op
    exact ⟨hreturns, ih (h.step hreturns) (only_step hw hop) hops⟩

end World

/-! ## Device lists -/

/-- How many of the operations ask for a device list before the manager is closed. -/
def listings (ops : List Operation) : Nat :=
  (ops.takeWhile (· != .closeManager)).countP Operation.searches

/-- So many device lists were handed out in between, and released. -/
structure Bus.Lists (bus bus' : Bus) (n : Nat) : Prop where
  listError : bus'.listError = bus.listError
  enumerations : bus'.enumerations = bus.enumerations + n
  listFrees : bus'.listFrees = bus.listFrees + n

theorem Bus.Lists.trans {bus bus' bus'' : Bus} {n k : Nat} (h : bus.Lists bus' n)
    (h' : bus'.Lists bus'' k) : bus.Lists bus'' (n + k) where
  listError := h'.listError.trans h.listError
  enumerations := by rw [h'.enumerations, h.enumerations, Nat.add_assoc]
  listFrees := by rw [h'.listFrees, h.listFrees, Nat.add_assoc]

namespace World

variable {w : World} {ops : List Operation}

theorem lists_connect (m : Manager) (slot : String) (vendor product : Id) (reset : Bool)
    (w : World) :
    let w' := ((connect m slot vendor product reset).run w).state
    w.bus.Lists w'.bus w.bus.listError.isNone.toNat ∧ w'.manager = w.manager := by
  intro w'
  have hlists : w.bus.Lists ((m.connect vendor product reset).run w.bus).state
      w.bus.listError.isNone.toNat := by
    cases hlist : w.bus.listError with
    | some code =>
      rw [(m.does_connect_of_error vendor product reset hlist).state]
      exact ⟨rfl, rfl, rfl⟩
    | none =>
      rw [(m.does_connect vendor product reset hlist).state]
      exact ⟨rfl, rfl, rfl⟩
  rcases w.run_connect slot m vendor product reset with
    ⟨e, -, hstate⟩ | ⟨s, -, ⟨-, hstate⟩ | ⟨old, -, hstate⟩⟩ <;> rw [show w' = _ from hstate]
  · exact ⟨hlists, rfl⟩
  · exact ⟨hlists, rfl⟩
  · exact ⟨⟨hlists.listError, hlists.enumerations, hlists.listFrees⟩, rfl⟩

/-- An operation has a device list handed out and released if it asks for one and may have it. -/
theorem lists_step (w : World) (op : Operation) :
    let w' := ((step op).run w).state
    w.bus.Lists w'.bus (w.manager.isSome && w.bus.listError.isNone && op.searches).toNat ∧
      w'.manager = if op = .closeManager then none else w.manager := by
  cases op with
  | connect slot vendor product reset =>
    rw [if_neg nofun]
    obtain ⟨bus, manager, slots⟩ := w
    cases manager with
    | none => exact ⟨⟨rfl, rfl, rfl⟩, rfl⟩
    | some m =>
      rw [Option.isSome_some, Bool.true_and, show Operation.searches _ = true from rfl,
        Bool.and_true]
      exact lists_connect m slot vendor product reset ⟨bus, some m, slots⟩
  | find vendor product =>
    rw [if_neg nofun]
    obtain ⟨answer, hfind⟩ := w.does_find vendor product
    rw [hfind.state, Bus.listing]
    obtain ⟨⟨devices, listError, now, enumerations, listFrees⟩, manager, slots⟩ := w
    cases manager <;> cases listError <;> exact ⟨⟨rfl, rfl, rfl⟩, rfl⟩
  | request slot r =>
    rw [if_neg nofun, show Operation.searches _ = false from rfl, Bool.and_false]
    rcases w.run_request slot r with ⟨-, hstate⟩ | ⟨s, p, after, -, hstate, -⟩ <;> rw [hstate]
    · exact ⟨⟨rfl, rfl, rfl⟩, rfl⟩
    · exact ⟨⟨rfl, rfl, rfl⟩, rfl⟩
  | drop slot =>
    rw [if_neg nofun, show Operation.searches _ = false from rfl, Bool.and_false]
    rcases w.run_drop slot with ⟨-, hstate⟩ | ⟨s, -, hstate⟩ <;> rw [hstate]
    · exact ⟨⟨rfl, rfl, rfl⟩, rfl⟩
    · exact ⟨⟨rfl, rfl, rfl⟩, rfl⟩
  | script | inbound | outbound | options =>
    rw [if_neg nofun, show Operation.searches _ = false from rfl, Bool.and_false]
    exact ⟨⟨rfl, rfl, rfl⟩, rfl⟩
  | closeManager =>
    rw [if_pos rfl, show Operation.searches _ = false from rfl, Bool.and_false]
    obtain ⟨bus, manager, slots⟩ := w
    cases manager <;> exact ⟨⟨rfl, rfl, rfl⟩, rfl⟩

theorem listings_cons {op : Operation} (hop : op ≠ .closeManager) (ops : List Operation) :
    listings (op :: ops) = op.searches.toNat + listings ops := by
  rw [listings, List.takeWhile_cons, if_pos (bne_iff_ne.2 hop), List.countP_cons, Nat.add_comm]
  cases op.searches <;> rfl

theorem lists_after (w : World) (ops : List Operation) :
    w.bus.Lists (w.after ops).bus
      (if w.manager.isSome && w.bus.listError.isNone then listings ops else 0) := by
  induction ops generalizing w with
  | nil => exact ⟨rfl, (ite_self 0).symm ▸ rfl, (ite_self 0).symm ▸ rfl⟩
  | cons op ops ih =>
    obtain ⟨hstep, hmanager⟩ := w.lists_step op
    have hrest := ih ((step op).run w).state
    rw [hmanager, hstep.listError] at hrest
    have htotal := hstep.trans hrest
    refine cast (congrArg _ ?_) htotal
    by_cases hop : op = .closeManager
    · -- What comes after that has no lists any more.
      subst hop
      rw [if_pos rfl, show Operation.searches _ = false from rfl, Bool.and_false]
      exact (ite_self 0).symm
    · rw [if_neg hop, listings_cons hop]
      cases w.manager.isSome && w.bus.listError.isNone with
      | false => rfl
      | true => rfl

/-! ## The whole -/

/-- Nothing was opened yet, and no device list handed out. -/
structure Fresh (w : World) : Prop where
  handles : ∀ d ∈ w.bus.devices, d.openHandles = 0
  enumerations : w.bus.enumerations = 0
  listFrees : w.bus.listFrees = 0
  manager : w.manager.isSome = true
  slots : w.slots = []

theorem Fresh.balanced (h : w.Fresh) : w.Balanced := by
  refine ⟨⟨?_, ?_, fun place => ?_⟩, ?_⟩
  · rw [h.slots]
    exact List.forall_mem_nil _
  · rw [h.slots]
    exact List.forall_mem_nil _
  · rw [h.slots, Bus.device, List.getD_eq_getElem?_getD]
    cases hd : w.bus.devices[place]? with
    | none => rfl
    | some d => exact h.handles d (List.mem_of_getElem? hd)
  · rw [h.slots]
    exact List.Pairwise.nil

theorem ReturnAll.take (h : w.ReturnAll ops) (n : Nat) : w.ReturnAll (ops.take n) := by
  induction ops generalizing w n with
  | nil => rw [List.take_nil]; exact h
  | cons op ops ih =>
    cases n with
    | zero => trivial
    | succ n => exact ⟨h.1, ih h.2 n⟩

/-- After every operation of a scenario in which none waits for ever the open handles of a device
    are those of the sessions on it that are in slots and not closed, and all device lists that were
    handed out are released: one for every connect and find that the manager was there for, or none
    if they cannot be had. In the end no handle is open. -/
theorem no_leak (h : w.Fresh) (hops : w.ReturnAll ops) :
    (∀ n, let w' := w.after (ops.take n)
      (∀ place, (w'.bus.device place).openHandles =
        w'.slots.countP fun x => x.2.device == place && x.2.state != .closed) ∧
      w'.bus.listFrees = w'.bus.enumerations ∧
      w'.bus.enumerations =
        if w.bus.listError.isSome then 0 else listings (ops.take n)) ∧
    ∀ place, ((finish.run (w.after ops)).state.bus.device place).openHandles = 0 := by
  refine ⟨fun n => ⟨?_, ?_, ?_⟩, fun place => ?_⟩
  · exact (h.balanced.after (hops.take n)).covers.handles
  · have hlists := w.lists_after (ops.take n)
    rw [hlists.listFrees, hlists.enumerations, h.listFrees, h.enumerations]
  · have hlists := w.lists_after (ops.take n)
    rw [hlists.enumerations, h.enumerations, h.manager, Nat.zero_add]
    cases w.bus.listError <;> rfl
  · have hfinish := (h.balanced.after hops).covers.letGoEach
    rw [finish_eq]
    exact hfinish.handles place

/-- A session that is closed during its own read, one that is replaced and one that is left. -/
theorem no_leak_overlapped :
    let endpoints := [.ofAddress 0x81 .bulk, .ofAddress 0x01 .bulk]
    let device : Device := {
      details := .ok { (default : Details) with vendor := ⟨0x0483⟩, product := ⟨0xa27e⟩ }
      layout := .ok ⟨1, [⟨0, 0, 255, endpoints⟩]⟩
      inbound := [{ answer := .data [1], during := some (.run (.close false)) }] }
    let w : World := { bus := { devices := [device] }, manager := some { options := {} } }
    let connect (slot : String) : Operation := .connect slot ⟨0x0483⟩ ⟨0xa27e⟩ false
    let ops := [connect "a", connect "b", .request "a" (.read 8 0), connect "b"]
    w.Fresh ∧ w.ReturnAll ops ∧ ((w.after ops).bus.device 0).openHandles = 1 ∧
      (w.after (ops.take 4)).bus.enumerations = listings ops ∧
      ((finish.run (w.after ops)).state.bus.device 0).openHandles = 0 := by
  intro endpoints device w connect ops
  have hfresh : w.Fresh := ⟨by decide, rfl, rfl, rfl, rfl⟩
  -- All that happens during a transfer is a close.
  have hgentle : w.bus.Only Interlude.gentle := by
    intro place
    cases place with
    | zero =>
      refine ⟨List.forall_mem_singleton.2 fun x hx => ?_, List.forall_mem_nil _⟩
      cases hx
      rfl
    | succ place => exact ⟨List.forall_mem_nil _, List.forall_mem_nil _⟩
  have hops : w.ReturnAll ops :=
    hfresh.balanced.returnAll hgentle (by simp [ops, connect, Operation.Only])
  have hleak := no_leak hfresh hops
  exact ⟨hfresh, hops, by decide +kernel, (hleak.1 4).2.2, hleak.2 0⟩

end World

end UsbSession
