import UsbSession.Proofs.Binding.Traffic
import UsbSession.Proofs.Life.Ledger

/-!
# Bindings are fixed

The binding that a device resolves to when a session is opened on it decides all that the session
does later, whatever else happens in the world (`World.binding_fixed`).

Nothing that happens changes the layout of a device or the options of the manager. So all sessions
that are ever opened on a device have one binding, and every call to the device follows it. This is
an invariant of the world (`World.Bound`) and of the calls at once (`World.Directed`).

* `World.slots_step`: an operation changes the state of a session at most, unless it opens it;
* `World.directed_step`, `World.directed_runs`: an operation, and a whole scenario.
-/

namespace UsbSession

open Traced (Upholds)

namespace World

variable {bus : Bus} {m : Manager} {w : World} {slot : String} {s : Session} {α : Type}

/-- The layouts are those of the bus, the manager is the one that was there or closed, and every
    session is bound to what its device resolves to. -/
structure Bound (bus : Bus) (m : Manager) (w : World) : Prop where
  layouts : bus.SameLayouts w.bus
  manager : ∀ m', w.manager = some m' → m' = m
  sessions : ∀ x ∈ w.slots, bus.Binds m.options x.2

theorem Bound.of_get? (h : Bound bus m w) (hslot : Slots.get? slot w.slots = some s) :
    bus.Binds m.options s :=
  h.sessions _ (Slots.mem_of_get? hslot)

/-- The world stays bound, and all calls follow what their devices resolve to. -/
abbrev Directed (bus : Bus) (m : Manager) (x : Happening α) (R : α → Prop) : Prop :=
  Upholds Mark.call? (Bound bus m) (bus.Directs m.options) x R

/-- What is upheld on the bus is upheld in the world. -/
theorem upholds_onBus {x : Traced Bus Mark α} {Q : Nat × Call → Prop} {R : α → Prop}
    (h : Upholds Mark.call? bus.SameLayouts Q x R) :
    Upholds Mark.call? (Bound bus m) Q (onBus x) R := by
  intro w hw
  obtain ⟨hvalue, hlayouts, hcalls⟩ := h w.bus hw.layouts
  exact ⟨hvalue, ⟨hlayouts, hw.manager, hw.sessions⟩, hcalls⟩

theorem upholds_put {Q : Nat × Call → Prop} (slot : String) (hs : bus.Binds m.options s) :
    Upholds Mark.call? (Bound bus m) Q (put slot s) fun _ => True := by
  refine .change fun w hw => ⟨hw.layouts, hw.manager, fun x hx => ?_⟩
  rcases Slots.mem_set hx with rfl | hx
  · exact hs
  · exact hw.sessions x hx

/-- A request follows the binding of its session. -/
theorem upholds_request (slot : String) (hs : bus.Binds m.options s) (r : Request) :
    Upholds Mark.call? (Bound bus m) (fun c => c.1 = s.device ∧ c.2.Follows s.binding)
      (request slot s r) fun _ => True := by
  refine (Upholds.look (R := fun _ => True) fun _ _ => trivial).bind fun d _ => ?_
  split
  · have hact : Upholds Mark.call? bus.SameLayouts
        (fun c => c.1 = s.device ∧ c.2.Follows s.binding) (Bus.act s.device (s.overlapping r))
        fun o => o.session = { s with state := o.session.state } :=
      Bus.upholds_act fun p hp => ⟨rfl,
        s.preserves_overlapping (Device.enduring_layout _) r p hp, s.follows_overlapping r p⟩
    refine (upholds_onBus hact).bind fun o ho => ?_
    have hafter : bus.Binds m.options o.session := by rw [ho]; exact ⟨hs.binding, hs.options⟩
    refine (upholds_put slot hafter).bind fun _ _ => ?_
    exact .pure trivial
  · have hact : Upholds Mark.call? bus.SameLayouts
        (fun c => c.1 = s.device ∧ c.2.Follows s.binding) (Bus.act s.device (s.perform r))
        fun o => o.2 = { s with state := o.2.state } :=
      Bus.upholds_act fun p hp => ⟨s.perform_value r p,
        s.preserves_perform (Device.enduring_layout _) r p hp, s.follows_perform r p⟩
    refine (upholds_onBus hact).bind fun o ho => ?_
    have hafter : bus.Binds m.options o.2 := by rw [ho]; exact ⟨hs.binding, hs.options⟩
    refine (upholds_put slot hafter).bind fun _ _ => ?_
    exact .pure trivial

theorem directed_letGo (hs : bus.Binds m.options s) :
    Directed bus m (letGo s) fun _ => True :=
  (upholds_onBus (bus.upholds_drop s)).weaken fun _ hc => hs.directs hc

theorem upholds_changeDevice {Q : Nat × Call → Prop} (place : Nat) {f : Device → Device}
    (hf : ∀ d, (f d).layout = d.layout) :
    Upholds Mark.call? (Bound bus m) Q (changeDevice place f) fun _ => True := by
  refine .change fun w hw => ⟨fun i => ?_, hw.manager, hw.sessions⟩
  rw [Bus.device_modify]
  split
  · exact (hf _).trans (hw.layouts i)
  · exact hw.layouts i

/-- An operation keeps what sessions are bound to, and follows it. -/
theorem directed_step (bus : Bus) (m : Manager) (op : Operation) :
    Directed bus m (step op) fun _ => True := by
  have hmanager : Directed bus m (Traced.look World.manager) fun m? =>
      ∀ m', m? = some m' → m' = m :=
    .look fun _ hw => hw.manager
  have hslot (slot : String) : Directed bus m (Traced.look fun w => Slots.get? slot w.slots)
      fun s? => ∀ s, s? = some s → bus.Binds m.options s :=
    .look fun _ hw _ hs => hw.of_get? hs
  cases op with
  | connect slot vendor product reset =>
    refine hmanager.bind fun m? hm => ?_
    cases m? with
    | none => exact .pure trivial
    | some m' =>
      cases hm m' rfl
      refine (upholds_onBus (Manager.directed_connect vendor product reset)).bind fun r hr => ?_
      cases r with
      | error e => exact .pure trivial
      | ok s =>
        refine (hslot slot).bind fun old hold => (upholds_put slot (hr s rfl)).bind fun _ _ => ?_
        cases old with
        | none => exact .pure trivial
        | some old =>
          refine (directed_letGo (hold old rfl)).bind fun _ _ => ?_
          exact .pure trivial
  | find vendor product =>
    intro w hw
    obtain ⟨answer, hfind⟩ := w.does_find vendor product
    rw [hfind.value, hfind.state, hfind.calls]
    refine ⟨trivial, ⟨fun i => ?_, hw.manager, hw.sessions⟩, List.forall_mem_nil _⟩
    dsimp only
    split
    · rw [Bus.device, Bus.devices_listing]
      exact hw.layouts i
    · exact hw.layouts i
  | request slot r =>
    refine (hslot slot).bind fun s? hs => ?_
    cases s? with
    | none => exact .pure trivial
    | some s => exact (upholds_request slot (hs s rfl) r).weaken fun _ hc => (hs s rfl).directs hc
  | drop slot =>
    refine (hslot slot).bind fun s? hs => ?_
    cases s? with
    | none => exact .pure trivial
    | some s =>
      have herase : Directed bus m
          (Traced.change fun w => { w with slots := Slots.erase slot w.slots }) fun _ => True :=
        .change fun w hw => ⟨hw.layouts, hw.manager, fun x hx =>
          hw.sessions x ((Slots.erase_sublist slot w.slots).subset hx)⟩
      refine herase.bind fun _ _ => (directed_letGo (hs s rfl)).bind fun _ _ => ?_
      exact .pure trivial
  | script place changes =>
    refine (upholds_changeDevice place ?_).bind fun _ _ => ?_
    · exact fun _ => rfl
    · exact .pure trivial
  | inbound place items =>
    refine (upholds_changeDevice place ?_).bind fun _ _ => ?_
    · exact fun _ => rfl
    · exact .pure trivial
  | outbound place items =>
    refine (upholds_changeDevice place ?_).bind fun _ _ => ?_
    · exact fun _ => rfl
    · exact .pure trivial
  | options =>
    refine hmanager.bind fun _ _ => ?_
    exact .pure trivial
  | closeManager =>
    have hclose : Directed bus m (Traced.change fun w => { w with manager := none })
        fun _ => True :=
      .change fun w hw =>
        ⟨hw.layouts, fun _ h => absurd h.symm (Option.some_ne_none _), hw.sessions⟩
    have hlog : Directed bus m (onBus Manager.close) fun _ => True :=
      upholds_onBus (Bus.directed_log _)
    refine hmanager.bind fun m? _ => ?_
    cases m? with
    | none =>
      refine hclose.bind fun _ _ => ?_
      exact .pure trivial
    | some m' =>
      refine hlog.bind fun _ _ => hclose.bind fun _ _ => ?_
      exact .pure trivial

theorem directed_letGoEach {slots : Slots} (h : ∀ x ∈ slots, bus.Binds m.options x.2) :
    Directed bus m (letGoEach slots) fun _ => True := by
  induction slots with
  | nil => exact .pure trivial
  | cons slot slots ih =>
    obtain ⟨hslot, hslots⟩ := List.forall_mem_cons.1 h
    exact (directed_letGo hslot).bind fun _ _ => ih hslots

/-- A scenario does, to its very end, nothing to a device that does not follow what the device
    resolved to in the beginning. -/
theorem directed_runs (bus : Bus) (m : Manager) (ops : List Operation) :
    Directed bus m (runs ops) fun _ => True := by
  induction ops with
  | nil =>
    rw [runs, finish_eq]
    have hslots : Directed bus m (Traced.look World.slots) fun slots =>
        ∀ x ∈ slots, bus.Binds m.options x.2 :=
      .look fun _ hw => hw.sessions
    refine hslots.bind fun slots h => (directed_letGoEach h).bind fun _ _ => ?_
    exact .change fun w hw => ⟨hw.layouts, hw.manager, List.forall_mem_nil _⟩
  | cons op ops ih => exact (directed_step bus m op).bind fun _ _ => ih

/-! ## Scenarios from the beginning -/

theorem bound_start (bus : Bus) (m : Manager) : Bound bus m { bus, manager := some m } where
  layouts _ := rfl
  manager _ h := (Option.some.inj h).symm
  sessions := List.forall_mem_nil _

theorem Bound.after (h : Bound bus m w) (ops : List Operation) : Bound bus m (w.after ops) := by
  induction ops generalizing w with
  | nil => exact h
  | cons op ops ih => exact ih (directed_step bus m op w h).2.1

theorem manager_after (w : World) (ops : List Operation) :
    (w.after ops).manager = if .closeManager ∈ ops then none else w.manager := by
  induction ops generalizing w with
  | nil => rfl
  | cons op ops ih =>
    rw [World.after, ih, (w.lists_step op).2]
    by_cases hop : op = .closeManager
    · subst hop
      rw [if_pos rfl, ite_self, if_pos List.mem_cons_self]
    · rw [if_neg hop]
      simp only [List.mem_cons, Ne.symm hop, false_or]

/-- A session in a slot was there before and has changed its state at most, or it was opened just
    now. -/
theorem slots_step (w : World) (op : Operation)
    (h : Slots.get? slot ((step op).run w).state.slots = some s) :
    (∃ before, Slots.get? slot w.slots = some before ∧ s = { before with state := s.state }) ∨
      ∃ vendor product reset m, op = .connect slot vendor product reset ∧ w.manager = some m ∧
        ((m.connect vendor product reset).run w.bus).value = .ok s := by
  -- What is in another slot than the one that is filled was there before.
  have hset {name : String} {t : Session} (h : Slots.get? slot (Slots.set name t w.slots) = some s)
      (hne : name ≠ slot) : ∃ before, Slots.get? slot w.slots = some before ∧
        s = { before with state := s.state } := by
    rw [Slots.get?_set_of_ne hne.symm] at h
    exact ⟨s, h, rfl⟩
  cases op with
  | connect name vendor product reset =>
    obtain ⟨bus, manager, slots⟩ := w
    cases manager with
    | none => exact .inl ⟨s, h, rfl⟩
    | some m =>
      change Slots.get? slot ((connect m name vendor product reset).run
        ⟨bus, some m, slots⟩).state.slots = some s at h
      rcases run_connect ⟨bus, some m, slots⟩ name m vendor product reset with
        ⟨e, -, hstate⟩ | ⟨t, hvalue, ⟨-, hstate⟩ | ⟨old, -, hstate⟩⟩ <;> rw [hstate] at h
      · exact .inl ⟨s, h, rfl⟩
      all_goals
        by_cases hname : name = slot
        · subst hname
          rw [Slots.get?_set_self] at h
          cases h
          exact .inr ⟨vendor, product, reset, m, rfl, rfl, hvalue⟩
        · exact .inl (hset h hname)
  | find vendor product =>
    obtain ⟨answer, hfind⟩ := w.does_find vendor product
    rw [hfind.state] at h
    exact .inl ⟨s, h, rfl⟩
  | request name r =>
    rcases w.run_request name r with ⟨-, hstate⟩ | ⟨t, p, after, hslot, hstate, hrun⟩ <;>
      rw [hstate] at h
    · exact .inl ⟨s, h, rfl⟩
    · by_cases hname : name = slot
      · subst hname
        rw [Slots.get?_set_self] at h
        cases h
        refine .inl ⟨t, hslot, ?_⟩
        rcases hrun with ⟨reply, trace, hrun⟩ | ⟨-, -, reply, nested, trace, hrun⟩
        · have hvalue := t.perform_value r ⟨w.bus.device t.device, w.bus.now⟩
          rwa [hrun] at hvalue
        · have hvalue : ((t.overlapping r).run ⟨w.bus.device t.device, w.bus.now⟩).value.session =
              { t with state :=
                ((t.overlapping r).run ⟨w.bus.device t.device, w.bus.now⟩).value.session.state } :=
            rfl
          rwa [hrun] at hvalue
      · exact .inl (hset h hname)
  | drop name =>
    rcases w.run_drop name with ⟨-, hstate⟩ | ⟨t, hslot, hstate⟩ <;> rw [hstate] at h
    · exact .inl ⟨s, h, rfl⟩
    · refine .inl ⟨s, ?_, rfl⟩
      by_cases hname : name = slot
      · subst hname
        rw [Slots.get?_erase_self] at h
        cases h
      · rwa [Slots.get?_erase_of_ne (Ne.symm hname)] at h
  | script | inbound | outbound | options => exact .inl ⟨s, h, rfl⟩
  | closeManager =>
    obtain ⟨bus, manager, slots⟩ := w
    cases manager <;> exact .inl ⟨s, h, rfl⟩

/-- What a scenario that starts on a bus with a manager and no session does with bindings. -/
structure BindingFixed (bus : Bus) (m : Manager) (ops : List Operation) : Prop where
  /-- The manager keeps its options, until it is closed. -/
  manager : (World.after { bus, manager := some m } ops).manager =
    if .closeManager ∈ ops then none else some m
  /-- The devices keep their layouts. -/
  layouts : bus.SameLayouts (World.after { bus, manager := some m } ops).bus
  /-- A session has the binding that its device resolves to. -/
  sessions : ∀ slot s, Slots.get? slot (World.after { bus, manager := some m } ops).slots = some s →
    bus.Binds m.options s
  /-- An operation leaves of a session all but its state as it is, or opens it. -/
  kept : ∀ op slot s,
    let w := World.after { bus, manager := some m } ops
    Slots.get? slot ((step op).run w).state.slots = some s →
    (∃ before, Slots.get? slot w.slots = some before ∧ s = { before with state := s.state }) ∨
      ∃ vendor product reset, op = .connect slot vendor product reset ∧
        ((m.connect vendor product reset).run w.bus).value = .ok s
  /-- A request goes to the device of its session, by its binding. -/
  requests : ∀ slot s r,
    let w := World.after { bus, manager := some m } ops
    Slots.get? slot w.slots = some s → ∀ c ∈ Mark.calls ((step (.request slot r)).run w).trace,
      c.1 = s.device ∧ c.2.Follows s.binding
  /-- Every call there is, up to the end of the sessions that are left, goes by the binding that its
      device resolves to. -/
  calls : ∀ c ∈ Mark.calls ((runs ops).run { bus, manager := some m }).trace,
    bus.Directs m.options c
  /-- Where addresses tell directions, reads go to addresses with bit 7 set, and writes to addresses
      with bit 7 clear. -/
  directions : (∀ place layout, (bus.device place).layout = .ok layout → layout.ByAddress) →
    ∀ place kind endpoint timeout again,
      let calls := Mark.calls ((runs ops).run { bus, manager := some m }).trace
      (∀ size, (place, .transfer kind endpoint (.read size) timeout again) ∈ calls →
        endpoint.toNat.testBit 7 = true) ∧
      ∀ bytes, (place, .transfer kind endpoint (.write bytes) timeout again) ∈ calls →
        endpoint.toNat.testBit 7 = false

/-- What a device resolves to when a session is opened on it decides all traffic of the session. -/
theorem binding_fixed (bus : Bus) (m : Manager) (ops : List Operation) :
    BindingFixed bus m ops := by
  have hstart := bound_start bus m
  have hbound := hstart.after ops
  have hcalls := (directed_runs bus m ops _ hstart).2.2
  refine ⟨manager_after _ ops, hbound.layouts, fun slot s hslot => hbound.of_get? hslot, ?_, ?_,
    hcalls, ?_⟩
  · intro op slot s w hslot
    rcases w.slots_step op hslot with hbefore | ⟨vendor, product, reset, m', hop, hm', hvalue⟩
    · exact .inl hbefore
    · cases hbound.manager m' hm'
      exact .inr ⟨vendor, product, reset, hop, hvalue⟩
  · intro slot s r w hslot
    have hstep : ((step (.request slot r)).run w).trace = ((request slot s r).run w).trace := by
      rw [step, Traced.run_bind, Traced.run_look, hslot]
      rfl
    rw [hstep]
    exact (upholds_request slot (hbound.of_get? hslot) r w hbound).2.2
  · intro haddress place kind endpoint timeout again calls
    refine ⟨fun size hmem => ?_, fun bytes hmem => ?_⟩
    all_goals
      obtain ⟨b, hresolve, -, rfl⟩ := hcalls _ hmem
      obtain ⟨layout, hlayout, hb⟩ := Bus.resolve?_eq_some_iff.1 hresolve
      have hbits := Layout.testBit_of_resolve (haddress place layout hlayout) hb
    · exact hbits .incoming
    · exact hbits .outgoing

end World

end UsbSession
