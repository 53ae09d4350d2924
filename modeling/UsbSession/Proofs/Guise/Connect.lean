import UsbSession.Proofs.Guise.Session
import UsbSession.Proofs.Life.Opening

/-!
# Connecting in other guises

What goes on before there is a session has to do with no bytes, is not the debug option's business,
and takes no time. So a manager as it is seen connects as the manager does (`Guise.connect`), and
lists the same devices (`Guise.find`).
-/

namespace UsbSession.Guise

variable (g : Guise) {α β : Type}

/-! ## What is seen of a bus -/

def bus (b : Bus) : Bus := { b with devices := b.devices.map g.device, now := b.now + g.later }

def mark : Mark → Option Mark
  | .call place c => some (.call place (g.call c))
  | .log e => if g.shows e then some (.log e) else none

def manager (m : Manager) : Manager := { m with options := g.options m.options }

/-- From what is seen of a bus, `y` does what is seen of what `x` does. -/
abbrev BusMirrors (A : α → β) (x : Traced Bus Mark α) (y : Traced Bus Mark β) : Prop :=
  ∀ b, Traced.Mirrors g.bus g.mark A x y b

@[simp] theorem device_bus (b : Bus) (place : Nat) :
    (g.bus b).device place = g.device (b.device place) := by
  rw [Bus.device, Bus.device, bus, List.getD_eq_getElem?_getD, List.getD_eq_getElem?_getD,
    List.getElem?_map]
  cases b.devices[place]? <;> rfl

theorem mark_ofEntry (place : Nat) (e : Entry) :
    g.mark (.ofEntry place e) = (g.entry e).map (.ofEntry place) := by
  cases e with
  | call c => rfl
  | log e =>
    change (if g.shows e then _ else _) = (if g.shows e then _ else _ : Option Entry).map _
    split <;> rfl

/-- Log events without bytes are seen as they are. -/
theorem filterMap_mark_log {es : List Log.Event} (h : ∀ e ∈ es, e.isPayload = false) :
    (es.map Mark.log).filterMap g.mark = es.map .log := by
  induction es with
  | nil => rfl
  | cons e es ih =>
    obtain ⟨he, hes⟩ := List.forall_mem_cons.1 h
    have hmark : g.mark (.log e) = some (.log e) := if_pos (g.shows_of_not_isPayload he)
    rw [List.map_cons, List.filterMap_cons_some hmark, ih hes]

theorem busLog {e : Log.Event} (h : e.isPayload = false) :
    g.BusMirrors id (Bus.log e) (Bus.log e) :=
  fun _ => .tell (g.filterMap_mark_log (List.forall_mem_singleton.2 h)).symm

theorem busLogged {x : Log.Logged α} (h : ∀ e ∈ x.events, e.isPayload = false) :
    g.BusMirrors id (Bus.logged x) (Bus.logged x) :=
  fun _ => (Traced.Mirrors.tell (g.filterMap_mark_log h).symm).bind fun _ _ => .pure rfl

theorem busLook {A : α → β} {f : Bus → α} {h : Bus → β} (hf : ∀ b, h (g.bus b) = A (f b)) :
    g.BusMirrors A (Traced.look f) (Traced.look h) :=
  fun b => .look (hf b)

theorem freeList : g.BusMirrors id Bus.freeList Bus.freeList := fun _ => .change rfl

theorem enumerate : g.BusMirrors id Bus.enumerate Bus.enumerate := by
  intro b
  refine (g.busLook (A := id) (h := Bus.listError) (fun _ => rfl) b).bind fun code b' => ?_
  cases code with
  | some code => exact .pure rfl
  | none =>
    refine Traced.Mirrors.bind (A := id) (.change ?_) fun _ _ => ?_
    · rfl
    · exact .pure rfl

/-- An action on a device is seen where the device is. -/
theorem act {A : α → β} {x : Act α} {y : Act β} (h : g.Mirrors A x y) (place : Nat) :
    g.BusMirrors A (Bus.act place x) (Bus.act place y) := by
  intro b
  have hrun : y.run ⟨(g.bus b).device place, (g.bus b).now⟩ =
      (x.run ⟨b.device place, b.now⟩).image g.clocked g.entry A := by
    rw [device_bus]
    exact h ⟨b.device place, b.now⟩
  change (Bus.act place y) (g.bus b) = ((Bus.act place x) b).image _ _ _
  simp only [Bus.act, hrun]
  generalize x.run ⟨b.device place, b.now⟩ = o
  have hdevices : (g.bus b).devices.set place (g.device o.state.device) =
      (b.devices.set place o.state.device).map g.device := List.map_set.symm
  have htrace : (o.trace.filterMap g.entry).map (Mark.ofEntry place) =
      (o.trace.map (Mark.ofEntry place)).filterMap g.mark := by
    rw [List.map_filterMap, List.filterMap_map]
    exact congrArg (List.filterMap · _) (funext fun e => (g.mark_ofEntry place e).symm)
  simp only [Outcome.image, clocked, hdevices, htrace]
  rfl

/-! ## Opening a session -/

variable (m : Manager)

theorem selectConfiguration :
    g.Mirrors id m.selectConfiguration (g.manager m).selectConfiguration := by
  intro p
  unfold Manager.selectConfiguration
  rw [show (g.manager m).options.configuration = m.options.configuration from rfl]
  cases m.options.configuration with
  | none => exact .pure rfl
  | some wanted =>
    refine (g.ask rfl _ p).bind fun current p' => ?_
    dsimp only [id]
    split
    · exact (g.log rfl p').bind fun _ _ => .pure rfl
    · have hset : g.Mirrors id (Act.setConfiguration wanted) (Act.setConfiguration wanted) := by
        refine g.hostCall rfl fun d => ?_
        rw [Device.setConfiguration_eq, Device.setConfiguration_eq]
        rfl
      cases current <;>
      · refine (g.log rfl p').bind fun _ p' => (hset p').bind fun answer p'' => ?_
        cases answer with
        | ok _ => exact .pure rfl
        | error code => exact (g.log rfl p'').bind fun _ _ => .pure rfl

theorem detachDriver (interface : UInt8) :
    g.Mirrors id (m.detachDriver interface) ((g.manager m).detachDriver interface) := by
  intro p
  unfold Manager.detachDriver
  rw [show (g.manager m).canDetach = m.canDetach from rfl]
  split
  · refine (g.ask rfl _ p).bind fun active p' => ?_
    rcases active with code | _ | _
    · refine (g.log rfl p').bind fun _ p' => (g.ask rfl _ p').bind fun answer p'' => ?_
      cases answer with
      | ok _ => exact .pure rfl
      | error code => exact (g.log rfl p'').bind fun _ _ => .pure rfl
    · exact (g.log rfl p').bind fun _ _ => .pure rfl
    · refine (g.log rfl p').bind fun _ p' => (g.ask rfl _ p').bind fun answer p'' => ?_
      cases answer with
      | ok _ => exact .pure rfl
      | error code => exact (g.log rfl p'').bind fun _ _ => .pure rfl
  · exact .pure rfl

/-- A new session is seen with the options of the manager as it is seen. -/
theorem claimInterface (place : Nat) (c : Candidate) :
    g.Mirrors (Except.map g.session) (m.claimInterface place c)
      ((g.manager m).claimInterface place c) := by
  have hclose (e : Error) : g.Mirrors (Except.map g.session) (do
      Act.closeHandle
      return .error e : Act (Except Error Session)) (do
      Act.closeHandle
      return .error e) := fun p => (g.closeHandle p).bind fun _ _ => .pure rfl
  intro p
  unfold Manager.claimInterface
  refine (g.detachDriver m _ p).bind fun detached p' => ?_
  refine (g.ask rfl _ p').bind fun answer p' => ?_
  cases answer with
  | ok _ => exact (g.log rfl p').bind fun _ _ => .pure rfl
  | error code =>
    refine (g.log rfl p').bind fun _ p' => ?_
    cases detached with
    | false => exact hclose _ p'
    | true =>
      refine (g.ask rfl _ p').bind fun answer p' => ?_
      cases answer with
      | ok _ => exact hclose _ p'
      | error code => exact (g.log rfl p').bind fun _ p'' => hclose _ p''

theorem openSession (place : Nat) (c : Candidate) (reset : Bool) :
    g.Mirrors (Except.map g.session) (m.openSession place c reset)
      ((g.manager m).openSession place c reset) := by
  have hopen : g.Mirrors id Act.openHandle Act.openHandle := by
    refine g.hostCall rfl fun d => ?_
    rw [Device.openHandle_eq, Device.openHandle_eq]
    rfl
  intro p
  unfold Manager.openSession
  refine (hopen p).bind fun answer p' => ?_
  cases answer with
  | error code => exact .pure rfl
  | ok _ =>
    -- What is done next does not depend on whether there is a reset, and whether it fails.
    rcases reset with _ | _
    on_goal 2 =>
      refine (g.ask rfl _ p').bind fun answer p' => ?_
      rcases answer with code | _
      on_goal 1 => refine (g.log rfl p').bind fun _ p' => ?_
    all_goals
      refine (g.selectConfiguration m p').bind fun result p' => ?_
      cases result with
      | ok _ => exact g.claimInterface m place c p'
      | error e => exact (g.closeHandle p').bind fun _ _ => .pure rfl

/-! ## Enumerating -/

theorem isPayload_readBinding (d : Device) (o : Options) :
    ∀ e ∈ (d.readBinding o).events, e.isPayload = false := by
  unfold Device.readBinding
  split
  · split
    · exact List.forall_mem_singleton.2 rfl
    · exact List.forall_mem_nil _
  · exact List.forall_mem_singleton.2 rfl

theorem isPayload_readDetails (d : Device) :
    ∀ e ∈ d.readDetails.events, e.isPayload = false := by
  unfold Device.readDetails
  split
  · exact List.forall_mem_nil _
  · exact List.forall_mem_singleton.2 rfl

/-- What is logged of a candidate has no bytes. -/
theorem isPayload_candidate? (d : Device) (vendor product : Id) (o : Options) :
    ∀ e ∈ (d.candidate? vendor product o).events, e.isPayload = false := by
  unfold Device.candidate?
  rw [Log.Logged.events_bind]
  refine List.forall_mem_append.2 ⟨isPayload_readDetails d, ?_⟩
  split
  · split
    · exact List.forall_mem_nil _
    · split
      · exact List.forall_mem_nil _
      · rw [Log.Logged.events_bind]
        refine List.forall_mem_append.2 ⟨isPayload_readBinding d o, ?_⟩
        split <;> exact List.forall_mem_singleton.2 rfl
  · exact List.forall_mem_nil _

theorem isPayload_listed (vendor product : Id) (devices : List Device) :
    ∀ e ∈ (listed vendor product devices).events, e.isPayload = false := by
  induction devices with
  | nil => exact List.forall_mem_nil _
  | cons d devices ih =>
    rw [listed, Log.Logged.events_bind, Log.Logged.events_bind]
    refine List.forall_mem_append.2 ⟨isPayload_readDetails d, List.forall_mem_append.2 ⟨ih, ?_⟩⟩
    split
    · split <;> exact List.forall_mem_nil _
    · exact List.forall_mem_nil _

theorem listed_map (vendor product : Id) (devices : List Device) :
    listed vendor product (devices.map g.device) = listed vendor product devices := by
  induction devices with
  | nil => rfl
  | cons d devices ih =>
    rw [List.map_cons, listed, listed, ih]
    rfl

theorem tryEach (vendor product : Id) (reset : Bool) (places : List Nat) (last : Option Error) :
    g.BusMirrors (Except.map g.session) (m.tryEach vendor product reset last places)
      ((g.manager m).tryEach vendor product reset last places) := by
  induction places generalizing last with
  | nil => exact fun b => (g.busLog rfl b).bind fun _ _ => .pure rfl
  | cons place places ih =>
    intro b
    refine (g.busLook (g.device_bus · place) b).bind fun d b' => ?_
    -- Who is a candidate is not a matter of what waits on the device.
    refine (g.busLogged (isPayload_candidate? d vendor product m.options) b').bind fun c? b' => ?_
    cases c? with
    | none => exact ih last b'
    | some c =>
      refine (g.act (g.openSession m place c reset) place b').bind fun result b'' => ?_
      cases result with
      | ok s => exact (g.busLog rfl b'').bind fun _ _ => .pure rfl
      | error e => exact (g.busLog rfl b'').bind fun _ b'' => ih (some e) b''

theorem connect (vendor product : Id) (reset : Bool) :
    g.BusMirrors (Except.map g.session) (m.connect vendor product reset)
      ((g.manager m).connect vendor product reset) := by
  intro b
  refine (g.enumerate b).bind fun result b' => ?_
  cases result with
  | error code => exact .pure rfl
  | ok _ =>
    refine (g.busLook (A := id) (fun _ => List.length_map _) b').bind fun total b' => ?_
    refine (g.busLog rfl b').bind fun _ b' => ?_
    refine (g.tryEach m vendor product reset _ none b').bind fun result b' => ?_
    exact (g.freeList b').bind fun _ _ => .pure rfl

theorem find (vendor product : Id) :
    g.BusMirrors id (Manager.find vendor product) (Manager.find vendor product) := by
  intro b
  refine (g.enumerate b).bind fun result b' => ?_
  cases result with
  | error code => exact .pure rfl
  | ok _ =>
    have hlook := g.busLook (A := List.map g.device) (f := Bus.devices) (h := Bus.devices)
      fun _ => rfl
    refine (hlook b').bind fun devices b' => ?_
    rw [listed_map, List.length_map]
    refine (g.busLogged (isPayload_listed vendor product devices) b').bind fun found b' => ?_
    refine (g.busLog rfl b').bind fun _ b' => ?_
    exact (g.freeList b').bind fun _ _ => .pure rfl

end UsbSession.Guise
