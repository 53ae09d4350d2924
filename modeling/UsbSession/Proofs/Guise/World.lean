import UsbSession.Proofs.Binding.Fixed
import UsbSession.Proofs.Guise.Connect

/-!
# Scenarios in other guises

A scenario goes in every guise as it goes: what an operation does in a world, the operation as it is
seen does in the world as it is seen (`Guise.step`), up to the end of the sessions that are left
(`Guise.finish`). So all that the operations of a scenario leave one after the other
(`World.chronicle`) is seen in that guise where the scenario is (`Guise.chronicle`).

That is so where nothing happens during transfers, and where the guise suits the debug options of
sessions that transfer something. They have the option of the manager that opened them
(`World.Debugs.step`).
-/

namespace UsbSession

namespace World

variable {w : World} {P : Bool → Prop}

/-- The debug options of the manager and of all sessions are as `P` says. -/
structure Debugs (w : World) (P : Bool → Prop) : Prop where
  manager : ∀ m, w.manager = some m → P m.options.debug
  sessions : ∀ slot s, Slots.get? slot w.slots = some s → P s.options.debug

/-- They are after every operation, because a session has the options of its manager. -/
theorem Debugs.step (h : w.Debugs P) (op : Operation) : Debugs ((step op).run w).state P where
  manager m hm := by
    rw [(w.lists_step op).2] at hm
    split at hm
    · cases hm
    · exact h.manager m hm
  sessions slot s hs := by
    rcases w.slots_step op hs with ⟨before, hbefore, hsame⟩ | ⟨vendor, product, reset, m, -, hm, hs⟩
    · rw [hsame]
      exact h.sessions slot before hbefore
    · have hdirected : w.bus.Directed m.options (m.connect vendor product reset) fun r =>
          ∀ s, r = .ok s → w.bus.Binds m.options s :=
        Manager.directed_connect vendor product reset
      rw [((hdirected w.bus fun _ => rfl).1 s hs).options]
      exact h.manager m hm

/-- What the operations of a scenario leave, one after the other, and what is left in the end by
letting go of the sessions that are left. -/
def chronicle (w : World) : List Operation → List (Outcome World Mark Answer)
  | [] => [((fun _ => .done) <$> finish : Happening Answer).run w]
  | op :: ops => (step op).run w :: chronicle ((step op).run w).state ops

end World

namespace Guise

variable (g : Guise) {α β : Type}

/-! ## What is seen of a world -/

def slots (slots : Slots) : Slots := slots.map fun slot => (slot.1, g.session slot.2)

def world (w : World) : World where
  bus := g.bus w.bus
  manager := w.manager.map g.manager
  slots := g.slots w.slots

def operation : Operation → Operation
  | .request slot r => .request slot (g.request r)
  | .inbound place items => .inbound place (items.map g.item)
  | op => op

def result : Answer → Answer
  | .replied reply nested => .replied (reply.map g.reply) (nested.map g.reply)
  | .options o => .options (o.map g.options)
  | a => a

/-- The outcome of an operation. -/
def outcome (o : Outcome World Mark Answer) : Outcome World Mark Answer :=
  o.image g.world g.mark g.result

theorem get?_slots (name : String) (slots : Slots) :
    Slots.get? name (g.slots slots) = (Slots.get? name slots).map g.session := by
  induction slots with
  | nil => rfl
  | cons slot slots ih =>
    change (if slot.1 = name then _ else _) = (if slot.1 = name then _ else _ : Option _).map _
    split
    · rfl
    · exact ih

theorem set_slots (name : String) (s : Session) (slots : Slots) :
    Slots.set name (g.session s) (g.slots slots) = g.slots (Slots.set name s slots) := by
  induction slots with
  | nil => rfl
  | cons slot slots ih =>
    change (if name < slot.1 then _ else if name = slot.1 then _ else _) =
      g.slots (if name < slot.1 then _ else if name = slot.1 then _ else _)
    split
    · rfl
    · split
      · rfl
      · exact congrArg (_ :: ·) ih

theorem erase_slots (name : String) (slots : Slots) :
    Slots.erase name (g.slots slots) = g.slots (Slots.erase name slots) := by
  induction slots with
  | nil => rfl
  | cons slot slots ih =>
    change (if slot.1 = name then _ else _) = g.slots (if slot.1 = name then _ else _)
    split
    · exact ih
    · exact congrArg (_ :: ·) ih

theorem hasInterludes_device (d : Device) : (g.device d).hasInterludes = d.hasInterludes := by
  have hinbound : (d.inbound.map g.item).any (·.during.isSome) =
      d.inbound.any (·.during.isSome) := by
    rw [List.any_map]
    rfl
  exact congrArg (· || _) hinbound

/-! ## Operations -/

/-- In the world as it is seen, `y` does what is seen of what `x` does in the world. -/
abbrev WorldMirrors (A : α → β) (x : World.Happening α) (y : World.Happening β) (w : World) :
    Prop :=
  Traced.Mirrors g.world g.mark A x y w

theorem onBus {A : α → β} {x : Traced Bus Mark α} {y : Traced Bus Mark β}
    (h : g.BusMirrors A x y) (w : World) : g.WorldMirrors A (World.onBus x) (World.onBus y) w := by
  have hrun : y.run (g.bus w.bus) = _ := h w.bus
  change (World.onBus y) (g.world w) = ((World.onBus x) w).image _ _ _
  simp only [World.onBus, show (g.world w).bus = g.bus w.bus from rfl, hrun]
  rfl

theorem letGo (s : Session) (w : World) :
    g.WorldMirrors id (World.letGo s) (World.letGo (g.session s)) w :=
  g.onBus (g.act (g.drop s) s.device) w

theorem slot (slot : String) (w : World) :
    g.WorldMirrors (Option.map g.session) (Traced.look fun w => Slots.get? slot w.slots)
      (Traced.look fun w => Slots.get? slot w.slots) w :=
  .look (g.get?_slots slot w.slots)

theorem lookManager (w : World) :
    g.WorldMirrors (Option.map g.manager) (Traced.look World.manager)
      (Traced.look World.manager) w :=
  .look rfl

theorem put (slot : String) (s : Session) (w : World) :
    g.WorldMirrors id (World.put slot s) (World.put slot (g.session s)) w :=
  .change (congrArg (fun slots => ({ g.world w with slots } : World)) (g.set_slots slot s w.slots))

theorem erase (slot : String) (w : World) :
    g.WorldMirrors id (Traced.change fun w => { w with slots := Slots.erase slot w.slots })
      (Traced.change fun w => { w with slots := Slots.erase slot w.slots }) w :=
  .change (congrArg (fun slots => ({ g.world w with slots } : World))
    (g.erase_slots slot w.slots))

theorem worldRequest {w : World} (slot : String) {s : Session} (r : Request)
    (hs : r.isTransfer = true → g.Suits s.options.debug)
    (hcalm : (w.bus.device s.device).hasInterludes = false) :
    g.WorldMirrors g.result (World.request slot s r)
      (World.request slot (g.session s) (g.request r)) w := by
  have hlook : g.WorldMirrors g.device (Traced.look fun w => w.bus.device s.device)
      (Traced.look fun w => w.bus.device s.device) w := .look (g.device_bus w.bus s.device)
  refine hlook.bind_at ?_
  rw [Traced.run_look]
  dsimp only
  rw [hasInterludes_device, hcalm, Bool.and_false, Bool.and_false]
  refine (g.onBus (g.act (g.perform r hs) s.device) w).bind fun o w' => ?_
  exact (g.put slot o.2 w').bind fun _ _ => .pure rfl

theorem worldConnect (m : Manager) (slot : String) (vendor product : Id) (reset : Bool)
    (w : World) :
    g.WorldMirrors g.result (World.connect m slot vendor product reset)
      (World.connect (g.manager m) slot vendor product reset) w := by
  refine (g.onBus (g.connect m vendor product reset) w).bind fun result w' => ?_
  cases result with
  | error e => exact .pure rfl
  | ok s =>
    refine (g.slot slot w').bind fun old w' => (g.put slot s w').bind fun _ w' => ?_
    cases old with
    | none => exact .pure rfl
    | some old => exact (g.letGo old w').bind fun _ _ => .pure rfl

theorem changeDevice (place : Nat) {f h : Device → Device}
    (hf : ∀ d, h (g.device d) = g.device (f d)) (w : World) :
    g.WorldMirrors id (World.changeDevice place f) (World.changeDevice place h) w := by
  refine .change ?_
  have hmodify : (w.bus.devices.map g.device).modify place h =
      (w.bus.devices.modify place f).map g.device := by
    refine List.ext_getElem? fun i => ?_
    simp only [List.getElem?_modify, List.getElem?_map]
    cases w.bus.devices[i]? with
    | none => rfl
    | some d =>
      split
      · exact congrArg some (hf d)
      · rfl
  exact congrArg (fun devices => ({ g.world w with bus.devices := devices } : World)) hmodify

/-- What an operation does in a world, it does in every guise. -/
theorem step {w : World} (hcalm : w.Calm) (op : Operation)
    (hsuits : ∀ slot r s, op = .request slot r → r.isTransfer = true →
      Slots.get? slot w.slots = some s → g.Suits s.options.debug) :
    g.WorldMirrors g.result (World.step op) (World.step (g.operation op)) w := by
  cases op with
  | connect slot vendor product reset =>
    refine (g.lookManager w).bind fun m? w' => ?_
    cases m? with
    | none => exact .pure rfl
    | some m => exact g.worldConnect m slot vendor product reset w'
  | find vendor product =>
    refine (g.lookManager w).bind fun m? w' => ?_
    cases m? with
    | none => exact .pure rfl
    | some m =>
      refine (g.onBus (g.find vendor product) w').bind fun result w' => ?_
      cases result <;> exact .pure rfl
  | request slot r =>
    refine (g.slot slot w).bind_at ?_
    rw [Traced.run_look]
    cases hslot : Slots.get? slot w.slots with
    | none => exact .pure rfl
    | some s =>
      exact g.worldRequest slot r (hsuits slot r s rfl · hslot)
        (Bus.hasInterludes_device hcalm s.device)
  | drop slot =>
    refine (g.slot slot w).bind fun s? w' => ?_
    cases s? with
    | none => exact .pure rfl
    | some s => exact (g.erase slot w').bind fun _ w' => (g.letGo s w').bind fun _ _ => .pure rfl
  | script place changes =>
    refine (g.changeDevice place ?_ w).bind fun _ _ => ?_
    · exact fun _ => rfl
    · exact .pure rfl
  | inbound place items =>
    have hinbound (d : Device) : ({ g.device d with
        inbound := (g.device d).inbound ++ items.map g.item } : Device) =
          g.device { d with inbound := d.inbound ++ items } :=
      congrArg (fun q => ({ d with inbound := q } : Device)) List.map_append.symm
    exact (g.changeDevice place hinbound w).bind fun _ _ => .pure rfl
  | outbound place items =>
    refine (g.changeDevice place ?_ w).bind fun _ _ => ?_
    · exact fun _ => rfl
    · exact .pure rfl
  | options =>
    refine (g.lookManager w).bind fun m? _ => .pure ?_
    cases m? <;> rfl
  | closeManager =>
    have hclose : ∀ w' : World, g.WorldMirrors g.result (do
        Traced.change fun w => { w with manager := none }
        return .done) (do
        Traced.change fun w => { w with manager := none }
        return .done) w' :=
      fun _ => Traced.Mirrors.bind (A := id) (.change rfl) fun _ _ => .pure rfl
    refine (g.lookManager w).bind fun m? w' => ?_
    cases m? with
    | none => exact hclose w'
    | some m => exact (g.onBus (g.busLog rfl) w').bind fun _ w' => hclose w'

theorem finish (w : World) : g.WorldMirrors id World.finish World.finish w := by
  have heach (slots : Slots) (w : World) :
      g.WorldMirrors id (World.letGoEach slots) (World.letGoEach (g.slots slots)) w := by
    induction slots generalizing w with
    | nil => exact .pure rfl
    | cons slot slots ih => exact (g.letGo slot.2 w).bind fun _ w' => ih w'
  rw [World.finish_eq]
  have hlook : g.WorldMirrors g.slots (Traced.look World.slots) (Traced.look World.slots) w :=
    .look rfl
  exact hlook.bind fun slots w' => (heach slots w').bind fun _ _ => .change rfl

/-- A scenario goes in every guise as it goes. -/
theorem chronicle {w : World} {ops : List Operation} (hsuits : w.Debugs g.Suits) (hcalm : w.Calm)
    (hops : ∀ op ∈ ops, op.plain = true) :
    (g.world w).chronicle (ops.map g.operation) = (w.chronicle ops).map g.outcome := by
  induction ops generalizing w with
  | nil =>
    have hfinish : g.WorldMirrors g.result ((fun _ => .done) <$> World.finish)
        ((fun _ => .done) <$> World.finish) w := (g.finish w).bind fun _ _ => .pure rfl
    exact congrArg (· :: []) hfinish
  | cons op ops ih =>
    obtain ⟨hop, hops⟩ := List.forall_mem_cons.1 hops
    have hstep : (World.step (g.operation op)).run (g.world w) = _ :=
      g.step hcalm op fun slot _ s _ _ hslot => hsuits.sessions slot s hslot
    rw [List.map_cons, World.chronicle, hstep]
    exact congrArg (_ :: ·) (ih (hsuits.step op) (hcalm.step hop) hops)

end Guise

end UsbSession
