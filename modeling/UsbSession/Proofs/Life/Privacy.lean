import UsbSession.Proofs.Guise.World
import UsbSession.Proofs.Transfer.Blank

/-!
# Payloads stay out of the log

Without the debug option the bytes that are transferred decide nothing and are logged nowhere. Two
scenarios that differ in them alone have the same log events, and the same answers and host calls
but for the bytes themselves (`World.log_tells_no_payload`).

For a scenario goes on blanked worlds as it goes, but for zeros in the place of bytes
(`World.chronicle_blank`), because these are a guise of it, and two scenarios that differ in bytes
alone are the same one where they are blanked.
-/

namespace UsbSession

/-! ## Blanked worlds -/

/-- The bus without the bytes that wait on its devices. -/
def Bus.blank (bus : Bus) : Bus := { bus with devices := bus.devices.map Device.blank }

/-- The world without the bytes that wait on its devices. -/
def World.blank (w : World) : World := { w with bus := w.bus.blank }

/-- The entry without the bytes of a transfer. Log events are left as they are. -/
def Mark.blank : Mark → Mark
  | call device c => call device c.blank
  | log e => log e

/-- The operation without the bytes of what is written, or of what is put on a queue. -/
def Operation.blank : Operation → Operation
  | request slot r => request slot r.blank
  | inbound device items => inbound device (Queue.blank items)
  | op => op

def Answer.blank : Answer → Answer
  | replied reply nested => replied (reply.map Reply.blank) (nested.map Reply.blank)
  | a => a

theorem Mark.event?_blank (e : Mark) : e.blank.event? = e.event? := by
  cases e <;> rfl

theorem Queue.any_during_blank (q : Queue Inbound) :
    q.blank.any (·.during.isSome) = q.any (·.during.isSome) := by
  rw [blank, List.any_map]
  rfl

theorem Device.hasInterludes_blank (d : Device) : d.blank.hasInterludes = d.hasInterludes := by
  rw [hasInterludes, hasInterludes, ← Queue.any_during_blank d.inbound]
  rfl

namespace Guise

theorem world_blank : blank.world = World.blank := by
  funext w
  have hslots : blank.slots w.slots = w.slots := List.map_id' w.slots
  have hmanager : w.manager.map blank.manager = w.manager := congrFun Option.map_id w.manager
  rw [world, hslots, hmanager, bus, device_blank]
  rfl

theorem mark_blank : blank.mark = fun e => some e.blank := by
  funext e
  cases e with
  | call place c => exact congrArg (fun c => some (Mark.call place c)) (congrFun call_blank c)
  | log e => rfl

theorem operation_blank : blank.operation = Operation.blank := by
  funext op
  cases op with
  | request slot r => exact congrArg (Operation.request slot) (congrFun request_blank r)
  | inbound place items =>
    exact congrArg (fun f => Operation.inbound place (List.map f items)) item_blank
  | _ => rfl

theorem result_blank : blank.result = Answer.blank := by
  funext a
  cases a with
  | replied reply nested => rw [result, reply_blank]; rfl
  | options o => exact congrArg Answer.options (congrFun Option.map_id o)
  | _ => rfl

end Guise

/-! ## Scenarios -/

theorem Queue.all_during_blank (q : Queue Inbound) :
    q.blank.all (·.during.isNone) = q.all (·.during.isNone) := by
  rw [blank, List.all_map]
  rfl

theorem Operation.plain_blank (op : Operation) : op.blank.plain = op.plain := by
  cases op with
  | inbound place items => exact Queue.all_during_blank items
  | _ => rfl

namespace World

variable {w : World}

/-- No transfer is logged with its bytes, by any session that there is or will be. -/
structure Mute (w : World) : Prop where
  manager : ∀ m, w.manager = some m → m.options.debug = false
  sessions : ∀ slot s, Slots.get? slot w.slots = some s → s.options.debug = false

/-- The scenario goes on the blanked world as it goes on the world, but for the bytes. -/
theorem chronicle_blank {ops : List Operation} (hmute : w.Mute) (hcalm : w.Calm)
    (hops : ∀ op ∈ ops, op.plain = true) :
    w.blank.chronicle (ops.map Operation.blank) =
      (w.chronicle ops).map (·.image World.blank (fun e => some e.blank) Answer.blank) := by
  have hsuits : w.Debugs Guise.blank.Suits :=
    ⟨fun m hm => hmute.manager m hm ▸ Guise.suits_blank,
      fun slot s hs => hmute.sessions slot s hs ▸ Guise.suits_blank⟩
  have hgoes := Guise.blank.chronicle hsuits hcalm hops
  rw [Guise.operation_blank, Guise.world_blank] at hgoes
  rw [hgoes]
  refine List.map_congr_left fun o _ => ?_
  rw [Guise.outcome, Guise.world_blank, Guise.mark_blank, Guise.result_blank]

/-- Two scenarios that differ only in the bytes that are written, or that wait to be read, have at
    every operation the same log events, and the same calls and answers but for these bytes. -/
theorem log_tells_no_payload {bus bus' : Bus} {m : Manager} {ops ops' : List Operation}
    (hdebug : m.options.debug = false) (hcalm : ∀ d ∈ bus.devices, d.hasInterludes = false)
    (hplain : ∀ op ∈ ops, op.plain = true) (hbus : bus.blank = bus'.blank)
    (hops : ops.map Operation.blank = ops'.map Operation.blank) :
    let here := chronicle { bus, manager := some m } ops
    let there := chronicle { bus := bus', manager := some m } ops'
    here.map (fun o => o.trace.filterMap Mark.event?) =
        there.map (fun o => o.trace.filterMap Mark.event?) ∧
      here.map (fun o => o.trace.map Mark.blank) = there.map (fun o => o.trace.map Mark.blank) ∧
      here.map (fun o => o.value.blank) = there.map fun o => o.value.blank := by
  intro here there
  have hmute (bus : Bus) : Mute { bus, manager := some m } :=
    ⟨fun m' hm' => Option.some.inj hm' ▸ hdebug, fun slot s hs => by cases hs⟩
  -- The other scenario has nothing happen during transfers either.
  have hcalm' : ∀ d ∈ bus'.devices, d.hasInterludes = false := by
    intro d hd
    have hblank : d.blank ∈ bus.blank.devices := hbus ▸ List.mem_map_of_mem hd
    obtain ⟨d', hd', hsame⟩ := List.mem_map.1 hblank
    rw [← d.hasInterludes_blank, ← hsame, d'.hasInterludes_blank]
    exact hcalm d' hd'
  have hplain' : ∀ op ∈ ops', op.plain = true := by
    intro op hop
    have hblank : op.blank ∈ ops.map Operation.blank := hops ▸ List.mem_map_of_mem hop
    obtain ⟨op', hop', hsame⟩ := List.mem_map.1 hblank
    rw [← op.plain_blank, ← hsame, op'.plain_blank]
    exact hplain op' hop'
  have himages : here.map (·.image World.blank (fun e => some e.blank) Answer.blank) =
      there.map (·.image World.blank (fun e => some e.blank) Answer.blank) := by
    rw [← chronicle_blank (hmute bus) hcalm hplain, ← chronicle_blank (hmute bus') hcalm' hplain',
      hops, World.blank, World.blank, hbus]
  -- What can be told by the images is the same in both.
  have htold {γ : Type} {f g : Outcome World Mark Answer → γ}
      (hg : ∀ o, g (o.image World.blank (fun e => some e.blank) Answer.blank) = f o) :
      here.map f = there.map f := by
    have hsame := congrArg (List.map g) himages
    simpa only [List.map_map, Function.comp_def, hg] using hsame
  refine ⟨htold (g := fun o => o.trace.filterMap Mark.event?) fun o => ?_,
    htold (g := fun o => o.trace) fun o => ?_, htold (g := fun o => o.value) fun o => rfl⟩
  · simp only [Outcome.image, List.filterMap_filterMap, Option.bind_some, Mark.event?_blank]
  · exact congrFun List.filterMap_eq_map' o.trace

/-- Different bytes are written to a device that loops them back, and different ones wait on it. -/
theorem log_tells_no_payload_loopback :
    let endpoints := [.ofAddress 0x81 .bulk, .ofAddress 0x01 .bulk]
    let device (bytes : List UInt8) : Device := {
      details := .ok { (default : Details) with vendor := ⟨0x0483⟩, product := ⟨0xa27e⟩ }
      layout := .ok ⟨1, [⟨0, 0, 255, endpoints⟩]⟩
      script := { loopback := true }
      inbound := [{ answer := .data bytes }] }
    let m : Manager := { options := {} }
    let ops (bytes : List UInt8) : List Operation := [.connect "a" ⟨0x0483⟩ ⟨0xa27e⟩ false,
      .request "a" (.write bytes), .request "a" (.read 8 0), .request "a" (.close false)]
    let here := chronicle { bus := { devices := [device [1, 2]] }, manager := some m } (ops [3])
    let there := chronicle { bus := { devices := [device [4, 5]] }, manager := some m } (ops [6])
    m.options.debug = false ∧ (∀ op ∈ ops [3], op.plain = true) ∧
      (ops [3]).map Operation.blank = (ops [6]).map Operation.blank ∧
      here.map (fun o => Mark.calls o.trace) ≠ there.map (fun o => Mark.calls o.trace) ∧
      here.map (fun o => o.trace.filterMap Mark.event?) =
        there.map (fun o => o.trace.filterMap Mark.event?) := by
  intro endpoints device m ops here there
  have hplain : ∀ op ∈ ops [3], op.plain = true := by decide
  have hops : (ops [3]).map Operation.blank = (ops [6]).map Operation.blank := by decide
  have hcalm : ∀ d ∈ [device [1, 2]], d.hasInterludes = false := by decide
  have hbus : Bus.blank { devices := [device [1, 2]] } = Bus.blank { devices := [device [4, 5]] } :=
    rfl
  have hcalls :
      here.map (fun o => Mark.calls o.trace) ≠ there.map (fun o => Mark.calls o.trace) := by
    decide +kernel
  have hsame := log_tells_no_payload (m := m) rfl hcalm hplain hbus hops
  exact ⟨rfl, hplain, hops, hcalls, hsame.1⟩

end World

end UsbSession
