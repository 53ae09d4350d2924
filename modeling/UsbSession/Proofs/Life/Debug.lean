import UsbSession.Proofs.Guise.World

/-!
# Debugging only observes

Whether the bytes of transfers are logged decides nothing. A scenario goes with the debug option as
it goes without, but that the log has an entry more in front of each write and behind each read that
succeeds (`World.debug_observes`).

A scenario without the debug option is the guise of one with it (`Guise.silent`): the option is not
seen, and the log is seen without the bytes of transfers. What is not seen is where it should be
(`World.trace_of_debugs`): apart from the transfers on sessions there is nothing to hide, which
again is a guise (`Guise.deaf`), and a transfer starts or ends with its entry.
-/

namespace UsbSession

/-! ## Without the option -/

/-- The options with the debug option on or off. -/
def Options.debugging (o : Options) (on : Bool) : Options := { o with debug := on }

/-- The manager with the debug option on or off. -/
def Manager.debugging (m : Manager) (on : Bool) : Manager :=
  { m with options := m.options.debugging on }

/-- The world without the debug option, in the manager and in all sessions. -/
def World.quiet (w : World) : World where
  bus := w.bus
  manager := w.manager.map (·.debugging false)
  slots := w.slots.map fun slot =>
    (slot.1, { slot.2 with options := slot.2.options.debugging false })

/-- The answer without the debug option, where it tells options. -/
def Answer.quiet : Answer → Answer
  | options o => options (o.map (·.debugging false))
  | a => a

/-- The log entry in front of a write. -/
def Session.herald (s : Session) : Request → List Entry
  | .write bytes => [.log (.writing s.binding.outgoing.address bytes)]
  | _ => []

/-- The log entry behind a read that succeeded. -/
def Session.echo (s : Session) : Reply → List Entry
  | .read (.ok bytes) => [.log (.received s.binding.incoming.address bytes)]
  | _ => []

/-- What the debug option adds in front of an operation. -/
def Operation.heralds (w : World) : Operation → List Mark
  | request slot r =>
    match Slots.get? slot w.slots with
    | some s => (s.herald r).map (.ofEntry s.device)
    | none => []
  | _ => []

/-- What the debug option adds behind an operation with this answer. -/
def Operation.echoes (w : World) (a : Answer) : Operation → List Mark
  | request slot _ =>
    match Slots.get? slot w.slots, a with
    | some s, .replied (some reply) _ => (s.echo reply).map (.ofEntry s.device)
    | _, _ => []
  | _ => []

/-- What the debug option adds in front of and behind the operations of a scenario. Nothing is added
    at the end. -/
def World.margins (w : World) : List Operation → List (List Mark × List Mark)
  | [] => [([], [])]
  | op :: ops =>
    let o := (step op).run w
    (op.heralds w, op.echoes w o.value) :: margins o.state ops

namespace Guise

/-- The debug option and the bytes in the log are not seen. -/
def silent : Guise := { debug := fun _ => false, payloads := false }

/-- The bytes in the log are not seen. -/
def deaf : Guise := { payloads := false }

variable {g : Guise}

theorem suits_silent (debug : Bool) : silent.Suits debug := by
  constructor <;> cases debug <;> exact fun _ _ => rfl

section Plain

variable (hbyte : g.byte = id) (hlater : g.later = 0)

include hbyte

theorem operation_eq : g.operation = id := by
  funext op
  cases op with
  | request slot r => rw [operation, request_eq hbyte]; rfl
  | inbound place items => rw [operation, item_eq hbyte, List.map_id]; rfl
  | _ => rfl

theorem result_replied (reply : Option Reply) (nested : List Reply) :
    g.result (.replied reply nested) = .replied reply nested := by
  rw [result, reply_eq hbyte, Option.map_id, List.map_id]
  rfl

include hlater

theorem bus_eq : g.bus = id := by
  funext b
  rw [bus, device_eq hbyte, hlater, List.map_id]
  rfl

end Plain

theorem world_silent : silent.world = World.quiet := by
  funext w
  rw [world, bus_eq rfl rfl]
  rfl

theorem result_silent : silent.result = Answer.quiet := by
  funext a
  cases a with
  | replied reply nested => exact result_replied rfl reply nested
  | _ => rfl

theorem world_deaf : deaf.world = id := by
  funext w
  have hslots : deaf.slots w.slots = w.slots := List.map_id' w.slots
  have hmanager : w.manager.map deaf.manager = w.manager := congrFun Option.map_id w.manager
  rw [world, bus_eq rfl rfl, hslots, hmanager]
  rfl

theorem mark_silent : silent.mark = deaf.mark := by
  funext e
  cases e with
  | call place c =>
    change some (Mark.call place (silent.call c)) = some (.call place (deaf.call c))
    rw [call_eq rfl, call_eq rfl]
  | log e => rfl

theorem calls_silent (trace : List Mark) :
    Mark.calls (trace.filterMap silent.mark) = Mark.calls trace := by
  have hcall : (fun e => (silent.mark e).bind Mark.call?) = Mark.call? := by
    funext e
    cases e with
    | call place c => exact congrArg (fun c => some (place, c)) (congrFun (call_eq rfl) c)
    | log e =>
      change (if silent.shows e then _ else _ : Option Mark).bind _ = none
      split <;> rfl
  rw [Mark.calls, List.filterMap_filterMap, hcall]
  rfl

theorem events_silent (trace : List Mark) : (trace.filterMap silent.mark).filterMap Mark.event? =
    (trace.filterMap Mark.event?).filter (!·.isPayload) := by
  rw [List.filterMap_filterMap, List.filter_filterMap]
  refine congrArg (List.filterMap · trace) (funext fun e => ?_)
  cases e with
  | call place c => rfl
  | log e =>
    change (if !e.isPayload then some (Mark.log e) else none).bind _ =
      if !e.isPayload then some e else none
    split <;> rfl

end Guise

/-! ## What the option adds to the log -/

namespace Session

variable {s : Session}

theorem filterMap_herald (s : Session) (r : Request) (place : Nat) :
    ((s.herald r).map (Mark.ofEntry place)).filterMap Guise.deaf.mark = [] := by
  cases r <;> rfl

theorem filterMap_echo (s : Session) (reply : Reply) (place : Nat) :
    ((s.echo reply).map (Mark.ofEntry place)).filterMap Guise.deaf.mark = [] := by
  unfold echo
  split <;> rfl

/-- What an action does that is the same in the guise that hides the bytes, has no bytes to hide. -/
theorem filterMap_of_mirrors {α : Type} {A : α → α} {x : Act α} {p : Clocked}
    (h : Traced.Mirrors Guise.deaf.clocked Guise.deaf.entry A x x p) :
    (x.run p).trace.filterMap Guise.deaf.entry = (x.run p).trace := by
  have hclocked : Guise.deaf.clocked p = p := by
    rw [Guise.clocked, Guise.device_eq rfl]
    rfl
  rw [Traced.Mirrors, hclocked] at h
  exact (congrArg Outcome.trace h).symm

theorem filterMap_dispatch (s : Session) (t : Transfer) (timeout : Nat) (p : Clocked) :
    ((s.dispatch t timeout).run p).trace.filterMap Guise.deaf.entry =
      ((s.dispatch t timeout).run p).trace := by
  have hmirrors := Guise.deaf.dispatch s t timeout p
  rw [Guise.transfer_eq rfl] at hmirrors
  exact filterMap_of_mirrors hmirrors

/-- With the debug option, a transfer is logged with its entry in front or behind. -/
theorem trace_perform (hdebug : s.options.debug = true) (r : Request) (p : Clocked) :
    ∃ trace, trace.filterMap Guise.deaf.entry = trace ∧
      ((s.perform r).run p).trace =
        s.herald r ++ trace ++ s.echo ((s.perform r).run p).value.1 := by
  cases r with
  | write bytes =>
    refine ⟨_, s.filterMap_dispatch (.write bytes) 0 p, ?_⟩
    change ((s.write bytes).run p).trace ++ [] = _ ++ _ ++ []
    rw [write_eq, announce, if_pos hdebug, List.append_nil, List.append_nil]
    exact congrArg (_ :: ·) (List.append_nil _)
  | read size timeout =>
    refine ⟨_, s.filterMap_dispatch (.read size) (s.readTimeout timeout) p, ?_⟩
    change ((s.read size timeout).run p).trace ++ [] =
      _ ++ s.echo (.read ((s.read size timeout).run p).value)
    rw [read_eq, List.append_nil, Traced.run_bind]
    cases ((s.dispatch (.read size) (s.readTimeout timeout)).run p).value with
    | error e => rfl
    | ok bytes =>
      rw [hdebug]
      rfl
  | close disconnected =>
    have hmirrors := Guise.deaf.perform (s := s) (.close disconnected) nofun p
    exact ⟨_, filterMap_of_mirrors hmirrors, (List.append_nil _).symm⟩
  | state | details | debug => exact ⟨[], rfl, rfl⟩

end Session

namespace World

variable {w : World}

theorem filterMap_ofEntry (place : Nat) {trace : List Entry}
    (h : trace.filterMap Guise.deaf.entry = trace) :
    (trace.map (Mark.ofEntry place)).filterMap Guise.deaf.mark = trace.map (.ofEntry place) := by
  have hmark : (trace.map (Mark.ofEntry place)).filterMap Guise.deaf.mark =
      (trace.filterMap Guise.deaf.entry).map (.ofEntry place) := by
    rw [List.filterMap_map, List.map_filterMap]
    exact congrArg (List.filterMap · _) (funext (Guise.deaf.mark_ofEntry place))
  rw [hmark, h]

/-- With the debug option in all sessions, the bytes in the log of an operation are where they
    should be, and nowhere else. -/
theorem trace_of_debugs (hdebugs : w.Debugs (· = true)) (hcalm : w.Calm) (op : Operation) :
    let o := (step op).run w
    o.trace = op.heralds w ++ o.trace.filterMap Guise.deaf.mark ++ op.echoes w o.value := by
  intro o
  by_cases hrequest : ∃ slot r s, op = .request slot r ∧ Slots.get? slot w.slots = some s
  · obtain ⟨slot, r, s, rfl, hslot⟩ := hrequest
    have hrun := run_step_request hslot r
    rw [serve_of_calm (Bus.hasInterludes_device hcalm s.device)] at hrun
    obtain ⟨trace, hdeaf, htrace⟩ := Session.trace_perform (hdebugs.sessions slot s hslot) r
      ⟨w.bus.device s.device, w.bus.now⟩
    have hheralds : (Operation.request slot r).heralds w =
        (s.herald r).map (.ofEntry s.device) := by
      rw [Operation.heralds, hslot]
    have hechoes : (Operation.request slot r).echoes w o.value =
        (s.echo ((s.perform r).run ⟨w.bus.device s.device, w.bus.now⟩).value.1).map
          (.ofEntry s.device) := by
      rw [show o.value = _ from congrArg Outcome.value hrun]
      simp only [Operation.echoes, hslot]
    rw [hheralds, hechoes, show o.trace = _ from congrArg Outcome.trace hrun]
    dsimp only
    rw [htrace, List.map_append, List.map_append, List.filterMap_append, List.filterMap_append,
      s.filterMap_herald, s.filterMap_echo, filterMap_ofEntry s.device hdeaf, List.nil_append,
      List.append_nil]
  · -- Nothing else is hidden in the guise that hides the bytes.
    have hstep : (step (Guise.deaf.operation op)).run (Guise.deaf.world w) = _ :=
      Guise.deaf.step hcalm op fun slot r s hop _ hslot => absurd ⟨slot, r, s, hop, hslot⟩ hrequest
    rw [Guise.operation_eq rfl, Guise.world_deaf] at hstep
    have htrace : o.trace = o.trace.filterMap Guise.deaf.mark := congrArg Outcome.trace hstep
    have hnone : op.heralds w = [] ∧ op.echoes w o.value = [] := by
      cases op with
      | request slot r =>
        have hslot : Slots.get? slot w.slots = none := by
          cases h : Slots.get? slot w.slots with
          | none => rfl
          | some s => exact absurd ⟨slot, r, s, rfl, h⟩ hrequest
        simp [Operation.heralds, Operation.echoes, hslot]
      | _ => exact ⟨rfl, rfl⟩
    rw [hnone.1, hnone.2, ← htrace, List.append_nil]
    rfl

/-- Without the option, the log has no margins. -/
theorem trace_chronicle {ops : List Operation} (hdebugs : w.Debugs (· = true)) (hcalm : w.Calm)
    (hops : ∀ op ∈ ops, op.plain = true) :
    (w.chronicle ops).map (·.trace) = List.zipWith (fun o margin => margin.1 ++ o.trace ++ margin.2)
      ((w.chronicle ops).map Guise.silent.outcome) (w.margins ops) := by
  induction ops generalizing w with
  | nil =>
    have hfinish : ((fun _ => .done) <$> finish : Happening Answer).run (Guise.deaf.world w) = _ :=
      (Guise.deaf.finish w).bind (A := id) (B := id) fun _ _ => .pure rfl
    rw [Guise.world_deaf] at hfinish
    have htrace := congrArg Outcome.trace hfinish
    change [_] = [[] ++ List.filterMap Guise.silent.mark _ ++ []]
    rw [Guise.mark_silent, List.append_nil]
    exact congrArg (· :: []) htrace
  | cons op ops ih =>
    obtain ⟨hop, hops⟩ := List.forall_mem_cons.1 hops
    have htrace := trace_of_debugs hdebugs hcalm op
    rw [← Guise.mark_silent] at htrace
    exact congrArg₂ List.cons htrace (ih (hdebugs.step op) (hcalm.step hop) hops)

/-- Running a scenario with the debug option and without it gives the same answers but for the
    option itself, the same host calls and the same worlds but for the option itself, after every
    operation and at the end. The log without the option is the log with it but for the bytes of
    transfers, and these are one entry in front of each write and one behind each read that
    succeeds. -/
theorem debug_observes (bus : Bus) (m : Manager) (ops : List Operation)
    (hcalm : ∀ d ∈ bus.devices, d.hasInterludes = false) (hplain : ∀ op ∈ ops, op.plain = true) :
    let start (debug : Bool) : World := { bus, manager := some (m.debugging debug) }
    let loud := (start true).chronicle ops
    let quiet := (start false).chronicle ops
    quiet.map (·.value) = loud.map (·.value.quiet) ∧
      quiet.map (fun o => Mark.calls o.trace) = loud.map (fun o => Mark.calls o.trace) ∧
      quiet.map (·.state) = loud.map (·.state.quiet) ∧
      quiet.map (fun o => o.trace.filterMap Mark.event?) =
        loud.map (fun o => (o.trace.filterMap Mark.event?).filter (!·.isPayload)) ∧
      loud.map (·.trace) = List.zipWith (fun o margin => margin.1 ++ o.trace ++ margin.2) quiet
        ((start true).margins ops) := by
  intro start loud quiet
  have hdebugs : (start true).Debugs (· = true) :=
    ⟨fun m' hm' => Option.some.inj hm' ▸ rfl, fun slot s hs => by cases hs⟩
  have hquiet : quiet = loud.map Guise.silent.outcome := by
    have hgoes := Guise.silent.chronicle
      ⟨fun _ _ => Guise.suits_silent _, fun _ _ _ => Guise.suits_silent _⟩
      (show (start true).Calm from hcalm) hplain
    rw [Guise.world_silent, Guise.operation_eq rfl, List.map_id] at hgoes
    exact hgoes
  have hloud := trace_chronicle hdebugs hcalm hplain
  rw [← hquiet] at hloud
  refine ⟨?_, ?_, ?_, ?_, hloud⟩
  all_goals rw [hquiet, List.map_map]; refine List.map_congr_left fun o _ => ?_
  · exact congrFun Guise.result_silent o.value
  · exact Guise.calls_silent o.trace
  · exact congrFun Guise.world_silent o.state
  · exact Guise.events_silent o.trace

/-- Three bytes are written to a device that loops them back, and read again. -/
theorem debug_observes_loopback :
    let endpoints := [.ofAddress 0x81 .bulk, .ofAddress 0x01 .bulk]
    let device : Device := {
      details := .ok { (default : Details) with vendor := ⟨0x0483⟩, product := ⟨0xa27e⟩ }
      layout := .ok ⟨1, [⟨0, 0, 255, endpoints⟩]⟩
      script := { loopback := true } }
    let m : Manager := { options := {} }
    let ops : List Operation := [.connect "a" ⟨0x0483⟩ ⟨0xa27e⟩ false,
      .request "a" (.write [1, 2, 3]), .request "a" (.read 8 0), .options, .drop "a"]
    let start (debug : Bool) : World :=
      { bus := { devices := [device] }, manager := some (m.debugging debug) }
    let loud := (start true).chronicle ops
    let quiet := (start false).chronicle ops
    (∀ d ∈ [device], d.hasInterludes = false) ∧ (∀ op ∈ ops, op.plain = true) ∧
      (start true).margins ops = [([], []), ([.log (.writing 0x01 [1, 2, 3])], []),
        ([], [.log (.received 0x81 [1, 2, 3])]), ([], []), ([], []), ([], [])] ∧
      quiet.map (fun o => Mark.calls o.trace) = loud.map (fun o => Mark.calls o.trace) ∧
      loud.map (·.trace) = List.zipWith (fun o margin => margin.1 ++ o.trace ++ margin.2) quiet
        ((start true).margins ops) := by
  intro endpoints device m ops start loud quiet
  have hcalm : ∀ d ∈ [device], d.hasInterludes = false := by decide
  have hplain : ∀ op ∈ ops, op.plain = true := by decide
  have hmargins : (start true).margins ops = [([], []), ([.log (.writing 0x01 [1, 2, 3])], []),
      ([], [.log (.received 0x81 [1, 2, 3])]), ([], []), ([], []), ([], [])] := by
    decide +kernel
  have hsame := debug_observes { devices := [device] } m ops hcalm hplain
  exact ⟨hcalm, hplain, hmargins, hsame.2.1, hsame.2.2.2.2⟩

end World

end UsbSession
