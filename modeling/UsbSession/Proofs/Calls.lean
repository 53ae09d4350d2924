import UsbSession.Manager

/-!
# The host calls of a trace

What is left of a trace without the log events: the calls of an action (`Entry.calls`), and the
calls of a bus, each with the place of its device (`Mark.calls`).

What a computation does is its value, the state that it leaves, and its calls (`Traced.Does`). This
is put together along the computation, which its log events have no part in.

* `Traced.Does.bind`: a sequence does what its parts do, one after the other.
-/

namespace UsbSession

/-- The call of an entry, if it is one. -/
def Entry.call? : Entry → Option Call
  | .call c => some c
  | .log _ => none

/-- The log event of an entry, if it is one. -/
def Entry.event? : Entry → Option Log.Event
  | .call _ => none
  | .log e => some e

/-- The calls of a trace. -/
def Entry.calls (trace : List Entry) : List Call := trace.filterMap call?

/-- The call of an entry and the place of its device, if it is one. -/
def Mark.call? : Mark → Option (Nat × Call)
  | .call place c => some (place, c)
  | .log _ => none

/-- The log event of an entry, if it is one. -/
def Mark.event? : Mark → Option Log.Event
  | .call .. => none
  | .log e => some e

/-- The calls of a trace and the places of their devices. -/
def Mark.calls (trace : List Mark) : List (Nat × Call) := trace.filterMap call?

/-- The call of a transfer of the session. -/
def Session.callOf (s : Session) (t : Transfer) (timeout : Nat) (again : Bool) : Call :=
  .transfer (s.binding.pipe t.direction).kind (s.binding.pipe t.direction).address t timeout again

namespace Entry

variable (trace more : List Entry) (e : Log.Event)

@[simp] theorem calls_nil : calls [] = [] := rfl

@[simp] theorem calls_log : calls (.log e :: trace) = calls trace := rfl

@[simp] theorem calls_append : calls (trace ++ more) = calls trace ++ calls more :=
  List.filterMap_append

/-- Log events are no calls. -/
@[simp] theorem calls_map_log (events : List Log.Event) : calls (events.map .log) = [] := by
  induction events with
  | nil => rfl
  | cons e events ih => exact ih

end Entry

namespace Mark

variable (trace more : List Mark)

@[simp] theorem calls_nil : calls [] = [] := rfl

@[simp] theorem calls_log (e : Log.Event) : calls (.log e :: trace) = calls trace := rfl

@[simp] theorem calls_append : calls (trace ++ more) = calls trace ++ calls more :=
  List.filterMap_append

/-- Log events are no calls. -/
@[simp] theorem calls_map_log (events : List Log.Event) : calls (events.map .log) = [] := by
  induction events with
  | nil => rfl
  | cons e events ih => exact ih

/-- The calls of an action all go to the device that it works on. -/
@[simp] theorem calls_map_ofEntry (place : Nat) (trace : List Entry) :
    calls (trace.map (.ofEntry place)) = (Entry.calls trace).map (place, ·) := by
  induction trace with
  | nil => rfl
  | cons e trace ih =>
    cases e with
    | call c => exact congrArg ((place, c) :: ·) ih
    | log e => exact ih

end Mark

/-! ## What a computation does -/

namespace Traced

variable {σ ε κ α β : Type} {call? : ε → Option κ} {s s' s'' : σ} {a : α} {b : β} {cs ds : List κ}

/-- From `s` on, `x` makes the calls `cs`, and leaves `a` and the state `s'`. -/
structure Does (call? : ε → Option κ) (x : Traced σ ε α) (s : σ) (a : α) (cs : List κ) (s' : σ) :
    Prop where
  value : (x.run s).value = a
  state : (x.run s).state = s'
  calls : (x.run s).trace.filterMap call? = cs

namespace Does

theorem pure (a : α) (s : σ) : Does call? (pure a) s a [] s := ⟨rfl, rfl, rfl⟩

theorem look (f : σ → α) (s : σ) : Does call? (Traced.look f) s (f s) [] s := ⟨rfl, rfl, rfl⟩

theorem change (f : σ → σ) (s : σ) : Does call? (Traced.change f) s () [] (f s) := ⟨rfl, rfl, rfl⟩

theorem bind {x : Traced σ ε α} {f : α → Traced σ ε β} (hx : Does call? x s a cs s')
    (hf : Does call? (f a) s' b ds s'') : Does call? (x >>= f) s b (cs ++ ds) s'' where
  value := by
    rw [run_bind, hx.value, hx.state]
    exact hf.value
  state := by
    rw [run_bind, hx.value, hx.state]
    exact hf.state
  calls := by
    rw [run_bind, hx.value, hx.state, List.filterMap_append, hx.calls, hf.calls]

/-- What makes no calls first does what comes after. -/
theorem bind_silent {x : Traced σ ε α} {f : α → Traced σ ε β} (hx : Does call? x s a [] s')
    (hf : Does call? (f a) s' b ds s'') : Does call? (x >>= f) s b ds s'' :=
  hx.bind hf

/-- What makes no calls last does what came before. -/
theorem bind_pure {x : Traced σ ε α} {f : α → Traced σ ε β} (hx : Does call? x s a cs s')
    (hf : Does call? (f a) s' b [] s'') : Does call? (x >>= f) s b cs s'' :=
  List.append_nil cs ▸ hx.bind hf

end Does

end Traced

theorem Mark.calls_of_does {σ α : Type} {x : Traced σ Mark α} {s s' : σ} {a : α}
    {cs : List (Nat × Call)} (h : Traced.Does call? x s a cs s') : calls (x.run s).trace = cs :=
  h.calls

namespace Act

variable {α : Type} (p : Clocked)

theorem does_run (x : Act α) :
    Traced.Does Entry.call? x p (x.run p).value (Entry.calls (x.run p).trace) (x.run p).state :=
  ⟨rfl, rfl, rfl⟩

theorem does_log (e : Log.Event) : Traced.Does Entry.call? (log e) p () [] p := ⟨rfl, rfl, rfl⟩

theorem does_ask (c : Call) (f : Script → α) :
    Traced.Does Entry.call? (ask c f) p (f p.device.script) [c] p :=
  ⟨rfl, rfl, rfl⟩

theorem does_call (c : Call) (f : Device → α × Device) :
    Traced.Does Entry.call? (call c f) p (f p.device).1 [c] { p with device := (f p.device).2 } :=
  ⟨rfl, rfl, rfl⟩

end Act

namespace Bus

variable {α : Type} {bus : Bus}

/-- The bus after an action on the device at a place. -/
def after (bus : Bus) (place : Nat) (p : Clocked) : Bus :=
  { bus with devices := bus.devices.set place p.device, now := p.now }

theorem does_log (e : Log.Event) : Traced.Does Mark.call? (log e) bus () [] bus := ⟨rfl, rfl, rfl⟩

theorem does_logged (x : Log.Logged α) : Traced.Does Mark.call? (logged x) bus x.value [] bus where
  value := rfl
  state := rfl
  calls := by
    change Mark.calls (x.events.map .log ++ []) = []
    rw [List.append_nil, Mark.calls_map_log]

/-- An action on a device makes its calls to it and leaves the other devices as they are. -/
theorem does_act {place : Nat} {x : Act α} {a : α} {cs : List Call} {p : Clocked}
    (h : Traced.Does Entry.call? x ⟨bus.device place, bus.now⟩ a cs p) :
    Traced.Does Mark.call? (act place x) bus a (cs.map (place, ·)) (bus.after place p) where
  value := h.value
  state := by
    obtain ⟨-, rfl, -⟩ := h
    rfl
  calls := (Mark.calls_map_ofEntry place _).trans (congrArg _ h.calls)

end Bus

end UsbSession
