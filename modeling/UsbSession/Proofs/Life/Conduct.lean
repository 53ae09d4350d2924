import Mathlib.Tactic.Common
import UsbSession.Overlap.Schedule
import UsbSession.Proofs.Calls
import UsbSession.Proofs.Transfer.Copies

/-!
# What sessions do

The calls of the operations on a session, one after the other: reads and writes make transfers of
their direction (`Session.dispatch_calls`), and closing makes its calls in one order, whichever of
them fail (`Session.does_close_of_open`). Draining takes from the device what it reads and nothing
else (`Session.consumes_drainUpTo`).

What transfers leave as it is, the operations leave so too (`Session.preserves_perform`). So no
operation puts an interlude where there was none (`Calm`), and operations that do not overlap go on
not to.

* `Session.openHandles_perform`: a session that gets closed takes its handle along.
-/

namespace UsbSession

open Traced (Does)

/-! ## What is preserved -/

/-- What holds of the device before the action holds of it afterwards. -/
def Preserves {α : Type} (P : Device → Prop) (x : Act α) : Prop :=
  ∀ p, P p.device → P (x.run p).state.device

/-- The action has nothing happen during transfers where nothing did. -/
def Calm {α : Type} (x : Act α) : Prop := Preserves (·.hasInterludes = false) x

namespace Preserves

variable {α β : Type} {P : Device → Prop}

theorem pure (a : α) : Preserves P (pure a) := fun _ h => h

theorem bind {x : Act α} {f : α → Act β} (hx : Preserves P x) (hf : ∀ a, Preserves P (f a)) :
    Preserves P (x >>= f) :=
  fun p h => hf _ _ (hx p h)

theorem log (e : Log.Event) : Preserves P (Act.log e) := fun _ h => h

theorem ask (c : Call) (f : Script → α) : Preserves P (Act.ask c f) := fun _ h => h

end Preserves

/-- All that happens during the transfers that the queue answers is of a kind. -/
def Queue.Only {α : Type} (f : Interlude → Bool) (q : Queue α) : Prop :=
  ∀ i ∈ q, ∀ x, i.during = some x → f x = true

/-- All that happens during transfers of the device is of a kind. -/
def Device.Only (f : Interlude → Bool) (d : Device) : Prop := d.inbound.Only f ∧ d.outbound.Only f

/-- What is taken off a queue is of the kind, and so is what stays. -/
theorem Queue.only_pop? {α : Type} {f : Interlude → Bool} {q rest : Queue α} {i : Item α}
    (h : q.pop? = some (i, rest)) (hq : q.Only f) :
    (∀ x, i.during = some x → f x = true) ∧ rest.Only f := by
  cases q with
  | nil => cases h
  | cons j q =>
    obtain ⟨hj, hmore⟩ := List.forall_mem_cons.1 hq
    simp only [pop?] at h
    split at h
    · cases h
      exact ⟨hj, hmore⟩
    · cases h
      exact ⟨hj, List.forall_mem_cons.2 ⟨hj, hmore⟩⟩

theorem Queue.any_during_eq_false {α : Type} {q : Queue α} :
    q.any (·.during.isSome) = false ↔ q.Only fun _ => false := by
  rw [List.any_eq_false]
  refine forall₂_congr fun i _ => ?_
  cases i.during <;> simp

theorem Device.hasInterludes_eq_false {d : Device} :
    d.hasInterludes = false ↔ d.Only fun _ => false := by
  rw [hasInterludes, Bool.or_eq_false_iff, Queue.any_during_eq_false, Queue.any_during_eq_false]
  rfl

theorem Queue.any_during_append {α : Type} {q items : Queue α}
    (hq : q.any (·.during.isSome) = false) (hitems : items.all (·.during.isNone) = true) :
    (q ++ items).any (·.during.isSome) = false := by
  rw [List.any_append, hq, Bool.false_or, List.any_eq_false]
  intro i hi
  simpa using List.all_eq_true.1 hitems i hi

section Only

variable {f : Interlude → Bool} {d : Device} (h : d.Only f) (t : Transfer)

include h

/-- What happens during a transfer is of the kind, and so is what may happen later. -/
theorem Device.only_enter :
    (∀ x, (d.enter t).1.during = some x → f x = true) ∧ (d.enter t).2.Only f := by
  cases t with
  | read size =>
    simp only [enter, beginRead]
    split
    · refine ⟨fun x hx => ?_, h⟩
      cases hx
    · rename_i hpop
      obtain ⟨hduring, hrest⟩ := Queue.only_pop? hpop h.1
      exact ⟨hduring, hrest, h.2⟩
  | write bytes =>
    simp only [enter, beginWrite]
    split
    · refine ⟨fun x hx => ?_, h⟩
      cases hx
    · rename_i hpop
      obtain ⟨hduring, hrest⟩ := Queue.only_pop? hpop h.2
      exact ⟨hduring, h.1, hrest⟩

theorem Device.only_leave (answer : Except Failure (List UInt8)) : (d.leave t answer).Only f := by
  unfold leave
  -- Only what is written to a device that answers with it becomes an answer itself.
  split
  · split
    · refine ⟨List.forall_mem_append.2 ⟨h.1, List.forall_mem_singleton.2 fun x hx => ?_⟩, h.2⟩
      cases hx
    · exact h
  · exact h

end Only

/-- Transfers open no handle and close none. -/
@[simp] theorem Device.openHandles_enter (d : Device) (t : Transfer) :
    (d.enter t).2.openHandles = d.openHandles := by
  cases t with
  | read size => simp only [enter, beginRead]; split <;> rfl
  | write bytes => simp only [enter, beginWrite]; split <;> rfl

@[simp] theorem Device.openHandles_leave (d : Device) (t : Transfer)
    (answer : Except Failure (List UInt8)) : (d.leave t answer).openHandles = d.openHandles := by
  unfold leave
  split
  · split <;> rfl
  · rfl

namespace Device

/-- What holds of a device before a transfer holds of it afterwards. -/
structure Lasting (P : Device → Prop) : Prop where
  enter : ∀ (d : Device) (t : Transfer), P d → P (d.enter t).2
  leave : ∀ (d : Device) (t : Transfer) (answer : Except Failure (List UInt8)), P d →
    P (d.leave t answer)

/-- What holds of a device lasts, whatever handles are open. -/
structure Enduring (P : Device → Prop) : Prop extends Lasting P where
  handles : ∀ (d : Device) (n : Nat), P d → P { d with openHandles := n }

/-- What holds of a device holds by its queues, and lasts. -/
structure ByQueues (P : Device → Prop) : Prop extends Lasting P where
  same : ∀ d d' : Device, d'.inbound = d.inbound → d'.outbound = d.outbound → P d → P d'

theorem ByQueues.enduring {P : Device → Prop} (h : ByQueues P) : Enduring P where
  toLasting := h.toLasting
  handles d _ hd := h.same d _ rfl rfl hd

theorem byQueues_only (f : Interlude → Bool) : ByQueues (Only f) where
  enter _ t h := (only_enter h t).2
  leave _ t answer h := only_leave h t answer
  same _ _ hin hout h := ⟨hin ▸ h.1, hout ▸ h.2⟩

theorem byQueues_hasInterludes : ByQueues (·.hasInterludes = false) := by
  simpa only [hasInterludes_eq_false] using byQueues_only fun _ => false

theorem lasting_openHandles (n : Nat) : Lasting (·.openHandles = n) where
  enter d t h := (d.openHandles_enter t).trans h
  leave d t answer h := (d.openHandles_leave t answer).trans h

end Device

namespace Session

variable (s : Session) {P : Device → Prop}

/-! ## Transfers -/

/-- Whether the call is a transfer of the session of the direction. -/
def IsTransfer (d : Direction) (c : Call) : Prop :=
  ∃ t timeout again, t.direction = d ∧ c = s.callOf t timeout again

theorem isTransfer_of_mem_move {t : Transfer} {timeout : Nat} {again : Bool} {p : Clocked}
    {c : Call} (hc : c ∈ Entry.calls ((s.move t timeout again).run p).trace) :
    s.IsTransfer t.direction c :=
  ⟨t, timeout, again, rfl, List.mem_singleton.1 hc⟩

theorem transferUntil_calls (t : Transfer) (deadline : Option Nat) (remaining : Nat) (again : Bool)
    (p : Clocked) : ∀ c ∈ Entry.calls (s.transferUntil t deadline remaining again p).trace,
      s.IsTransfer t.direction c := by
  fun_induction transferUntil s t deadline remaining again p with
  | case1 remaining again p moved judged result h =>
    intro c hc
    rw [Entry.calls_append, Entry.calls_map_log, List.append_nil] at hc
    exact s.isTransfer_of_mem_move hc
  | case2 remaining again p moved judged rest h next ih =>
    intro c hc
    rw [Entry.calls_append, Entry.calls_append, Entry.calls_map_log, List.append_nil] at hc
    -- Besides the transfers of the rest there is the one that moved nothing.
    rcases List.mem_append.1 hc with hc | hc
    · exact s.isTransfer_of_mem_move hc
    · exact ih c hc

/-- A read or write makes transfers of its direction. -/
theorem dispatch_calls (t : Transfer) (timeout : Nat) (p : Clocked) :
    ∀ c ∈ Entry.calls ((s.dispatch t timeout).run p).trace, s.IsTransfer t.direction c := by
  change ∀ c ∈ Entry.calls (s.dispatch t timeout p).trace, s.IsTransfer t.direction c
  unfold dispatch
  split
  · exact s.transferUntil_calls t _ timeout false p
  · intro c hc
    cases hc

/-- On a session that is not open it makes none. -/
theorem dispatch_calls_of_not_open (h : s.state ≠ .open) (t : Transfer) (timeout : Nat)
    (p : Clocked) : Entry.calls ((s.dispatch t timeout).run p).trace = [] := by
  change Entry.calls (s.dispatch t timeout p).trace = []
  rw [dispatch, if_neg h]
  rfl

theorem does_read (size timeout : Nat) (p : Clocked) :
    let o := (s.dispatch (.read size) (s.readTimeout timeout)).run p
    Does Entry.call? (s.read size timeout) p o.value (Entry.calls o.trace) o.state := by
  intro o
  refine (Act.does_run p _).bind_pure ?_
  change Does Entry.call? _ o.state _ _ _
  cases o.value with
  | error e => exact .pure _ _
  | ok bytes =>
    cases s.options.debug with
    | false => exact .pure _ _
    | true => exact (Act.does_log _ _).bind_silent (.pure _ _)

theorem does_write (bytes : List UInt8) (p : Clocked) :
    let o := (s.dispatch (.write bytes) 0).run p
    Does Entry.call? (s.write bytes) p (o.value.map List.length) (Entry.calls o.trace) o.state := by
  intro o
  rw [write]
  cases s.options.debug with
  | false => exact (Act.does_run p _).bind_pure (.pure _ _)
  | true => exact (Act.does_log p _).bind_silent ((Act.does_run p _).bind_pure (.pure _ _))

/-! ## Teardown -/

/-- The call of a read that drains. -/
def drainCall : Call := s.callOf (.read drainSize) drainTimeout false

/-- Draining reads what can be read, and once more, unless it may not read so often. -/
theorem consumes_drainUpTo (budget : Nat) (p : Clocked) :
    let reads := min budget (1 + p.device.readable)
    ∃ p', Does Entry.call? (s.drainUpTo budget) p reads (List.replicate reads s.drainCall) p' ∧
      p.device.Consumes reads p'.device := by
  induction budget generalizing p with
  | zero =>
    rw [Nat.zero_min]
    exact ⟨p, .pure _ _, .refl _⟩
  | succ budget ih =>
    let moved := (s.move (.read drainSize) drainTimeout false).run p
    have hmove : Does Entry.call? (s.move (.read drainSize) drainTimeout false) p moved.value
        [s.drainCall] moved.state := Act.does_run p _
    have hone : p.device.Consumes 1 moved.state.device := p.device.consumes_enter_read drainSize
    have hanswer : (p.device.readable = 0 ∧ ∃ code, moved.value = .error code) ∨
        ∃ bytes, moved.value = .ok bytes ∧
          p.device.readable = moved.state.device.readable + 1 :=
      p.device.enter_read_cases drainSize
    rw [drainUpTo]
    rcases hanswer with ⟨hnone, code, hfailed⟩ | ⟨bytes, hmoved, hmore⟩
    · -- The first read fails, and is the last.
      rw [hnone, show min (budget + 1) (1 + 0) = 1 by omega]
      refine ⟨moved.state, hmove.bind_pure ?_, hone⟩
      rw [hfailed]
      exact (Act.does_log _ _).bind_silent (.pure _ _)
    · -- A read that drained something is followed by those that drain the rest.
      obtain ⟨p', hrest, hconsumes⟩ := ih moved.state
      have hreads : min (budget + 1) (1 + p.device.readable) =
          min budget (1 + moved.state.device.readable) + 1 := by omega
      rw [hreads]
      refine ⟨p', hmove.bind ?_, ?_⟩
      · rw [hmoved]
        exact (Act.does_log _ _).bind_silent (hrest.bind_pure (.pure _ _))
      · rw [Nat.add_comm (min _ _) 1]
        exact hone.trans hconsumes

/-- Quiescing cancels what is pending and drains what has come in, though the cancel may fail. -/
theorem consumes_quiesce (p : Clocked) :
    let reads := min drainLimit (1 + p.device.readable)
    ∃ p', Does Entry.call? s.quiesce p () (.cancel :: List.replicate reads s.drainCall) p' ∧
      p.device.Consumes reads p'.device := by
  obtain ⟨p', hdrain, hconsumes⟩ := s.consumes_drainUpTo drainLimit p
  refine ⟨p', (Act.does_ask p _ _).bind ?_, hconsumes⟩
  cases answering p.device.script.cancelError () with
  | ok _ => exact hdrain.bind_pure (Act.does_log _ _)
  | error code => exact (Act.does_log p _).bind_silent (hdrain.bind_pure (Act.does_log _ _))

/-- The calls that give back what the session holds. -/
def giveBackCalls : List Call :=
  .release s.binding.interface ::
    ((if s.reattach then [.attach s.binding.interface] else []) ++ [.close])

theorem does_giveBack (p : Clocked) :
    Does Entry.call? s.giveBack p () s.giveBackCalls
      { p with device.openHandles := p.device.openHandles - 1 } := by
  have hclose : Does Entry.call? (do
      Act.closeHandle
      Act.log .handleClosed) p () [.close]
      { p with device.openHandles := p.device.openHandles - 1 } :=
    (Act.does_call p _ _).bind_pure (Act.does_log _ _)
  rw [giveBack, giveBackCalls]
  refine (Act.does_ask p _ _).bind ?_
  -- A release that fails is only logged, and so is an attach.
  rcases answering p.device.script.releaseError () with code | _
  on_goal 1 => refine (Act.does_log p _).bind_silent ?_
  all_goals
    cases s.reattach with
    | false => exact hclose
    | true =>
      refine (Act.does_ask p _ _).bind ?_
      cases answering p.device.script.attachError () <;>
        exact (Act.does_log p _).bind_silent hclose

/-- Closing a session without draining it gives back what it holds, and nothing else. -/
theorem does_close_disconnected (h : s.state = .open) (p : Clocked) :
    Does Entry.call? (s.close true) p { s with state := .closed } s.giveBackCalls
      { p with device.openHandles := p.device.openHandles - 1 } := by
  rw [close, if_pos h]
  exact (Act.does_log p _).bind_silent ((s.does_giveBack p).bind_pure (.pure _ _))

/-- Closing a session that is to be drained gives back what it holds after that. -/
theorem consumes_close (h : s.state = .open) (p : Clocked) :
    let reads := min drainLimit (1 + p.device.readable)
    ∃ p', Does Entry.call? (s.close false) p { s with state := .closed }
        (.cancel :: (List.replicate reads s.drainCall ++ s.giveBackCalls)) p' ∧
      { p.device with openHandles := p.device.openHandles - 1 }.Consumes reads p'.device := by
  obtain ⟨p', hquiesce, q, hq, hdevice⟩ := s.consumes_quiesce p
  refine ⟨{ p' with device.openHandles := p'.device.openHandles - 1 }, ?_, q, hq, ?_⟩
  · rw [close, if_pos h]
    exact (Act.does_log p _).bind_silent
      (hquiesce.bind ((s.does_giveBack p').bind_pure (.pure _ _)))
  · rw [hdevice]
    rfl

/-- Closing an open session gives back what it holds, after quiescing unless that is left out. -/
theorem does_close_of_open (h : s.state = .open) (disconnected : Bool) (p : Clocked) :
    ∃ reads p', Does Entry.call? (s.close disconnected) p { s with state := .closed }
      ((if disconnected then [] else .cancel :: List.replicate reads s.drainCall) ++
        s.giveBackCalls) p' := by
  cases disconnected with
  | true => exact ⟨0, _, s.does_close_disconnected h p⟩
  | false =>
    obtain ⟨p', hclose, -⟩ := s.consumes_close h p
    exact ⟨_, p', hclose⟩

theorem does_close_of_not_open (h : s.state ≠ .open) (disconnected : Bool) (p : Clocked) :
    Does Entry.call? (s.close disconnected) p s [] p := by
  rw [close, if_neg h]
  exact (Act.does_log p _).bind_silent (.pure _ _)

theorem does_drop_of_open (h : s.state = .open) (p : Clocked) :
    Does Entry.call? s.drop p () s.giveBackCalls
      { p with device.openHandles := p.device.openHandles - 1 } := by
  rw [drop, if_pos h]
  exact (Act.does_log p _).bind_silent ((s.does_close_disconnected h p).bind_pure (.pure _ _))

theorem does_drop_of_not_open (h : s.state ≠ .open) (p : Clocked) :
    Does Entry.call? s.drop p () [] p := by
  rw [drop, if_neg h]
  exact .pure _ _

/-! ## What sessions preserve -/

section Lasting

variable (hP : Device.Lasting P)

include hP

theorem preserves_move (t : Transfer) (timeout : Nat) (again : Bool) :
    Preserves P (s.move t timeout again) :=
  fun p h => hP.leave _ t _ (hP.enter p.device t h)

theorem preserves_transferUntil (t : Transfer) (deadline : Option Nat) (remaining : Nat)
    (again : Bool) (p : Clocked) (h : P p.device) :
    P (s.transferUntil t deadline remaining again p).state.device := by
  fun_induction transferUntil s t deadline remaining again p with
  | case1 remaining again p moved judged result _ => exact s.preserves_move hP t remaining again p h
  | case2 remaining again p moved judged rest _ next ih =>
    exact ih (s.preserves_move hP t remaining again p h)

theorem preserves_dispatch (t : Transfer) (timeout : Nat) : Preserves P (s.dispatch t timeout) := by
  intro p h
  change P (s.dispatch t timeout p).state.device
  unfold dispatch
  split
  · exact s.preserves_transferUntil hP t _ timeout false p h
  · exact h

theorem preserves_read (size timeout : Nat) : Preserves P (s.read size timeout) := by
  intro p h
  rw [(s.does_read size timeout p).state]
  exact s.preserves_dispatch hP _ _ p h

theorem preserves_write (bytes : List UInt8) : Preserves P (s.write bytes) := by
  intro p h
  rw [(s.does_write bytes p).state]
  exact s.preserves_dispatch hP _ _ p h

theorem preserves_drainUpTo (budget : Nat) : Preserves P (s.drainUpTo budget) := by
  induction budget with
  | zero => exact .pure _
  | succ budget ih =>
    rw [drainUpTo]
    refine (s.preserves_move hP _ _ _).bind fun answer => ?_
    cases answer with
    | ok bytes => exact (Preserves.log _).bind fun _ => ih.bind fun _ => .pure _
    | error code => exact (Preserves.log _).bind fun _ => .pure _

theorem preserves_quiesce : Preserves P s.quiesce := by
  rw [quiesce]
  refine (Preserves.ask _ _).bind fun answer => ?_
  cases answer with
  | ok _ => exact (s.preserves_drainUpTo hP _).bind fun _ => .log _
  | error code =>
    exact (Preserves.log _).bind fun _ => (s.preserves_drainUpTo hP _).bind fun _ => .log _

end Lasting

section Enduring

variable (hP : Device.Enduring P)

include hP

theorem preserves_giveBack : Preserves P s.giveBack := by
  intro p h
  rw [(s.does_giveBack p).state]
  exact hP.handles p.device _ h

theorem preserves_close (disconnected : Bool) : Preserves P (s.close disconnected) := by
  rw [close]
  split
  · refine (Preserves.log _).bind fun _ => ?_
    cases disconnected with
    | true => exact (s.preserves_giveBack hP).bind fun _ => .pure _
    | false =>
      exact (s.preserves_quiesce hP.toLasting).bind fun _ =>
        (s.preserves_giveBack hP).bind fun _ => .pure _
  · exact (Preserves.log _).bind fun _ => .pure _

theorem preserves_drop : Preserves P s.drop := by
  rw [drop]
  split
  · exact (Preserves.log _).bind fun _ => (s.preserves_close hP true).bind fun _ => .pure _
  · exact .pure _

theorem preserves_perform (r : Request) : Preserves P (s.perform r) := by
  cases r with
  | read size timeout => exact (s.preserves_read hP.toLasting size timeout).bind fun _ => .pure _
  | write bytes => exact (s.preserves_write hP.toLasting bytes).bind fun _ => .pure _
  | close disconnected => exact (s.preserves_close hP disconnected).bind fun _ => .pure _
  | state | details | debug => exact .pure _

end Enduring

theorem calm_drop : Calm s.drop := s.preserves_drop Device.byQueues_hasInterludes.enduring

theorem calm_perform (r : Request) : Calm (s.perform r) :=
  s.preserves_perform Device.byQueues_hasInterludes.enduring r

/-! ### Open handles -/

/-- How many handles a session in the state answers for. -/
def State.handles : State → Nat
  | .open | .closing => 1
  | .closed => 0

variable {s}

theorem openHandles_close (h : s.state = .open) (disconnected : Bool) (p : Clocked) :
    ((s.close disconnected).run p).state.device.openHandles = p.device.openHandles - 1 := by
  have hgive (p : Clocked) :
      (s.giveBack.run p).state.device.openHandles = p.device.openHandles - 1 :=
    congrArg (·.device.openHandles) (s.does_giveBack p).state
  rw [close, if_pos h]
  cases disconnected with
  | true => exact hgive p
  | false =>
    have hquiesce := s.preserves_quiesce (Device.lasting_openHandles p.device.openHandles) p rfl
    exact (hgive _).trans (congrArg (· - 1) hquiesce)

/-- Letting go of a session closes its handle, unless it is closed already or never will be. -/
theorem openHandles_drop (hclosing : s.state ≠ .closing) (p : Clocked) :
    (s.drop.run p).state.device.openHandles = p.device.openHandles - s.state.handles := by
  rw [drop]
  cases hstate : s.state with
  | «open» => exact openHandles_close hstate true p
  | closing => exact absurd hstate hclosing
  | closed => rfl

/-- The device has afterwards one open handle less if the session is closed then and was not before,
    and as many as before otherwise. -/
theorem openHandles_perform (r : Request) {p : Clocked}
    (h : s.state.handles ≤ p.device.openHandles) :
    let o := (s.perform r).run p
    o.state.device.openHandles + s.state.handles =
      p.device.openHandles + o.value.2.state.handles := by
  intro o
  have hlasting := Device.lasting_openHandles p.device.openHandles
  cases r with
  | read size timeout =>
    exact congrArg (· + s.state.handles) (s.preserves_read hlasting size timeout p rfl)
  | write bytes =>
    exact congrArg (· + s.state.handles) (s.preserves_write hlasting bytes p rfl)
  | close disconnected =>
    change ((s.close disconnected).run p).state.device.openHandles + _ =
      _ + ((s.close disconnected).run p).value.state.handles
    by_cases hopen : s.state = .open
    · obtain ⟨reads, p', hdoes⟩ := s.does_close_of_open hopen disconnected p
      rw [openHandles_close hopen, hdoes.value, hopen]
      rw [hopen] at h
      exact Nat.sub_add_cancel h
    · have hdoes := s.does_close_of_not_open hopen disconnected p
      rw [hdoes.state, hdoes.value]
  | state | details | debug => rfl

end Session

end UsbSession
