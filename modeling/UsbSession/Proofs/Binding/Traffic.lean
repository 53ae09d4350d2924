import UsbSession.Proofs.Binding.Kinds
import UsbSession.Proofs.Life.World
import UsbSession.Proofs.Overlap.Progress

/-!
# Traffic and bindings

The host calls of a session follow its binding (`Call.Follows`): transfers go to the two endpoints
with the primitives of their kinds, and what is done to an interface is done to the one that is
bound. This holds of a request that is performed alone (`Session.follows_perform`) and of one that
others overlap (`Session.follows_overlapping`), and of the attempts to connect
(`Manager.directed_connect`).

None of them changes the layout of a device. That they do not, and that their calls follow what the
layouts resolve to, is put together along the computations (`Traced.Upholds`, `Bus.Directed`).

* `Layout.testBit_of_resolve`: the endpoints of a binding lie in their directions.
-/

namespace UsbSession

open Traced (Does)

/-! ## What a computation upholds -/

namespace Traced

variable {σ ε κ α β : Type} {call? : ε → Option κ} {I : σ → Prop} {Q Q' : κ → Prop}
  {R : α → Prop} {R' : β → Prop}

/-- Where `I` holds before, it holds afterwards, the result is as `R` says, and the calls are as `Q`
    says. -/
def Upholds (call? : ε → Option κ) (I : σ → Prop) (Q : κ → Prop) (x : Traced σ ε α)
    (R : α → Prop) : Prop :=
  ∀ s, I s → R (x.run s).value ∧ I (x.run s).state ∧ ∀ c ∈ (x.run s).trace.filterMap call?, Q c

namespace Upholds

theorem pure {a : α} (h : R a) : Upholds call? I Q (pure a : Traced σ ε α) R :=
  fun _ hs => ⟨h, hs, List.forall_mem_nil _⟩

theorem bind {x : Traced σ ε α} {f : α → Traced σ ε β} (hx : Upholds call? I Q x R)
    (hf : ∀ a, R a → Upholds call? I Q (f a) R') : Upholds call? I Q (x >>= f) R' := by
  intro s hs
  obtain ⟨hvalue, hstate, hcalls⟩ := hx s hs
  obtain ⟨hvalue', hstate', hcalls'⟩ := hf _ hvalue _ hstate
  refine ⟨hvalue', hstate', ?_⟩
  rw [run_bind, List.filterMap_append]
  exact List.forall_mem_append.2 ⟨hcalls, hcalls'⟩

theorem look {f : σ → α} (h : ∀ s, I s → R (f s)) :
    Upholds call? I Q (look f : Traced σ ε α) R :=
  fun s hs => ⟨h s hs, hs, List.forall_mem_nil _⟩

theorem change {f : σ → σ} (h : ∀ s, I s → I (f s)) :
    Upholds call? I Q (change f : Traced σ ε Unit) fun _ => True :=
  fun s hs => ⟨trivial, h s hs, List.forall_mem_nil _⟩

/-- What is done from every state where `I` holds is upheld. -/
theorem of_does {x : Traced σ ε α}
    (h : ∀ s, I s → ∃ a cs s', Does call? x s a cs s' ∧ R a ∧ I s' ∧ ∀ c ∈ cs, Q c) :
    Upholds call? I Q x R := by
  intro s hs
  obtain ⟨a, cs, s', hdoes, hvalue, hstate, hcalls⟩ := h s hs
  rw [hdoes.value, hdoes.state, hdoes.calls]
  exact ⟨hvalue, hstate, hcalls⟩

theorem weaken {x : Traced σ ε α} (h : Upholds call? I Q x R) (hQ : ∀ c, Q c → Q' c) :
    Upholds call? I Q' x R :=
  fun s hs => ⟨(h s hs).1, (h s hs).2.1, fun c hc => hQ c ((h s hs).2.2 c hc)⟩

end Upholds

end Traced

open Traced (Upholds)

/-! ## Endpoints of a binding -/

/-- The endpoints are of the directions that their addresses tell. -/
def Layout.ByAddress (layout : Layout) : Prop :=
  ∀ alt ∈ layout.alts, ∀ e ∈ alt.endpoints, e.direction = .ofAddress e.address

theorem Direction.testBit_ofAddress (address : UInt8) :
    address.toNat.testBit 7 = (Direction.ofAddress address == .incoming) := by
  have hlt := address.toNat_lt
  rw [Nat.testBit_eq_decide_div_mod_eq, Direction.ofAddress]
  split
  · exact decide_eq_false (by omega)
  · exact decide_eq_true (by omega)

namespace AltSetting

variable {alt : AltSetting} {o : Options} {b : Binding} {pipe : Pipe}

theorem mem_of_declared? {address : UInt8} {d : Direction} {expected : Option TransferKind}
    (h : alt.declared? address d expected = some pipe) :
    ∃ e ∈ alt.endpoints, e.direction = d ∧ e.address = pipe.address := by
  obtain ⟨e, he, h⟩ := Option.bind_eq_some_iff.1 h
  obtain ⟨found, hfound, h⟩ := Option.bind_eq_some_iff.1 h
  obtain ⟨kind, -, rfl⟩ := Option.map_eq_some_iff.1 hfound
  have hmatch := List.find?_some he
  rw [Bool.and_eq_true, beq_iff_eq, beq_iff_eq] at hmatch
  split at h
  · cases h
    exact ⟨e, List.mem_of_find?_eq_some he, hmatch.2, rfl⟩
  · cases h

theorem mem_of_usable? {d : Direction} (h : alt.usable? d = some pipe) :
    ∃ e ∈ alt.endpoints, e.direction = d ∧ e.address = pipe.address := by
  obtain ⟨e, he, h⟩ := List.exists_of_findSome?_eq_some h
  split at h
  · rename_i hdirection
    obtain ⟨kind, -, rfl⟩ := Option.map_eq_some_iff.1 h
    exact ⟨e, he, hdirection, rfl⟩
  · cases h

/-- The pipe of a direction is an endpoint of that direction. -/
theorem mem_of_bind? (h : alt.bind? o = some b) (d : Direction) :
    ∃ e ∈ alt.endpoints, e.direction = d ∧ e.address = (b.pipe d).address := by
  unfold bind? at h
  split at h
  · unfold bindDeclared? at h
    split at h
    · obtain ⟨i, hi, h⟩ := Option.bind_eq_some_iff.1 h
      obtain ⟨u, hu, h⟩ := Option.bind_eq_some_iff.1 h
      cases h
      cases d with
      | incoming => exact mem_of_declared? hi
      | outgoing => exact mem_of_declared? hu
    · cases h
  · obtain ⟨i, hi, h⟩ := Option.bind_eq_some_iff.1 h
    obtain ⟨u, hu, h⟩ := Option.bind_eq_some_iff.1 h
    cases h
    cases d with
    | incoming => exact mem_of_usable? hi
    | outgoing => exact mem_of_usable? hu

end AltSetting

/-- Where addresses tell directions, bit 7 is set in the address that is read from, and clear in the
    one that is written to. -/
theorem Layout.testBit_of_resolve {layout : Layout} {o : Options} {b : Binding}
    (haddress : layout.ByAddress) (h : layout.resolve o = some b) (d : Direction) :
    (b.pipe d).address.toNat.testBit 7 = (d == .incoming) := by
  obtain ⟨alt, halt, -, hbind⟩ := exists_of_resolve h
  obtain ⟨e, he, hdirection, hsame⟩ := AltSetting.mem_of_bind? hbind d
  rw [← hsame, Direction.testBit_ofAddress, ← haddress alt halt e he, hdirection]

/-! ## Calls that follow a binding -/

/-- A read goes to the incoming endpoint and a write to the outgoing one, with the primitive of its
    kind, and what is done to an interface is done to the one that is bound. -/
def Call.Follows (b : Binding) : Call → Prop
  | transfer kind endpoint (.read _) _ _ => kind = b.incoming.kind ∧ endpoint = b.incoming.address
  | transfer kind endpoint (.write _) _ _ => kind = b.outgoing.kind ∧ endpoint = b.outgoing.address
  | kernelDriverActive interface | detach interface | attach interface | claim interface
  | release interface => interface = b.interface
  | «open» | close | reset | getConfiguration | setConfiguration _ | cancel => True

namespace Session

variable (s : Session)

theorem follows_callOf (t : Transfer) (timeout : Nat) (again : Bool) :
    (s.callOf t timeout again).Follows s.binding := by
  cases t <;> exact ⟨rfl, rfl⟩

theorem follows_of_isTransfer {d : Direction} {c : Call} (h : s.IsTransfer d c) :
    c.Follows s.binding := by
  obtain ⟨t, timeout, again, -, rfl⟩ := h
  exact s.follows_callOf t timeout again

theorem follows_giveBackCalls : ∀ c ∈ s.giveBackCalls, c.Follows s.binding := by
  rw [giveBackCalls]
  cases s.reattach <;> simp [Call.Follows]

theorem follows_close (disconnected : Bool) (p : Clocked) :
    ∀ c ∈ Entry.calls ((s.close disconnected).run p).trace, c.Follows s.binding := by
  by_cases hopen : s.state = .open
  · obtain ⟨reads, p', hdoes⟩ := s.does_close_of_open hopen disconnected p
    rw [Entry.calls, hdoes.calls]
    refine List.forall_mem_append.2 ⟨fun c hc => ?_, s.follows_giveBackCalls⟩
    split at hc
    · cases hc
    · -- The reads that drain go where all reads go.
      rcases List.mem_cons.1 hc with rfl | hc
      · trivial
      · rw [List.eq_of_mem_replicate hc]
        exact s.follows_callOf _ _ _
  · rw [Entry.calls, (s.does_close_of_not_open hopen disconnected p).calls]
    exact List.forall_mem_nil _

theorem follows_drop (p : Clocked) :
    ∀ c ∈ Entry.calls (s.drop.run p).trace, c.Follows s.binding := by
  by_cases hopen : s.state = .open
  · rw [Entry.calls, (s.does_drop_of_open hopen p).calls]
    exact s.follows_giveBackCalls
  · rw [Entry.calls, (s.does_drop_of_not_open hopen p).calls]
    exact List.forall_mem_nil _

/-- What a request does follows the binding of the session. -/
theorem follows_perform (r : Request) (p : Clocked) :
    ∀ c ∈ Entry.calls ((s.perform r).run p).trace, c.Follows s.binding := by
  cases r with
  | read size timeout =>
    have hdoes : Does Entry.call? (s.perform (.read size timeout)) p _ _ _ :=
      (s.does_read size timeout p).bind_pure (.pure _ _)
    rw [Entry.calls, hdoes.calls]
    exact fun c hc => s.follows_of_isTransfer (s.dispatch_calls _ _ p c hc)
  | write bytes =>
    have hdoes : Does Entry.call? (s.perform (.write bytes)) p _ _ _ :=
      (s.does_write bytes p).bind_pure (.pure _ _)
    rw [Entry.calls, hdoes.calls]
    exact fun c hc => s.follows_of_isTransfer (s.dispatch_calls _ _ p c hc)
  | close disconnected =>
    have hdoes : Does Entry.call? (s.perform (.close disconnected)) p _ _ _ :=
      (Act.does_run p (s.close disconnected)).bind_pure (.pure _ _)
    rw [Entry.calls, hdoes.calls]
    exact s.follows_close disconnected p
  | state | details | debug => exact List.forall_mem_nil _

/-- It leaves the session as it was, but for its state. -/
theorem perform_value (r : Request) (p : Clocked) :
    let after := ((s.perform r).run p).value.2
    after = { s with state := after.state } := by
  cases r with
  | close disconnected =>
    change ((s.close disconnected).run p).value =
      { s with state := ((s.close disconnected).run p).value.state }
    by_cases hopen : s.state = .open
    · obtain ⟨reads, p', hdoes⟩ := s.does_close_of_open hopen disconnected p
      rw [hdoes.value]
    · rw [(s.does_close_of_not_open hopen disconnected p).value]
  | read | write | state | details | debug => rfl

end Session

/-! ### Threads -/

theorem Point.follows_calls (s : Session) (p : Point) : ∀ c ∈ p.calls s, c.Follows s.binding := by
  intro c hc
  cases p with
  | starting | drainStarting => rw [List.mem_singleton.1 hc]; exact s.follows_callOf _ _ _
  | releaseStarting | attachStarting => rw [List.mem_singleton.1 hc]; rfl
  | cancelStarting | handleClosing => rw [List.mem_singleton.1 hc]; trivial
  | _ => cases hc

namespace Schedule

variable {sch next : Schedule} {i : Nat} {entries : List Entry}

/-- The calls of a move start where its thread stands. -/
theorem calls_of_move? (h : sch.move? i = some (next, entries)) :
    ∀ c ∈ Entry.calls entries, ∃ p : Point, c ∈ p.calls sch.session := by
  intro c hc
  simp only [move?, Option.bind_eq_bind, Option.bind_eq_some_iff] at h
  obtain ⟨t, ht, h⟩ := h
  cases hhold : t.hold with
  | some hold =>
    simp only [hhold, Option.bind_eq_some_iff] at h
    obtain ⟨freed, -, h⟩ := h
    cases h
    cases hc
  | none =>
    simp only [hhold, Option.bind_eq_some_iff] at h
    obtain ⟨mv, hstep, h⟩ := h
    have hcalls := Point.calls_of_step hstep
    split at h <;> cases h <;> exact ⟨t.point, hcalls ▸ hc⟩

theorem Shift.session (h : sch.Shift i next) : next.session = sch.session := by
  cases h with
  | freed _ _ session | stepped _ _ _ session | interrupted _ _ _ _ session => exact session

/-- All that threads do follows the binding of their session. -/
theorem follows_run (fuel : Nat) (sch : Schedule) :
    ∀ c ∈ Entry.calls (sch.run fuel).2, c.Follows sch.session.binding := by
  induction fuel generalizing sch with
  | zero => exact List.forall_mem_nil _
  | succ fuel ih =>
    rw [run]
    cases hfirst : sch.order.findSome? sch.move? with
    | none => exact List.forall_mem_nil _
    | some moved =>
      obtain ⟨next, entries⟩ := moved
      obtain ⟨j, -, hmove⟩ := List.exists_of_findSome?_eq_some hfirst
      dsimp only
      rw [Entry.calls_append]
      refine List.forall_mem_append.2 ⟨fun c hc => ?_, ?_⟩
      · obtain ⟨p, hp⟩ := calls_of_move? hmove c hc
        exact p.follows_calls _ c hp
      · rw [← (shift_of_move? hmove).session]
        exact ih next

end Schedule

theorem Session.follows_overlapping (s : Session) (r : Request) (p : Clocked) :
    ∀ c ∈ Entry.calls ((s.overlapping r).run p).trace, c.Follows s.binding :=
  Schedule.follows_run (Schedule.enough p.device) (s.begun r p)

/-! ### Attempts -/

namespace Manager

variable (m : Manager) {place : Nat} {c : Candidate} {s : Session}

theorem follows_driverCalls (sc : Script) (b : Binding) :
    ∀ c ∈ m.driverCalls sc b.interface, c.Follows b := by
  unfold driverCalls
  split
  · split <;> simp [Call.Follows]
  · exact List.forall_mem_nil _

theorem follows_claimCalls (sc : Script) (b : Binding) :
    ∀ c ∈ m.claimCalls sc b.interface, c.Follows b := by
  unfold claimCalls restoreCalls
  cases sc.claimError.isSome <;> cases m.owesDriver sc <;> simp [Call.Follows]

/-- What an attempt does follows the binding of the candidate. -/
theorem follows_attemptCalls (sc : Script) (c : Candidate) (reset : Bool) :
    ∀ call ∈ m.attemptCalls sc c reset, call.Follows c.binding := by
  refine List.forall_mem_cons.2 ⟨trivial, ?_⟩
  split
  · exact List.forall_mem_nil _
  · refine List.forall_mem_append.2 ⟨?_, List.forall_mem_append.2 ⟨?_, ?_⟩⟩
    · cases reset <;> simp [Call.Follows]
    · unfold configurationCalls
      split <;> simp [Call.Follows]
    · split
      · simp [Call.Follows]
      · exact List.forall_mem_append.2
          ⟨m.follows_driverCalls sc c.binding, m.follows_claimCalls sc c.binding⟩

theorem layout_attempted (d : Device) (c : Candidate) : (m.attempted d c).layout = d.layout := by
  unfold attempted
  split <;> rfl

end Manager

/-! ## Layouts -/

theorem Device.enduring_layout (layout : Except Failure Layout) :
    Device.Enduring (·.layout = layout) where
  enter d t h := by
    cases t with
    | read size => simp only [enter, beginRead]; split <;> exact h
    | write bytes => simp only [enter, beginWrite]; split <;> exact h
  leave d t answer h := by
    unfold leave
    split
    · split <;> exact h
    · exact h
  handles _ _ h := h

/-- The devices of the buses have the same layouts. -/
def Bus.SameLayouts (bus bus' : Bus) : Prop :=
  ∀ place, (bus'.device place).layout = (bus.device place).layout

/-- What a device resolves to under the options. -/
def Bus.resolve? (bus : Bus) (o : Options) (place : Nat) : Option Binding :=
  (bus.device place).layout.toOption.bind (·.resolve o)

/-- The session is bound to what its device resolves to under the options, which are its own. -/
structure Bus.Binds (bus : Bus) (o : Options) (s : Session) : Prop where
  binding : bus.resolve? o s.device = some s.binding
  options : s.options = o

/-- The call is one to a device, and follows what it resolves to. -/
def Bus.Directs (bus : Bus) (o : Options) (c : Nat × Call) : Prop :=
  ∃ b, bus.resolve? o c.1 = some b ∧ c.2.Follows b

/-- The computation leaves the layouts alone, and all its calls follow what their devices resolve
    to. -/
abbrev Bus.Directed {α : Type} (bus : Bus) (o : Options) (x : Traced Bus Mark α) (R : α → Prop) :
    Prop :=
  Upholds Mark.call? bus.SameLayouts (bus.Directs o) x R

namespace Bus

variable {bus : Bus} {o : Options} {place : Nat} {s : Session} {α : Type}

theorem directed_log (e : Log.Event) : bus.Directed o (log e) fun _ => True :=
  .of_does fun _ hs => ⟨_, _, _, does_log e, trivial, hs, List.forall_mem_nil _⟩

/-- A change that is none of the devices. -/
theorem directed_change {f : Bus → Bus} (hf : ∀ bus, (f bus).devices = bus.devices) :
    bus.Directed o (Traced.change f) fun _ => True :=
  .change fun bus' hbus' i => by rw [Bus.device, hf]; exact hbus' i

theorem resolve?_eq_some_iff {b : Binding} : bus.resolve? o place = some b ↔
    ∃ layout, (bus.device place).layout = .ok layout ∧ layout.resolve o = some b := by
  rw [resolve?, Option.bind_eq_some_iff]
  cases (bus.device place).layout <;> simp [Except.toOption]

theorem Binds.directs (h : bus.Binds o s) {c : Nat × Call}
    (hc : c.1 = s.device ∧ c.2.Follows s.binding) : bus.Directs o c :=
  ⟨s.binding, hc.1 ▸ h.binding, hc.2⟩

/-- A device is the one that was worked on, or is left as it was. -/
theorem device_after_or (bus : Bus) (place : Nat) (p : Clocked) (i : Nat) :
    (bus.after place p).device i = bus.device i ∨
      i = place ∧ (bus.after place p).device i = p.device := by
  by_cases hi : i = place
  · by_cases hplace : place < bus.devices.length
    · exact .inr ⟨hi, by rw [device_after p i hplace, if_pos hi]⟩
    · refine .inl ?_
      rw [device, after, List.set_eq_of_length_le (Nat.le_of_not_lt hplace), device]
  · exact .inl (device_after_of_ne p hi)

theorem upholds_act {x : Act α} {Q : Call → Prop} {R : α → Prop}
    (h : Upholds Entry.call? (fun p => p.device.layout = (bus.device place).layout) Q x R) :
    Upholds Mark.call? bus.SameLayouts (fun c => c.1 = place ∧ Q c.2) (act place x) R := by
  refine .of_does fun bus' hbus => ?_
  obtain ⟨hvalue, hlayout, hcalls⟩ := h ⟨bus'.device place, bus'.now⟩ (hbus place)
  refine ⟨_, _, _, does_act (Act.does_run _ x), hvalue, fun i => ?_, fun c hc => ?_⟩
  · rcases bus'.device_after_or place (x.run ⟨bus'.device place, bus'.now⟩).state i with
      hsame | ⟨rfl, hdevice⟩
    · rw [hsame, hbus i]
    · rw [hdevice, hlayout]
  · obtain ⟨call, hcall, rfl⟩ := List.mem_map.1 hc
    exact ⟨rfl, hcalls call hcall⟩

/-- Letting go of a session follows its binding. -/
theorem upholds_drop (bus : Bus) (s : Session) :
    Upholds Mark.call? bus.SameLayouts (fun c => c.1 = s.device ∧ c.2.Follows s.binding)
      (act s.device s.drop) fun _ => True :=
  upholds_act fun p hp =>
    ⟨trivial, s.preserves_drop (Device.enduring_layout _) p hp, s.follows_drop p⟩

end Bus

/-! ## Connecting -/

namespace Manager

variable {m : Manager} {bus : Bus}

theorem directed_openSession {place : Nat} {c : Candidate} (reset : Bool)
    (hc : bus.resolve? m.options place = some c.binding) :
    bus.Directed m.options (Bus.act place (m.openSession place c reset)) fun r =>
      ∀ s, r = .ok s → bus.Binds m.options s := by
  have hact : Upholds Entry.call? (fun p => p.device.layout = (bus.device place).layout)
      (Call.Follows c.binding) (m.openSession place c reset) fun r => ∀ s, r = .ok s →
        bus.Binds m.options s := by
    refine .of_does fun p hp => ⟨_, _, _, m.does_openSession place c reset p, fun s hs => ?_,
      (m.layout_attempted p.device c).trans hp, m.follows_attemptCalls _ c reset⟩
    unfold attempt at hs
    split at hs
    · cases hs
    · cases hs
      exact ⟨hc, rfl⟩
  exact (Bus.upholds_act hact).weaken fun call hcall =>
    ⟨c.binding, hcall.1 ▸ hc, hcall.2⟩

theorem directed_tryEach (vendor product : Id) (reset : Bool) (places : List Nat)
    (last : Option Error) :
    bus.Directed m.options (m.tryEach vendor product reset last places) fun r =>
      ∀ s, r = .ok s → bus.Binds m.options s := by
  induction places generalizing last with
  | nil =>
    refine (Bus.directed_log _).bind fun _ _ => ?_
    refine .pure fun s hs => ?_
    cases hs
  | cons place places ih =>
    have hlook : bus.Directed m.options (Traced.look (Bus.device · place)) fun d =>
        d.layout = (bus.device place).layout :=
      .look fun _ hs => hs place
    refine hlook.bind fun d hd => ?_
    have hcandidate : bus.Directed m.options
        (Bus.logged (d.candidate? vendor product m.options)) fun c? =>
          ∀ c, c? = some c → bus.resolve? m.options place = some c.binding := by
      refine .of_does fun _ hs => ⟨_, _, _, Bus.does_logged _, fun c hc => ?_, hs,
        List.forall_mem_nil _⟩
      rw [Bus.resolve?_eq_some_iff, ← hd]
      exact (Device.candidate?_eq_some_iff.1 hc).binding
    refine hcandidate.bind fun c? hc => ?_
    cases c? with
    | none => exact ih last
    | some c =>
      refine (directed_openSession reset (hc c rfl)).bind fun r hr => ?_
      cases r with
      | ok s =>
        refine (Bus.directed_log _).bind fun _ _ => ?_
        exact .pure hr
      | error e => exact (Bus.directed_log _).bind fun _ _ => ih (some e)

/-- Connecting binds its session to what the device resolves to, and does nothing to any device that
    does not follow what it resolves to. -/
theorem directed_connect (vendor product : Id) (reset : Bool) :
    bus.Directed m.options (m.connect vendor product reset) fun r =>
      ∀ s, r = .ok s → bus.Binds m.options s := by
  have henumerate : bus.Directed m.options Bus.enumerate fun _ => True := by
    refine (Upholds.look (R := fun _ => True) fun _ _ => trivial).bind fun code _ => ?_
    cases code with
    | some code => exact .pure trivial
    | none =>
      refine (Bus.directed_change ?_).bind fun _ _ => ?_
      · exact fun _ => rfl
      · exact .pure trivial
  refine henumerate.bind fun r _ => ?_
  cases r with
  | error code =>
    refine .pure fun s hs => ?_
    cases hs
  | ok _ =>
    refine (Upholds.look (R := fun _ => True) fun _ _ => trivial).bind fun total _ => ?_
    refine (Bus.directed_log _).bind fun _ _ => ?_
    refine (directed_tryEach vendor product reset _ none).bind fun r hr => ?_
    refine (Bus.directed_change ?_).bind fun _ _ => ?_
    · exact fun _ => rfl
    · exact .pure hr

end Manager

end UsbSession
