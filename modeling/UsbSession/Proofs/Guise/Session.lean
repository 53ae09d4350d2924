import Mathlib.Tactic.Common
import UsbSession.Proofs.Mirror
import UsbSession.Session.Reply

/-!
# Sessions in other guises

Some things decide nothing in a session: the bytes that are transferred, whether they are logged,
and what time it is. A *guise* (`Guise`) shows them changed, and leaves the rest as it is: each byte
as another one, the debug option as some other, the time as a later one, and the log without the
bytes of transfers, if it shall. What a session does is the same in every guise, seen in that guise:
from the device as it is seen, the session as it is seen does what the session does
(`Guise.perform`).

Only the log events of transfers have to be looked at, since the debug option and the bytes meet in
them: they have to be seen the way that the session as it is seen logs them (`Guise.Suits`).

* `Guise.transferUntil`: a read that is tried again has the same time left, whenever it starts;
* `Guise.drop`, `Guise.close`: teardown has to do with no bytes but with how many there are.
-/

namespace UsbSession

/-! ## What sessions log -/

/-- Whether the event tells the bytes of a transfer. -/
def Log.Event.isPayload : Log.Event → Bool
  | writing .. | received .. => true
  | _ => false

namespace Session

variable (s : Session)

theorem transferUntil_eq (t : Transfer) (deadline : Option Nat) (remaining : Nat) (again : Bool)
    (p : Clocked) :
    s.transferUntil t deadline remaining again p =
      let moved := (s.move t remaining again).run p
      let judged := s.judge t deadline moved.state.now moved.value
      match judged.value with
      | .done result => ⟨result, moved.state, moved.trace ++ judged.events.map .log⟩
      | .again rest =>
        let next := s.transferUntil t deadline rest true moved.state
        ⟨next.value, next.state, moved.trace ++ judged.events.map .log ++ next.trace⟩ := by
  rw [transferUntil]
  dsimp only
  split <;> rename_i h <;> rw [h]

/-- What is logged of an answer has no bytes. -/
theorem isPayload_judge (t : Transfer) (deadline : Option Nat) (now : Nat)
    (answer : Except Failure (List UInt8)) :
    ∀ e ∈ (s.judge t deadline now answer).events, e.isPayload = false := by
  cases answer with
  | error code =>
    refine List.forall_mem_cons.2 ⟨by cases code <;> rfl, fun e he => ?_⟩
    split at he
    · rw [List.mem_singleton.1 he]
      rfl
    · cases he
  | ok bs =>
    have hone : ∀ e ∈ [Log.Event.zeroLength], e.isPayload = false := by decide
    cases bs with
    | cons b bs => exact List.forall_mem_nil _
    | nil =>
      unfold judge
      dsimp only
      split
      · cases deadline with
        | none => exact hone
        | some due =>
          dsimp only
          split
          · exact List.forall_mem_nil _
          · exact hone
      · exact List.forall_mem_nil _

/-- What a session logs of the bytes of a transfer. -/
def announce (debug : Bool) (e : Log.Event) : List Entry := if debug then [.log e] else []

theorem write_eq (bs : List UInt8) : s.write bs = (do
    Traced.tell (announce s.options.debug (.writing s.binding.outgoing.address bs))
    return (← s.dispatch (.write bs) 0).map List.length) := by
  unfold write announce
  cases s.options.debug <;> rfl

theorem read_eq (size timeout : Nat) : s.read size timeout = (do
    match ← s.dispatch (.read size) (s.readTimeout timeout) with
    | .ok bs =>
      Traced.tell (announce s.options.debug (.received s.binding.incoming.address bs))
      return .ok bs
    | .error e => return .error e) := by
  unfold read announce
  cases s.options.debug <;> rfl

end Session

/-! ## Guises -/

/-- A way to see what happens on devices. -/
structure Guise where
  /-- What a byte of a transfer is seen as. -/
  byte : UInt8 → UInt8 := id
  /-- What the debug option is seen as. -/
  debug : Bool → Bool := id
  /-- How much later it is seen to be. -/
  later : Nat := 0
  /-- Whether the log events of transfers are seen. -/
  payloads : Bool := true

namespace Guise

variable (g : Guise) {α β : Type}

/-! ## What is seen -/

def bytes (bs : List UInt8) : List UInt8 := bs.map g.byte

/-- The answer of a transfer, or its result. -/
def answer {ε : Type} : Except ε (List UInt8) → Except ε (List UInt8) := Except.map g.bytes

def inbound : Inbound → Inbound
  | .data bs => .data (g.bytes bs)
  | .failure code => .failure code

def item (i : Item Inbound) : Item Inbound := { i with answer := g.inbound i.answer }

def device (d : Device) : Device := { d with inbound := d.inbound.map g.item }

def clocked (p : Clocked) : Clocked := ⟨g.device p.device, p.now + g.later⟩

def transfer : Transfer → Transfer
  | .read size => .read size
  | .write bs => .write (g.bytes bs)

def call : Call → Call
  | .transfer kind endpoint what timeout again =>
    .transfer kind endpoint (g.transfer what) timeout again
  | c => c

/-- Whether a log event is seen. -/
def shows (e : Log.Event) : Bool := g.payloads || !e.isPayload

def entry : Entry → Option Entry
  | .call c => some (.call (g.call c))
  | .log e => if g.shows e then some (.log e) else none

def options (o : Options) : Options := { o with debug := g.debug o.debug }

def session (s : Session) : Session := { s with options := g.options s.options }

def request : Request → Request
  | .write bs => .write (g.bytes bs)
  | r => r

def reply : Reply → Reply
  | .read result => .read (g.answer result)
  | r => r

def verdict : Session.Verdict → Session.Verdict
  | .done result => .done (g.answer result)
  | .again remaining => .again remaining

/-- From what is seen of a device, `y` does what is seen of what `x` does. -/
abbrev Mirrors (A : α → β) (x : Act α) (y : Act β) : Prop :=
  ∀ p, Traced.Mirrors g.clocked g.entry A x y p

/-- Where a session with the debug option logs the bytes of a transfer, or does not, the session as
    it is seen logs them as they are seen. -/
structure Suits (debug : Bool) : Prop where
  writing : ∀ address bs, Session.announce (g.debug debug) (.writing address (g.bytes bs)) =
    (Session.announce debug (.writing address bs)).filterMap g.entry
  received : ∀ address bs, Session.announce (g.debug debug) (.received address (g.bytes bs)) =
    (Session.announce debug (.received address bs)).filterMap g.entry

@[simp] theorem length_bytes (bs : List UInt8) : (g.bytes bs).length = bs.length :=
  List.length_map _

theorem bytes_take (n : Nat) (bs : List UInt8) : (g.bytes bs).take n = g.bytes (bs.take n) :=
  List.map_take.symm

@[simp] theorem direction_transfer (t : Transfer) : (g.transfer t).direction = t.direction := by
  cases t <;> rfl

@[simp] theorem size_transfer (t : Transfer) : (g.transfer t).size = t.size := by
  cases t with
  | read => rfl
  | write bs => exact g.length_bytes bs

theorem shows_of_not_isPayload {e : Log.Event} (h : e.isPayload = false) : g.shows e = true := by
  rw [shows, h, Bool.not_false, Bool.or_true]

/-- Log events without bytes are seen as they are. -/
theorem filterMap_entry_log {es : List Log.Event} (h : ∀ e ∈ es, e.isPayload = false) :
    (es.map Entry.log).filterMap g.entry = es.map .log := by
  induction es with
  | nil => rfl
  | cons e es ih =>
    obtain ⟨he, hes⟩ := List.forall_mem_cons.1 h
    have hentry : g.entry (.log e) = some (.log e) := if_pos (g.shows_of_not_isPayload he)
    rw [List.map_cons, List.filterMap_cons_some hentry, ih hes]

/-! ### Bytes that are seen as they are -/

section Plain

variable {g} (h : g.byte = id)

include h

theorem bytes_eq : g.bytes = id := by
  funext bs
  rw [bytes, h, List.map_id]
  rfl

theorem answer_eq {ε : Type} : g.answer (ε := ε) = id := by
  funext result
  rw [answer, bytes_eq h]
  cases result <;> rfl

theorem item_eq : g.item = id := by
  funext i
  obtain ⟨answer, again, delay, during⟩ := i
  cases answer with
  | data bs =>
    rw [item, inbound, bytes_eq h]
    rfl
  | failure code => rfl

theorem device_eq : g.device = id := by
  funext d
  rw [device, item_eq h, List.map_id]
  rfl

theorem transfer_eq : g.transfer = id := by
  funext t
  cases t with
  | read size => rfl
  | write bs => rw [transfer, bytes_eq h]; rfl

theorem call_eq : g.call = id := by
  funext c
  cases c with
  | transfer kind endpoint what timeout again => rw [call, transfer_eq h]; rfl
  | _ => rfl

theorem request_eq : g.request = id := by
  funext r
  cases r with
  | write bs => rw [request, bytes_eq h]; rfl
  | _ => rfl

theorem reply_eq : g.reply = id := by
  funext r
  cases r with
  | read result => rw [reply, answer_eq h]; rfl
  | _ => rfl

end Plain

/-! ## Devices -/

theorem pop?_map (q : Queue Inbound) :
    Queue.pop? (q.map g.item) = q.pop?.map fun p => (g.item p.1, p.2.map g.item) := by
  cases q with
  | nil => rfl
  | cons i q =>
    change Queue.pop? (g.item i :: q.map g.item) = _
    simp only [Queue.pop?]
    rw [show (g.item i).again = i.again from rfl]
    cases i.again <;> rfl

section Device

variable (d : Device) (t : Transfer)

/-- A transfer enters the host with as many bytes. -/
theorem enter : (g.device d).enter (g.transfer t) =
    ({ (d.enter t).1 with answer := g.answer (d.enter t).1.answer }, g.device (d.enter t).2) := by
  cases t with
  | read size =>
    change (g.device d).beginRead size = _
    simp only [Device.enter, Device.beginRead, device, pop?_map]
    cases d.inbound.pop? with
    | none => rfl
    | some p =>
      obtain ⟨⟨answer, again, delay, during⟩, rest⟩ := p
      cases answer with
      | data bs => simp [item, inbound, answer, Except.map, bytes_take]
      | failure code => rfl
  | write bs =>
    -- Which answer it gets is not a matter of the bytes.
    have hrefused (answer : Except Failure (List UInt8)) (delay : Nat) (during : Option Interlude)
        (rest : Queue Outbound) :
        (Ticket.mk ((g.device d).unlessRefused (g.answer answer)) delay during,
            ({ g.device d with outbound := rest } : Device)) =
          (Ticket.mk (g.answer (d.unlessRefused answer)) delay during,
            g.device { d with outbound := rest }) := by
      unfold Device.unlessRefused
      rw [show (g.device d).script = d.script from rfl]
      cases d.script.writeError <;> rfl
    change (g.device d).beginWrite (g.bytes bs) = _
    simp only [Device.enter, Device.beginWrite, show (g.device d).outbound = d.outbound from rfl]
    cases d.outbound.pop? with
    | none => exact hrefused (.ok bs) 0 none d.outbound
    | some p =>
      obtain ⟨⟨answer, again, delay, during⟩, rest⟩ := p
      cases answer with
      | failure code => exact hrefused (.error code) delay during rest
      | accept limit =>
        cases limit with
        | none => exact hrefused (.ok bs) delay during rest
        | some limit =>
          dsimp only
          rw [bytes_take]
          exact hrefused (.ok (bs.take limit)) delay during rest

/-- A transfer leaves the host, and what is looped back has as many bytes. -/
theorem leave (answer : Except Failure (List UInt8)) :
    (g.device d).leave (g.transfer t) (g.answer answer) = g.device (d.leave t answer) := by
  cases t with
  | read size => rfl
  | write bs =>
    cases answer with
    | error code => rfl
    | ok moved =>
      cases moved with
      | nil => rfl
      | cons b moved =>
        change (if d.script.loopback then _ else _) =
          g.device (if d.script.loopback then _ else _)
        cases d.script.loopback with
        | false => rfl
        | true =>
          have happend : List.map g.item (d.inbound ++ [⟨.data (b :: moved), 0, 0, none⟩]) = _ :=
            List.map_append
          exact congrArg (fun q => ({ d with inbound := q } : Device)) happend.symm

end Device

/-! ## Actions -/

theorem log {e : Log.Event} (h : e.isPayload = false) : g.Mirrors id (Act.log e) (Act.log e) :=
  fun _ => .tell (g.filterMap_entry_log (List.forall_mem_singleton.2 h)).symm

/-- A call that has to do with no bytes. -/
theorem hostCall {c : Call} (hc : g.call c = c) {f : Device → α × Device}
    (hf : ∀ d, f (g.device d) = ((f d).1, g.device (f d).2)) :
    g.Mirrors id (Act.call c f) (Act.call c f) := by
  intro p
  rw [Traced.Mirrors, Act.run_call, Act.run_call]
  simp only [clocked, hf]
  exact congrArg (fun c => Outcome.mk _ _ [Entry.call c]) hc.symm

theorem ask {c : Call} (hc : g.call c = c) (f : Script → α) :
    g.Mirrors id (Act.ask c f) (Act.ask c f) :=
  g.hostCall hc fun _ => rfl

theorem closeHandle : g.Mirrors id Act.closeHandle Act.closeHandle := g.hostCall rfl fun _ => rfl

/-! ## Transfers -/

variable (s : Session)

theorem move (t : Transfer) (timeout : Nat) (again : Bool) :
    g.Mirrors g.answer (s.move t timeout again)
      ((g.session s).move (g.transfer t) timeout again) := by
  intro p
  have henter := g.enter p.device t
  rw [Traced.Mirrors, Session.move, Session.move, Act.run_transfer, Act.run_transfer,
    direction_transfer]
  simp only [clocked, henter, leave, Nat.add_right_comm _ g.later]
  rfl

/-- The time that is left until the deadline is the same later on. -/
theorem judge (t : Transfer) (deadline : Option Nat) (now : Nat)
    (answer : Except Failure (List UInt8)) :
    (g.session s).judge (g.transfer t) (deadline.map (· + g.later)) (now + g.later)
        (g.answer answer) =
      ⟨g.verdict (s.judge t deadline now answer).value,
        (s.judge t deadline now answer).events⟩ := by
  cases answer with
  | error code => rfl
  | ok bs =>
    cases bs with
    | cons b bs => rfl
    | nil =>
      change (if s.options.retryZeroLength && 0 < (g.transfer t).size then _ else _) = _
      rw [size_transfer]
      simp only [Session.judge]
      split
      · cases deadline with
        | none => rfl
        | some due =>
          simp only [Option.map_some, Nat.add_sub_add_right]
          split <;> rfl
      · rfl

theorem transferUntil (t : Transfer) (deadline : Option Nat) (remaining : Nat) (again : Bool) :
    g.Mirrors g.answer (s.transferUntil t deadline remaining again)
      ((g.session s).transferUntil (g.transfer t) (deadline.map (· + g.later)) remaining
        again) := by
  intro p
  change (g.session s).transferUntil (g.transfer t) _ remaining again (g.clocked p) =
    (s.transferUntil t deadline remaining again p).image _ _ _
  fun_induction Session.transferUntil s t deadline remaining again p with
  | case1 remaining again p moved judged result h =>
    have hmove : ((g.session s).move (g.transfer t) remaining again).run (g.clocked p) =
      moved.image _ _ _ := g.move s t remaining again p
    have hjudge := g.judge s t deadline moved.state.now moved.value
    have hevents := g.filterMap_entry_log (s.isPayload_judge t deadline moved.state.now moved.value)
    rw [Session.transferUntil_eq, hmove]
    simp only [Outcome.image, clocked, hjudge]
    rw [show (s.judge t deadline moved.state.now moved.value).value = _ from h,
      List.filterMap_append, hevents]
    rfl
  | case2 remaining again p moved judged rest h next ih =>
    have hmove : ((g.session s).move (g.transfer t) remaining again).run (g.clocked p) =
      moved.image _ _ _ := g.move s t remaining again p
    have hjudge := g.judge s t deadline moved.state.now moved.value
    have hevents := g.filterMap_entry_log (s.isPayload_judge t deadline moved.state.now moved.value)
    rw [Session.transferUntil_eq, hmove]
    simp only [Outcome.image, clocked, hjudge] at ih ⊢
    rw [show (s.judge t deadline moved.state.now moved.value).value = _ from h,
      List.filterMap_append, List.filterMap_append, hevents]
    simp only [verdict, ih]
    rfl

theorem dispatch (t : Transfer) (timeout : Nat) :
    g.Mirrors g.answer (s.dispatch t timeout) ((g.session s).dispatch (g.transfer t) timeout) := by
  intro p
  change (g.session s).dispatch (g.transfer t) timeout (g.clocked p) =
    (s.dispatch t timeout p).image _ _ _
  unfold Session.dispatch
  rw [show (g.session s).state = s.state from rfl]
  split
  · have hdeadline : (if timeout = 0 then none else some ((g.clocked p).now + timeout)) =
        (if timeout = 0 then none else some (p.now + timeout)).map (· + g.later) := by
      split
      · rfl
      · exact congrArg some (Nat.add_right_comm _ _ _)
    rw [hdeadline]
    exact g.transferUntil s t _ timeout false p
  · rfl

section Suits

variable {s} (hs : g.Suits s.options.debug)

include hs

theorem read (size timeout : Nat) :
    g.Mirrors g.answer (s.read size timeout) ((g.session s).read size timeout) := by
  intro p
  rw [Session.read_eq, Session.read_eq]
  refine (g.dispatch s (.read size) _ p).bind fun result p' => ?_
  cases result with
  | error e => exact .pure rfl
  | ok bs => exact Traced.Mirrors.bind (.tell (hs.received _ bs)) fun _ _ => .pure rfl

theorem write (bs : List UInt8) :
    g.Mirrors id (s.write bs) ((g.session s).write (g.bytes bs)) := by
  intro p
  rw [Session.write_eq, Session.write_eq]
  refine Traced.Mirrors.bind (.tell (hs.writing _ bs)) fun _ p' => ?_
  refine (g.dispatch s (.write bs) 0 p').bind fun result _ => .pure ?_
  cases result with
  | error e => rfl
  | ok taken => exact congrArg Except.ok (g.length_bytes taken)

end Suits

/-! ## Teardown -/

theorem drainUpTo (budget : Nat) :
    g.Mirrors id (s.drainUpTo budget) ((g.session s).drainUpTo budget) := by
  induction budget with
  | zero => exact fun _ => .pure rfl
  | succ budget ih =>
    intro p
    rw [Session.drainUpTo, Session.drainUpTo]
    refine (g.move s (.read Session.drainSize) Session.drainTimeout false p).bind
      fun answer p' => ?_
    cases answer with
    | error code => exact (g.log rfl _).bind fun _ _ => .pure rfl
    | ok bs =>
      -- What is logged is how much was drained.
      simp only [Guise.answer, Except.map, length_bytes]
      exact (g.log rfl _).bind fun _ p'' => (ih p'').bind fun _ _ => .pure rfl

theorem quiesce : g.Mirrors id s.quiesce (g.session s).quiesce := by
  intro p
  refine (g.ask rfl _ p).bind fun answer p' => ?_
  cases answer with
  | ok _ => exact (g.drainUpTo s _ p').bind fun _ p'' => g.log rfl p''
  | error code =>
    exact (g.log rfl p').bind fun _ p' => (g.drainUpTo s _ p').bind fun _ p'' => g.log rfl p''

theorem giveBack : g.Mirrors id s.giveBack (g.session s).giveBack := by
  have hclose : g.Mirrors id (do
      Act.closeHandle
      Act.log .handleClosed) (do
      Act.closeHandle
      Act.log .handleClosed) := fun p => (g.closeHandle p).bind fun _ p' => g.log rfl p'
  intro p
  rw [Session.giveBack, Session.giveBack]
  refine (g.ask rfl _ p).bind fun answer p' => ?_
  rcases answer with code | _
  on_goal 1 => refine (g.log rfl p').bind fun _ p' => ?_
  all_goals
    rw [show (g.session s).reattach = s.reattach from rfl]
    cases s.reattach with
    | false => exact hclose p'
    | true =>
      refine (g.ask rfl _ p').bind fun answer p'' => ?_
      cases answer <;> exact (g.log rfl p'').bind fun _ p'' => hclose p''

theorem close (disconnected : Bool) :
    g.Mirrors g.session (s.close disconnected) ((g.session s).close disconnected) := by
  intro p
  rw [Session.close, Session.close]
  rw [show (g.session s).state = s.state from rfl]
  split
  · refine (g.log rfl p).bind fun _ p' => ?_
    cases disconnected with
    | true => exact (g.giveBack s p').bind fun _ _ => .pure rfl
    | false =>
      exact (g.quiesce s p').bind fun _ p' => (g.giveBack s p').bind fun _ _ => .pure rfl
  · exact (g.log rfl p).bind fun _ _ => .pure rfl

theorem drop : g.Mirrors id s.drop (g.session s).drop := by
  intro p
  rw [Session.drop, Session.drop]
  rw [show (g.session s).state = s.state from rfl]
  split
  · exact (g.log rfl p).bind fun _ p' => (g.close s true p').bind fun _ _ => .pure rfl
  · exact .pure rfl

/-- What a session does is the same in every guise, which has to suit it for transfers only. -/
theorem perform {s : Session} (r : Request) (hs : r.isTransfer = true → g.Suits s.options.debug) :
    g.Mirrors (fun o => (g.reply o.1, g.session o.2)) (s.perform r)
      ((g.session s).perform (g.request r)) := by
  intro p
  cases r with
  | read size timeout => exact (g.read (hs rfl) size timeout p).bind fun _ _ => .pure rfl
  | write bs => exact (g.write (hs rfl) bs p).bind fun _ _ => .pure rfl
  | close disconnected => exact (g.close s disconnected p).bind fun _ _ => .pure rfl
  | state | details | debug => exact .pure rfl

end Guise

end UsbSession
