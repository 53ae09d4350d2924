import UsbSession.Proofs.Life.World
import UsbSession.Proofs.Transfer.Reading

/-!
# The integrity of data

What the operations of a scenario do to the copies that wait on a device, while one open session
uses it (`World.Dealings`). Each takes its copies from the front and puts what it brings to the end,
so every copy is taken once at most and in order (`World.Dealings.conserved`).

On a device that loops back, all that waits was written before. Then the session is a mailbox
(`Mailbox.replies`).

* `World.Hosts.step`, `World.Hosts.run`: operations, one and many;
* `World.data_integrity`: the whole.
-/

namespace UsbSession

open Traced (Does)

/-! ## One session on a device -/

namespace World

variable {w w' w'' : World} {slot : String} {s : Session} {place : Nat} {op : Operation}

/-- The copies that wait on the device at a place. -/
def waiting (w : World) (place : Nat) : List Inbound := (w.bus.device place).waiting

/-- The slot holds an open session, and nothing happens during transfers on its device. -/
structure Hosts (w : World) (slot : String) (s : Session) : Prop where
  held : Slots.get? slot w.slots = some s
  isOpen : s.state = .open
  placed : s.device < w.bus.devices.length
  calm : (w.bus.device s.device).hasInterludes = false

/-- The session in the slot, if there is one, does not use the device at the place. -/
def Elsewhere (w : World) (slot : String) (place : Nat) : Prop :=
  ∀ s, Slots.get? slot w.slots = some s → s.device ≠ place

/-- The operation leaves the device at the place to the session in the slot, which it does not
    close: no other session uses the device, and nothing is to happen during its transfers. -/
def Spares (w : World) (slot : String) (place : Nat) : Operation → Prop
  | .connect other _ _ _ | .drop other => other ≠ slot ∧ w.Elsewhere other place
  | .request other r =>
    if other = slot then ∀ disconnected, r ≠ .close disconnected else w.Elsewhere other place
  | .inbound other items => other = place → items.all (·.during.isNone) = true
  | .outbound other items => other = place → items.all (·.during.isNone) = true
  | _ => True

theorem spares_request {r : Request} :
    w.Spares slot place (.request slot r) ↔ ∀ disconnected, r ≠ .close disconnected := by
  rw [Spares, if_pos rfl]

/-- The operations leave the device to the session, one after the other. -/
def SpareAll (slot : String) (place : Nat) : World → List Operation → Prop
  | _, [] => True
  | w, op :: ops => w.Spares slot place op ∧ SpareAll slot place ((step op).run w).state ops

/-- From one world to the other the slot and the queues of the device are left alone. -/
structure Keeps (slot : String) (place : Nat) (w w' : World) : Prop where
  held : Slots.get? slot w'.slots = Slots.get? slot w.slots
  length : w'.bus.devices.length = w.bus.devices.length
  inbound : (w'.bus.device place).inbound = (w.bus.device place).inbound
  outbound : (w'.bus.device place).outbound = (w.bus.device place).outbound

namespace Keeps

theorem refl (w : World) : Keeps slot place w w := ⟨rfl, rfl, rfl, rfl⟩

theorem of_bus {bus : Bus} (h : bus.devices = w.bus.devices) :
    Keeps slot place w { w with bus } := by
  refine ⟨rfl, congrArg _ h, ?_, ?_⟩ <;> simp only [Bus.device, h]

/-- An action on another device. -/
theorem after {other : Nat} (p : Clocked) (h : other ≠ place) :
    Keeps slot place w { w with bus := w.bus.after other p } where
  held := rfl
  length := List.length_set
  inbound := congrArg _ (Bus.device_after_of_ne p h.symm)
  outbound := congrArg _ (Bus.device_after_of_ne p h.symm)

/-- A change of a device, if it is another device or leaves the queues alone. -/
theorem modify {other : Nat} {f : Device → Device}
    (hf : other = place → ∀ d, (f d).inbound = d.inbound ∧ (f d).outbound = d.outbound) :
    Keeps slot place w { w with bus.devices := w.bus.devices.modify other f } := by
  have hdevice := w.bus.device_modify other f place
  refine ⟨rfl, List.length_modify .., (congrArg _ hdevice).trans ?_,
    (congrArg _ hdevice).trans ?_⟩ <;> split
  · exact (hf (by tauto) _).1
  · rfl
  · exact (hf (by tauto) _).2
  · rfl

theorem trans (h : Keeps slot place w w') (h' : Keeps slot place w' w'') : Keeps slot place w w'' :=
  ⟨h'.held.trans h.held, h'.length.trans h.length, h'.inbound.trans h.inbound,
    h'.outbound.trans h.outbound⟩

/-- A change of another slot. -/
theorem slots {slots : Slots} (hw : Keeps slot place w w')
    (h : Slots.get? slot slots = Slots.get? slot w'.slots) :
    Keeps slot place w { w' with slots } :=
  ⟨h.trans hw.held, hw.length, hw.inbound, hw.outbound⟩

end Keeps

theorem Hosts.of_keeps (h : w.Hosts slot s) (hkeeps : Keeps slot s.device w w') :
    w'.Hosts slot s where
  held := hkeeps.held.trans h.held
  isOpen := h.isOpen
  placed := hkeeps.length ▸ h.placed
  calm := by
    rw [Device.hasInterludes, hkeeps.inbound, hkeeps.outbound]
    exact h.calm

/-! ## Operations that leave the copies alone -/

theorem keeps_search (m : Manager) (vendor product : Id) (reset : Bool) :
    Keeps slot place w { w with bus := ((m.connect vendor product reset).run w.bus).state } where
  held := rfl
  length := m.length_connect vendor product reset w.bus
  inbound := (m.queues_connect vendor product reset w.bus place).1
  outbound := (m.queues_connect vendor product reset w.bus place).2

theorem keeps_connect (m : Manager) {other : String} (vendor product : Id) (reset : Bool)
    (hne : other ≠ slot) (helse : w.Elsewhere other place) :
    Keeps slot place w ((connect m other vendor product reset).run w).state := by
  have hkeeps : Keeps slot place w _ := keeps_search m vendor product reset
  have hset (s : Session) : Slots.get? slot (Slots.set other s w.slots) = Slots.get? slot w.slots :=
    Slots.get?_set_of_ne hne.symm s w.slots
  rcases w.run_connect other m vendor product reset with
    ⟨e, -, hstate⟩ | ⟨s, -, ⟨-, hstate⟩ | ⟨old, hslot, hstate⟩⟩ <;> rw [hstate]
  · exact hkeeps
  · exact hkeeps.slots (hset s)
  · -- The session that is replaced works with another device.
    exact (hkeeps.trans (.after _ (helse old hslot))).slots (hset s)

theorem keeps_request {other : String} (r : Request) (hne : other ≠ slot)
    (helse : w.Elsewhere other place) :
    Keeps slot place w ((step (.request other r)).run w).state := by
  rcases w.run_request other r with ⟨-, hstate⟩ | ⟨t, p, after, hslot, hstate, -⟩ <;> rw [hstate]
  · exact .refl w
  · exact (Keeps.after p (helse t hslot)).slots (Slots.get?_set_of_ne hne.symm after w.slots)

theorem keeps_drop {other : String} (hne : other ≠ slot) (helse : w.Elsewhere other place) :
    Keeps slot place w ((step (.drop other)).run w).state := by
  rcases w.run_drop other with ⟨-, hstate⟩ | ⟨t, hslot, hstate⟩ <;> rw [hstate]
  · exact .refl w
  · exact (Keeps.after _ (helse t hslot)).slots (Slots.get?_erase_of_ne hne.symm w.slots)

/-! ## Deals -/

end World

/-- What an operation does to the copies that wait on a device. -/
structure Deal where
  /-- The copies that it takes. -/
  taken : List Inbound
  /-- The copies that stay. -/
  left : List Inbound
  /-- The copies that it brings. -/
  brought : List Inbound

namespace World

/-- The part that an operation with the outcome `o` has in its deal with the device of the session
    in the slot. -/
inductive Dealing (slot : String) (s : Session) (w : World) (o : Outcome World Mark Answer) :
    Operation → Deal → Prop
  /-- A read takes what its transfers take. -/
  | read {size timeout : Nat} {taken left : List Inbound} {cs : List Call}
      {result : Except Error (List UInt8)}
      (answer : o.value = .replied (some (.read result)) [])
      (calls : Mark.calls o.trace = cs.map (s.device, ·))
      (reading : s.Reading size (s.deadline timeout w.bus.now) taken left o.state.bus.now cs
        result) :
      Dealing slot s w o (.request slot (.read size timeout)) ⟨taken, left, []⟩
  /-- A write brings what it has sent, if the device loops back. -/
  | write {bytes : List UInt8} {left : List Inbound} {result : Except Error (List UInt8)}
      (answer : o.value = .replied (some (.written (result.map List.length))) [])
      (sent : ∀ sent, result = .ok sent → sent <+: bytes) :
      Dealing slot s w o (.request slot (.write bytes))
        ⟨[], left, (w.bus.device s.device).script.echo result⟩
  /-- Answers are put into the script. -/
  | inbound {items : Queue Inbound} {left : List Inbound} :
      Dealing slot s w o (.inbound s.device items) ⟨[], left, items.spread⟩
  /-- All other operations leave the copies alone. -/
  | other {op : Operation} {left : List Inbound}
      (transfers : ∀ r, op = .request slot r → r.isTransfer = false)
      (scripts : ∀ items, op ≠ .inbound s.device items) : Dealing slot s w o op ⟨[], left, []⟩

/-- An operation takes its copies from the front and puts what it brings to the end. -/
structure Deals (w : World) (slot : String) (s : Session) (op : Operation) (d : Deal) : Prop where
  front : w.waiting s.device = d.taken ++ d.left
  back : ((step op).run w).state.waiting s.device = d.left ++ d.brought
  dealing : Dealing slot s w ((step op).run w) op d

/-- The deals of operations, one after the other. -/
inductive Dealings (slot : String) (s : Session) : World → List Operation → List Deal → Prop
  | nil (w : World) : Dealings slot s w [] []
  | cons {w : World} {op : Operation} {ops : List Operation} {d : Deal} {ds : List Deal}
      (first : w.Deals slot s op d) (rest : Dealings slot s ((step op).run w).state ops ds) :
      Dealings slot s w (op :: ops) (d :: ds)

variable {w w' : World} {slot : String} {s : Session} {op : Operation} {ops : List Operation}
  {d : Deal} {ds : List Deal}

/-- What waits at first or is brought is what is taken or waits in the end, in this order. -/
theorem Dealings.conserved (h : Dealings slot s w ops ds) :
    w.waiting s.device ++ ds.flatMap (·.brought) =
      ds.flatMap (·.taken) ++ (w.after ops).waiting s.device := by
  induction h with
  | nil => exact List.append_nil _
  | @cons w op ops d ds first rest ih =>
    calc
      w.waiting s.device ++ (d.brought ++ ds.flatMap (·.brought))
          = d.taken ++ (d.left ++ d.brought ++ ds.flatMap (·.brought)) := by
        rw [first.front]
        simp only [List.append_assoc]
      _ = d.taken ++ (ds.flatMap (·.taken) ++ (w.after (op :: ops)).waiting s.device) := by
        rw [← first.back, ih]
        rfl
      _ = (d :: ds).flatMap (·.taken) ++ (w.after (op :: ops)).waiting s.device := by
        rw [List.flatMap_cons, List.append_assoc]

/-- The deal of an operation that leaves the copies alone. -/
theorem Deals.other (hwaiting : ((step op).run w).state.waiting s.device = w.waiting s.device)
    (htransfers : ∀ r, op = .request slot r → r.isTransfer = false)
    (hscripts : ∀ items, op ≠ .inbound s.device items) :
    w.Deals slot s op ⟨[], w.waiting s.device, []⟩ :=
  ⟨rfl, hwaiting.trans (List.append_nil _).symm, .other htransfers hscripts⟩

/-- An operation that leaves slot and queues alone. -/
theorem Hosts.other (h : w.Hosts slot s) (hkeeps : Keeps slot s.device w ((step op).run w).state)
    (htransfers : ∀ r, op = .request slot r → r.isTransfer = false)
    (hscripts : ∀ items, op ≠ .inbound s.device items) :
    ∃ d, w.Deals slot s op d ∧ ((step op).run w).state.Hosts slot s :=
  ⟨_, .other (congrArg Queue.spread hkeeps.inbound) htransfers hscripts, h.of_keeps hkeeps⟩

/-- The session goes on after what it has performed. -/
theorem Hosts.performed (h : w.Hosts slot s) {r : Request} {reply : Reply} {cs : List Call}
    {p : Clocked}
    (hdoes : Does Entry.call? (s.perform r) ⟨w.bus.device s.device, w.bus.now⟩ (reply, s) cs p) :
    ((step (.request slot r)).run w).state.Hosts slot s := by
  rw [(does_step_request h.held h.calm hdoes).state]
  refine ⟨Slots.get?_set_self slot s w.slots, h.isOpen, ?_, ?_⟩
  · exact (List.length_set ..).symm ▸ h.placed
  · dsimp only
    rw [Bus.device_after p s.device h.placed, if_pos rfl, ← hdoes.state]
    exact s.calm_perform r ⟨w.bus.device s.device, w.bus.now⟩ h.calm

/-- A session that performs something leaves the copies that its device is left with. -/
theorem Hosts.waiting_performed (h : w.Hosts slot s) {r : Request} {reply : Reply} {cs : List Call}
    {p : Clocked}
    (hdoes : Does Entry.call? (s.perform r) ⟨w.bus.device s.device, w.bus.now⟩ (reply, s) cs p) :
    ((step (.request slot r)).run w).state.waiting s.device = p.device.waiting := by
  rw [(does_step_request h.held h.calm hdoes).state, waiting]
  dsimp only
  rw [Bus.device_after p s.device h.placed, if_pos rfl]

theorem Hosts.request (h : w.Hosts slot s) {r : Request}
    (hr : ∀ disconnected, r ≠ .close disconnected) :
    ∃ d, w.Deals slot s (.request slot r) d ∧
      ((step (.request slot r)).run w).state.Hosts slot s := by
  -- What looks at the session only leaves the copies alone.
  have hlook {reply : Reply} (hr : r.isTransfer = false)
      (hdoes : Does Entry.call? (s.perform r) ⟨w.bus.device s.device, w.bus.now⟩ (reply, s) []
        ⟨w.bus.device s.device, w.bus.now⟩) :
      ∃ d, w.Deals slot s (.request slot r) d ∧
        ((step (.request slot r)).run w).state.Hosts slot s := by
    refine ⟨_, .other (h.waiting_performed hdoes) (fun r' hr' => ?_) nofun, h.performed hdoes⟩
    cases hr'
    exact hr
  cases r with
  | read size timeout =>
    obtain ⟨taken, q, result, cs, ended, hfront, hdoes, hreading⟩ :=
      Session.does_perform_read h.isOpen size timeout ⟨w.bus.device s.device, w.bus.now⟩
    have hstep := does_step_request h.held h.calm hdoes
    refine ⟨⟨taken, q.spread, []⟩, ⟨hfront, ?_, .read hstep.value hstep.calls ?_⟩,
      h.performed hdoes⟩
    · exact (h.waiting_performed hdoes).trans (List.append_nil _).symm
    · rw [hstep.state]
      exact hreading
  | write bytes =>
    obtain ⟨echo, q, result, cs, ended, hdoes, hwriting⟩ :=
      Session.does_perform_write h.isOpen bytes ⟨w.bus.device s.device, w.bus.now⟩
    have hstep := does_step_request h.held h.calm hdoes
    refine ⟨⟨[], w.waiting s.device, _⟩, ⟨rfl, ?_, .write hstep.value hwriting.sent⟩,
      h.performed hdoes⟩
    refine (h.waiting_performed hdoes).trans ?_
    rw [Device.waiting_queued, Queue.spread_append, hwriting.echoed]
    rfl
  | close disconnected => exact absurd rfl (hr disconnected)
  | state => exact hlook rfl (.pure _ _)
  | details => exact hlook rfl (.pure _ _)
  | debug => exact hlook rfl (.pure _ _)

/-- The session goes on after a change of its device that has nothing happen during transfers. -/
theorem Hosts.modify (h : w.Hosts slot s) {f : Device → Device}
    (hcalm : (f (w.bus.device s.device)).hasInterludes = false) :
    Hosts { w with bus.devices := w.bus.devices.modify s.device f } slot s ∧
      ({ w with bus.devices := w.bus.devices.modify s.device f } : World).waiting s.device =
        (f (w.bus.device s.device)).waiting := by
  have hdevice := w.bus.device_modify s.device f s.device
  rw [if_pos ⟨rfl, h.placed⟩] at hdevice
  exact ⟨⟨h.held, h.isOpen, (List.length_modify ..).symm ▸ h.placed,
    (congrArg _ hdevice).trans hcalm⟩, congrArg _ hdevice⟩

/-- Answers for reads are put behind those that wait. -/
theorem Hosts.inbound (h : w.Hosts slot s) {place : Nat} {items : Queue Inbound}
    (hitems : place = s.device → items.all (·.during.isNone) = true) :
    ∃ d, w.Deals slot s (.inbound place items) d ∧
      ((World.step (.inbound place items)).run w).state.Hosts slot s := by
  by_cases hplace : place = s.device
  · subst hplace
    obtain ⟨hin, hout⟩ := Bool.or_eq_false_iff.1 h.calm
    obtain ⟨hhosts, hwaiting⟩ := h.modify (f := fun d => { d with inbound := d.inbound ++ items })
      (Bool.or_eq_false_iff.2 ⟨Queue.any_during_append hin (hitems rfl), hout⟩)
    refine ⟨⟨[], w.waiting s.device, items.spread⟩, ⟨rfl, ?_, .inbound⟩, hhosts⟩
    exact hwaiting.trans (Queue.spread_append _ _)
  · refine h.other (.modify fun hsame => absurd hsame hplace) nofun fun items' hsame => ?_
    cases hsame
    exact hplace rfl

/-- Answers for writes are no copies that reads take. -/
theorem Hosts.outbound (h : w.Hosts slot s) {place : Nat} {items : Queue Outbound}
    (hitems : place = s.device → items.all (·.during.isNone) = true) :
    ∃ d, w.Deals slot s (.outbound place items) d ∧
      ((World.step (.outbound place items)).run w).state.Hosts slot s := by
  by_cases hplace : place = s.device
  · subst hplace
    obtain ⟨hin, hout⟩ := Bool.or_eq_false_iff.1 h.calm
    obtain ⟨hhosts, hwaiting⟩ := h.modify (f := fun d => { d with outbound := d.outbound ++ items })
      (Bool.or_eq_false_iff.2 ⟨hin, Queue.any_during_append hout (hitems rfl)⟩)
    exact ⟨_, .other hwaiting nofun nofun, hhosts⟩
  · exact h.other (.modify fun hsame => absurd hsame hplace) nofun nofun

/-- An operation that leaves the device to the session makes its deal, and the session goes on. -/
theorem Hosts.step (h : w.Hosts slot s) (hop : w.Spares slot s.device op) :
    ∃ d, w.Deals slot s op d ∧ ((step op).run w).state.Hosts slot s := by
  cases op with
  | connect other vendor product reset =>
    refine h.other ?_ nofun nofun
    obtain ⟨bus, manager, slots⟩ := w
    cases manager with
    | none => exact .refl _
    | some m => exact keeps_connect m vendor product reset hop.1 hop.2
  | find vendor product =>
    refine h.other ?_ nofun nofun
    obtain ⟨answer, hfind⟩ := w.does_find vendor product
    rw [hfind.state]
    refine .of_bus ?_
    split
    · exact w.bus.devices_listing
    · rfl
  | request other r =>
    by_cases hname : other = slot
    · subst hname
      exact h.request (spares_request.1 hop)
    · rw [Spares, if_neg hname] at hop
      refine h.other (keeps_request r hname hop) (fun r' hr' => ?_) nofun
      cases hr'
      exact absurd rfl hname
  | drop other => exact h.other (keeps_drop hop.1 hop.2) nofun nofun
  | script other changes => exact h.other (.modify fun _ d => ⟨rfl, rfl⟩) nofun nofun
  | inbound other items => exact h.inbound hop
  | outbound other items => exact h.outbound hop
  | options => exact h.other (.refl w) nofun nofun
  | closeManager =>
    refine h.other ?_ nofun nofun
    obtain ⟨bus, manager, slots⟩ := w
    cases manager with
    | none => exact ⟨rfl, rfl, rfl, rfl⟩
    | some m => exact ⟨rfl, rfl, rfl, rfl⟩

theorem Hosts.run (h : w.Hosts slot s) (hops : SpareAll slot s.device w ops) :
    ∃ ds, Dealings slot s w ops ds := by
  induction ops generalizing w with
  | nil => exact ⟨[], .nil w⟩
  | cons op ops ih =>
    obtain ⟨hop, hops⟩ := hops
    obtain ⟨d, hdeals, hnext⟩ := h.step hop
    obtain ⟨ds, hrest⟩ := ih hnext hops
    exact ⟨d :: ds, .cons hdeals hrest⟩

end World

/-! ## Loopback -/

/-- The request is a read into a buffer that can hold bytes, or a write of some. -/
def Request.Substantial : Request → Prop
  | .read size _ => 0 < size
  | .write bytes => bytes ≠ []
  | _ => False

namespace Mailbox

/-- The replies of a mailbox with messages in it: a write puts one behind the others, and a read
    takes the first and returns as much of it as the buffer can hold. -/
def replies : List (List UInt8) → List Request → List Reply
  | box, .write bytes :: rs => .written (.ok bytes.length) :: replies (box ++ [bytes]) rs
  | bytes :: box, .read size _ :: rs => .read (.ok (bytes.take size)) :: replies box rs
  | [], .read _ _ :: rs => .read (.error (.usb .timeout)) :: replies [] rs
  | box, _ :: rs => replies box rs
  | _, [] => []

/-- The messages that are written. -/
def sent : List Request → List (List UInt8)
  | .write bytes :: rs => bytes :: sent rs
  | _ :: rs => sent rs
  | [] => []

/-- What the reads that succeed return, each with the size of its buffer. -/
def received : List Request → List Reply → List (Nat × List UInt8)
  | .read size _ :: rs, .read (.ok bytes) :: replies => (size, bytes) :: received rs replies
  | _ :: rs, _ :: replies => received rs replies
  | _, _ => []

/-- Messages are received in the order in which they are sent. -/
theorem received_replies {box : List (List UInt8)} {rs : List Request}
    (hrs : ∀ r ∈ rs, r.Substantial) {i size : Nat} {bytes : List UInt8}
    (h : (received rs (replies box rs))[i]? = some (size, bytes)) :
    ∃ message, (box ++ sent rs)[i]? = some message ∧ bytes = message.take size := by
  induction rs generalizing box i with
  | nil => simp [received] at h
  | cons r rs ih =>
    obtain ⟨hr, hmore⟩ := List.forall_mem_cons.1 hrs
    cases r with
    | read size' timeout =>
      cases box with
      | nil => exact ih hmore h
      | cons message box =>
        cases i with
        | zero =>
          cases h
          exact ⟨message, rfl, rfl⟩
        | succ i =>
          rw [replies] at h
          exact @ih box hmore i h
    | write message =>
      rw [replies] at h
      obtain ⟨message', hmessage, hcut⟩ := ih hmore h
      rw [List.append_assoc] at hmessage
      exact ⟨message', hmessage, hcut⟩
    | close | state | details | debug => exact hr.elim

end Mailbox

namespace World

variable {w : World} {slot : String} {s : Session} {box : List (List UInt8)} {r : Request}
  {rs : List Request}

/-- The device of the session loops back what is written, refuses nothing, and holds messages. -/
structure Loops (w : World) (slot : String) (s : Session) (box : List (List UInt8)) : Prop where
  hosts : w.Hosts slot s
  loopback : (w.bus.device s.device).script.loopback = true
  free : (w.bus.device s.device).script.writeError = none
  outbound : (w.bus.device s.device).outbound = []
  waiting : w.waiting s.device = box.map .data
  substantial : ∀ bytes ∈ box, bytes ≠ []

namespace Loops

/-- The device after the session has performed something. -/
theorem performed (h : w.Loops slot s box) {reply : Reply} {cs : List Call} {now : Nat}
    {q : Queue Inbound} {box' : List (List UInt8)}
    (hdoes : Does Entry.call? (s.perform r) ⟨w.bus.device s.device, w.bus.now⟩ (reply, s) cs
      ⟨(w.bus.device s.device).queued q [], now⟩)
    (hwaiting : q.spread = box'.map .data) (hsubstantial : ∀ bytes ∈ box', bytes ≠ []) :
    ((step (.request slot r)).run w).value = .replied (some reply) [] ∧
      ((step (.request slot r)).run w).state.Loops slot s box' := by
  have hstep := does_step_request h.hosts.held h.hosts.calm hdoes
  have hdevice : ((step (.request slot r)).run w).state.bus.device s.device =
      (w.bus.device s.device).queued q [] := by
    rw [hstep.state]
    dsimp only
    rw [Bus.device_after _ _ h.hosts.placed, if_pos rfl]
  refine ⟨hstep.value, h.hosts.performed hdoes, ?_, ?_, ?_, ?_, hsubstantial⟩
  · rw [hdevice]
    exact h.loopback
  · rw [hdevice]
    exact h.free
  · rw [hdevice]
    rfl
  · rw [World.waiting, hdevice]
    exact hwaiting

/-- The session is a mailbox. -/
theorem answers (h : w.Loops slot s box) (hrs : ∀ r ∈ rs, r.Substantial) :
    w.answers (rs.map (.request slot)) =
      (Mailbox.replies box rs).map fun reply => .replied (some reply) [] := by
  induction rs generalizing w box with
  | nil => cases box <;> rfl
  | cons r rs ih =>
    obtain ⟨hr, hmore⟩ := List.forall_mem_cons.1 hrs
    have hfirst (reply : Reply) (box' : List (List UInt8))
        (hnext : ((step (.request slot r)).run w).value = .replied (some reply) [] ∧
          ((step (.request slot r)).run w).state.Loops slot s box')
        (hreplies : Mailbox.replies box (r :: rs) = reply :: Mailbox.replies box' rs) :
        w.answers ((r :: rs).map (.request slot)) =
          (Mailbox.replies box (r :: rs)).map fun reply => .replied (some reply) [] := by
      rw [hreplies, List.map_cons, List.map_cons, World.answers, hnext.1, ih hnext.2 hmore]
    cases r with
    | read size timeout =>
      obtain ⟨taken, q, result, cs, ended, hfront, hdoes, hreading⟩ :=
        Session.does_perform_read h.hosts.isOpen size timeout ⟨w.bus.device s.device, w.bus.now⟩
      rw [show Device.waiting _ = _ from h.waiting] at hfront
      rw [h.outbound] at hdoes
      cases box with
      | nil =>
        obtain ⟨rfl, hq⟩ := List.append_eq_nil_iff.1 hfront.symm
        have hresult := hreading.eq_timeout
        subst hresult
        exact hfirst _ [] (h.performed hdoes hq h.substantial) rfl
      | cons message box =>
        obtain ⟨hmessage, hbox⟩ := List.forall_mem_cons.1 h.substantial
        obtain ⟨b, bytes, rfl⟩ := List.exists_cons_of_ne_nil hmessage
        obtain ⟨hq, rfl⟩ := hreading.eq_first hr hfront
        exact hfirst _ _ (h.performed hdoes hq hbox) rfl
    | write bytes =>
      obtain ⟨echo, q, result, cs, ended, hdoes, hwriting⟩ :=
        Session.does_perform_write h.hosts.isOpen bytes ⟨w.bus.device s.device, w.bus.now⟩
      obtain ⟨rfl, rfl⟩ := hwriting.whole h.outbound h.free hr
      refine hfirst _ _ (h.performed hdoes ?_ ?_) rfl
      · have hecho : echo.spread = [.data bytes] := by
          obtain ⟨b, bytes, rfl⟩ := List.exists_cons_of_ne_nil hr
          exact hwriting.echoed.trans (if_pos h.loopback)
        rw [Queue.spread_append, hecho, List.map_append]
        exact congrArg (· ++ _) h.waiting
      · exact List.forall_mem_append.2 ⟨h.substantial, List.forall_mem_singleton.2 hr⟩
    | close | state | details | debug => exact hr.elim

end Loops

/-- What an open session reads from a device that no other session uses. Its reads take the copies
    from the front, each copy once, and nothing that they take is lost; on a device that loops back,
    which nobody else writes answers for, the session is a mailbox. -/
theorem data_integrity (h : w.Hosts slot s) :
    (∀ ops, SpareAll slot s.device w ops → ∃ ds, Dealings slot s w ops ds ∧
      w.waiting s.device ++ ds.flatMap (·.brought) =
        ds.flatMap (·.taken) ++ (w.after ops).waiting s.device) ∧
    ((w.bus.device s.device).script.loopback = true →
      (w.bus.device s.device).script.writeError = none →
      (w.bus.device s.device).inbound = [] → (w.bus.device s.device).outbound = [] →
      ∀ rs, (∀ r ∈ rs, r.Substantial) →
        (w.answers (rs.map (.request slot)) =
          (Mailbox.replies [] rs).map fun reply => .replied (some reply) []) ∧
        ∀ (i size : Nat) bytes,
          (Mailbox.received rs (Mailbox.replies [] rs))[i]? = some (size, bytes) →
          ∃ message, (Mailbox.sent rs)[i]? = some message ∧ bytes = message.take size) := by
  refine ⟨fun ops hops => ?_,
    fun hloopback hfree hin hout rs hrs => ⟨?_, fun i size bytes hi => ?_⟩⟩
  · obtain ⟨ds, hds⟩ := h.run hops
    exact ⟨ds, hds, hds.conserved⟩
  · have hwaiting : w.waiting s.device = [] := by rw [World.waiting, Device.waiting, hin]; rfl
    exact Loops.answers ⟨h, hloopback, hfree, hout, hwaiting, List.forall_mem_nil _⟩ hrs
  · have hreceived := Mailbox.received_replies hrs hi
    exact hreceived

/-- Copies without bytes are passed over, and of what is written a read gets what its buffer can
    hold. -/
theorem data_integrity_retried :
    let device : Device :=
      { details := .ok default, layout := .ok ⟨1, []⟩, script := { loopback := true } }
    let s : Session := ⟨0, default, default, { retryZeroLength := true }, false, .open⟩
    let w : World := { bus := { devices := [device] }, manager := none, slots := [("a", s)] }
    let ops : List Operation := [.inbound 0 [{ answer := .data [], again := 1 },
      { answer := .data [7, 8, 9] }], .request "a" (.read 2 0), .request "a" (.read 2 0)]
    w.Hosts "a" s ∧ SpareAll "a" 0 w ops ∧
      (∃ ds, Dealings "a" s w ops ds ∧ w.waiting 0 ++ ds.flatMap (·.brought) =
        ds.flatMap (·.taken) ++ (w.after ops).waiting 0) ∧
      w.answers ([.write [1, 2, 3], .read 2 0, .read 2 0].map (.request "a")) =
        [.replied (some (.written (.ok 3))) [], .replied (some (.read (.ok [1, 2]))) [],
          .replied (some (.read (.error (.usb .timeout)))) []] := by
  intro device s w ops
  have hhosts : w.Hosts "a" s := ⟨rfl, rfl, Nat.zero_lt_one, rfl⟩
  have hops : SpareAll "a" 0 w ops :=
    ⟨fun _ => rfl, spares_request.2 nofun, spares_request.2 nofun, trivial⟩
  have hrs : ∀ r ∈ [Request.write [1, 2, 3], .read 2 0, .read 2 0], r.Substantial :=
    List.forall_mem_cons.2 ⟨nofun, List.forall_mem_cons.2 ⟨Nat.zero_lt_two,
      List.forall_mem_singleton.2 Nat.zero_lt_two⟩⟩
  exact ⟨hhosts, hops, (data_integrity hhosts).1 ops hops,
    ((data_integrity hhosts).2 rfl rfl rfl rfl _ hrs).1⟩

end World

end UsbSession
