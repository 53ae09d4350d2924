import UsbSession.Proofs.Binding.Fixed
import UsbSession.Proofs.Life.Effects

/-!
# Sessions on different devices do not meet

What sessions on different devices do can be done in any order (`World.sessions_independent`).

* `World.Apart.commutes`: two operations that concern nobody both come to the same in both orders,
  as the one leaves the world the same to those that the other concerns;
* `World.record_passing`: so an operation can be put behind a run that concerns none of those that
  it concerns;
* `World.record_of_reorders`: so a run can be put into any order that is the same to everyone. By
  induction on the run, its first operation can be brought back to the front, past those that were
  put before it.
-/

namespace UsbSession

/-- The calls to the device at a place. -/
def Mark.callsTo (place : Nat) (trace : List Mark) : List (Nat × Call) :=
  (calls trace).filter (·.1 = place)

theorem Mark.callsTo_append (place : Nat) (trace more : List Mark) :
    callsTo place (trace ++ more) = callsTo place trace ++ callsTo place more := by
  rw [callsTo, calls_append, List.filter_append, callsTo, callsTo]

namespace World

variable {w : World} {a b : Operation} {ops : List Operation}

/-! ## Two operations -/

/-- Nobody is concerned by both operations. -/
def Apart (w : World) (a b : Operation) : Prop :=
  ∀ p, w.concerns a p = true → w.concerns b p ≠ true

theorem Apart.symm (h : w.Apart a b) : w.Apart b a := fun p hb ha => h p ha hb

/-- A search is never apart from anything. -/
theorem Apart.searches (h : w.Apart a b) : a.searches = false := by
  obtain ⟨p, hp⟩ := w.exists_concerns b
  exact Bool.eq_false_iff.2 fun ha => h p (concerns_of_searches ha p) hp

/-- Operations on sessions on different devices are apart. -/
theorem apart_of_devices {one other : String} {s t : Session}
    (hs : Slots.get? one w.slots = some s) (ht : Slots.get? other w.slots = some t)
    (hne : s.device ≠ t.device) (ha : a.slot? = some one) (hb : b.slot? = some other) :
    w.Apart a b := by
  have hslots : one ≠ other := fun heq =>
    hne (congrArg Session.device (Option.some.inj (hs.symm.trans (heq ▸ ht))))
  intro p hpa hpb
  rw [concerns_of_slot? ha, hs] at hpa
  rw [concerns_of_slot? hb, ht] at hpb
  simp only [Option.any_some, Bool.or_eq_true, decide_eq_true_eq] at hpa hpb
  rcases hpa with rfl | rfl <;> rcases hpb with h | h
  · exact hslots (Party.slot.inj h)
  · cases h
  · cases h
  · exact hne (Party.device.inj h)

/-- Closing the manager is apart from operations on sessions. -/
theorem apart_closeManager {slot : String} (ha : a.slot? = some slot) :
    w.Apart a .closeManager := by
  intro p hpa hp
  obtain rfl : p = .manager := of_decide_eq_true hp
  rw [concerns_of_slot? ha] at hpa
  simp at hpa

theorem Apart.sameTo (h : w.Apart a b) : SameTo (w.concerns a) w (w.after [b]) := by
  obtain ⟨e, he⟩ := w.exists_hasEffect h.symm.searches
  rw [he.after (.refl _ w)]
  exact he.within.sameTo w h.symm

/-- What is apart from an operation that came before was apart from it already. -/
theorem apart_of_after (h : ∀ p, w.concerns a p = true → (w.after [a]).concerns b p ≠ true) :
    w.Apart a b := by
  obtain ⟨p, hp⟩ := (w.after [a]).exists_concerns b
  have hsearches : a.searches ≠ true := fun ha => h p (concerns_of_searches ha p) hp
  obtain ⟨e, he⟩ := w.exists_hasEffect (Bool.eq_false_iff.2 hsearches)
  have hsame : SameTo ((w.after [a]).concerns b) w (w.after [a]) := by
    rw [he.after (.refl _ w)] at h ⊢
    exact he.within.sameTo w h
  rw [← hsame.symm.concerns_eq] at h
  exact h

/-- What is on record of an operation. -/
structure Record where
  operation : Operation
  /-- Whom it concerned. -/
  concerned : Party → Bool
  answer : Answer
  trace : List Mark

/-- The record of an operation. -/
def entry (w : World) (op : Operation) : Record :=
  let o := (step op).run w
  ⟨op, w.concerns op, o.value, o.trace⟩

/-- An operation is on record as it would be without what came before and is apart from it. -/
theorem Apart.entry_after (h : w.Apart a b) : (w.after [b]).entry a = w.entry a := by
  obtain ⟨e, he⟩ := w.exists_hasEffect h.searches
  rw [entry, entry, h.sameTo.concerns_eq, he.run _ h.sameTo, he.run_self]
  rfl

theorem Apart.after_comm (h : w.Apart a b) (hsorted : w.slots.Sorted) :
    w.after [a, b] = w.after [b, a] := by
  obtain ⟨e, he⟩ := w.exists_hasEffect h.searches
  obtain ⟨e', he'⟩ := w.exists_hasEffect h.symm.searches
  calc w.after [a, b]
    _ = e'.apply (w.after [a]) := he'.after h.symm.sameTo
    _ = e'.apply (e.apply w) := congrArg e'.apply (he.after (.refl _ w))
    _ = e.apply (e'.apply w) := Effect.apply_comm he'.within he.within h.symm hsorted
    _ = e.apply (w.after [b]) := congrArg e.apply (he'.after (.refl _ w)).symm
    _ = w.after [b, a] := (he.after h.sameTo).symm

/-- Only devices that an operation concerns are called. -/
theorem callsTo_entry {place : Nat} (h : (w.entry a).concerned (.device place) ≠ true) :
    Mark.callsTo place (w.entry a).trace = [] := by
  have hsearches : a.searches ≠ true := fun ha => h (concerns_of_searches ha _)
  obtain ⟨e, he⟩ := w.exists_hasEffect (Bool.eq_false_iff.2 hsearches)
  have htrace : (w.entry a).trace = e.trace := congrArg Outcome.trace he.run_self
  rw [htrace]
  refine List.filter_eq_nil_iff.2 fun c hc hplace => h ?_
  obtain rfl : c.1 = place := of_decide_eq_true hplace
  exact he.within.calls c hc

/-- The order of two operations does not matter. -/
structure Commutes (w : World) (a b : Operation) : Prop where
  firstAnswer : ((step a).run (w.after [b])).value = ((step a).run w).value
  firstTrace : ((step a).run (w.after [b])).trace = ((step a).run w).trace
  secondAnswer : ((step b).run (w.after [a])).value = ((step b).run w).value
  secondTrace : ((step b).run (w.after [a])).trace = ((step b).run w).trace
  calls : ∀ place,
    Mark.callsTo place (((step a).run w).trace ++ ((step b).run (w.after [a])).trace) =
      Mark.callsTo place (((step b).run w).trace ++ ((step a).run (w.after [b])).trace)
  after : w.after [a, b] = w.after [b, a]

theorem Apart.commutes (h : w.Apart a b) (hsorted : w.slots.Sorted) : w.Commutes a b where
  firstAnswer := congrArg Record.answer h.entry_after
  firstTrace := congrArg Record.trace h.entry_after
  secondAnswer := congrArg Record.answer h.symm.entry_after
  secondTrace := congrArg Record.trace h.symm.entry_after
  calls place := by
    have hfirst := congrArg Record.trace h.entry_after
    have hsecond := congrArg Record.trace h.symm.entry_after
    change Mark.callsTo place ((w.entry a).trace ++ ((w.after [a]).entry b).trace) =
      Mark.callsTo place ((w.entry b).trace ++ ((w.after [b]).entry a).trace)
    rw [hfirst, hsecond, Mark.callsTo_append, Mark.callsTo_append]
    by_cases ha : w.concerns a (.device place) = true
    · rw [callsTo_entry (h _ ha), List.append_nil, List.nil_append]
    · rw [callsTo_entry (a := a) ha, List.append_nil, List.nil_append]
  after := h.after_comm hsorted

/-! ## Runs -/

/-- The records of operations, one after the other. -/
def record (w : World) : List Operation → List Record
  | [] => []
  | op :: ops => w.entry op :: record (w.after [op]) ops

theorem after_append (w : World) (ops more : List Operation) :
    w.after (ops ++ more) = (w.after ops).after more := by
  induction ops generalizing w with
  | nil => rfl
  | cons op ops ih => exact ih (w.after [op])

theorem record_append (w : World) (ops more : List Operation) :
    w.record (ops ++ more) = w.record ops ++ (w.after ops).record more := by
  induction ops generalizing w with
  | nil => rfl
  | cons op ops ih => exact congrArg (w.entry op :: ·) (ih (w.after [op]))

theorem length_record (w : World) (ops : List Operation) : (w.record ops).length = ops.length := by
  induction ops generalizing w with
  | nil => rfl
  | cons op ops ih => exact congrArg (· + 1) (ih (w.after [op]))

/-- The first operation can be put behind a run that concerns none of those it concerns. -/
theorem record_passing (hsorted : w.slots.Sorted)
    (hapart : ∀ r ∈ (w.after [a]).record ops, ∀ p, w.concerns a p = true → r.concerned p ≠ true) :
    w.record (ops ++ [a]) = (w.after [a]).record ops ++ [w.entry a] ∧
      w.after (ops ++ [a]) = (w.after [a]).after ops := by
  induction ops generalizing w with
  | nil => exact ⟨rfl, rfl⟩
  | cons b ops ih =>
    obtain ⟨hb, hops⟩ := List.forall_mem_cons.1 hapart
    have hab : w.Apart a b := apart_of_after hb
    have hcomm : (w.after [a]).after [b] = (w.after [b]).after [a] := hab.after_comm hsorted
    have hconcerns : (w.after [b]).concerns a = w.concerns a := hab.sameTo.concerns_eq
    obtain ⟨hrecord, hafter⟩ := ih (sorted_after hsorted [b]) fun r hr => by
      rw [← hcomm] at hr
      rw [hconcerns]
      exact hops r hr
    rw [hab.entry_after, ← hcomm] at hrecord
    rw [← hcomm] at hafter
    refine ⟨?_, hafter⟩
    rw [List.cons_append, record, record, hab.symm.entry_after, hrecord]
    rfl

/-- The records are in another order, but in the same order to everyone. -/
structure Reorders (l l' : List Record) : Prop where
  perm : l.Perm l'
  order : ∀ p, l.filter (·.concerned p) = l'.filter (·.concerned p)

/-- What comes before the record that was the first concerns none of those that it concerned. -/
theorem Reorders.exists_front {r : Record} {l rest : List Record} (h : Reorders l (r :: rest))
    (hr : ∃ p, r.concerned p = true) :
    ∃ front back, l = front ++ r :: back ∧ Reorders (front ++ back) rest ∧
      ∀ x ∈ front, ∀ p, r.concerned p = true → x.concerned p ≠ true := by
  obtain ⟨p, hp⟩ := hr
  have hfirst := h.order p
  rw [List.filter_cons, if_pos hp] at hfirst
  obtain ⟨front, back, rfl, hfront, -, -⟩ := List.filter_eq_cons_iff.1 hfirst
  have hnone (q : Party) (hq : r.concerned q = true) : front.filter (·.concerned q) = [] := by
    have hsame := h.order q
    rw [List.filter_append, List.filter_cons, if_pos hq, List.filter_cons, if_pos hq] at hsame
    cases hkept : front.filter (·.concerned q) with
    | nil => rfl
    | cons x xs =>
      rw [hkept] at hsame
      have hx : x ∈ front := (List.mem_filter.1 (hkept ▸ List.mem_cons_self)).1
      exact absurd ((List.cons.inj hsame).1 ▸ hp) (hfront x hx)
  refine ⟨front, back, rfl, ⟨(List.perm_middle.symm.trans h.perm).cons_inv, fun q => ?_⟩,
    fun x hx q hq hxq => ?_⟩
  · have hsame := h.order q
    rw [List.filter_append, List.filter_cons, List.filter_cons] at hsame
    rw [List.filter_append]
    by_cases hq : r.concerned q = true
    · rw [if_pos hq, if_pos hq, hnone q hq] at hsame
      rw [hnone q hq]
      exact (List.cons.inj hsame).2
    · rwa [if_neg hq, if_neg hq] at hsame
  · have hmem : x ∈ front.filter (·.concerned q) := List.mem_filter.2 ⟨hx, hxq⟩
    rw [hnone q hq] at hmem
    cases hmem

/-- Operations that are apart can be put the other way round. -/
theorem Apart.reorders (h : w.Apart a b) :
    Reorders [(w.after [a]).entry b, w.entry a] (w.record [a, b]) := by
  refine ⟨.swap .., fun p => ?_⟩
  change List.filter _ [_, _] = List.filter _ [w.entry a, (w.after [a]).entry b]
  rw [h.symm.entry_after]
  by_cases ha : (w.entry a).concerned p = true
  · have hb : ¬(w.entry b).concerned p = true := h p ha
    simp only [List.filter_cons, if_pos ha, if_neg hb]
  · simp only [List.filter_cons, if_neg ha]

/-- The records of a run in an order that is the same to everyone are those of a run in this order,
    which comes to the same end. -/
theorem record_of_reorders {l : List Record} (hsorted : w.slots.Sorted)
    (h : Reorders l (w.record ops)) :
    w.record (l.map (·.operation)) = l ∧ w.after (l.map (·.operation)) = w.after ops := by
  induction ops generalizing w l with
  | nil =>
    rw [List.Perm.eq_nil h.perm]
    exact ⟨rfl, rfl⟩
  | cons a ops ih =>
    obtain ⟨front, back, rfl, hrest, hfront⟩ := h.exists_front (w.exists_concerns a)
    obtain ⟨hrecord, hafter⟩ := ih (sorted_after hsorted [a]) hrest
    rw [List.map_append, record_append] at hrecord
    rw [List.map_append, after_append] at hafter
    obtain ⟨hrecordFront, hrecordBack⟩ := List.append_inj hrecord
      ((length_record _ _).trans (List.length_map _))
    obtain ⟨hpassed, hpassedAfter⟩ := record_passing (a := a) hsorted fun x hx =>
      hfront x (hrecordFront ▸ hx)
    have hoperations : (front ++ w.entry a :: back).map (·.operation) =
        front.map (·.operation) ++ [a] ++ back.map (·.operation) := by
      rw [List.map_append, List.map_cons, List.append_cons]
      rfl
    rw [hoperations]
    constructor
    · rw [record_append, hpassed, hpassedAfter, hrecordFront, hrecordBack, List.append_assoc]
      rfl
    · rw [after_append w (_ ++ [a]), hpassedAfter]
      exact hafter

/-- Only what concerns a device calls it. -/
theorem callsTo_record (w : World) (ops : List Operation) (place : Nat) :
    Mark.callsTo place ((w.record ops).flatMap (·.trace)) =
      Mark.callsTo place
        (((w.record ops).filter (·.concerned (.device place))).flatMap (·.trace)) := by
  induction ops generalizing w with
  | nil => rfl
  | cons op ops ih =>
    rw [record, List.flatMap_cons, Mark.callsTo_append, ih, List.filter_cons]
    by_cases hop : (w.entry op).concerned (.device place) = true
    · rw [if_pos hop, List.flatMap_cons, Mark.callsTo_append]
    · rw [if_neg hop, callsTo_entry hop, List.nil_append]

/-! ## Runs on sessions -/

/-- The operation was one on a session that was in its slot. -/
def Record.OnSession (r : Record) : Prop :=
  r.operation.slot?.isSome = true ∧ ∃ place, r.concerned (.device place) = true

theorem exists_of_mem_record {r : Record} (hr : r ∈ w.record ops) :
    ∃ w' : World, r.concerned = w'.concerns r.operation := by
  induction ops generalizing w with
  | nil => cases hr
  | cons op ops ih =>
    rcases List.mem_cons.1 hr with rfl | hr
    · exact ⟨w, rfl⟩
    · exact ih hr

/-- Without searches, a slot holds a session on one device at most. -/
theorem device_of_slot {r : Record} {name : String} (hon : ∀ r ∈ w.record ops, r.OnSession)
    (hr : r ∈ w.record ops) (hname : r.concerned (.slot name) = true) :
    ∃ s, Slots.get? name w.slots = some s ∧ r.concerned (.device s.device) = true := by
  induction ops generalizing w with
  | nil => cases hr
  | cons op ops ih =>
    obtain ⟨⟨hslot?, place, hplace⟩, hops⟩ := List.forall_mem_cons.1 hon
    obtain ⟨slot, hslot⟩ := Option.isSome_iff_exists.1 hslot?
    rcases List.mem_cons.1 hr with rfl | hr
    · change op.slot? = some slot at hslot
      change w.concerns op _ = true at hname hplace
      rw [concerns_of_slot? hslot] at hname hplace
      obtain rfl : name = slot := by simpa using hname
      cases hs : Slots.get? name w.slots with
      | none => simp [hs] at hplace
      | some s => exact ⟨s, rfl, concerns_device hslot hs⟩
    · obtain ⟨s, hs, hdevice⟩ := ih hops hr
      rcases w.slots_step op hs with ⟨before, hbefore, hkept⟩ | ⟨vendor, product, reset, m, rfl, -⟩
      · exact ⟨before, hbefore, (congrArg Session.device hkept) ▸ hdevice⟩
      · cases hslot

/-- Where all operations were on sessions, the order on each device is the order to everyone. -/
theorem reorders_of_devices {l : List Record} (hon : ∀ r ∈ w.record ops, r.OnSession)
    (hperm : l.Perm (w.record ops))
    (horder : ∀ place, l.filter (·.concerned (.device place)) =
      (w.record ops).filter (·.concerned (.device place))) :
    Reorders l (w.record ops) := by
  have hnobody {p : Party} (h : ∀ r ∈ w.record ops, r.concerned p ≠ true) :
      l.filter (·.concerned p) = (w.record ops).filter (·.concerned p) := by
    rw [List.filter_eq_nil_iff.2 h, List.filter_eq_nil_iff.2 fun r hr => h r (hperm.subset hr)]
  refine ⟨hperm, fun p => ?_⟩
  cases p with
  | device place => exact horder place
  | manager =>
    refine hnobody fun r hr hmanager => ?_
    obtain ⟨slot, hslot⟩ := Option.isSome_iff_exists.1 (hon r hr).1
    obtain ⟨w', hr'⟩ := exists_of_mem_record hr
    rw [hr', concerns_of_slot? hslot] at hmanager
    simp at hmanager
  | slot name =>
    cases hs : Slots.get? name w.slots with
    | none =>
      refine hnobody fun r hr hname => ?_
      obtain ⟨s, hs', -⟩ := device_of_slot hon hr hname
      cases hs.symm.trans hs'
    | some s =>
      -- What was about the slot is found among what was on the device.
      have hfilter {k : List Record} (hk : k ⊆ w.record ops) : k.filter (·.concerned (.slot name)) =
          (k.filter (·.concerned (.device s.device))).filter (·.concerned (.slot name)) := by
        rw [List.filter_filter]
        refine List.filter_congr fun r hr => ?_
        cases hname : r.concerned (.slot name) with
        | false => rfl
        | true =>
          obtain ⟨s', hs', hdevice⟩ := device_of_slot hon (hk hr) hname
          obtain rfl : s = s' := Option.some.inj (hs.symm.trans hs')
          exact hdevice.symm
      rw [hfilter hperm.subset, horder, ← hfilter (List.Subset.refl _)]

/-! ## Scenarios -/

/-- In the world, what sessions on different devices do can be done in any order. -/
structure SessionsIndependent (w : World) : Prop where
  /-- Operations on sessions on different devices get the same answers, make the same calls and
      leave the same world in both orders. -/
  sessions : ∀ one other s t, Slots.get? one w.slots = some s → Slots.get? other w.slots = some t →
    s.device ≠ t.device →
    ∀ a b : Operation, a.slot? = some one → b.slot? = some other → w.Commutes a b
  /-- So do an operation on a session and closing the manager. -/
  closeManager : ∀ slot, ∀ a : Operation, a.slot? = some slot → w.Commutes a .closeManager
  /-- A run can be put into any order that is the same to everyone: the operations are on record as
      they were, and in the end the world is as it was. -/
  runs : ∀ ops l, Reorders l (w.record ops) →
    w.record (l.map (·.operation)) = l ∧ w.after (l.map (·.operation)) = w.after ops ∧
      ∀ place, Mark.callsTo place (l.flatMap (·.trace)) =
        Mark.callsTo place ((w.record ops).flatMap (·.trace))
  /-- Where all operations are on sessions, the order on each device is the order to everyone. -/
  devices : ∀ ops l, (∀ r ∈ w.record ops, r.OnSession) → l.Perm (w.record ops) →
    (∀ place, l.filter (·.concerned (.device place)) =
      (w.record ops).filter (·.concerned (.device place))) →
    Reorders l (w.record ops)

/-- Whatever happened before in a scenario, what sessions on different devices do can be done in any
    order. -/
theorem sessions_independent (bus : Bus) (m : Manager) (past : List Operation) :
    SessionsIndependent (after { bus, manager := some m } past) := by
  have hsorted := sorted_after (w := { bus, manager := some m }) .nil past
  refine ⟨fun one other s t hs ht hne a b ha hb => ?_, fun slot a ha => ?_, fun ops l h => ?_,
    fun ops l hon hperm horder => reorders_of_devices hon hperm horder⟩
  · exact (apart_of_devices hs ht hne ha hb).commutes hsorted
  · exact (apart_closeManager ha).commutes hsorted
  · obtain ⟨hrecord, hafter⟩ := record_of_reorders hsorted h
    refine ⟨hrecord, hafter, fun place => ?_⟩
    have hl := callsTo_record (after { bus, manager := some m } past) (l.map (·.operation)) place
    rw [hrecord] at hl
    rw [hl, h.order, callsTo_record]

/-- A session writes, and another one, on a device of its own, is closed, in the one order and the
    other. -/
theorem sessions_independent_swapped :
    let endpoints := [.ofAddress 0x81 .bulk, .ofAddress 0x01 .bulk]
    let device (product : UInt16) : Device := {
      details := .ok { (default : Details) with vendor := ⟨0x0483⟩, product := ⟨product⟩ }
      layout := .ok ⟨1, [⟨0, 0, 255, endpoints⟩]⟩
      script := { loopback := true } }
    let w := after { bus := { devices := [device 1, device 2] }, manager := some { options := {} } }
      [.connect "a" ⟨0x0483⟩ ⟨1⟩ false, .connect "b" ⟨0x0483⟩ ⟨2⟩ false]
    let write : Operation := .request "a" (.write [1, 2, 3])
    let close : Operation := .request "b" (.close false)
    let l := [(w.after [write]).entry close, w.entry write]
    (Slots.get? "a" w.slots).map (·.device) = some 0 ∧
      (Slots.get? "b" w.slots).map (·.device) = some 1 ∧ Reorders l (w.record [write, close]) ∧
      (Mark.callsTo 0 (l.flatMap (·.trace))).length = 1 ∧
      (Mark.callsTo 1 (l.flatMap (·.trace))).length = 4 ∧
      w.Commutes write close ∧ w.Commutes write .closeManager ∧ w.record [close, write] = l ∧
      w.after [close, write] = w.after [write, close] := by
  intro endpoints device w write close l
  have ha : (Slots.get? "a" w.slots).map (·.device) = some 0 := by decide +kernel
  have hb : (Slots.get? "b" w.slots).map (·.device) = some 1 := by decide +kernel
  obtain ⟨s, hs, hsdevice⟩ := Option.map_eq_some_iff.1 ha
  obtain ⟨t, ht, htdevice⟩ := Option.map_eq_some_iff.1 hb
  have hne : s.device ≠ t.device := by
    rw [hsdevice, htdevice]
    decide
  have hreorders : Reorders l (w.record [write, close]) :=
    (apart_of_devices hs ht hne rfl rfl).reorders
  have hindependent := sessions_independent { devices := [device 1, device 2] } { options := {} }
    [.connect "a" ⟨0x0483⟩ ⟨1⟩ false, .connect "b" ⟨0x0483⟩ ⟨2⟩ false]
  obtain ⟨hrecord, hafter, -⟩ := hindependent.runs _ l hreorders
  refine ⟨ha, hb, hreorders, ?_, ?_,
    hindependent.sessions "a" "b" s t hs ht hne write close rfl rfl,
    hindependent.closeManager "a" write rfl, hrecord, hafter⟩
  · decide +kernel
  · decide +kernel

end World

end UsbSession
