import UsbSession.Proofs.Life.Annals
import UsbSession.Proofs.Life.World

/-!
# The life cycle of handles

Every handle that is opened in a scenario without overlapping operations has one whole life
(`World.handle_lives`).

The annals fit the world that they are written in (`Annals.Fits`). What an operation does to them
goes by the operation: a request or the end of a session are calls on the handle of its slot, and
connecting opens handles, all of which but that of a session are closed again.

* `Annals.Sound.attempts`: the handles of the attempts of one connect;
* `Annals.Fits.step`, `Annals.Fits.run`: operations, one and many.
-/

namespace UsbSession

open Traced (Does)

/-! ## Attempts in the annals -/

namespace Annals

variable {a : Annals} {slots : Slots} {m : Manager} {reset : Bool} {after : Bus} {q : Prospect}
  {qs : List Prospect} {cs : List (Nat × Call)}

/-- The calls without the handles. -/
def erased (a : Annals) : List (Nat × Call) := a.deeds.map fun d => (d.place, d.call)

theorem erased_note (handle : Option Nat) : (a.note handle cs).erased = a.erased ++ cs := by
  rw [erased, erased, note, List.map_append, List.map_map]
  simp [Function.comp_def]

theorem erased_attempt : (a.attempt m reset after q).erased = a.erased ++ m.callsAt reset q := by
  rw [attempt]
  split
  · exact erased_note none
  · exact erased_note (some a.openings.length)

theorem erased_foldl_attempt : (qs.foldl (attempt m reset after) a).erased =
    a.erased ++ qs.flatMap (m.callsAt reset) := by
  induction qs generalizing a with
  | nil => simp
  | cons q qs ih => rw [List.foldl_cons, ih, erased_attempt, List.flatMap_cons, List.append_assoc]

/-- If the candidate is opened, then properly. -/
def OpensProperly (m : Manager) (reset : Bool) (after : Bus) (q : Prospect) : Prop :=
  q.device.script.openError = none →
    (q.opening m reset (after.device q.place).script.activeConfiguration).Proper

theorem fst_of_mem_callsAt {c : Nat × Call} (hc : c ∈ m.callsAt reset q) : c.1 = q.place := by
  obtain ⟨call, -, rfl⟩ := List.mem_map.1 hc
  rfl

theorem map_snd_callsAt :
    (m.callsAt reset q).map (·.2) = m.attemptCalls q.device.script q.candidate reset :=
  map_snd_map _ _

namespace Sound

variable (ha : a.Sound slots none) (hproper : OpensProperly m reset after q)

include ha hproper

theorem attempt_refused {e : Error} (h : m.answer q = .error e) :
    (a.attempt m reset after q).Sound slots none := by
  rw [Annals.attempt]
  cases hopen : q.device.script.openError with
  | some code =>
    rw [Option.isSome_some, if_pos rfl]
    refine ha.note_none fun c hc => ?_
    have hcall := List.mem_map_of_mem (f := Prod.snd) hc
    rw [map_snd_callsAt, attemptCalls_of_openError hopen, List.mem_singleton] at hcall
    exact hcall
  | none =>
    rw [Option.isSome_none, if_neg Bool.false_ne_true]
    refine ha.enroll (fun c hc => fst_of_mem_callsAt hc) (.inr ⟨rfl, ?_⟩) (hproper hopen)
    rw [map_snd_callsAt]
    exact life_of_refused _ hopen h

theorem attempt_accepted {s : Session} (h : m.answer q = .ok s) :
    (a.attempt m reset after q).Sound slots (some a.openings.length) ∧
      ∃ o, (a.attempt m reset after q).openings = a.openings ++ [o] ∧
        Serves o ((a.attempt m reset after q).calls a.openings.length) s := by
  have hopen : q.device.script.openError = none := by
    cases hopen : q.device.script.openError with
    | none => rfl
    | some code =>
      rw [Manager.answer, Manager.attempt, Manager.refusal?, hopen] at h
      cases h
  rw [Annals.attempt, hopen, Option.isSome_none, if_neg Bool.false_ne_true]
  refine ⟨ha.enroll (fun c hc => fst_of_mem_callsAt hc) (.inl rfl) (hproper hopen), _, rfl, ?_⟩
  rw [calls_enroll, ha.calls_length, if_pos rfl, List.nil_append, map_snd_callsAt]
  exact serves_of_accepted _ h

end Sound

/-- Candidates that refuse leave whole lives behind, or nothing. -/
theorem Sound.foldl_attempt (ha : a.Sound slots none)
    (hproper : ∀ q ∈ qs, OpensProperly m reset after q)
    (hrefused : ∀ q ∈ qs, ∃ e, m.answer q = .error e) :
    (qs.foldl (Annals.attempt m reset after) a).Sound slots none := by
  induction qs generalizing a with
  | nil => exact ha
  | cons q qs ih =>
    obtain ⟨hq, hproper⟩ := List.forall_mem_cons.1 hproper
    obtain ⟨⟨e, he⟩, hrefused⟩ := List.forall_mem_cons.1 hrefused
    exact ih (ha.attempt_refused hq he) hproper hrefused

/-- When all attempts are made, at most the session of the last handle is still to be put into a
    slot. -/
theorem Sound.attempts {otherwise : Error} {rest : List Prospect} {value : Except Error Session}
    (ha : a.Sound slots none) (h : m.Attempts otherwise qs rest value)
    (hproper : ∀ q ∈ qs, OpensProperly m reset after q) :
    match value with
    | .error _ => (qs.foldl (Annals.attempt m reset after) a).Sound slots none
    | .ok s => ∃ a' o, qs.foldl (Annals.attempt m reset after) a = a' ∧
      a'.Sound slots (some (a'.openings.length - 1)) ∧
      a'.openings[a'.openings.length - 1]? = some o ∧
      Serves o (a'.calls (a'.openings.length - 1)) s := by
  cases h with
  | @accepted before rest q s refused accepts =>
    obtain ⟨hbefore, hq⟩ := List.forall_mem_append.1 hproper
    have hsound : (before.foldl (Annals.attempt m reset after) a).Sound slots none :=
      ha.foldl_attempt hbefore refused
    obtain ⟨hpending, o, hopenings, hserves⟩ :=
      hsound.attempt_accepted (hq q (List.mem_singleton_self q)) accepts
    refine ⟨_, o, List.foldl_append .., ?_⟩
    rw [List.foldl_cons, List.foldl_nil, hopenings, List.length_append, List.length_singleton,
      Nat.add_sub_cancel]
    exact ⟨hpending, List.getElem?_concat_length, hserves⟩
  | @exhausted before q e refused refuses =>
    refine ha.foldl_attempt hproper fun r hr => ?_
    rcases List.mem_append.1 hr with hr | hr
    · exact refused r hr
    · exact ⟨e, List.mem_singleton.1 hr ▸ refuses⟩
  | nobody => exact ha

/-- Connecting opens the candidates that it tries properly. -/
theorem opensProperly_of_tried {vendor product : Id} {bus : Bus} {tried rest : List Prospect}
    (hqs : m.prospects vendor product bus (List.range bus.devices.length) = tried ++ rest)
    (hafter : after.devices = tried.foldl m.afterTrying bus.devices) :
    ∀ q ∈ tried, OpensProperly m reset after q := by
  intro q hq hopen
  have hmem : q ∈ m.prospects vendor product bus (List.range bus.devices.length) :=
    hqs ▸ List.mem_append_left rest hq
  obtain ⟨hplace, -, hcandidate⟩ := Manager.mem_prospects_iff.1 hmem
  refine ⟨hopen, hcandidate.binding, fun hselects number hwanted => ?_⟩
  have hordered : (tried ++ rest).Pairwise fun a b => a.place < b.place :=
    hqs ▸ Manager.pairwise_prospects List.pairwise_lt_range
  have hdevice := Manager.getElem?_foldl_afterTrying_of_mem (m := m)
    (List.pairwise_append.1 hordered).1 hq (List.mem_range.1 hplace)
  change (after.device q.place).script.activeConfiguration = number
  rw [Bus.device, hafter, List.getD_eq_getElem?_getD, hdevice, Option.getD_some, Manager.attempted,
    hopen, Option.isSome_none, if_neg Bool.false_ne_true]
  exact m.configured_activeConfiguration hselects hwanted

end Annals

/-! ## Operations in the annals -/

namespace Annals

/-- The annals fit a world in which nothing happens during transfers. -/
structure Fits (a : Annals) (w : World) : Prop where
  sound : a.Sound w.slots none
  calm : w.Calm
  sorted : w.slots.Sorted

variable {a : Annals} {w : World}

theorem note_nil (handle : Option Nat) : a.note handle [] = a := by
  rw [note, List.map_nil, List.append_nil]

/-- When a session is let go of, its handle has had its life. -/
theorem Sound.letGo {slots slots' : Slots} {pending : Option Nat} (ha : a.Sound slots pending)
    {slot : String} {s : Session} (hs : Slots.get? slot slots = some s)
    (hempty : Slots.get? slot slots' = none)
    (hother : ∀ other, other ≠ slot → Slots.get? other slots' = Slots.get? other slots)
    (p : Clocked) :
    ∃ cs p', Does Entry.call? s.drop p () cs p' ∧
      (a.note (a.holder slot) (cs.map (s.device, ·))).Sound slots' pending := by
  obtain ⟨h, o, hh, ho, hserves⟩ := ha.held slot s hs
  obtain ⟨cs, p', hdoes, hlife⟩ := hserves.drop p
  -- The calls go to the handle that the slot remembers, and the slot is empty afterwards.
  refine ⟨cs, p', hdoes, ?_⟩
  rw [hh, hserves.device_eq]
  refine ha.visit hh ho hother (fun s' hs' => ?_) (fun _ => hlife)
  rw [hempty] at hs'
  cases hs'

/-- A session takes the place of another, which is let go of afterwards. -/
theorem Sound.replace {slots : Slots} {slot : String} {s old : Session} {o : Opening}
    (ha : a.Sound slots (some (a.openings.length - 1)))
    (ho : a.openings[a.openings.length - 1]? = some o)
    (hserves : Serves o (a.calls (a.openings.length - 1)) s)
    (hslot : Slots.get? slot slots = some old) (p : Clocked) :
    ∃ cs p', Does Entry.call? old.drop p () cs p' ∧
      ((a.note (a.holder slot) (cs.map (old.device, ·))).settle slot).Sound
        (Slots.set slot s slots) none := by
  obtain ⟨cs, p', hdoes, hsound⟩ := ha.letGo hslot (Slots.get?_erase_self slot slots)
    (fun other hne => Slots.get?_erase_of_ne hne slots) p
  -- The slot remembers another handle than the new one, whose calls are left alone.
  have hserves' : Serves o ((a.note (a.holder slot) (cs.map (old.device, ·))).calls
      (a.openings.length - 1)) s := by
    rw [calls_note, if_neg (fun h => (ha.known slot _ h).2 rfl), List.append_nil]
    exact hserves
  refine ⟨cs, p', hdoes, ?_⟩
  refine hsound.settle ho hserves' (Slots.get?_erase_self slot slots) fun other => ?_
  rw [Slots.get?_set, Slots.get?_erase]
  split <;> rfl

namespace Fits

/-- A session in a slot works with the handle of the slot, and goes on to do so. -/
theorem request (ha : a.Fits w) (slot : String) (r : Request) :
    (a.step w (.request slot r)).Fits ((World.step (.request slot r)).run w).state := by
  change Fits (a.note (a.holder slot) (Mark.calls ((World.step (.request slot r)).run w).trace)) _
  cases hslot : Slots.get? slot w.slots with
  | none =>
    have hstep : Does Mark.call? (World.step (.request slot r)) w .noSession [] w := by
      refine (Does.look _ _).bind_silent ?_
      rw [hslot]
      exact .pure _ _
    rw [Mark.calls_of_does hstep, hstep.state, note_nil]
    exact ha
  | some s =>
    -- Whatever is asked of the session, it goes on to work with the same handle.
    obtain ⟨h, o, hh, ho, hserves⟩ := ha.sound.held slot s hslot
    obtain ⟨reply, after, cs, p, hdoes, hafter⟩ :=
      hserves.perform r ⟨w.bus.device s.device, w.bus.now⟩
    have hstep := World.does_step_request hslot (Bus.hasInterludes_device ha.calm s.device) hdoes
    have hcalm := s.calm_perform r ⟨w.bus.device s.device, w.bus.now⟩
      (Bus.hasInterludes_device ha.calm s.device)
    rw [Mark.calls_of_does hstep, hstep.state, hh, hserves.device_eq]
    refine ⟨?_, Bus.hasInterludes_after ha.calm (hdoes.state ▸ hcalm), ha.sorted.set⟩
    refine ha.sound.visit hh ho (fun other hne => Slots.get?_set_of_ne hne ..) (fun s' hs' => ?_)
      (fun hnone => ?_)
    · rw [Slots.get?_set_self] at hs'
      cases hs'
      exact hafter
    · rw [Slots.get?_set_self] at hnone
      cases hnone

theorem drop (ha : a.Fits w) (slot : String) :
    (a.step w (.drop slot)).Fits ((World.step (.drop slot)).run w).state := by
  change Fits (a.note (a.holder slot) (Mark.calls ((World.step (.drop slot)).run w).trace)) _
  cases hslot : Slots.get? slot w.slots with
  | none =>
    have hstep : Does Mark.call? (World.step (.drop slot)) w (.dropped false) [] w := by
      refine (Does.look _ _).bind_silent ?_
      rw [hslot]
      exact .pure _ _
    rw [Mark.calls_of_does hstep, hstep.state, note_nil]
    exact ha
  | some s =>
    obtain ⟨cs, p, hdoes, hsound⟩ := ha.sound.letGo hslot (Slots.get?_erase_self slot w.slots)
      (fun other hne => Slots.get?_erase_of_ne hne w.slots) ⟨w.bus.device s.device, w.bus.now⟩
    have hstep : Does Mark.call? (World.step (.drop slot)) w (.dropped true)
        (cs.map (s.device, ·))
        { w with bus := w.bus.after s.device p, slots := Slots.erase slot w.slots } := by
      have hletGo := World.does_letGo (w := { w with slots := Slots.erase slot w.slots }) hdoes
      refine (Does.look _ _).bind_silent ?_
      rw [hslot]
      exact (Does.change _ _).bind_silent (hletGo.bind_pure (.pure _ _))
    have hcalm := s.calm_drop ⟨w.bus.device s.device, w.bus.now⟩
      (Bus.hasInterludes_device ha.calm s.device)
    rw [Mark.calls_of_does hstep, hstep.state]
    exact ⟨hsound, Bus.hasInterludes_after ha.calm (hdoes.state ▸ hcalm),
      ha.sorted.sublist (Slots.erase_sublist slot w.slots)⟩

/-- What makes no calls and leaves the sessions alone does not matter to any handle. -/
theorem quiet (ha : a.Fits w) {x : World.Happening Answer} {answer : Answer} {w' : World}
    (hx : Does Mark.call? x w answer [] w') (hslots : w'.slots = w.slots) (hcalm : w'.Calm) :
    (a.note none (Mark.calls (x.run w).trace)).Fits (x.run w).state := by
  rw [Mark.calls_of_does hx, hx.state, note_nil]
  exact ⟨hslots ▸ ha.sound, hcalm, hslots ▸ ha.sorted⟩

/-- Nothing happens during transfers after the candidates were tried. -/
theorem calm_after (ha : a.Fits w) {m : Manager} {vendor product : Id} {after : Bus}
    {tried rest : List Prospect}
    (hqs : m.prospects vendor product w.bus (List.range w.bus.devices.length) = tried ++ rest)
    (hafter : after.devices = tried.foldl m.afterTrying w.bus.devices) :
    ∀ d ∈ after.devices, d.hasInterludes = false := by
  rw [hafter]
  refine Manager.hasInterludes_foldl_afterTrying (fun q hq => ?_) ha.calm
  have hmem : q ∈ m.prospects vendor product w.bus (List.range w.bus.devices.length) :=
    hqs ▸ List.mem_append_left rest hq
  rw [(Manager.mem_prospects_iff.1 hmem).2.1]
  exact Bus.hasInterludes_device ha.calm q.place

/-- Connecting opens handles that have had their lives in the end, but for the one of the
    session. -/
theorem connect (ha : a.Fits w) (m : Manager) (slot : String) (vendor product : Id)
    (reset : Bool) :
    (a.connect w m slot vendor product reset).Fits
      ((World.connect m slot vendor product reset).run w).state ∧
    (a.connect w m slot vendor product reset).erased = a.erased ++
      Mark.calls ((World.connect m slot vendor product reset).run w).trace := by
  cases hlist : w.bus.listError with
  | some code =>
    have hdoes := m.does_connect_of_error vendor product reset hlist
    have hstep : Does Mark.call? (World.connect m slot vendor product reset) w _ [] w :=
      World.does_connect_of_error hdoes
    rw [Annals.connect, hdoes.value, hlist, hstep.state, Mark.calls_of_does hstep, List.append_nil]
    exact ⟨ha, rfl⟩
  | none =>
    rw [Annals.connect, hlist, Option.isSome_none, if_neg Bool.false_ne_true]
    obtain ⟨rest, hqs, hattempts⟩ := m.attempts (.notFound vendor product)
      (m.prospects vendor product w.bus (List.range w.bus.devices.length))
    have hdoes := m.does_connect vendor product reset hlist
    dsimp only at hdoes
    -- From here on it does not matter which candidates there are and where they come from.
    generalize m.verdict (.notFound vendor product)
      (m.prospects vendor product w.bus (List.range w.bus.devices.length)) = value
      at hattempts hdoes
    generalize m.tried (m.prospects vendor product w.bus (List.range w.bus.devices.length)) = tried
      at hqs hattempts hdoes ⊢
    obtain ⟨after, hdoes, hafter⟩ : ∃ after : Bus,
        Does Mark.call? (m.connect vendor product reset) w.bus value
          (tried.flatMap (m.callsAt reset)) after ∧
        after.devices = tried.foldl m.afterTrying w.bus.devices := ⟨_, hdoes, rfl⟩
    have hcalm := ha.calm_after hqs hafter
    have hproper : ∀ q ∈ tried, OpensProperly m reset after q := opensProperly_of_tried hqs hafter
    have hsound := ha.sound.attempts hattempts hproper
    rw [hdoes.value, hdoes.state]
    cases value with
    | error e =>
      have hstep : Does Mark.call? (World.connect m slot vendor product reset) w _ _ _ :=
        World.does_connect_of_error hdoes
      rw [hstep.state, Mark.calls_of_does hstep]
      exact ⟨⟨hsound, hcalm, ha.sorted⟩, erased_foldl_attempt⟩
    | ok s =>
      obtain ⟨a', o, ha', hpending, ho, hserves⟩ := hsound
      have herased : a'.erased = a.erased ++ tried.flatMap (m.callsAt reset) :=
        ha' ▸ erased_foldl_attempt
      cases hslot : Slots.get? slot w.slots with
      | none =>
        have hstep : Does Mark.call? (World.connect m slot vendor product reset) w _ _ _ :=
          World.does_connect_of_empty hdoes hslot
        rw [hstep.state, Mark.calls_of_does hstep, ha']
        refine ⟨⟨?_, hcalm, ha.sorted.set⟩, herased⟩
        exact hpending.settle ho hserves hslot fun other => Slots.get?_set ..
      | some old =>
        obtain ⟨ds, p, hdrop, hsound⟩ := hpending.replace ho hserves hslot
          ⟨after.device old.device, after.now⟩
        have hstep : Does Mark.call? (World.connect m slot vendor product reset) w _ _ _ :=
          World.does_connect_of_held hdoes hslot hdrop
        have hdevice := old.calm_drop ⟨after.device old.device, after.now⟩
          (Bus.hasInterludes_device hcalm old.device)
        rw [hstep.state, Mark.calls_of_does hstep, ha']
        dsimp only
        rw [Mark.calls_of_does (Bus.does_act hdrop)]
        refine ⟨⟨hsound, Bus.hasInterludes_after hcalm (hdrop.state ▸ hdevice), ha.sorted.set⟩, ?_⟩
        rw [← List.append_assoc, ← herased]
        exact erased_note _

/-- Every operation leaves annals that fit, with its calls written down. -/
theorem step (ha : a.Fits w) {op : Operation} (hop : op.plain = true) :
    (a.step w op).Fits ((World.step op).run w).state ∧
      (a.step w op).erased = a.erased ++ Mark.calls ((World.step op).run w).trace := by
  cases op with
  | connect slot vendor product reset =>
    cases hm : w.manager with
    | none =>
      have hstep : Does Mark.call? (World.step (.connect slot vendor product reset)) w
          .managerClosed [] w := by
        refine (Does.look _ _).bind_silent ?_
        rw [hm]
        exact .pure _ _
      simp only [Annals.step, hm]
      exact ⟨ha.quiet hstep rfl ha.calm, erased_note _⟩
    | some m =>
      have hrun : (World.step (.connect slot vendor product reset)).run w =
          (World.connect m slot vendor product reset).run w := by
        rw [World.step, Traced.run_bind, Traced.run_look, hm]
        rfl
      simp only [Annals.step, hm, hrun]
      exact ha.connect m slot vendor product reset
  | find vendor product =>
    obtain ⟨answer, hstep⟩ := w.does_find vendor product
    exact ⟨ha.quiet hstep rfl ha.calm.find, erased_note _⟩
  | request slot r => exact ⟨ha.request slot r, erased_note _⟩
  | drop slot => exact ⟨ha.drop slot, erased_note _⟩
  | script place changes =>
    have hcalm := ha.calm.modify place (f := fun d =>
      { d with script := changes.foldl Script.change d.script }) fun d hd => hd
    exact ⟨ha.quiet (World.does_changeDevice place _) rfl hcalm, erased_note _⟩
  | inbound place items =>
    have hcalm := ha.calm.modify place (f := fun d => { d with inbound := d.inbound ++ items })
      fun d hd => by
        obtain ⟨hin, hout⟩ := Bool.or_eq_false_iff.1 hd
        exact Bool.or_eq_false_iff.2 ⟨Queue.any_during_append hin hop, hout⟩
    exact ⟨ha.quiet (World.does_changeDevice place _) rfl hcalm, erased_note _⟩
  | outbound place items =>
    have hcalm := ha.calm.modify place (f := fun d => { d with outbound := d.outbound ++ items })
      fun d hd => by
        obtain ⟨hin, hout⟩ := Bool.or_eq_false_iff.1 hd
        exact Bool.or_eq_false_iff.2 ⟨hin, Queue.any_during_append hout hop⟩
    exact ⟨ha.quiet (World.does_changeDevice place _) rfl hcalm, erased_note _⟩
  | options => exact ⟨ha.quiet ((Does.look _ _).bind_silent (.pure _ _)) rfl ha.calm, erased_note _⟩
  | closeManager =>
    have hstep :
        Does Mark.call? (World.step .closeManager) w .done [] { w with manager := none } := by
      refine (Does.look _ _).bind_silent ?_
      cases w.manager with
      | none => exact (Does.change _ _).bind_silent (.pure _ _)
      | some m =>
        exact (World.does_onBus (Bus.does_log _)).bind_silent
          ((Does.change _ _).bind_silent (.pure _ _))
    exact ⟨ha.quiet hstep rfl ha.calm, erased_note _⟩

end Fits

/-! ## Scenarios in the annals -/

/-- When the sessions are let go of in the end, all handles have had their lives. -/
theorem Sound.finish {slots : Slots} (ha : a.Sound slots none) (hcalm : w.Calm)
    (hsorted : slots.Sorted) :
    (a.finish w slots).Sound [] none ∧
      (a.finish w slots).erased = a.erased ++
        Mark.calls ((World.letGoEach slots).run w).trace := by
  induction slots generalizing a w with
  | nil => exact ⟨ha, (List.append_nil _).symm⟩
  | cons x slots ih =>
    obtain ⟨name, s⟩ := x
    obtain ⟨hrest, hsorted⟩ := List.pairwise_cons.1 hsorted
    -- No slot further on has the name, so this one is empty for the rest.
    have hname : Slots.get? name slots = none :=
      Slots.get?_eq_none fun x hx => (ne_of_lt (hrest x hx)).symm
    obtain ⟨cs, p, hdoes, hsound⟩ := ha.letGo (if_pos rfl) hname
      (fun other hne => by rw [Slots.get?, if_neg hne.symm]) ⟨w.bus.device s.device, w.bus.now⟩
    have hletGo := World.does_letGo hdoes
    have hdevice := s.calm_drop ⟨w.bus.device s.device, w.bus.now⟩
      (Bus.hasInterludes_device hcalm s.device)
    have hcalm' : World.Calm { w with bus := w.bus.after s.device p } :=
      Bus.hasInterludes_after hcalm (hdoes.state ▸ hdevice)
    rw [Annals.finish, World.letGoEach, Traced.run_bind, Mark.calls_append,
      Mark.calls_of_does hletGo, hletGo.state]
    obtain ⟨hsound', herased⟩ := ih hsound hcalm' hsorted
    exact ⟨hsound', by rw [herased, erased_note, List.append_assoc]⟩

/-- A scenario leaves sound annals with its calls, and no session that still works. -/
theorem Fits.run (ha : a.Fits w) {ops : List Operation} (hops : ∀ op ∈ ops, op.plain = true) :
    (a.run w ops).Sound [] none ∧
      (a.run w ops).erased = a.erased ++ Mark.calls ((World.runs ops).run w).trace := by
  induction ops generalizing a w with
  | nil =>
    obtain ⟨hsound, herased⟩ := ha.sound.finish ha.calm ha.sorted
    refine ⟨hsound, herased.trans ?_⟩
    rw [World.runs, World.finish_eq, Traced.run_bind, Traced.run_bind]
    simp
  | cons op ops ih =>
    obtain ⟨hop, hops⟩ := List.forall_mem_cons.1 hops
    obtain ⟨hfits, herased⟩ := ha.step hop
    obtain ⟨hsound, herased'⟩ := ih hfits hops
    refine ⟨hsound, herased'.trans ?_⟩
    rw [herased, World.runs, Traced.run_bind, Mark.calls_append, List.append_assoc]

/-- Every handle of the annals has had a life. -/
structure Whole (a : Annals) : Prop where
  /-- The calls on a handle that was opened are one life. -/
  life : ∀ h o, a.openings[h]? = some o → Life o (a.calls h)
  /-- They go to the device that was opened. -/
  placed : ∀ d ∈ a.deeds, ∀ h, d.handle = some h →
    ∃ o, a.openings[h]? = some o ∧ d.place = o.place
  /-- All other calls are those that fail to open a handle. -/
  vain : ∀ d ∈ a.deeds, d.handle = none → d.call = .open
  proper : ∀ o ∈ a.openings, o.Proper
  /-- At every claim the wanted configuration is active: it is what the calls before the claim have
      selected, and the attempt has left the device with it. -/
  configured : ∀ h o before interface after number, a.openings[h]? = some o →
    a.calls h = before ++ .claim interface :: after →
    o.manager.options.configuration = some number →
    (before.foldl Script.after o.script).activeConfiguration = number ∧ o.active = number

theorem Sound.whole (ha : a.Sound [] none) : a.Whole := by
  have hlife (h : Nat) (o : Opening) (ho : a.openings[h]? = some o) : Life o (a.calls h) := by
    rcases ha.lives h o ho with hpending | ⟨slot, s, -, hs⟩ | hlife
    · cases hpending
    · cases hs
    · exact hlife
  refine ⟨hlife, ha.placed, ha.vain, ha.proper, ?_⟩
  intro h o before interface after number ho hclaim hwanted
  refine ⟨(hlife h o ho).activeConfiguration_of_claim hclaim hwanted, ?_⟩
  have hselects : o.manager.configurationError? o.script = none :=
    (hlife h o ho).selects_of_claim (hclaim ▸ List.mem_append_right before List.mem_cons_self)
  exact (ha.proper o (List.mem_of_getElem? ho)).configured hselects number hwanted

end Annals

/-- Every handle that is opened in a scenario without overlapping operations has one whole life. -/
theorem World.handle_lives (bus : Bus) (manager : Option Manager) (ops : List Operation)
    (hbus : ∀ d ∈ bus.devices, d.hasInterludes = false) (hops : ∀ op ∈ ops, op.plain = true) :
    (({} : Annals).run { bus, manager } ops).erased =
        Mark.calls ((runs ops).run { bus, manager }).trace ∧
      (({} : Annals).run { bus, manager } ops).Whole := by
  have hfits : ({} : Annals).Fits { bus, manager } := ⟨.start, hbus, List.Pairwise.nil⟩
  obtain ⟨hsound, herased⟩ := hfits.run hops
  exact ⟨herased, hsound.whole⟩

/-- A session that is replaced gives back what it holds, and so does its successor in the end. -/
theorem World.handle_lives_replaced :
    let endpoints := [.ofAddress 0x81 .bulk, .ofAddress 0x01 .bulk]
    let device : Device := {
      details := .ok { (default : Details) with vendor := ⟨0x0483⟩, product := ⟨0xa27e⟩ }
      layout := .ok ⟨1, [⟨0, 0, 255, endpoints⟩]⟩
      script := { kernelDriverActive := true, releaseError := some .io } }
    let bus : Bus := { devices := [device] }
    let manager : Manager := { options := { configuration := some 2 } }
    let ops : List Operation := [.connect "first" ⟨0x0483⟩ ⟨0xa27e⟩ true,
      .connect "first" ⟨0x0483⟩ ⟨0xa27e⟩ false, .request "first" (.close true)]
    let a := ({} : Annals).run { bus, manager := some manager } ops
    (∀ d ∈ bus.devices, d.hasInterludes = false) ∧ (∀ op ∈ ops, op.plain = true) ∧
      a.openings.length = 2 ∧
      a.calls 0 = [.open, .reset, .getConfiguration, .setConfiguration 2, .kernelDriverActive 0,
        .detach 0, .claim 0, .release 0, .attach 0, .close] ∧
      a.erased = Mark.calls ((runs ops).run { bus, manager := some manager }).trace ∧ a.Whole := by
  intro endpoints device bus manager ops a
  have hbus : ∀ d ∈ bus.devices, d.hasInterludes = false := by decide
  have hops : ∀ op ∈ ops, op.plain = true := by decide
  exact ⟨hbus, hops, by decide +kernel, by decide +kernel,
    handle_lives bus (some manager) ops hbus hops⟩

end UsbSession
