import Mathlib.Tactic.Common
import UsbSession.Scenario.World
import UsbSession.Proofs.Life.Opening

/-!
# Annals

Which handle each call of a scenario is made on. A trace tells the device of a call only, and a
device may have several handles, one after the other or at once. So the calls are written down in
annals (`Annals`), where every handle that is opened has a number, and every slot that a session is
put into remembers the number of its handle. Nothing in a scenario looks at its annals.

* `Annals.Sound`: what was written down for each handle is a life, or the session that works with
  the handle is in a slot and can still make a life of it.
-/

namespace UsbSession

/-- A call that was made. -/
structure Deed where
  /-- The number of the handle; a call that fails to open one has none. -/
  handle : Option Nat
  /-- The place of the device. -/
  place : Nat
  call : Call

/-- The calls of a scenario and the handles that they were made on. -/
structure Annals where
  /-- The openings of the handles, by number. -/
  openings : List Opening := []
  /-- The handle of the session that was put into a slot last. -/
  holder : String → Option Nat := fun _ => none
  /-- The calls, in order. -/
  deeds : List Deed := []

namespace Annals

/-! ## Writing down -/

/-- The calls on a handle. -/
def calls (a : Annals) (handle : Nat) : List Call :=
  (a.deeds.filter (·.handle == some handle)).map (·.call)

/-- Writes down calls on a handle. -/
def note (a : Annals) (handle : Option Nat) (cs : List (Nat × Call)) : Annals :=
  { a with deeds := a.deeds ++ cs.map fun c => ⟨handle, c.1, c.2⟩ }

/-- Writes down a handle that is opened, and the first calls on it. -/
def enroll (a : Annals) (o : Opening) (cs : List (Nat × Call)) : Annals :=
  { a.note (some a.openings.length) cs with openings := a.openings ++ [o] }

/-- Writes down an attempt to open a session on a candidate, after which the bus is `after`. -/
def attempt (m : Manager) (reset : Bool) (after : Bus) (a : Annals) (q : Prospect) : Annals :=
  if q.device.script.openError.isSome then a.note none (m.callsAt reset q)
  else
    a.enroll (q.opening m reset (after.device q.place).script.activeConfiguration)
      (m.callsAt reset q)

/-- The session of the latest handle is put into a slot. -/
def settle (a : Annals) (slot : String) : Annals :=
  { a with
    holder := fun other => if other = slot then some (a.openings.length - 1) else a.holder other }

/-- Writes down a connect: the attempts, and the end of the session that was in the slot. -/
def connect (a : Annals) (w : World) (m : Manager) (slot : String) (vendor product : Id)
    (reset : Bool) : Annals :=
  let o := (m.connect vendor product reset).run w.bus
  let prospects := m.prospects vendor product w.bus (List.range w.bus.devices.length)
  let attempts := if w.bus.listError.isSome then [] else m.tried prospects
  let tried := attempts.foldl (attempt m reset o.state) a
  match o.value, Slots.get? slot w.slots with
  | .error _, _ => tried
  | .ok _, none => tried.settle slot
  | .ok _, some old =>
    (tried.note (tried.holder slot)
      (Mark.calls ((Bus.act old.device old.drop).run o.state).trace)).settle slot

/-- Writes down an operation in a world. -/
def step (a : Annals) (w : World) (op : Operation) : Annals :=
  let cs := Mark.calls ((World.step op).run w).trace
  match op, w.manager with
  | .connect slot vendor product reset, some m => a.connect w m slot vendor product reset
  | .request slot _, _ | .drop slot, _ => a.note (a.holder slot) cs
  | _, _ => a.note none cs

/-- Writes down how the sessions in the slots are let go of. -/
def finish (a : Annals) (w : World) : Slots → Annals
  | [] => a
  | (name, s) :: slots =>
    let o := (World.letGo s).run w
    (a.note (a.holder name) (Mark.calls o.trace)).finish o.state slots

/-- Writes down operations one after the other, and the end. -/
def run (a : Annals) (w : World) : List Operation → Annals
  | [] => a.finish w w.slots
  | op :: ops => (a.step w op).run ((World.step op).run w).state ops

section Calls

variable (a : Annals) (cs : List (Nat × Call)) (handle : Option Nat) (h : Nat)

@[simp] theorem note_openings : (a.note handle cs).openings = a.openings := rfl

theorem calls_note :
    (a.note handle cs).calls h = a.calls h ++ if handle = some h then cs.map (·.2) else [] := by
  rw [calls, calls, note, List.filter_append, List.map_append, List.filter_map]
  by_cases hh : handle = some h
  · simp [hh, Function.comp_def]
  · simp [hh, Function.comp_def]

theorem calls_enroll (o : Opening) : (a.enroll o cs).calls h =
    a.calls h ++ if a.openings.length = h then cs.map (·.2) else [] := by
  have hnote := a.calls_note cs (some a.openings.length) h
  simp only [Option.some.injEq] at hnote
  exact hnote

theorem map_snd_map (place : Nat) (calls : List Call) :
    (calls.map (place, ·)).map (·.2) = calls := by
  rw [List.map_map]
  exact List.map_id _

variable {a cs handle}

theorem mem_deeds_note {d : Deed} :
    d ∈ (a.note handle cs).deeds ↔ d ∈ a.deeds ∨ ∃ c ∈ cs, d = ⟨handle, c.1, c.2⟩ := by
  simp only [note, List.mem_append, List.mem_map, eq_comm]

end Calls

/-! ## Sound annals -/

/-- The annals agree with the sessions in the slots. The session of the handle `pending`, if there
    is one, is about to be put into a slot. -/
structure Sound (a : Annals) (slots : Slots) (pending : Option Nat) : Prop where
  /-- The session in a slot works with the handle that the slot remembers. -/
  held : ∀ slot s, Slots.get? slot slots = some s → ∃ h o, a.holder slot = some h ∧
    a.openings[h]? = some o ∧ Serves o (a.calls h) s
  /-- No two slots remember one handle. -/
  apart : ∀ slot slot' h, a.holder slot = some h → a.holder slot' = some h → slot = slot'
  /-- A handle that is remembered was opened, and is not the pending one. -/
  known : ∀ slot h, a.holder slot = some h → h < a.openings.length ∧ pending ≠ some h
  /-- A handle that no session works with any more has had its life. -/
  lives : ∀ h o, a.openings[h]? = some o → pending = some h ∨
    (∃ slot s, a.holder slot = some h ∧ Slots.get? slot slots = some s) ∨ Life o (a.calls h)
  /-- The calls on a handle go to the device that it was opened on. -/
  placed : ∀ d ∈ a.deeds, ∀ h, d.handle = some h →
    ∃ o, a.openings[h]? = some o ∧ d.place = o.place
  /-- What is done without a handle is opening one, in vain. -/
  vain : ∀ d ∈ a.deeds, d.handle = none → d.call = .open
  proper : ∀ o ∈ a.openings, o.Proper

namespace Sound

variable {a : Annals} {slots slots' : Slots} {pending : Option Nat} {cs : List (Nat × Call)}
  {h : Nat} {o : Opening}

/-- In the beginning there is nothing to write down. -/
theorem start : Sound {} [] none where
  held slot s hs := by cases hs
  apart slot slot' h hh := by cases hh
  known slot h hh := by cases hh
  lives h o ho := by cases ho
  placed d hd := by cases hd
  vain d hd := by cases hd
  proper o ho := by cases ho

/-- An open call that fails does not matter to any handle. -/
theorem note_none (ha : a.Sound slots pending) (hcs : ∀ c ∈ cs, c.2 = .open) :
    (a.note none cs).Sound slots pending where
  held slot s hs := by
    obtain ⟨h, o, hh, ho, hserves⟩ := ha.held slot s hs
    refine ⟨h, o, hh, ho, ?_⟩
    rwa [calls_note, if_neg nofun, List.append_nil]
  apart := ha.apart
  known := ha.known
  lives h o ho := by
    rw [calls_note, if_neg nofun, List.append_nil]
    exact ha.lives h o ho
  placed d hd h hh := by
    rcases mem_deeds_note.1 hd with hd | ⟨c, -, rfl⟩
    · exact ha.placed d hd h hh
    · cases hh
  vain d hd hnone := by
    rcases mem_deeds_note.1 hd with hd | ⟨c, hc, rfl⟩
    · exact ha.vain d hd hnone
    · exact hcs c hc
  proper := ha.proper

/-- The session in a slot makes calls on its handle; the slot is empty afterwards only if the handle
    has had its life then. -/
theorem visit (ha : a.Sound slots pending) {slot : String} (hh : a.holder slot = some h)
    (ho : a.openings[h]? = some o) {calls : List Call}
    (hother : ∀ other, other ≠ slot → Slots.get? other slots' = Slots.get? other slots)
    (hserves : ∀ s, Slots.get? slot slots' = some s → Serves o (a.calls h ++ calls) s)
    (hlife : Slots.get? slot slots' = none → Life o (a.calls h ++ calls)) :
    (a.note (some h) (calls.map (o.place, ·))).Sound slots' pending where
  held other s hs := by
    by_cases heq : other = slot
    · subst heq
      refine ⟨h, o, hh, ho, ?_⟩
      rw [calls_note, if_pos rfl, map_snd_map]
      exact hserves s hs
    · -- Another slot remembers another handle, which these calls are not made on.
      obtain ⟨h', o', hh', ho', hserves'⟩ := ha.held other s (hother other heq ▸ hs)
      have hne : ¬(some h = some h') := fun he => by
        cases he
        exact heq (ha.apart other slot h hh' hh)
      refine ⟨h', o', hh', ho', ?_⟩
      rwa [calls_note, if_neg hne, List.append_nil]
  apart := ha.apart
  known := ha.known
  lives h' o' ho' := by
    by_cases hne : h = h'
    · subst hne
      rw [note_openings, ho] at ho'
      cases ho'
      rw [calls_note, if_pos rfl, map_snd_map]
      -- The handle goes on to be worked with, or this was the end of its life.
      refine .inr ?_
      cases hs : Slots.get? slot slots' with
      | none => exact .inr (hlife hs)
      | some s => exact .inl ⟨slot, s, hh, hs⟩
    · rw [calls_note, if_neg (fun he => hne (Option.some.inj he)), List.append_nil]
      refine (ha.lives h' o' ho').imp_right (Or.imp_left ?_)
      rintro ⟨other, s, hother', hs⟩
      have heq : other ≠ slot := fun he => by
        subst he
        exact hne (Option.some.inj (hh.symm.trans hother'))
      exact ⟨other, s, hother', (hother other heq).trans hs⟩
  placed d hd h' hh' := by
    rcases mem_deeds_note.1 hd with hd | ⟨c, hc, rfl⟩
    · exact ha.placed d hd h' hh'
    · obtain ⟨call, -, rfl⟩ := List.mem_map.1 hc
      cases hh'
      exact ⟨o, ho, rfl⟩
  vain d hd hnone := by
    rcases mem_deeds_note.1 hd with hd | ⟨c, -, rfl⟩
    · exact ha.vain d hd hnone
    · cases hnone
  proper := ha.proper

/-- Nothing was done yet on a handle that is not opened yet. -/
theorem calls_length (ha : a.Sound slots pending) : a.calls a.openings.length = [] := by
  rw [calls, List.map_eq_nil_iff, List.filter_eq_nil_iff]
  intro d hd hhandle
  -- Its number is beyond those of the handles that were opened.
  obtain ⟨o, ho, -⟩ := ha.placed d hd _ (by simpa using hhandle)
  rw [List.getElem?_eq_none (Nat.le_refl _)] at ho
  cases ho

/-- A handle is opened. -/
theorem enroll (ha : a.Sound slots none) (hplace : ∀ c ∈ cs, c.1 = o.place)
    (hlife : pending = some a.openings.length ∨ pending = none ∧ Life o (cs.map (·.2)))
    (hproper : o.Proper) :
    (a.enroll o cs).Sound slots pending where
  held slot s hs := by
    obtain ⟨h, o', hh, ho', hserves⟩ := ha.held slot s hs
    have hlt := (ha.known slot h hh).1
    refine ⟨h, o', hh, (List.getElem?_append_left hlt).trans ho', ?_⟩
    rwa [calls_enroll, if_neg (Nat.ne_of_gt hlt), List.append_nil]
  apart := ha.apart
  known slot h hh := by
    have hlt := (ha.known slot h hh).1
    refine ⟨?_, fun hpending => ?_⟩
    · exact Nat.lt_of_lt_of_le hlt (by simp [Annals.enroll])
    · rcases hlife with hlast | ⟨hnone, -⟩
      · rw [hlast] at hpending
        exact Nat.ne_of_gt hlt (Option.some.inj hpending)
      · rw [hnone] at hpending
        cases hpending
  lives h o' ho' := by
    rw [calls_enroll]
    -- The handle is the new one, or it was there before and nothing was done on it.
    by_cases hnew : a.openings.length = h
    · subst hnew
      rw [Annals.enroll, List.getElem?_concat_length] at ho'
      cases ho'
      rw [if_pos rfl, ha.calls_length, List.nil_append]
      exact hlife.imp_right fun hlife => .inr hlife.2
    · have hlt : h < a.openings.length := by
        have := (List.getElem?_eq_some_iff.1 ho').1
        simp only [Annals.enroll, List.length_append, List.length_singleton] at this
        omega
      rw [Annals.enroll, List.getElem?_append_left hlt] at ho'
      rw [if_neg hnew, List.append_nil]
      rcases ha.lives h o' ho' with hnone | hlives
      · cases hnone
      · exact .inr hlives
  placed d hd h hh := by
    rcases mem_deeds_note.1 hd with hd | ⟨c, hc, rfl⟩
    · obtain ⟨o', ho', hd⟩ := ha.placed d hd h hh
      refine ⟨o', ?_, hd⟩
      exact (List.getElem?_append_left (List.getElem?_eq_some_iff.1 ho').1).trans ho'
    · cases hh
      exact ⟨o, List.getElem?_concat_length, hplace c hc⟩
  vain d hd hnone := by
    rcases mem_deeds_note.1 hd with hd | ⟨c, -, rfl⟩
    · exact ha.vain d hd hnone
    · cases hnone
  proper o' ho' := by
    rcases List.mem_append.1 ho' with ho' | ho'
    · exact ha.proper o' ho'
    · rw [List.mem_singleton.1 ho']
      exact hproper

/-- The session of the pending handle is put into a slot that is empty. -/
theorem settle (ha : a.Sound slots (some (a.openings.length - 1))) {slot : String} {s : Session}
    (ho : a.openings[a.openings.length - 1]? = some o)
    (hserves : Serves o (a.calls (a.openings.length - 1)) s) (hempty : Slots.get? slot slots = none)
    (hslots : ∀ other, Slots.get? other slots' =
      if slot = other then some s else Slots.get? other slots) :
    (a.settle slot).Sound slots' none where
  held other s' hs' := by
    rw [hslots] at hs'
    split at hs'
    · rename_i heq
      cases hs'
      exact ⟨_, o, if_pos heq.symm, ho, hserves⟩
    · rename_i hne
      obtain ⟨h, o', hh, ho', hserves'⟩ := ha.held other s' hs'
      exact ⟨h, o', (if_neg (Ne.symm hne)).trans hh, ho', hserves'⟩
  apart other other' h hh hh' := by
    simp only [Annals.settle] at hh hh'
    -- The pending handle was not remembered by any slot so far.
    split at hh <;> split at hh'
    · rename_i heq heq'
      exact heq.trans heq'.symm
    · cases hh
      exact absurd rfl (ha.known other' _ hh').2
    · cases hh'
      exact absurd rfl (ha.known other _ hh).2
    · exact ha.apart other other' h hh hh'
  known other h hh := by
    simp only [Annals.settle] at hh
    refine ⟨?_, nofun⟩
    split at hh
    · cases hh
      exact (List.getElem?_eq_some_iff.1 ho).1
    · exact (ha.known other h hh).1
  lives h o' ho' := by
    refine .inr ?_
    rcases ha.lives h o' ho' with hpending | ⟨other, s', hh, hs'⟩ | hlife
    · cases hpending
      exact .inl ⟨slot, s, if_pos rfl, (hslots slot).trans (if_pos rfl)⟩
    · -- The session cannot have been in this slot, since that was empty.
      have hne : slot ≠ other := fun heq => by
        rw [← heq, hempty] at hs'
        cases hs'
      exact .inl ⟨other, s', (if_neg hne.symm).trans hh, (hslots other).trans (if_neg hne ▸ hs')⟩
    · exact .inr hlife
  placed := ha.placed
  vain := ha.vain
  proper := ha.proper

end Sound

end Annals

end UsbSession
