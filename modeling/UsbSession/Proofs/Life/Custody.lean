import Mathlib.Data.List.Basic
import UsbSession.Proofs.Life.Cycle

/-!
# Custody of kernel drivers

A handle on which a kernel driver was taken off the interface, or may have been, has to give it back
(`Opening.Owned`). Whether it has to is settled before the claim; it is done after a claim that
fails, or when the session is torn down, however long after that is and whatever ends the session.

All calls about the driver are those before the claim and the one that gives it back, if there is
one (`Opening.filter_course`), and that comes right before the handle is closed
(`Opening.eq_of_attach`).

* `Life.custody`: what a life has to do with the driver;
* `World.driver_custody`: all handles of a scenario without overlapping operations keep to that.
-/

namespace UsbSession

/-- The interface that a call about a kernel driver names. -/
def Call.driver? : Call → Option UInt8
  | kernelDriverActive i | detach i | attach i => some i
  | _ => none

/-- The call has nothing to do with drivers, nor with the claim or the end of the handle. -/
def Call.Apart (c : Call) : Prop := c.driver? = none ∧ c ≠ .close ∧ ∀ i, c ≠ .claim i

namespace Opening

variable (o : Opening)

/-! ## Answers -/

/-- What the host answers when it is asked for the kernel driver. -/
def driverAnswer : Except Failure Bool :=
  ((Act.kernelDriverActive o.interface).run ⟨o.device, 0⟩).value

/-- What the host answers when it is to detach the kernel driver. -/
def detachAnswer : Except Failure Unit := ((Act.detach o.interface).run ⟨o.device, 0⟩).value

/-- What the host answers when it is to claim the interface. -/
def claimAnswer : Except Failure Unit := ((Act.claim o.interface).run ⟨o.device, 0⟩).value

/-- The handle has to give the kernel driver back: there was one when it was asked for, or it is
    unknown whether there was and detaching it worked. -/
def Owned (calls : List Call) : Prop :=
  o.manager.canDetach = true ∧ .kernelDriverActive o.interface ∈ calls ∧
    (o.driverAnswer = .ok true ∨
      (∃ code, o.driverAnswer = .error code) ∧ .detach o.interface ∈ calls ∧
        o.detachAnswer = .ok ())

theorem claimAnswer_eq : o.claimAnswer = answering o.script.claimError () := rfl

/-- The driver is detached unless the answer is that there is none. -/
theorem driverCalls_eq (h : o.manager.canDetach = true) :
    o.manager.driverCalls o.script o.interface = .kernelDriverActive o.interface ::
      if o.driverAnswer = .ok false then [] else [.detach o.interface] := by
  have hanswer : o.driverAnswer =
      answering o.script.kernelDriverError o.script.kernelDriverActive := rfl
  rw [hanswer, Manager.driverCalls, if_pos h]
  cases o.script.kernelDriverError <;> cases o.script.kernelDriverActive <;> rfl

theorem driverCalls_eq_nil (h : o.manager.canDetach = false) :
    o.manager.driverCalls o.script o.interface = [] := by
  rw [Manager.driverCalls, h]
  rfl

/-- What the manager finds out about the driver is what has to be done in the end. -/
theorem owned_iff {calls : List Call}
    (h : ∀ c ∈ o.manager.driverCalls o.script o.interface, c ∈ calls) :
    o.Owned calls ↔ o.manager.owesDriver o.script = true := by
  have hanswer : o.driverAnswer =
      answering o.script.kernelDriverError o.script.kernelDriverActive := rfl
  have hdetach : o.detachAnswer = answering o.script.detachError () := rfl
  rw [Owned, Manager.owesDriver, Bool.and_eq_true]
  refine and_congr_right fun hcan => ?_
  rw [o.driverCalls_eq hcan, hanswer] at h
  obtain ⟨hasked, hdetached⟩ := List.forall_mem_cons.1 h
  rw [hanswer, hdetach]
  cases herror : o.script.kernelDriverError with
  | none => simp [hasked, answering]
  | some code =>
    -- The driver was detached, since the answer was not that there is none.
    have hmem : .detach o.interface ∈ calls := by
      refine hdetached _ ?_
      rw [herror]
      exact List.mem_singleton_self _
    cases o.script.detachError <;> simp [hasked, hmem, answering]

end Opening

/-! ## Lives -/

/-- What a life of a handle has to do with the kernel driver of its interface. -/
structure Custody (o : Opening) (calls : List Call) : Prop where
  /-- Where drivers are not to be detached, they are left alone. -/
  spared : o.manager.canDetach = false → ∀ c ∈ calls, c.driver? = none
  /-- Otherwise a handle that gets as far as the claim asks for the driver once, and detaches it
      once unless there is none. -/
  detached : o.manager.canDetach = true → ∀ i, .claim i ∈ calls →
    calls.count (.kernelDriverActive i) = 1 ∧
      calls.count (.detach i) = if o.driverAnswer = .ok false then 0 else 1
  /-- A driver that has to be given back is given back once. -/
  returned : o.Owned calls → calls.count (.attach o.interface) = 1
  /-- No other is. -/
  foreign : ¬o.Owned calls → ∀ i, .attach i ∉ calls
  /-- All calls about the driver name the interface that is claimed. -/
  named : ∀ c ∈ calls, ∀ i, c.driver? = some i → i = o.interface ∧ .claim i ∈ calls
  /-- There is one such interface. -/
  claimed : ∀ i, .claim i ∈ calls → i = o.interface
  /-- The driver is given back after the claim that fails, or after the release, and before the
      handle is closed. -/
  ordered : ∀ before after i, calls = before ++ .attach i :: after →
    ((∃ code, o.claimAnswer = .error code) → .claim i ∈ before) ∧
      (o.claimAnswer = .ok () → .release i ∈ before) ∧ .close ∉ before ∧ .close ∈ after

namespace Opening

variable (o : Opening)

theorem apart_of_mem_prelude {c : Call} (h : c ∈ o.prelude) : c.Apart := by
  revert c
  rw [prelude, Manager.configurationCalls]
  cases o.reset <;> cases o.manager.options.configuration <;> simp [Call.Apart, Call.driver?]

theorem of_mem_driverCalls {c : Call} (h : c ∈ o.manager.driverCalls o.script o.interface) :
    c.driver? = some o.interface ∧ c ≠ .close ∧ ∀ i, c ≠ .attach i ∧ c ≠ .claim i := by
  cases hcan : o.manager.canDetach with
  | false =>
    rw [o.driverCalls_eq_nil hcan] at h
    cases h
  | true =>
    rw [o.driverCalls_eq hcan] at h
    rcases List.mem_cons.1 h with rfl | h
    · exact ⟨rfl, nofun, fun i => ⟨nofun, nofun⟩⟩
    · split at h
      · cases h
      · rw [List.mem_singleton.1 h]
        exact ⟨rfl, nofun, fun i => ⟨nofun, nofun⟩⟩

theorem mem_restore_iff {c : Call} :
    c ∈ o.restore ↔ o.manager.owesDriver o.script = true ∧ c = .attach o.interface := by
  rw [restore, Manager.restoreCalls]
  split <;> simp [*]

/-- The calls of a life that gets as far as the claim. -/
def course (middle : List Call) : List Call := o.approach ++ middle ++ o.restore ++ [.close]

section Course

variable {o} {middle : List Call} (hmiddle : ∀ c ∈ middle, c.Apart)

include hmiddle

/-- The calls about the driver are those that take it off the interface and give it back. -/
theorem filter_course :
    (o.course middle).filter (fun c => c.driver?.isSome) =
      o.manager.driverCalls o.script o.interface ++ o.restore := by
  have hnone {cs : List Call} (h : ∀ c ∈ cs, c.driver? = none) :
      cs.filter (fun c => c.driver?.isSome) = [] :=
    List.filter_eq_nil_iff.2 fun c hc => by simp [h c hc]
  have hdriver : (o.manager.driverCalls o.script o.interface).filter (fun c => c.driver?.isSome) =
      o.manager.driverCalls o.script o.interface :=
    List.filter_eq_self.2 fun c hc => by simp [(o.of_mem_driverCalls hc).1]
  have hrestore : o.restore.filter (fun c => c.driver?.isSome) = o.restore :=
    List.filter_eq_self.2 fun c hc => by rw [(o.mem_restore_iff.1 hc).2]; rfl
  have hclaim : [Call.claim o.interface].filter (fun c => c.driver?.isSome) = [] :=
    hnone (List.forall_mem_singleton.2 rfl)
  have hclose : [Call.close].filter (fun c => c.driver?.isSome) = [] :=
    hnone (List.forall_mem_singleton.2 rfl)
  simp only [course, approach, List.filter_append, hdriver, hrestore, hclaim, hclose,
    hnone fun c hc => (o.apart_of_mem_prelude hc).1, hnone fun c hc => (hmiddle c hc).1,
    List.nil_append, List.append_nil]

theorem count_course {c : Call} (hc : c.driver?.isSome = true) :
    (o.course middle).count c =
      (o.manager.driverCalls o.script o.interface).count c + o.restore.count c := by
  rw [← List.count_append, ← filter_course hmiddle,
    List.count_filter (p := fun c : Call => c.driver?.isSome) hc]

theorem mem_course {c : Call} (hc : c.driver?.isSome = true) :
    c ∈ o.course middle ↔
      c ∈ o.manager.driverCalls o.script o.interface ∨ c ∈ o.restore := by
  rw [← List.mem_append, ← filter_course hmiddle, List.mem_filter, and_iff_left hc]

/-- Ahead of the return of the driver there is neither another return nor the close. -/
theorem ahead {c : Call} (hc : c ∈ o.approach ++ middle) : c ≠ .close ∧ ∀ i, c ≠ .attach i := by
  have hapart (h : c.Apart) : c ≠ .close ∧ ∀ i, c ≠ .attach i :=
    ⟨h.2.1, fun i hi => absurd (hi ▸ h.1 : (Call.attach i).driver? = none) (Option.some_ne_none _)⟩
  simp only [approach, List.mem_append, List.mem_singleton] at hc
  rcases hc with ((hc | hc) | rfl) | hc
  · exact hapart (o.apart_of_mem_prelude hc)
  · exact ⟨(o.of_mem_driverCalls hc).2.1, fun i => ((o.of_mem_driverCalls hc).2.2 i).1⟩
  · refine ⟨fun h => ?_, fun i h => ?_⟩ <;> cases h
  · exact hapart (hmiddle c hc)

/-- The driver is given back right before the close, and nowhere else. -/
theorem eq_of_attach {before after : List Call} {i : UInt8}
    (h : o.course middle = before ++ .attach i :: after) :
    i = o.interface ∧ o.approach ++ middle = before ∧ [.close] = after := by
  have hahead : .attach i ∉ o.approach ++ middle := fun hc => (ahead hmiddle hc).2 i rfl
  obtain ⟨hrestore, hi⟩ : o.restore = [.attach i] ∧ i = o.interface := by
    have hmem : .attach i ∈ o.course middle := h ▸ List.mem_append_right _ List.mem_cons_self
    rw [course, List.mem_append, List.mem_append] at hmem
    rcases hmem with (hmem | hmem) | hmem
    · exact absurd hmem hahead
    · obtain ⟨howes, hi⟩ := o.mem_restore_iff.1 hmem
      rw [restore, Manager.restoreCalls, if_pos howes, hi]
      exact ⟨rfl, Call.attach.inj hi⟩
    · cases List.mem_singleton.1 hmem
  rw [course, hrestore, List.append_assoc _ [_], List.singleton_append,
    List.append_cons_inj_of_notMem hahead (by simp)] at h
  exact ⟨hi, h.1, h.2.2⟩

/-- What is claimed is the interface. -/
theorem eq_of_claim {i : UInt8} (h : .claim i ∈ o.course middle) : i = o.interface := by
  simp only [course, approach, List.mem_append, List.mem_singleton] at h
  rcases h with ((((h | h) | h) | h) | h) | h
  · exact absurd rfl ((o.apart_of_mem_prelude h).2.2 i)
  · exact absurd rfl ((o.of_mem_driverCalls h).2.2 i).2
  · exact Call.claim.inj h
  · exact absurd rfl ((hmiddle _ h).2.2 i)
  · cases (o.mem_restore_iff.1 h).2
  · cases h

/-- All calls about the driver are about the one of the interface. -/
theorem eq_of_driver {c : Call} {i : UInt8} (hc : c ∈ o.course middle) (hi : c.driver? = some i) :
    i = o.interface := by
  rcases (mem_course hmiddle (by rw [hi]; rfl)).1 hc with h | h
  · rw [(o.of_mem_driverCalls h).1] at hi
    exact (Option.some.inj hi).symm
  · rw [(o.mem_restore_iff.1 h).2] at hi
    exact (Option.some.inj hi).symm

/-- The driver is asked for once, and detached unless there is none. -/
theorem count_driverCalls (hcan : o.manager.canDetach = true) :
    (o.course middle).count (.kernelDriverActive o.interface) = 1 ∧
      (o.course middle).count (.detach o.interface) =
        if o.driverAnswer = .ok false then 0 else 1 := by
  have hrestore : o.restore.count (.kernelDriverActive o.interface) = 0 ∧
      o.restore.count (.detach o.interface) = 0 := by
    constructor <;> refine List.count_eq_zero.2 fun h => ?_ <;> cases (o.mem_restore_iff.1 h).2
  rw [count_course hmiddle rfl, count_course hmiddle rfl, hrestore.1, hrestore.2,
    o.driverCalls_eq hcan]
  split <;> simp

theorem custody_course (hrelease : o.claimAnswer = .ok () → .release o.interface ∈ middle) :
    Custody o (o.course middle) := by
  have hattach (i : UInt8) : .attach i ∉ o.manager.driverCalls o.script o.interface := fun h =>
    ((o.of_mem_driverCalls h).2.2 i).1 rfl
  have howned : o.Owned (o.course middle) ↔ o.manager.owesDriver o.script = true :=
    o.owned_iff fun c hc => by simp [course, approach, hc]
  exact {
    spared := fun hcan c hc => by
      by_contra hsome
      rw [← Ne, ← Option.isSome_iff_ne_none] at hsome
      rcases (mem_course hmiddle hsome).1 hc with h | h
      · rw [o.driverCalls_eq_nil hcan] at h
        cases h
      · have := (o.mem_restore_iff.1 h).1
        simp [Manager.owesDriver, hcan] at this
    detached := fun hcan i hi => by
      obtain rfl := eq_of_claim hmiddle hi
      exact count_driverCalls hmiddle hcan
    returned := fun h => by
      rw [count_course hmiddle rfl, List.count_eq_zero.2 (hattach _), restore,
        Manager.restoreCalls, if_pos (howned.1 h)]
      simp
    foreign := fun h i hi => by
      rcases (mem_course hmiddle rfl).1 hi with hi | hi
      · exact hattach i hi
      · exact h (howned.2 (o.mem_restore_iff.1 hi).1)
    named := fun c hc i hi => by
      obtain rfl := eq_of_driver hmiddle hc hi
      exact ⟨rfl, by simp [course, approach]⟩
    claimed := fun i hi => eq_of_claim hmiddle hi
    ordered := fun before after i h => by
      obtain ⟨rfl, rfl, rfl⟩ := eq_of_attach hmiddle h
      have hclose : .close ∉ o.approach ++ middle := fun hc => (ahead hmiddle hc).1 rfl
      refine ⟨fun _ => by simp [approach], fun hok => ?_, hclose, List.mem_singleton_self _⟩
      exact List.mem_append_right _ (hrelease hok) }

end Course

end Opening

namespace Life

variable {o : Opening} {calls : List Call}

theorem apart_of_moved {transfers quiescing : List Call}
    (moved : ∀ c ∈ transfers, ∃ d, o.session.IsTransfer d c)
    (quiesced : quiescing = [] ∨
      ∃ reads, quiescing = .cancel :: List.replicate reads o.session.drainCall) {c : Call}
    (hc : c ∈ transfers ++ quiescing) : c.Apart := by
  rcases List.mem_append.1 hc with hc | hc
  · obtain ⟨d, t, timeout, again, -, rfl⟩ := moved c hc
    exact ⟨rfl, nofun, nofun⟩
  · rcases quiesced with rfl | ⟨reads, rfl⟩
    · cases hc
    · rcases List.mem_cons.1 hc with rfl | hc
      · exact ⟨rfl, nofun, nofun⟩
      · rw [(List.mem_replicate.1 hc).2]
        exact ⟨rfl, nofun, nofun⟩

/-- A handle is closed after the prelude, or it gets as far as the claim. -/
theorem course_of_life (h : Life o calls) : calls = o.prelude ++ [.close] ∨
    ∃ middle, calls = o.course middle ∧ (∀ c ∈ middle, c.Apart) ∧
      (o.claimAnswer = .ok () → .release o.interface ∈ middle) := by
  cases h with
  | refused => exact .inl rfl
  | unclaimed _ refuses =>
    refine .inr ⟨[], by rw [Opening.course, List.append_nil], List.forall_mem_nil _, fun h => ?_⟩
    rw [Opening.claimAnswer_eq, refuses] at h
    cases h
  | @used transfers quiescing _ _ moved quiesced =>
    refine .inr ⟨transfers ++ quiescing ++ [.release o.interface], ?_, fun c hc => ?_, fun _ => ?_⟩
    · simp [Opening.course]
    · rcases List.mem_append.1 hc with hc | hc
      · exact apart_of_moved moved quiesced hc
      · rw [List.mem_singleton.1 hc]
        exact ⟨rfl, nofun, nofun⟩
    · simp

theorem custody (h : Life o calls) : Custody o calls := by
  rcases h.course_of_life with rfl | ⟨middle, rfl, hmiddle, hrelease⟩
  · -- There are neither calls about the driver nor a claim.
    have hnone : ∀ c ∈ o.prelude ++ [.close], c.driver? = none ∧ ∀ i, c ≠ .claim i := by
      intro c hc
      rcases List.mem_append.1 hc with hc | hc
      · exact ⟨(o.apart_of_mem_prelude hc).1, (o.apart_of_mem_prelude hc).2.2⟩
      · rw [List.mem_singleton.1 hc]
        exact ⟨rfl, nofun⟩
    exact {
      spared := fun _ c hc => (hnone c hc).1
      detached := fun _ i hi => absurd rfl ((hnone _ hi).2 i)
      returned := fun howned => absurd (hnone _ howned.2.1).1 nofun
      foreign := fun _ i hi => absurd (hnone _ hi).1 nofun
      named := fun c hc i hi => absurd ((hnone c hc).1.symm.trans hi) nofun
      claimed := fun i hi => absurd rfl ((hnone _ hi).2 i)
      ordered := fun before after i hcalls =>
        absurd (hnone (.attach i) (hcalls ▸ List.mem_append_right _ List.mem_cons_self)).1 nofun }
  · exact Opening.custody_course hmiddle hrelease

end Life

/-! ## Scenarios -/

/-- The calls about kernel drivers that are written down. -/
structure Annals.Careful (a : Annals) : Prop where
  /-- They are made on handles that were opened, and go to the devices of these. -/
  held : ∀ d ∈ a.deeds, d.call.driver?.isSome = true →
    ∃ h o, d.handle = some h ∧ a.openings[h]? = some o ∧ d.place = o.place
  /-- Each handle has done with its driver what it had to. -/
  custody : ∀ h o, a.openings[h]? = some o → Custody o (a.calls h)

theorem Annals.Whole.careful {a : Annals} (ha : a.Whole) : a.Careful where
  held d hd hdriver := by
    cases hh : d.handle with
    | none =>
      rw [ha.vain d hd hh] at hdriver
      cases hdriver
    | some h =>
      obtain ⟨o, ho, hplace⟩ := ha.placed d hd h hh
      exact ⟨h, o, rfl, ho, hplace⟩
  custody h o ho := (ha.life h o ho).custody

/-- In a scenario without overlapping operations every kernel driver that a handle has to give back
    is given back once, and no other is. -/
theorem World.driver_custody (bus : Bus) (manager : Option Manager) (ops : List Operation)
    (hbus : ∀ d ∈ bus.devices, d.hasInterludes = false) (hops : ∀ op ∈ ops, op.plain = true) :
    (({} : Annals).run { bus, manager } ops).erased =
        Mark.calls ((runs ops).run { bus, manager }).trace ∧
      (({} : Annals).run { bus, manager } ops).Careful := by
  have hfits : ({} : Annals).Fits { bus, manager } := ⟨.start, hbus, List.Pairwise.nil⟩
  obtain ⟨hsound, herased⟩ := hfits.run hops
  exact ⟨herased, hsound.whole.careful⟩

/-- A driver of which nothing is known is detached and given back, though the session is closed
    twice and the release fails; when a later claim fails the same is done at once. -/
theorem World.driver_custody_unknown :
    let endpoints := [.ofAddress 0x81 .bulk, .ofAddress 0x01 .bulk]
    let device : Device := {
      details := .ok default
      layout := .ok ⟨1, [⟨0, 0, 255, endpoints⟩]⟩
      script := { kernelDriverError := some .access, releaseError := some .io } }
    let bus : Bus := { devices := [device] }
    let manager : Manager := { options := {} }
    let ops : List Operation := [.connect "first" ⟨0⟩ ⟨0⟩ false, .request "first" (.close true),
      .request "first" (.close false), .script 0 [.failing .claim (some .busy)],
      .connect "first" ⟨0⟩ ⟨0⟩ false]
    let a := ({} : Annals).run { bus, manager := some manager } ops
    (∀ d ∈ bus.devices, d.hasInterludes = false) ∧ (∀ op ∈ ops, op.plain = true) ∧
      a.calls 0 = [.open, .kernelDriverActive 0, .detach 0, .claim 0, .release 0, .attach 0,
        .close] ∧
      a.calls 1 = [.open, .kernelDriverActive 0, .detach 0, .claim 0, .attach 0, .close] ∧
      a.erased = Mark.calls ((runs ops).run { bus, manager := some manager }).trace ∧
      a.Careful := by
  intro endpoints device bus manager ops a
  have hbus : ∀ d ∈ bus.devices, d.hasInterludes = false := by decide
  have hops : ∀ op ∈ ops, op.plain = true := by decide
  exact ⟨hbus, hops, by decide +kernel, by decide +kernel,
    driver_custody bus (some manager) ops hbus hops⟩

end UsbSession
