import UsbSession.Proofs.Connect.Search
import UsbSession.Proofs.Life.Conduct

/-!
# The life of a handle

The calls that are made on a handle from when it is opened until it is closed (`Life`). A handle is
given up when the configuration cannot be selected or the interface cannot be claimed; otherwise a
session works with it (`Serves`), and gives back what it holds when it is closed or let go of.

* `life_of_refused`: an attempt that fails leaves a whole life behind;
* `Serves.perform`, `Serves.drop`: what sessions do fits into the life of their handle.
-/

namespace UsbSession

open Traced (Does)

/-- The opening of a handle. -/
structure Opening where
  /-- The place of the device. -/
  place : Nat
  /-- The manager that connected. -/
  manager : Manager
  candidate : Candidate
  /-- Whether the device was to be reset. -/
  reset : Bool
  /-- The device before it was opened. -/
  device : Device
  /-- The active configuration of the device after the attempt to open a session. -/
  active : UInt8

namespace Opening

variable (o : Opening)

/-- The script of the device when it was opened. -/
def script : Script := o.device.script

/-- The session that works with the handle. -/
def session : Session := o.manager.opened o.script o.place o.candidate

/-- The interface of the candidate. -/
def interface : UInt8 := o.candidate.binding.interface

/-- The calls until the configuration is selected. -/
def prelude : List Call :=
  .open :: ((if o.reset then [.reset] else []) ++ o.manager.configurationCalls o.script)

/-- The calls until the interface is claimed. -/
def approach : List Call :=
  o.prelude ++ o.manager.driverCalls o.script o.interface ++ [.claim o.interface]

/-- The calls that give the kernel driver back. -/
def restore : List Call := o.manager.restoreCalls o.script o.interface

/-- The opening is one that connecting comes to. -/
structure Proper : Prop where
  /-- The handle was opened. -/
  opens : o.script.openError = none
  /-- The candidate is what the options of the manager resolve to. -/
  resolved : ∃ layout, o.device.layout = .ok layout ∧
    layout.resolve o.manager.options = some o.candidate.binding
  /-- If the wanted configuration can be selected, it was active after the attempt. -/
  configured : o.manager.configurationError? o.script = none →
    ∀ number, o.manager.options.configuration = some number → o.active = number

end Opening

/-- A life of a handle: the calls on it, from first to last. -/
inductive Life (o : Opening) : List Call → Prop
  /-- The configuration cannot be selected, and the handle is closed. -/
  | refused {code : Failure} (refuses : o.manager.configurationError? o.script = some code) :
      Life o (o.prelude ++ [.close])
  /-- The interface cannot be claimed, and the handle is closed. -/
  | unclaimed {code : Failure} (selects : o.manager.configurationError? o.script = none)
      (refuses : o.script.claimError = some code) :
      Life o (o.approach ++ o.restore ++ [.close])
  /-- The interface is claimed, transfers are made, and after quiescing, unless that is left out,
      the interface is released and the handle is closed. -/
  | used {transfers quiescing : List Call}
      (selects : o.manager.configurationError? o.script = none)
      (claims : o.script.claimError = none)
      (moved : ∀ c ∈ transfers, ∃ d, o.session.IsTransfer d c)
      (quiesced : quiescing = [] ∨
        ∃ reads, quiescing = .cancel :: List.replicate reads o.session.drainCall) :
      Life o
        (o.approach ++ transfers ++ quiescing ++ [.release o.interface] ++ o.restore ++ [.close])

/-- The calls on a handle that a session works with. -/
structure Begun (o : Opening) (calls : List Call) : Prop where
  selects : o.manager.configurationError? o.script = none
  claims : o.script.claimError = none
  /-- After the claim there are transfers only. -/
  moved : ∃ transfers, calls = o.approach ++ transfers ∧
    ∀ c ∈ transfers, ∃ d, o.session.IsTransfer d c

/-- The session works with the handle on which the calls were made, or has done so. -/
structure Serves (o : Opening) (calls : List Call) (s : Session) : Prop where
  same : s = { o.session with state := s.state }
  life : s.state = .open ∧ Begun o calls ∨ s.state = .closed ∧ Life o calls

variable {o : Opening} {calls : List Call} {s : Session}

/-! ## Configurations -/

/-- The script after a call. -/
def Script.after (sc : Script) : Call → Script
  | .setConfiguration number => sc.selecting number
  | _ => sc

theorem Script.foldl_after {sc : Script} (h : ∀ c ∈ calls, ∀ number, c ≠ .setConfiguration number) :
    calls.foldl after sc = sc := by
  induction calls with
  | nil => rfl
  | cons c calls ih =>
    obtain ⟨hc, hcalls⟩ := List.forall_mem_cons.1 h
    have hsame : sc.after c = sc := by
      rw [after]
      exact hc
    rw [List.foldl_cons, hsame, ih hcalls]

namespace Opening

/-- The prelude leaves the wanted configuration selected, if it can be. -/
theorem foldl_prelude (o : Opening) :
    o.prelude.foldl Script.after o.script = o.manager.configured o.script := by
  have hreset : (.open :: if o.reset then [Call.reset] else []).foldl Script.after o.script =
      o.script := Script.foldl_after (by cases o.reset <;> simp)
  rw [prelude, ← List.cons_append, List.foldl_append, hreset, Manager.configurationCalls,
    Manager.configured]
  cases hwanted : o.manager.options.configuration with
  | none => rw [Manager.selected?, hwanted, Option.filter_none]; rfl
  | some number => cases o.manager.selected? o.script <;> rfl

theorem not_claim_mem_prelude (o : Opening) (interface : UInt8) : .claim interface ∉ o.prelude := by
  rw [prelude, Manager.configurationCalls]
  cases o.reset <;> cases o.manager.options.configuration <;> simp

end Opening

namespace Life

/-- After the prelude no configuration is selected. -/
theorem exists_prelude (h : Life o calls) : ∃ rest, calls = o.prelude ++ rest ∧
    (∀ number, .setConfiguration number ∉ rest) ∧
    (o.manager.configurationError? o.script = none ∨ rest = [.close]) := by
  have hdriver (number : UInt8) :
      .setConfiguration number ∉ o.manager.driverCalls o.script o.interface := by
    rw [Manager.driverCalls]
    split
    · split <;> simp
    · exact List.not_mem_nil
  have hrestore (number : UInt8) : .setConfiguration number ∉ o.restore := by
    rw [Opening.restore, Manager.restoreCalls]
    split <;> simp
  cases h with
  | refused => exact ⟨_, rfl, fun number => by simp, .inr rfl⟩
  | unclaimed selects =>
    simp only [Opening.approach, List.append_assoc]
    refine ⟨_, rfl, fun number => ?_, .inl selects⟩
    simp [hdriver number, hrestore number]
  | @used transfers quiescing selects claims moved quiesced =>
    simp only [Opening.approach, List.append_assoc]
    refine ⟨_, rfl, fun number => ?_, .inl selects⟩
    have htransfers : .setConfiguration number ∉ transfers := fun hmem => by
      obtain ⟨d, t, timeout, again, -, hc⟩ := moved _ hmem
      cases hc
    have hquiescing : .setConfiguration number ∉ quiescing := fun hmem => by
      rcases quiesced with rfl | ⟨reads, rfl⟩
      · cases hmem
      · rcases List.mem_cons.1 hmem with hc | hmem
        · cases hc
        · cases (List.mem_replicate.1 hmem).2
    simp [hdriver number, hrestore number, htransfers, hquiescing]

theorem selects_of_claim (h : Life o calls) {interface : UInt8}
    (hclaim : .claim interface ∈ calls) :
    o.manager.configurationError? o.script = none := by
  obtain ⟨rest, rfl, -, hselects⟩ := h.exists_prelude
  -- When the configuration cannot be selected, there is only a close after the prelude.
  refine hselects.resolve_right fun hclose => ?_
  rcases List.mem_append.1 hclaim with hmem | hmem
  · exact o.not_claim_mem_prelude interface hmem
  · rw [hclose] at hmem
    cases List.mem_singleton.1 hmem

/-- At a claim the wanted configuration is active, by the calls before it. -/
theorem activeConfiguration_of_claim (h : Life o calls) {before after : List Call}
    {interface number : UInt8} (hclaim : calls = before ++ .claim interface :: after)
    (hwanted : o.manager.options.configuration = some number) :
    (before.foldl Script.after o.script).activeConfiguration = number := by
  have hselects := h.selects_of_claim (hclaim ▸ List.mem_append_right before List.mem_cons_self)
  obtain ⟨rest, rfl, hquiet, -⟩ := h.exists_prelude
  obtain ⟨between, rfl, rfl⟩ : ∃ between, before = o.prelude ++ between ∧
      rest = between ++ .claim interface :: after := by
    -- The claim comes after the prelude, which has none.
    rcases List.append_eq_append_iff.1 hclaim with hlater | ⟨between, hprelude, hrest⟩
    · exact hlater
    · cases between with
      | nil => exact ⟨[], by rw [hprelude, List.append_nil, List.append_nil], hrest.symm⟩
      | cons c between =>
        obtain ⟨rfl, -⟩ := List.cons.inj hrest
        exact absurd (hprelude ▸ by simp) (o.not_claim_mem_prelude interface)
  rw [List.foldl_append, o.foldl_prelude, Script.foldl_after]
  · exact o.manager.configured_activeConfiguration hselects hwanted
  · rintro _ hmem number rfl
    exact hquiet number (List.mem_append_left _ hmem)

end Life

/-! ## Attempts -/

/-- The opening that comes of trying a candidate. -/
def Prospect.opening (q : Prospect) (m : Manager) (reset : Bool) (active : UInt8) : Opening :=
  ⟨q.place, m, q.candidate, reset, q.device, active⟩

section Attempt

variable {m : Manager} {reset : Bool} {q : Prospect}

theorem attemptCalls_of_openError {sc : Script} {code : Failure} (h : sc.openError = some code)
    (c : Candidate) : m.attemptCalls sc c reset = [.open] := by
  rw [Manager.attemptCalls, h]
  rfl

variable (active : UInt8)

/-- The calls of an attempt on a handle that is opened. -/
theorem attemptCalls_of_opened (h : q.device.script.openError = none) :
    m.attemptCalls q.device.script q.candidate reset =
      (q.opening m reset active).prelude ++
        if (m.configurationError? q.device.script).isSome then [.close]
        else m.driverCalls q.device.script q.candidate.binding.interface ++
          m.claimCalls q.device.script q.candidate.binding.interface := by
  rw [Manager.attemptCalls, h, ← List.append_assoc]
  rfl

/-- An attempt that opens a handle and fails leaves a whole life behind. -/
theorem life_of_refused {e : Error} (hopen : q.device.script.openError = none)
    (h : m.answer q = .error e) :
    Life (q.opening m reset active) (m.attemptCalls q.device.script q.candidate reset) := by
  rw [attemptCalls_of_opened active hopen]
  cases hselect : m.configurationError? q.device.script with
  | some code => exact .refused hselect
  | none =>
    cases hclaim : q.device.script.claimError with
    | some code =>
      have hlife := Life.unclaimed (o := q.opening m reset active) hselect hclaim
      rw [Manager.claimCalls, hclaim]
      simpa [Opening.approach, Opening.restore, Opening.script, Opening.interface,
        Prospect.opening] using hlife
    | none =>
      -- Nothing refuses, so the attempt succeeds.
      rw [Manager.answer, Manager.attempt, Manager.refusal?, Manager.objection?, hopen, hselect,
        hclaim] at h
      cases h

/-- An attempt that succeeds leaves a session behind that works with the handle. -/
theorem serves_of_accepted (h : m.answer q = .ok s) :
    Serves (q.opening m reset active) (m.attemptCalls q.device.script q.candidate reset) s := by
  have hrefusal : m.refusal? q.device.script q.candidate = none := by
    rw [Manager.answer, Manager.attempt] at h
    cases hr : m.refusal? q.device.script q.candidate with
    | none => rfl
    | some e => rw [hr] at h; cases h
  have hs : s = (q.opening m reset active).session := by
    rw [Manager.answer, Manager.attempt, hrefusal] at h
    cases h
    rfl
  obtain ⟨hopen, hselect, hclaim⟩ : q.device.script.openError = none ∧
      m.configurationError? q.device.script = none ∧ q.device.script.claimError = none := by
    simpa [Manager.refusal?, Manager.objection?] using hrefusal
  subst hs
  -- No transfer was made yet.
  refine ⟨rfl, .inl ⟨rfl, hselect, hclaim, [], ?_, List.forall_mem_nil _⟩⟩
  rw [attemptCalls_of_opened active hopen, hselect, Manager.claimCalls, hclaim]
  simp [Opening.approach, Opening.script, Opening.interface, Prospect.opening]

end Attempt

/-! ## Sessions -/

namespace Serves

variable (h : Serves o calls s)

include h

theorem device_eq : s.device = o.place := by
  rw [h.same]
  rfl

/-- What is done on an open session goes on to be a life. -/
theorem begun_of_open (hopen : s.state = .open) : Begun o calls := by
  rcases h.life with ⟨-, hbegun⟩ | ⟨hclosed, -⟩
  · exact hbegun
  · rw [hopen] at hclosed
    cases hclosed

theorem life_of_not_open (hopen : s.state ≠ .open) : Life o calls := by
  rcases h.life with ⟨hstate, -⟩ | ⟨-, hlife⟩
  · exact absurd hstate hopen
  · exact hlife

/-- Transfers go on what was begun, and are made by an open session only. -/
theorem transfer {cs : List Call} {d : Direction} (hcs : ∀ c ∈ cs, s.IsTransfer d c)
    (hnone : s.state ≠ .open → cs = []) : Serves o (calls ++ cs) s := by
  by_cases hopen : s.state = .open
  · obtain ⟨hselects, hclaims, transfers, rfl, hmoved⟩ := h.begun_of_open hopen
    refine ⟨h.same, .inl ⟨hopen, hselects, hclaims, transfers ++ cs, List.append_assoc .., ?_⟩⟩
    intro c hc
    rcases List.mem_append.1 hc with hc | hc
    · exact hmoved c hc
    · obtain ⟨t, timeout, again, hd, rfl⟩ := hcs c hc
      refine ⟨d, t, timeout, again, hd, ?_⟩
      rw [h.same]
      rfl
  · rw [hnone hopen, List.append_nil]
    exact h

/-- Giving back what the session holds ends the life of its handle. -/
theorem giveBack (hopen : s.state = .open) {quiescing : List Call}
    (hquiesced :
      quiescing = [] ∨ ∃ reads, quiescing = .cancel :: List.replicate reads s.drainCall) :
    Life o (calls ++ (quiescing ++ s.giveBackCalls)) := by
  obtain ⟨hselects, hclaims, transfers, rfl, hmoved⟩ := h.begun_of_open hopen
  have hquiesced : quiescing = [] ∨
      ∃ reads, quiescing = .cancel :: List.replicate reads o.session.drainCall := by
    rw [h.same] at hquiesced
    exact hquiesced
  have hlife := Life.used hselects hclaims hmoved hquiesced
  have hgive : s.giveBackCalls = .release o.interface :: (o.restore ++ [.close]) := by
    rw [h.same]
    rfl
  rw [hgive]
  simpa using hlife

theorem perform (r : Request) (p : Clocked) :
    ∃ reply after cs p', Does Entry.call? (s.perform r) p (reply, after) cs p' ∧
      Serves o (calls ++ cs) after := by
  cases r with
  | read size timeout =>
    refine ⟨_, s, _, _, (s.does_read size timeout p).bind_pure (.pure _ _), ?_⟩
    exact h.transfer (s.dispatch_calls _ _ p) fun hopen => s.dispatch_calls_of_not_open hopen _ _ p
  | write bytes =>
    refine ⟨_, s, _, _, (s.does_write bytes p).bind_pure (.pure _ _), ?_⟩
    exact h.transfer (s.dispatch_calls _ _ p) fun hopen => s.dispatch_calls_of_not_open hopen _ _ p
  | close disconnected =>
    by_cases hopen : s.state = .open
    · obtain ⟨reads, p', hclose⟩ := s.does_close_of_open hopen disconnected p
      refine ⟨_, _, _, p', hclose.bind_pure (.pure _ _), ?_, .inr ⟨rfl, h.giveBack hopen ?_⟩⟩
      · rw [h.same]
      · cases disconnected with
        | true => exact .inl rfl
        | false => exact .inr ⟨reads, rfl⟩
    · refine ⟨_, s, [], p,
        (s.does_close_of_not_open hopen disconnected p).bind_pure (.pure _ _), ?_⟩
      rwa [List.append_nil]
  | state | details | debug =>
    refine ⟨_, s, [], p, .pure _ _, ?_⟩
    rwa [List.append_nil]

theorem drop (p : Clocked) :
    ∃ cs p', Does Entry.call? s.drop p () cs p' ∧ Life o (calls ++ cs) := by
  -- An open session gives back what it holds; a closed one has done so when it was closed.
  by_cases hopen : s.state = .open
  · exact ⟨_, _, s.does_drop_of_open hopen p, h.giveBack hopen (.inl rfl)⟩
  · refine ⟨[], p, s.does_drop_of_not_open hopen p, ?_⟩
    rw [List.append_nil]
    exact h.life_of_not_open hopen

end Serves

end UsbSession
