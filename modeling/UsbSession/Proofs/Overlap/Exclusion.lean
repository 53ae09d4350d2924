import Mathlib.Tactic.Common
import UsbSession.Proofs.Overlap.Crowd

/-!
# Exclusion of transfers and order of the teardown

Whatever threads do on a session, no two transfers of one direction are inside the host at once, and
the session is torn down when nothing of it is inside the host any more
(`Crowd.Run.orderly`).

Traffic goes over a handle that the thread shares and that is there; whoever tears the session down
has taken the handle away. That the two never meet is the invariant of crowds (`Crowd.Sound`).
-/

namespace UsbSession

/-- Whether the call is a transfer or cancels transfers. -/
def Call.isTraffic : Call → Bool
  | transfer .. | cancel => true
  | _ => false

/-- Whether the call gives back what a session holds. -/
def Call.isTeardown : Call → Bool
  | release _ | attach _ | close => true
  | _ => false

namespace Point

variable {s : Session} {c : Common} {m : Moment} {p : Point} {mv : Move}

theorem calls_opening (s : Session) (t : Transfer) : Entry.calls (opening s t) = [] := by
  cases t with
  | read => rfl
  | write => simp only [opening]; split <;> rfl

theorem calls_ending (s : Session) (d : Direction) (r : Except Error (List UInt8)) :
    Entry.calls (ending s d r) = [] := by
  unfold ending
  split
  · split <;> rfl
  · rfl

theorem calls_logFailure (event : Failure → Log.Event) (answer : HostAnswer) :
    Entry.calls (logFailure event answer) = [] := by
  cases answer <;> rfl

/-- The calls that start when a thread leaves a point. -/
def calls (s : Session) : Point → List Call
  | starting x => [s.callOf x.what x.remaining x.again]
  | cancelStarting => [.cancel]
  | drainStarting _ => [s.callOf (.read Session.drainSize) Session.drainTimeout false]
  | releaseStarting => [.release s.binding.interface]
  | attachStarting => [.attach s.binding.interface]
  | handleClosing => [.close]
  | _ => []

/-- Calls start at six points only, one at each. -/
theorem calls_of_step (h : p.step? s c m = some mv) : Entry.calls mv.entries = p.calls s := by
  cases p with
  | queued what timeout =>
    simp only [step?] at h
    split at h <;> cases h
    exact calls_opening s what
  | checking x | drainQueued | taking | flipping b =>
    simp only [step?] at h
    split at h <;> cases h <;> rfl
  | sharing x | cancelSharing | drainSharing =>
    simp only [step?, enterHandle] at h
    split at h <;> cases h
    rfl
  | moved x answer =>
    cases answer with
    | none => cases h; rfl
    | some answer => cases h; exact Entry.calls_map_log _
  | leaving d result => cases h; exact calls_ending s d result
  | cancelling answer | releasing answer => cases h; exact calls_logFailure _ answer
  | draining reads answer | attaching answer => cases answer <;> cases h <;> rfl
  | looking request => cases request <;> cases h <;> rfl
  | finished reply => cases h
  | starting | moving | cancelStarting | cancelled | drainStarting | drained | drainLeaving | took
  | releaseStarting | attachStarting | handleClosing | handleClosed | storing => cases h; rfl

/-- Traffic goes over a handle that is shared. -/
theorem uses_of_traffic (h : ∃ call ∈ p.calls s, call.isTraffic = true) : p.uses = true := by
  obtain ⟨call, hcall, htraffic⟩ := h
  cases p <;> simp only [calls, List.mem_singleton, List.not_mem_nil] at hcall <;> subst hcall <;>
    first | rfl | cases htraffic

/-- A teardown goes over a handle that was taken away. -/
theorem dismantles_of_teardown (h : ∃ call ∈ p.calls s, call.isTeardown = true) :
    p.dismantles = true := by
  obtain ⟨call, hcall, hteardown⟩ := h
  cases p <;> simp only [calls, List.mem_singleton, List.not_mem_nil] at hcall <;> subst hcall <;>
    first | rfl | cases hteardown

end Point

namespace Crowd

variable {s : Session} {past : List Stride} {c : Crowd}

/-- Nothing of the session gets in the way of anything else of it inside the host. -/
structure Orderly (s : Session) (past : List Stride) (c : Crowd) : Prop where
  /-- At most one transfer of a direction is inside the host. -/
  single : ∀ d, c.count (Point.moves d) ≤ 1
  /-- A call of the teardown starts only while no transfer and no cancel is inside the host. -/
  quiet : ∀ (i : Nat) (v : Visit) (m : Moment) (mv : Move), c.visits[i]? = some v →
    v.point.step? s c.common m = some mv →
    (∃ call ∈ Entry.calls mv.entries, call.isTeardown = true) →
    ∀ w ∈ c.visits, w.point.inside? = none ∧ w.point.cancels = false
  /-- No transfer and no cancel starts after a call of the teardown. -/
  last : past.Pairwise fun earlier later =>
    (∃ call ∈ earlier.calls, call.isTeardown = true) →
      ∀ call ∈ later.calls, call.isTraffic = false

theorem inside?_eq_none {p : Point} (h : p.uses = false) : p.inside? = none := by
  cases p <;> first | rfl | cases h

/-- Once the teardown has begun the handle is gone for good. -/
theorem Run.handle_eq_false (h : Run s past c) {st : Stride} (hst : st ∈ past)
    (hcall : ∃ call ∈ st.calls, call.isTeardown = true) : c.common.handle = false := by
  induction h with
  | start => cases hst
  | arrive r _ ih => exact ih hst
  | @move past c i v m mv hrun hv hstep ih =>
    have hgone : c.common.handle = false := by
      rcases List.mem_append.1 hst with hst | hst
      · exact ih hst
      · -- The call starts with this step, so the thread has taken the handle away before.
        rw [List.mem_singleton.1 hst, Stride.calls, Point.calls_of_step hstep] at hcall
        exact hrun.sound.gone v (List.mem_of_getElem? hv) (Point.dismantles_of_teardown hcall)
    rcases (Point.passage_of_step hstep).handle with hsame | ⟨-, hfalse⟩
    · exact hsame.trans hgone
    · exact hfalse

theorem Run.pairwise_teardown (h : Run s past c) : past.Pairwise fun earlier later =>
    (∃ call ∈ earlier.calls, call.isTeardown = true) →
      ∀ call ∈ later.calls, call.isTraffic = false := by
  induction h with
  | start => exact .nil
  | arrive r _ ih => exact ih
  | @move past c i v m mv hrun hv hstep ih =>
    refine List.pairwise_append.2 ⟨ih, List.pairwise_singleton _ _, fun st hst st' hst' hcall => ?_⟩
    have hgone := hrun.handle_eq_false hst hcall
    -- Traffic needs the handle, which the teardown has taken away before.
    intro call hmem
    by_contra htraffic
    rw [List.mem_singleton.1 hst', Stride.calls, Point.calls_of_step hstep] at hmem
    have huses := Point.uses_of_traffic ⟨call, hmem, Bool.not_eq_false _ ▸ htraffic⟩
    have := hrun.sound.present v (List.mem_of_getElem? hv) huses
    rw [hgone] at this
    cases this

/-- Under every schedule, transfers of one direction exclude each other, and the teardown waits for
    all that is inside the host and is followed by nothing but teardown. -/
theorem Run.orderly (h : Run s past c) : c.Orderly s past where
  single d := by
    -- A transfer is inside the host only while its thread holds the lock of the direction.
    calc c.count (Point.moves d)
        ≤ c.count (Point.holds d) :=
          List.countP_mono_left fun v _ hm => Point.holds_of_moves hm
      _ = (c.common.held d).toNat := h.sound.locks d
      _ ≤ 1 := Bool.toNat_le _
  quiet i v m mv hv hstep hcall w hw := by
    rw [Point.calls_of_step hstep] at hcall
    have huses := h.sound.not_uses_of_dismantles (List.mem_of_getElem? hv)
      (Point.dismantles_of_teardown hcall) hw
    refine ⟨inside?_eq_none huses, ?_⟩
    by_contra hcancels
    rw [Point.uses_of_cancels (Bool.not_eq_false _ ▸ hcancels)] at huses
    cases huses
  last := h.pairwise_teardown

/-- A session is closed while a write is inside the host: the teardown waits for it. -/
theorem orderly_write_close :
    let start := (({} : Crowd).arrive plainSession (.write [1])).arrive plainSession (.close true)
    let turns := ([0, 0, 0, 0, 1, 1, 0, 0, 0, 1, 1, 1] : List Nat).map fun i => (i, ({} : Moment))
    let r := play plainSession turns ([], start)
    (∃ st ∈ r.1, Call.release 0 ∈ st.calls) ∧ Run plainSession r.1 r.2 ∧
      r.2.Orderly plainSession r.1 := by
  intro start turns r
  have h : Run plainSession r.1 r.2 := .play turns (.arrive _ (.arrive _ .start))
  exact ⟨by decide, h, h.orderly⟩

end Crowd

end UsbSession
