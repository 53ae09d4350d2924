import Mathlib.Data.List.Chain
import UsbSession.Host.System
import UsbSession.Proofs.Overlap.Closing
import UsbSession.Proofs.Transfer.Deadline

/-!
# Deadlines among threads

A read or write that shares its session with other threads deals out its time just as one that runs
alone, whatever the clock shows at its steps. It starts to count when it has the lock of its
direction. That another thread closes the session in between can cut it short, but does not change
what its transfers are given.

A read or write makes eleven kinds of steps (`Point.Leg`, `Point.leg_of_step`). How its transfers
and what it saw of them go together is an invariant of its trail (`Crowd.Pacing`) that each of these
preserves, and so is how much time it can still take (`Crowd.Trail.now_le`).

* `Crowd.Run.granted`, `Crowd.Run.paced`, `Crowd.Run.now_le`: the timeouts of a read, and its end;
* `Session.read_deadline`: a read is over in time, alone or not;
* `Session.read_waits_iff`: which reads give a transfer less than a millisecond.
-/

namespace UsbSession

/-! ## The way of a read or write -/

namespace Point

/-- Whether a thread at the point has a read or write under way. -/
def exchanges : Point → Bool
  | queued .. | checking _ | sharing _ | starting _ | moving .. | moved .. | leaving .. => true
  | _ => false

/-- The steps of reads and writes. -/
inductive Leg (s : Session) (m : Moment) : Point → Point → Prop
  /-- The lock of the direction is taken, and the time starts to count. -/
  | lock (what : Transfer) (timeout : Nat) : Leg s m (.queued what timeout)
      (.checking ⟨what, dueAt timeout m.now, timeout, false⟩)
  /-- The session is open. -/
  | enter (x : Exchange) : Leg s m (.checking x) (.sharing x)
  /-- The session is not open. -/
  | refuse (x : Exchange) : Leg s m (.checking x) (.leaving x.what.direction (.error .closed))
  /-- The handle is there. -/
  | share (x : Exchange) : Leg s m (.sharing x) (.starting x)
  /-- The handle is gone. -/
  | miss (x : Exchange) : Leg s m (.sharing x) (.moved x none)
  | start (x : Exchange) : Leg s m (.starting x) (.moving x m.answer)
  | arrive (x : Exchange) (answer : HostAnswer) :
      Leg s m (.moving x answer) (.moved x (some answer))
  /-- Without the handle there was no transfer. -/
  | desist (x : Exchange) : Leg s m (.moved x none) (.leaving x.what.direction (.error .closed))
  /-- The transfer was the last. -/
  | settle (x : Exchange) (answer : HostAnswer) (result : Except Error (List UInt8))
      (judged : (s.judge x.what x.deadline m.now answer).value = .done result) :
      Leg s m (.moved x (some answer)) (.leaving x.what.direction result)
  /-- There is to be another transfer. -/
  | retry (x : Exchange) (answer : HostAnswer) (rest : Nat)
      (judged : (s.judge x.what x.deadline m.now answer).value = .again rest) :
      Leg s m (.moved x (some answer)) (.checking { x with remaining := rest, again := true })
  /-- The lock of the direction is given back. -/
  | unlock (d : Direction) (result : Except Error (List UInt8)) :
      Leg s m (.leaving d result) (.finished (.ofTransfer result d))

theorem leg_of_step {s : Session} {c : Common} {m : Moment} {p : Point} {mv : Move}
    (hp : p.exchanges = true) (h : p.step? s c m = some mv) : Leg s m p mv.point := by
  cases p with
  | queued what timeout =>
    simp only [step?] at h
    split at h <;> cases h
    exact .lock what timeout
  | checking x =>
    simp only [step?] at h
    split at h <;> cases h
    · exact .enter x
    · exact .refuse x
  | sharing x =>
    simp only [step?, enterHandle] at h
    split at h <;> cases h
    dsimp only
    split
    · exact .share x
    · exact .miss x
  | starting x => cases h; exact .start x
  | moving x answer => cases h; exact .arrive x answer
  | moved x answer =>
    cases answer with
    | none => cases h; exact .desist x
    | some answer =>
      simp only [step?, Option.some.injEq] at h
      subst h
      dsimp only
      split
      · rename_i result hjudge
        exact .settle x answer result hjudge
      · rename_i rest hjudge
        exact .retry x answer rest hjudge
  | leaving d result => cases h; exact .unlock d result
  | _ => cases hp

/-- The result of a read, or of what only has to give its lock back. -/
def result? : Point → Option (Except Error (List UInt8))
  | leaving _ result | finished (.read result) => some result
  | _ => none

/-- The timeout of the transfer that the thread is going to start. -/
def due : Point → Nat
  | queued _ timeout => timeout
  | checking x | sharing x | starting x => x.remaining
  | _ => 0

/-- The timeout of the transfer that starts when the thread leaves the point. -/
def allowance : Point → Nat
  | starting x => x.remaining
  | _ => 0

end Point

/-- What the step saw of a transfer of a read or write, if it judged one. -/
def Stride.look? (st : Stride) : Option Look :=
  match st.point with
  | .moved _ (some answer) => some ⟨answer, st.moment.now⟩
  | _ => none

namespace Crowd

variable {s : Session} {past l : List Stride} {c : Crowd} {i : Nat} {v : Visit} {st : Stride}
  {t : Transfer} {span : Nat}

/-! ## What a trail has seen -/

/-- The time at the first step. -/
def began : List Stride → Nat
  | [] => 0
  | st :: _ => st.moment.now

/-- What the steps saw of transfers. -/
def looksOf (l : List Stride) : List Look := l.filterMap Stride.look?

/-- Time passes only inside transfers, and each returns within the time that it is given. -/
def Prompt (l : List Stride) : Prop :=
  l.IsChain fun a b => b.moment.now ≤ a.moment.now + a.point.allowance

theorem began_append (hl : l ≠ []) (st : Stride) : began (l ++ [st]) = began l := by
  cases l with
  | nil => exact absurd rfl hl
  | cons => rfl

theorem looksOf_append (l : List Stride) (st : Stride) :
    looksOf (l ++ [st]) = looksOf l ++ st.look?.toList := by
  cases h : st.look? <;> simp [looksOf, h]

theorem timeoutsOf_append (l : List Stride) (st : Stride) :
    timeoutsOf (callsOf (l ++ [st])) = timeoutsOf (callsOf l) ++ timeoutsOf st.calls := by
  rw [callsOf_append, timeoutsOf, List.filterMap_append]
  rfl

/-- By a clock that does not run backwards no look is before the first step, or before an earlier
    one. -/
theorem forward_looksOf (h : l.Pairwise fun a b => a.moment.now ≤ b.moment.now) :
    Forward (began l) (looksOf l) := by
  have hnow {st : Stride} {look : Look} (hlook : st.look? = some look) :
      look.now = st.moment.now := by
    unfold Stride.look? at hlook
    split at hlook <;> cases hlook
    rfl
  refine ⟨fun look hlook => ?_, ?_⟩
  · obtain ⟨st, hst, hlook⟩ := List.mem_filterMap.1 hlook
    rw [hnow hlook]
    cases l with
    | nil => cases hst
    | cons first rest =>
      rcases List.mem_cons.1 hst with rfl | hst
      · exact Nat.le_refl _
      · exact (List.pairwise_cons.1 h).1 st hst
  · refine List.pairwise_filterMap.2 (h.imp fun hab a ha b hb => ?_)
    rwa [hnow ha, hnow hb]

/-! ## The invariant -/

/-- A read or write under way has asked for another transfer at each look. -/
structure Underway (t : Transfer) (span : Nat) (l : List Stride) (x : Exchange) : Prop where
  begun : l ≠ []
  what : x.what = t
  deadline : x.deadline = dueAt span (began l)
  going : Going span (began l) (looksOf l)

/-- The next transfer has still to start. -/
structure Pending (t : Transfer) (span : Nat) (l : List Stride) (x : Exchange) : Prop extends
    Underway t span l x where
  timeouts : timeoutsOf (callsOf l) ++ [x.remaining] = grants span (began l) (looksOf l)

/-- The next transfer has started, and there is no look at it yet. -/
structure Issued (t : Transfer) (span : Nat) (l : List Stride) (x : Exchange) : Prop extends
    Underway t span l x where
  timeouts : timeoutsOf (callsOf l) = grants span (began l) (looksOf l)

/-- How the looks at its transfers account for a read or write and its result, if there is one
    yet. -/
inductive Stands (s : Session) (t : Transfer) (span : Nat) (l : List Stride) :
    Option (Except Error (List UInt8)) → Prop
  /-- No look has put an end to it. -/
  | going {result : Option (Except Error (List UInt8))}
      (going : Going span (began l) (looksOf l))
      (timeouts : timeoutsOf (callsOf l) <+: grants span (began l) (looksOf l))
      (closed : ∀ r, result = some r → r = .error .closed) : Stands s t span l result
  /-- The last look has put an end to it. -/
  | judged {before : List Look} {look : Look} {r : Except Error (List UInt8)}
      (looks : looksOf l = before ++ [look]) (going : Going span (began l) before)
      (timeouts : timeoutsOf (callsOf l) = grants span (began l) before)
      (ends : (s.judge t (dueAt span (began l)) look.now look.answer).value = .done r) :
      Stands s t span l (some r)

/-- How the transfers and the looks of a read or write go together when it has got to a point. -/
def Pacing (s : Session) (t : Transfer) (span : Nat) (l : List Stride) : Point → Prop
  | .queued what timeout => what = t ∧ timeout = span ∧ l = []
  | .checking x | .sharing x | .starting x | .moved x none => Pending t span l x
  | .moving x _ | .moved x (some _) => Issued t span l x
  | .leaving d r => d = t.direction ∧ l ≠ [] ∧ Stands s t span l (some r)
  | .finished reply => ∃ r, reply = .ofTransfer r t.direction ∧ Stands s t span l (some r)
  | _ => False

theorem Stands.unfinished (hgoing : Going span (began l) (looksOf l))
    (htimeouts : timeoutsOf (callsOf l) <+: grants span (began l) (looksOf l)) :
    Stands s t span l none :=
  .going hgoing htimeouts fun _ hr => absurd hr (Option.some_ne_none _).symm

theorem Pending.stands {x : Exchange} (h : Pending t span l x) : Stands s t span l none :=
  .unfinished h.going ⟨_, h.timeouts⟩

theorem Pending.closed {x : Exchange} (h : Pending t span l x) :
    Stands s t span l (some (.error .closed)) :=
  .going h.going ⟨_, h.timeouts⟩ fun _ hr => (Option.some.inj hr).symm

theorem Issued.stands {x : Exchange} (h : Issued t span l x) : Stands s t span l none :=
  .unfinished h.going ⟨[], (List.append_nil _).trans h.timeouts⟩

theorem looksOf_append_of_some {look : Look} (hlook : st.look? = some look) :
    looksOf (l ++ [st]) = looksOf l ++ [look] := by
  rw [looksOf_append, hlook]
  rfl

section Silent

variable (hcalls : st.calls = []) (hlook : st.look? = none)

include hcalls in
theorem timeoutsOf_append_of_nil :
    timeoutsOf (callsOf (l ++ [st])) = timeoutsOf (callsOf l) := by
  rw [timeoutsOf_append, hcalls]
  exact List.append_nil _

include hlook

theorem looksOf_append_of_none : looksOf (l ++ [st]) = looksOf l := by
  rw [looksOf_append, hlook]
  exact List.append_nil _

theorem Underway.append {x : Exchange} (h : Underway t span l x) :
    Underway t span (l ++ [st]) x where
  begun := List.append_ne_nil_of_left_ne_nil h.begun _
  what := h.what
  deadline := by
    rw [began_append h.begun]
    exact h.deadline
  going := by
    rw [began_append h.begun, looksOf_append_of_none hlook]
    exact h.going

include hcalls

theorem Pending.append {x : Exchange} (h : Pending t span l x) : Pending t span (l ++ [st]) x where
  toUnderway := h.toUnderway.append hlook
  timeouts := by
    rw [timeoutsOf_append_of_nil hcalls, began_append h.begun, looksOf_append_of_none hlook]
    exact h.timeouts

theorem Issued.append {x : Exchange} (h : Issued t span l x) : Issued t span (l ++ [st]) x where
  toUnderway := h.toUnderway.append hlook
  timeouts := by
    rw [timeoutsOf_append_of_nil hcalls, began_append h.begun, looksOf_append_of_none hlook]
    exact h.timeouts

theorem Stands.append {result : Option (Except Error (List UInt8))} (hl : l ≠ [])
    (h : Stands s t span l result) : Stands s t span (l ++ [st]) result := by
  have hlooks := looksOf_append_of_none (l := l) hlook
  have htimeouts := timeoutsOf_append_of_nil (l := l) hcalls
  have hbegan := began_append hl st
  cases h with
  | going going timeouts closed =>
    exact .going (by rwa [hbegan, hlooks]) (by rwa [hbegan, hlooks, htimeouts]) closed
  | judged looks going timeouts ends =>
    exact .judged (hlooks.trans looks) (by rwa [hbegan]) (by rwa [hbegan, htimeouts])
      (by rwa [hbegan])

end Silent

/-- A transfer is given what is due. -/
theorem Pending.issued {x : Exchange} (h : Pending t span l x) (hlook : st.look? = none)
    (hcalls : st.calls = [s.callOf x.what x.remaining x.again]) : Issued t span (l ++ [st]) x where
  toUnderway := h.toUnderway.append hlook
  timeouts := by
    rw [timeoutsOf_append, hcalls, began_append h.begun, looksOf_append_of_none hlook]
    exact h.timeouts

section Judged

variable {x : Exchange} {answer : HostAnswer} (h : Issued t span l x) (hcalls : st.calls = [])
  (hlook : st.look? = some ⟨answer, st.moment.now⟩)

include h hcalls hlook

/-- A look that asks for another transfer. -/
theorem Issued.again {rest : Nat}
    (hjudge : (s.judge x.what x.deadline st.moment.now answer).value = .again rest) :
    Pending t span (l ++ [st]) { x with remaining := rest, again := true } := by
  have hlooks := looksOf_append_of_some (l := l) hlook
  rw [h.deadline] at hjudge
  obtain ⟨hanswer, -, hintime, rfl⟩ := Session.judge_eq_again hjudge
  refine ⟨⟨List.append_ne_nil_of_left_ne_nil h.begun _, h.what, ?_, ?_⟩, ?_⟩
  · rw [began_append h.begun]
    exact h.deadline
  · rw [began_append h.begun, hlooks]
    exact h.going.append hanswer hintime
  · rw [began_append h.begun, hlooks, timeoutsOf_append_of_nil hcalls, grants_append, h.timeouts]

/-- A look that puts an end to a read or write. -/
theorem Issued.judged {r : Except Error (List UInt8)}
    (hjudge : (s.judge x.what x.deadline st.moment.now answer).value = .done r) :
    Stands s t span (l ++ [st]) (some r) := by
  rw [h.deadline, h.what] at hjudge
  refine .judged (looksOf_append_of_some hlook) ?_ ?_ ?_
  · rw [began_append h.begun]
    exact h.going
  · rw [began_append h.begun, timeoutsOf_append_of_nil hcalls, h.timeouts]
  · rw [began_append h.begun]
    exact hjudge

end Judged

theorem Pacing.leg (h : Pacing s t span l st.point)
    (hstep : st.point.step? s st.common st.moment = some st.move) :
    Point.Leg s st.moment st.point st.move.point := by
  refine Point.leg_of_step ?_ hstep
  cases hpoint : st.point with
  | finished reply =>
    rw [hpoint] at hstep
    cases hstep
  | queued | checking | sharing | starting | moving | moved | leaving => rfl
  | _ =>
    rw [hpoint] at h
    exact h.elim

/-- A step takes a read or write on from one point to the next. -/
theorem Pacing.step (h : Pacing s t span l st.point)
    (hstep : st.point.step? s st.common st.moment = some st.move) :
    Pacing s t span (l ++ [st]) st.move.point := by
  have hleg := h.leg hstep
  have hcalls := Stride.calls_of_step hstep
  obtain ⟨i, q, common, m, ⟨q', common', entries⟩⟩ := st
  dsimp only at h hleg hcalls ⊢
  cases hleg with
  | lock what timeout =>
    obtain ⟨rfl, rfl, rfl⟩ := h
    refine ⟨⟨List.cons_ne_nil _ _, rfl, rfl, List.forall_mem_nil _⟩, ?_⟩
    rw [timeoutsOf_append, hcalls]
    rfl
  | enter x | share x | miss x => exact Pending.append hcalls rfl h
  | start x => exact Pending.issued h rfl hcalls
  | arrive x answer => exact Issued.append hcalls rfl h
  | refuse x | desist x =>
    exact ⟨congrArg _ h.what, List.append_ne_nil_of_left_ne_nil h.begun _,
      (Pending.append hcalls rfl h).closed⟩
  | settle x answer result hjudge =>
    exact ⟨congrArg _ h.what, List.append_ne_nil_of_left_ne_nil h.begun _,
      Issued.judged h hcalls rfl hjudge⟩
  | retry x answer rest hjudge => exact Issued.again h hcalls rfl hjudge
  | unlock d result =>
    obtain ⟨rfl, hl, hstands⟩ := h
    exact ⟨result, rfl, hstands.append hcalls rfl hl⟩

theorem Trail.pacing {q : Point} (h : Trail s (.queued t span) l q) : Pacing s t span l q := by
  induction h with
  | start => exact ⟨rfl, rfl, rfl⟩
  | step _ hstep ih => exact ih.step hstep

/-! ## Timeouts -/

section Read

variable {size : Nat} {q : Point} {result : Option (Except Error (List UInt8))}

theorem Pacing.stands (h : Pacing s (.read size) span l q) :
    Stands s (.read size) span l q.result? := by
  cases q with
  | queued what timeout =>
    obtain ⟨-, -, rfl⟩ := h
    exact .unfinished (List.forall_mem_nil _) List.nil_prefix
  | checking x | sharing x | starting x => exact Pending.stands h
  | moving x answer => exact Issued.stands h
  | moved x answer =>
    cases answer with
    | none => exact Pending.stands h
    | some answer => exact Issued.stands h
  | leaving d r => exact h.2.2
  | finished reply =>
    obtain ⟨r, rfl, hstands⟩ := h
    exact hstands
  | _ => exact h.elim

theorem Stands.granted (h : Stands s t span l result) :
    Granted span (began l) (timeoutsOf (callsOf l)) (looksOf l) := by
  cases h with
  | going going timeouts => exact .of_going going List.prefix_rfl timeouts
  | judged looks going timeouts ends =>
    rw [looks, timeouts]
    exact .of_going going (List.prefix_append _ _) List.prefix_rfl

theorem Stands.paced (h : Stands s t span l result) (hretries : s.retries t = true)
    (hforward : Forward (began l) (looksOf l)) :
    Paced span (began l) (timeoutsOf (callsOf l)) (looksOf l) result := by
  cases h with
  | going going timeouts closed => exact .of_going going hforward timeouts closed
  | judged looks going timeouts ends =>
    rw [looks] at hforward
    rw [looks, timeouts]
    exact .of_judge hretries going hforward ends

end Read

/-! ## Time -/

/-- A thread uses up what it was due, and is due more only when a look at the clock has left it as
    much. -/
theorem Pacing.now_add_le (h : Pacing s t span l st.point) (hspan : 0 < span)
    (hstep : st.point.step? s st.common st.moment = some st.move)
    (hnow : st.moment.now + st.point.due ≤ began (l ++ [st]) + span) :
    st.moment.now + st.point.allowance + st.move.point.due ≤ began (l ++ [st]) + span := by
  have hleg := h.leg hstep
  obtain ⟨i, q, common, m, ⟨q', common', entries⟩⟩ := st
  dsimp only at h hleg hnow ⊢
  cases hleg with
  | lock | enter | share | start | arrive | desist | settle | unlock => exact hnow
  | refuse | miss => exact Nat.le_trans (Nat.le_add_right _ _) hnow
  | retry x answer rest hjudge =>
    have h : Issued t span l x := h
    rw [h.deadline] at hjudge
    obtain ⟨-, -, -, rfl⟩ := Session.judge_eq_again hjudge
    rw [began_append h.begun] at hnow ⊢
    simp only [Point.due, Point.allowance, leftAt_of_pos hspan] at hnow ⊢
    omega

theorem Trail.eq_of_nil {p q : Point} (h : Trail s p [] q) : q = p := by
  generalize hl : ([] : List Stride) = l at h
  cases h with
  | start => rfl
  | step => exact absurd hl (by simp)

theorem Trail.now_le {q : Point} (h : Trail s (.queued t span) l q) (hspan : 0 < span)
    (hprompt : Prompt l) : (∀ st ∈ l, st.moment.now ≤ began l + span) ∧
      ∀ st ∈ l.getLast?, st.moment.now + st.point.allowance + q.due ≤ began l + span := by
  induction h with
  | start => exact ⟨List.forall_mem_nil _, fun st hst => absurd hst (Option.not_mem_none st)⟩
  | @step l st htrail hstep ih =>
    obtain ⟨hl, -, hlink⟩ := List.isChain_append.1 hprompt
    obtain ⟨hpast, hnext⟩ := ih hl
    have hnow : st.moment.now + st.point.due ≤ began (l ++ [st]) + span := by
      cases hlast : l.getLast? with
      | none =>
        -- At the first step the whole span is due.
        obtain rfl := List.getLast?_eq_none_iff.1 hlast
        rw [htrail.eq_of_nil]
        exact Nat.le_refl _
      | some last =>
        have hprev := hnext last hlast
        have hlate := hlink last hlast st rfl
        rw [began_append (by rintro rfl; cases hlast)]
        omega
    refine ⟨fun a ha => ?_, fun a ha => ?_⟩
    · rcases List.mem_append.1 ha with ha | ha
      · rw [began_append (List.ne_nil_of_mem ha)]
        exact hpast a ha
      · rw [List.mem_singleton.1 ha]
        exact Nat.le_trans (Nat.le_add_right _ _) hnow
    · rw [List.getLast?_concat, Option.mem_some_iff] at ha
      subst ha
      exact htrail.pacing.now_add_le hspan hstep hnow

/-! ## Reads -/

section Reads

variable {size timeout : Nat}

theorem Run.pacing (h : Run s past c) (hv : c.visits[i]? = some v)
    (hr : v.request = .read size timeout) :
    Pacing s (.read size) (s.readTimeout timeout) (ofVisit i past) v.point := by
  have htrail := h.trail hv
  rw [hr] at htrail
  exact htrail.pacing

theorem Run.granted (h : Run s past c) (hv : c.visits[i]? = some v)
    (hr : v.request = .read size timeout) :
    Granted (s.readTimeout timeout) (began (ofVisit i past))
      (timeoutsOf (callsOf (ofVisit i past))) (looksOf (ofVisit i past)) :=
  (h.pacing hv hr).stands.granted

theorem Run.paced (h : Run s past c) (hclock : past.Pairwise fun a b => a.moment.now ≤ b.moment.now)
    (hv : c.visits[i]? = some v) (hr : v.request = .read size timeout)
    (hretries : s.retries (.read size) = true) :
    Paced (s.readTimeout timeout) (began (ofVisit i past))
      (timeoutsOf (callsOf (ofVisit i past))) (looksOf (ofVisit i past)) v.point.result? :=
  (h.pacing hv hr).stands.paced hretries (forward_looksOf (hclock.filter _))

theorem Run.now_le (h : Run s past c) (hv : c.visits[i]? = some v)
    (hr : v.request = .read size timeout) (hspan : 0 < s.readTimeout timeout)
    (hprompt : Prompt (ofVisit i past)) (hst : st ∈ ofVisit i past) :
    st.moment.now ≤ began (ofVisit i past) + s.readTimeout timeout := by
  have htrail := h.trail hv
  rw [hr] at htrail
  exact (htrail.now_le hspan hprompt).1 st hst

/-- A read that is alone gives its first transfer the whole of its time. -/
theorem exists_first_transfer (s : Session) (size timeout : Nat) :
    ∃ (past : List Stride) (c : Crowd) (v : Visit), Run s past c ∧ c.visits[0]? = some v ∧
      v.request = .read size timeout ∧
      timeoutsOf (callsOf (ofVisit 0 past)) = [s.readTimeout timeout] := by
  have hrun : Run s _ _ := .play ((List.range 4).map fun _ => (0, ({} : Moment)))
    (.arrive (.read size timeout) .start)
  exact ⟨_, _, _, hrun, rfl, rfl, rfl⟩

end Reads

end Crowd

namespace Session

open Crowd

/-- A read of a session that retries shares its time out among its transfers, and is over in time if
    they are, be it alone or among other threads. It has the time that is asked for or, where none
    is, the time of the options or else five seconds. -/
theorem read_deadline (s : Session) (size timeout : Nat)
    (hretry : s.options.retryZeroLength = true) (hsize : 0 < size) :
    let span := if timeout = 0 then s.options.readTimeout.getD 5000000 else timeout
    (s.state = .open → ∀ p : Clocked,
      let o := (s.read size timeout).run p
      let timeouts := timeoutsOf (Entry.calls o.trace)
      timeouts.head? = some span ∧ o.state = p.after (.read size) timeouts.length ∧
        Paced span p.now timeouts (p.looks (.read size) timeouts.length) (some o.value) ∧
        (0 < span → p.Prompt (.read size) timeouts → o.state.now ≤ p.now + span)) ∧
    ∀ (past : List Stride) (c : Crowd) (i : Nat) (v : Visit), Run s past c →
      (past.Pairwise fun a b => a.moment.now ≤ b.moment.now) → c.visits[i]? = some v →
      v.request = .read size timeout →
      let l := ofVisit i past
      Paced span (began l) (timeoutsOf (callsOf l)) (looksOf l) v.point.result? ∧
        (0 < span → Prompt l → ∀ st ∈ l, st.moment.now ≤ began l + span) := by
  intro span
  have hspan : s.readTimeout timeout = span := s.readTimeout_eq timeout
  have hretries : s.retries (.read size) = true := by
    rw [retries, hretry]
    exact decide_eq_true hsize
  rw [← hspan]
  refine ⟨fun hopen p => paced_read hopen hretries timeout p, ?_⟩
  intro past c i v h hclock hv hr
  exact ⟨h.paced hclock hv hr hretries, fun hpos hprompt st => h.now_le hv hr hpos hprompt⟩

/-- A first transfer leaves a part of the time, and a second one half a millisecond of it. A read
    that asks for no time has five seconds, and another has the five milliseconds it asks for. -/
theorem read_deadline_spent :
    let s : Session := plainSession.retrying true
    let run (timeout first second : Nat) : List Stride × Crowd :=
      play s (([0, 0, 0, 0] ++ List.replicate 5 first ++ List.replicate 2 second).map
        fun now => (0, ({ now } : Moment))) ([], ({} : Crowd).arrive s (.read 64 timeout))
    let long := run 0 3000000 4999500
    let short := run 5000 3000 4500
    (s.options.retryZeroLength = true ∧ 0 < 64 ∧ s.options.readTimeout = none) ∧
      (Run s long.1 long.2 ∧ timeoutsOf (callsOf (ofVisit 0 long.1)) = [5000000, 2000000] ∧
        Paced 5000000 0 [5000000, 2000000] [⟨.ok [], 3000000⟩, ⟨.ok [], 4999500⟩]
          (some (.error (.usb .timeout)))) ∧
      Run s short.1 short.2 ∧ timeoutsOf (callsOf (ofVisit 0 short.1)) = [5000, 2000] ∧
        Paced 5000 0 [5000, 2000] [⟨.ok [], 3000⟩, ⟨.ok [], 4500⟩]
          (some (.error (.usb .timeout))) := by
  intro s run long short
  have hrun (timeout first second : Nat) :
      Run s (run timeout first second).1 (run timeout first second).2 :=
    .play _ (.arrive _ .start)
  -- What a run shows is found by evaluation, and what that means by the theorem.
  have hpaced {timeout first second : Nat} {timeouts : List Nat} {looks : List Look}
      (hclock : (run timeout first second).1.Pairwise fun a b => a.moment.now ≤ b.moment.now)
      (hbegan : began (ofVisit 0 (run timeout first second).1) = 0)
      (htimeouts : timeoutsOf (callsOf (ofVisit 0 (run timeout first second).1)) = timeouts)
      (hlooks : looksOf (ofVisit 0 (run timeout first second).1) = looks)
      (hend : (run timeout first second).2.visits[0]?.map
        (fun v => (v.request, v.point.result?)) =
          some (.read 64 timeout, some (.error (.usb .timeout)))) :
      Paced (if timeout = 0 then 5000000 else timeout) 0 timeouts looks
        (some (.error (.usb .timeout))) := by
    obtain ⟨v, hv, heq⟩ := Option.map_eq_some_iff.1 hend
    obtain ⟨hr, hresult⟩ := Prod.mk.inj heq
    have h := ((read_deadline s 64 timeout rfl (by decide)).2 _ _ 0 v
      (hrun timeout first second) hclock hv hr).1
    rwa [hbegan, htimeouts, hlooks, hresult] at h
  have hlong : timeoutsOf (callsOf (ofVisit 0 long.1)) = [5000000, 2000000] := by decide +kernel
  have hshort : timeoutsOf (callsOf (ofVisit 0 short.1)) = [5000, 2000] := by decide +kernel
  refine ⟨⟨rfl, by decide, rfl⟩, ⟨hrun _ _ _, hlong, ?_⟩, hrun _ _ _, hshort, ?_⟩
  · exact hpaced (by decide +kernel) (by decide +kernel) hlong (by decide +kernel)
      (by decide +kernel)
  · exact hpaced (by decide +kernel) (by decide +kernel) hshort (by decide +kernel)
      (by decide +kernel)

/-- Every transfer of a read is given a whole millisecond exactly if the read is. -/
theorem read_waits_iff (s : Session) (size timeout : Nat) :
    let span := if timeout = 0 then s.options.readTimeout.getD 5000000 else timeout
    ((∀ p : Clocked, ∀ wait ∈ timeoutsOf (Entry.calls ((s.read size timeout).run p).trace),
        1000 ≤ wait) ↔ s.state ≠ .open ∨ 1000 ≤ span) ∧
    ((∀ (past : List Stride) (c : Crowd) (i : Nat) (v : Visit), Run s past c →
        c.visits[i]? = some v → v.request = .read size timeout →
        ∀ wait ∈ timeoutsOf (callsOf (ofVisit i past)), 1000 ≤ wait) ↔ 1000 ≤ span) := by
  intro span
  have hspan : s.readTimeout timeout = span := s.readTimeout_eq timeout
  rw [← hspan]
  refine ⟨⟨fun h => ?_, fun h p wait hwait => ?_⟩,
    ⟨fun h => ?_, fun h past c i v hrun hv hr wait => ?_⟩⟩
  · by_cases hopen : s.state = .open
    · obtain ⟨n, hturns⟩ := turns_read hopen size timeout ⟨default, 0⟩
      refine .inr (h ⟨default, 0⟩ _ ?_)
      rw [hturns.timeoutsOf_eq]
      exact List.mem_cons_self
    · exact .inl hopen
  · by_cases hopen : s.state = .open
    · obtain ⟨n, hturns⟩ := turns_read hopen size timeout p
      exact hturns.granted.le_of_mem (h.resolve_left (absurd hopen)) hwait
    · rw [Entry.calls, (s.does_read size timeout p).calls,
        s.dispatch_calls_of_not_open hopen] at hwait
      cases hwait
  · obtain ⟨past, c, v, hrun, hv, hr, htimeouts⟩ := exists_first_transfer s size timeout
    refine h past c 0 v hrun hv hr _ ?_
    rw [htimeouts]
    exact List.mem_cons_self
  · exact (hrun.granted hv hr).le_of_mem h

/-- A host that takes whole milliseconds, zero of them for no limit, is told to wait forever by a
    read of half a millisecond. -/
theorem read_waits_short :
    plainSession.options.readTimeout = none ∧
      ∃ wait ∈ timeoutsOf (Entry.calls ((plainSession.read 64 500).run ⟨default, 0⟩).trace),
        wait < 1000 ∧ Host.wholeTimeout wait = 0 := by
  obtain ⟨n, hturns⟩ := turns_read (s := plainSession) rfl 64 500 ⟨default, 0⟩
  refine ⟨rfl, 500, ?_, by decide, by decide⟩
  rw [hturns.timeoutsOf_eq]
  exact List.mem_cons_self

end Session

end UsbSession
