import UsbSession.Proofs.Failures.Calls
import UsbSession.Proofs.Life.Conduct

/-!
# The failures of a session

A session tells of all its failures (`Session.settles_perform`). What gets in the way of draining
the device, or of giving it back, is logged and tolerated. A read or write that fails is in the log
or in the error that is returned: a timeout is in the error only, and a code that means a lost
device is in the log only, as the error does not hold it.

An error may hold a failure that no call had: the timeout of a read whose time is spent on transfers
of no bytes (`Session.Spent`).
-/

namespace UsbSession

open Act (Settles)

/-- The error that the reply tells. -/
def Reply.error? : Reply → Option Error
  | .read (.error e) | .written (.error e) => some e
  | _ => none

/-- The calls whose failure the reply may hold: the transfers of a read or write. -/
def Request.blames : Request → Call → Prop
  | .read _ _, c => c.isTransfer .incoming = true
  | .write _, c => c.isTransfer .outgoing = true
  | _, _ => False

namespace Session

variable (s : Session) {blames : Call → Prop} {may : Failure → Prop} {p : Clocked}

/-! ## Transfers -/

/-- Transfers of no bytes are tried again, and there is no millisecond left for another before the
    deadline. -/
structure Spent (t : Transfer) (deadline : Option Nat) (now : Nat) : Prop where
  retries : s.options.retryZeroLength = true
  room : 0 < t.size
  late : ∃ due, deadline = some due ∧ due - now < 1000

/-- A read that was started at a time has spent its time, which is that of the options, or else five
    seconds, where it names none. -/
def Overdue (start now : Nat) : Request → Prop
  | .read size timeout =>
    let span := if timeout = 0 then s.options.readTimeout.getD 5000000 else timeout
    span ≠ 0 ∧ s.Spent (.read size) (some (start + span)) now
  | _ => False

/-- The failure that the result holds, if there is one already. -/
def Verdict.code? : Verdict → Option Failure
  | .done result => codeOf result
  | .again _ => none

variable {s} {t : Transfer} {deadline : Option Nat}

/-- A failure is in the log or in the result. -/
theorem judge_told {now : Nat} {answer : Except Failure (List UInt8)} {code : Failure}
    (h : failureOf answer = some code) :
    (s.judge t deadline now answer).value.code? = some code ∨
      ∃ e ∈ (s.judge t deadline now answer).events, e.code? = some code := by
  cases answer with
  | ok bytes => cases h
  | error c =>
    cases h
    by_cases hcode : code = .timeout
    · -- A timeout is no lost device, so the error holds it.
      subst hcode
      exact .inl rfl
    · refine .inr ⟨.transferFailed s.details.vendor s.details.product s.binding.interface code,
        ?_, rfl⟩
      cases code with
      | timeout => exact absurd rfl hcode
      | _ => exact List.mem_cons_self

/-- A result holds the failure of the transfer, or that the time is spent. -/
theorem judge_held {now : Nat} {answer : Except Failure (List UInt8)} {code : Failure}
    (h : (s.judge t deadline now answer).value.code? = some code) :
    failureOf answer = some code ∨ code = .timeout ∧ s.Spent t deadline now := by
  cases answer with
  | error c =>
    change (Error.ofTransfer c).code? = some code at h
    rw [Error.ofTransfer] at h
    split at h
    · cases h
    · exact .inl h
  | ok bytes =>
    cases bytes with
    | cons b bytes => cases h
    | nil =>
      simp only [judge] at h
      split at h
      · rename_i hretry
        rw [Bool.and_eq_true, decide_eq_true_eq] at hretry
        cases deadline with
        | none => cases h
        | some due =>
          dsimp only at h
          split at h
          · rename_i hlate
            cases h
            exact .inr ⟨rfl, hretry.1, hretry.2, due, rfl, hlate⟩
          · cases h
      · cases h

variable (s) in
/-- Judges an answer, and logs what there is to tell of it. -/
def judging (t : Transfer) (deadline : Option Nat) (answer : Except Failure (List UInt8)) :
    Act Verdict := fun p =>
  let judged := s.judge t deadline p.now answer
  ⟨judged.value, p, judged.events.map .log⟩

/-- A transfer is run and judged, and then its result is returned or it is run again. -/
theorem run_transferUntil (remaining : Nat) (again : Bool) (p : Clocked) :
    Traced.run (s.transferUntil t deadline remaining again) p =
      (do
        let answer ← s.move t remaining again
        match ← s.judging t deadline answer with
        | .done result => return result
        | .again rest => s.transferUntil t deadline rest true : Act _).run p := by
  change s.transferUntil t deadline remaining again p = _
  rw [transferUntil, Traced.run_bind, Traced.run_bind]
  dsimp only
  split <;> rename_i next h
  all_goals
    have hjudging : ((s.judging t deadline ((s.move t remaining again).run p).value).run
        ((s.move t remaining again).run p).state).value = _ := h
    simp only [hjudging, Traced.run_pure, List.append_nil, List.append_assoc]
    rfl

theorem settles_judging {answer : Except Failure (List UInt8)}
    (hanswer : ∀ code, failureOf answer = some code → may code)
    (hspent : s.Spent t deadline p.now → may .timeout) :
    Settles blames may (failureOf answer) (s.judging t deadline answer) p Verdict.code? := by
  have hcalls : Entry.calls ((s.judging t deadline answer).run p).trace = [] :=
    Entry.calls_map_log _
  refine .of_silent rfl hcalls (fun code h => ?_) fun code h => ?_
  · refine (judge_told h).imp_right fun ⟨e, he, hcode⟩ => ⟨e, ?_, hcode⟩
    exact List.mem_filterMap.2 ⟨.log e, List.mem_map_of_mem he, rfl⟩
  · rcases judge_held h with h | ⟨rfl, hlate⟩
    · exact hanswer code h
    · exact hspent hlate

theorem settles_transferUntil (hblames : ∀ timeout again, blames (s.callOf t timeout again))
    {remaining : Nat} {again : Bool}
    (hspent : s.Spent t deadline (s.transferUntil t deadline remaining again p).state.now →
      may .timeout) :
    Settles blames may none (s.transferUntil t deadline remaining again) p codeOf := by
  have hmove (remaining : Nat) (again : Bool) (p : Clocked) :
      Settles blames may none (s.move t remaining again) p failureOf :=
    (Act.answers_transfer _ t remaining again).settles (hblames _ _) p
  refine .of_run (run_transferUntil remaining again p) ?_
  fun_induction transferUntil s t deadline remaining again p with
  | case1 remaining again p moved judged result h =>
    have hvalue : ((s.judging t deadline moved.value).run moved.state).value = .done result := h
    refine (hmove remaining again p).bind_at ?_
    refine (settles_judging (fun _ => .inr) fun hlate => .inl (hspent hlate)).bind_at ?_
    rw [hvalue]
    exact .passed rfl
  | case2 remaining again p moved judged rest h next ih =>
    have hvalue : ((s.judging t deadline moved.value).run moved.state).value = .again rest := h
    -- A transfer that is run again did not fail, so the result holds nothing of it.
    have hjudging : Settles blames (fun _ => True) (failureOf moved.value)
        (s.judging t deadline moved.value) moved.state Verdict.code? :=
      settles_judging (fun _ _ => trivial) fun _ => trivial
    refine (hmove remaining again p).bind_tolerated (hjudging.bind_tolerated ?_)
    rw [hvalue]
    exact .of_run (run_transferUntil rest true moved.state) (ih hspent)

theorem settles_dispatch (hblames : ∀ timeout again, blames (s.callOf t timeout again))
    {timeout : Nat} (hspent : timeout ≠ 0 →
      s.Spent t (some (p.now + timeout)) ((s.dispatch t timeout).run p).state.now → may .timeout) :
    Settles blames may none (s.dispatch t timeout) p codeOf := by
  by_cases hopen : s.state = .open
  · have hrun : (s.dispatch t timeout).run p = s.transferUntil t
        (if timeout = 0 then none else some (p.now + timeout)) timeout false p := if_pos hopen
    rw [hrun] at hspent
    refine .of_run hrun (settles_transferUntil hblames fun hlate => ?_)
    split at hlate
    · -- Without a deadline the time is never spent.
      obtain ⟨-, -, due, hdue, -⟩ := hlate
      cases hdue
    · rename_i htimeout
      rw [if_neg htimeout] at hspent
      exact hspent htimeout hlate
  · have hrun : (s.dispatch t timeout).run p =
        (pure (.error .closed) : Act (Except Error (List UInt8))).run p := if_neg hopen
    exact .of_run hrun (.done rfl)

theorem settles_read {size timeout : Nat}
    (hblames : ∀ timeout again, blames (s.callOf (.read size) timeout again))
    (hspent : s.readTimeout timeout ≠ 0 →
      s.Spent (.read size) (some (p.now + s.readTimeout timeout))
        ((s.read size timeout).run p).state.now → may .timeout) :
    Settles blames may none (s.read size timeout) p codeOf := by
  rw [(s.does_read size timeout p).state] at hspent
  refine (settles_dispatch hblames hspent).bind fun result p' => ?_
  cases result with
  | error e => exact .passed rfl
  | ok bytes =>
    cases s.options.debug with
    | false => exact .done rfl
    | true => exact Act.settles_log_bind (.done rfl)

theorem settles_write {bytes : List UInt8}
    (hblames : ∀ timeout again, blames (s.callOf (.write bytes) timeout again)) :
    Settles blames may none (s.write bytes) p codeOf := by
  have hdispatch (p : Clocked) : Settles blames may none (do
      return (← s.dispatch (.write bytes) 0).map List.length) p codeOf := by
    refine (settles_dispatch hblames fun h => absurd rfl h).bind fun result p' => ?_
    cases result with
    | error e => exact .passed rfl
    | ok bytes => exact .done rfl
  unfold write
  cases s.options.debug with
  | false => exact hdispatch p
  | true => exact Act.settles_log_bind (hdispatch _)

/-! ## Teardown -/

variable (s)

theorem settles_drainUpTo (budget : Nat) (p : Clocked) :
    Settles blames may none (s.drainUpTo budget) p fun _ => none := by
  induction budget generalizing p with
  | zero => exact .done rfl
  | succ budget ih =>
    refine (Act.answers_transfer _ _ _ _).settles_bind fun answer p' => ?_
    cases answer with
    | ok bytes =>
      refine Act.settles_log_bind ?_
      exact (ih p').bind_settled fun _ _ => .done rfl
    | error code =>
      exact Act.settles_report rfl (.done rfl)

theorem settles_quiesce (p : Clocked) : Settles blames may none s.quiesce p fun _ => none := by
  have hdrain (p : Clocked) : Settles blames may none (do
      let reads ← s.drainUpTo drainLimit
      Act.log (.drainIssued reads)) p fun _ => none :=
    (s.settles_drainUpTo drainLimit p).bind_settled fun _ p' => Act.settles_log _ p'
  refine Act.answers_cancel.settles_bind fun answer p' => ?_
  cases answer with
  | ok _ => exact hdrain p'
  | error code => exact Act.settles_report rfl (hdrain _)

theorem settles_giveBack (p : Clocked) : Settles blames may none s.giveBack p fun _ => none := by
  have hclose (p : Clocked) : Settles blames may none (do
      Act.closeHandle
      Act.log .handleClosed) p fun _ => none :=
    (Act.settles_closeHandle forall_none p).bind_settled fun _ p' => Act.settles_log _ p'
  unfold giveBack
  refine (Act.answers_release _).settles_bind fun answer p' => ?_
  -- What is done after the release does not depend on whether it fails.
  rcases answer with code | _
  on_goal 1 => refine Act.settles_report rfl ?_
  all_goals
    cases s.reattach with
    | false => exact hclose p'
    | true =>
      refine (Act.answers_attach _).settles_bind fun answer p' => ?_
      cases answer with
      | ok _ => exact Act.settles_log_bind (hclose p')
      | error code => exact Act.settles_report rfl (hclose p')

theorem settles_close (disconnected : Bool) (p : Clocked) :
    Settles blames may none (s.close disconnected) p fun _ => none := by
  have hgive (p : Clocked) : Settles blames may none (do
      s.giveBack
      return { s with state := .closed }) p fun _ => none :=
    (s.settles_giveBack p).bind_settled fun _ _ => .done rfl
  unfold close
  split
  · refine Act.settles_log_bind ?_
    cases disconnected with
    | true => exact hgive p
    | false => exact (s.settles_quiesce p).bind_settled fun _ p' => hgive p'
  · exact Act.settles_log_bind (.done rfl)

theorem settles_drop (p : Clocked) : Settles blames may none s.drop p fun _ => none := by
  unfold drop
  split
  · refine Act.settles_log_bind ?_
    refine (s.settles_close true p).bind_settled fun _ _ => ?_
    exact .done rfl
  · exact .done rfl

/-! ## Requests -/

/-- What a session is asked for tells of its failures. -/
theorem settles_perform (r : Request)
    (hspent : s.Overdue p.now ((s.perform r).run p).state.now r → may .timeout) :
    Settles r.blames may none (s.perform r) p fun o => o.1.error?.bind Error.code? := by
  cases r with
  | read size timeout =>
    have hread : Settles (Request.read size timeout).blames may none (s.read size timeout) p
        codeOf := settles_read (fun _ _ => rfl) fun htimeout hlate => hspent ⟨htimeout, hlate⟩
    refine hread.bind fun result p' => ?_
    cases result with
    | ok bytes => exact .done rfl
    | error e => exact .passed rfl
  | write bytes =>
    have hwrite : Settles (Request.write bytes).blames may none (s.write bytes) p codeOf :=
      settles_write fun _ _ => rfl
    refine hwrite.bind fun result p' => ?_
    cases result with
    | ok count => exact .done rfl
    | error e => exact .passed rfl
  | close disconnected =>
    refine (s.settles_close disconnected p).bind_settled fun closed _ => ?_
    exact .done rfl
  | state => exact .done rfl
  | details => exact .done rfl
  | debug => exact .done rfl

end Session

end UsbSession
