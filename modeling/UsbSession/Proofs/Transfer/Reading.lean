import UsbSession.Proofs.Life.Conduct
import UsbSession.Proofs.Transfer.Copies

/-!
# What reads and writes do to the copies

A read takes copies from the front, one a transfer, until one ends it (`Session.Reading`). The
copies before the last one held no bytes, so nothing that a read takes is lost: the bytes of the
last copy are its result, up to the end of the buffer. A write takes none, and its echo goes to the
end.

* `Session.transferUntil_read`, `Session.transferUntil_write`: every read and every write does so.
-/

namespace UsbSession.Session

variable {s : Session} {size : Nat} {due : Option Nat}

/-- How a read with a buffer of `size` bytes went that was due at some time, if it had a deadline,
    and came to its end at the time `ended`: it took the copies `taken`, and the copies `left`
    stayed. -/
structure Reading (s : Session) (size : Nat) (due : Option Nat) (taken left : List Inbound)
    (ended : Nat) (calls : List Call) (result : Except Error (List UInt8)) : Prop where
  transfers : ∀ c ∈ calls, s.IsTransfer .incoming c
  /-- Each transfer takes one copy. One that finds none is the last, and the read times out. -/
  each : calls.length = taken.length ∨
    calls.length = taken.length + 1 ∧ left = [] ∧ result = .error (.usb .timeout)
  /-- What is returned are the first bytes of the last copy, as many as the buffer can hold. -/
  returned : ∀ bytes, result = .ok bytes →
    ∃ data, taken.getLast? = some (.data data) ∧ bytes = data.take size
  /-- A copy with bytes in it is returned, if the buffer can hold any. -/
  kept : 0 < size → ∀ (i : Nat) b bytes, taken[i]? = some (.data (b :: bytes)) →
    i + 1 = taken.length ∧ result = .ok ((b :: bytes).take size)
  /-- The failure is the one of the last copy, as it is or as the loss of the device, unless the
      read timed out: there was no further copy, or less than a millisecond was left after copies
      without bytes. -/
  failed : ∀ e, result = .error e →
    (∃ code, taken.getLast? = some (.failure code) ∧
      e = if code ∈ [.io, .noDevice, .pipe, .other] then .disconnected else .usb code) ∨
    e = .usb .timeout ∧ (calls.length = taken.length + 1 ∧ left = [] ∨
      taken ≠ [] ∧ (∀ c ∈ taken, c = .data []) ∧ s.options.retryZeroLength = true ∧
        ∃ d, due = some d ∧ d < ended + 1000)

namespace Reading

variable {taken left : List Inbound} {ended : Nat} {calls : List Call} {call : Call}
  {result : Except Error (List UInt8)}

/-- Without a copy the read times out. -/
theorem vain (hcall : s.IsTransfer .incoming call) :
    s.Reading size due [] [] ended [call] (.error (.usb .timeout)) where
  transfers := List.forall_mem_singleton.2 hcall
  each := .inr ⟨rfl, rfl, rfl⟩
  returned bytes h := by cases h
  kept _ i b bytes h := by cases h
  failed e h := by
    cases h
    exact .inr ⟨rfl, .inl ⟨rfl, rfl⟩⟩

/-- The copy is a failure. -/
theorem failure (hcall : s.IsTransfer .incoming call) (code : Failure) :
    s.Reading size due [.failure code] left ended [call] (.error (.ofTransfer code)) where
  transfers := List.forall_mem_singleton.2 hcall
  each := .inl rfl
  returned bytes h := by cases h
  kept _ i b bytes h := by
    cases List.mem_singleton.1 (List.mem_of_getElem? h)
  failed e h := by
    cases h
    exact .inl ⟨code, rfl, Error.ofTransfer_eq code⟩

/-- The copy is returned. -/
theorem data (hcall : s.IsTransfer .incoming call) (bytes : List UInt8) :
    s.Reading size due [.data bytes] left ended [call] (.ok (bytes.take size)) where
  transfers := List.forall_mem_singleton.2 hcall
  each := .inl rfl
  returned bytes' h := by
    cases h
    exact ⟨bytes, rfl, rfl⟩
  kept _ i b bytes' h := by
    have hi : i < 1 := (List.getElem?_eq_some_iff.1 h).1
    cases List.mem_singleton.1 (List.mem_of_getElem? h)
    exact ⟨by rw [List.length_singleton]; omega, rfl⟩
  failed e h := by cases h

/-- The copy holds no bytes, and there is no time for another. -/
theorem late (hcall : s.IsTransfer .incoming call) (hretry : s.options.retryZeroLength = true)
    {d : Nat} (hd : d < ended + 1000) :
    s.Reading size (some d) [.data []] left ended [call] (.error (.usb .timeout)) where
  transfers := List.forall_mem_singleton.2 hcall
  each := .inl rfl
  returned bytes h := by cases h
  kept _ i b bytes h := by
    cases List.mem_singleton.1 (List.mem_of_getElem? h)
  failed e h := by
    cases h
    exact .inr ⟨rfl, .inr
      ⟨List.cons_ne_nil _ _, List.forall_mem_singleton.2 rfl, hretry, d, rfl, hd⟩⟩

/-- The copy holds no bytes, and the read goes on. -/
theorem again (h : s.Reading size due taken left ended calls result)
    (hcall : s.IsTransfer .incoming call) :
    s.Reading size due (.data [] :: taken) left ended (call :: calls) result := by
  -- The last of the other copies is the last of all.
  have hlast {c : Inbound} (hc : taken.getLast? = some c) :
      (Inbound.data [] :: taken).getLast? = some c := by
    rw [List.getLast?_cons, hc]
    rfl
  refine ⟨List.forall_mem_cons.2 ⟨hcall, h.transfers⟩, ?_, fun bytes hbytes => ?_,
    fun hsize i b bytes hi => ?_, fun e he => ?_⟩
  · simp only [List.length_cons]
    exact h.each.imp (congrArg (· + 1)) (And.imp_left (congrArg (· + 1)))
  · obtain ⟨data, hdata, hcut⟩ := h.returned bytes hbytes
    exact ⟨data, hlast hdata, hcut⟩
  · cases i with
    | zero => cases hi
    | succ i =>
      obtain ⟨hend, hresult⟩ := h.kept hsize i b bytes hi
      exact ⟨congrArg (· + 1) hend, hresult⟩
  · rcases h.failed e he with ⟨code, hcode, hcause⟩ | ⟨htimeout, hempty | ⟨-, hnone, htime⟩⟩
    · exact .inl ⟨code, hlast hcode, hcause⟩
    · exact .inr ⟨htimeout, .inl (hempty.imp_left (congrArg (· + 1)))⟩
    · exact .inr ⟨htimeout, .inr ⟨List.cons_ne_nil _ _, List.forall_mem_cons.2 ⟨rfl, hnone⟩, htime⟩⟩

/-- Where no copy waits the read times out. -/
theorem eq_timeout (h : s.Reading size due [] left ended calls result) :
    result = .error (.usb .timeout) := by
  cases result with
  | ok bytes =>
    obtain ⟨data, hdata, -⟩ := h.returned bytes rfl
    cases hdata
  | error e =>
    rcases h.failed e rfl with ⟨code, hcode, -⟩ | ⟨rfl, -⟩
    · cases hcode
    · rfl

/-- Where a copy with bytes in it is the first, the read returns it. -/
theorem eq_first {b : UInt8} {bytes : List UInt8} {cs : List Inbound}
    (h : s.Reading size due taken left ended calls result) (hsize : 0 < size)
    (hfront : .data (b :: bytes) :: cs = taken ++ left) :
    left = cs ∧ result = .ok ((b :: bytes).take size) := by
  cases taken with
  | nil =>
    -- A read that takes nothing has found nothing.
    have hresult := h.eq_timeout
    rcases h.failed _ hresult with ⟨code, hcode, -⟩ | ⟨-, ⟨-, rfl⟩ | ⟨hne, -⟩⟩
    · cases hcode
    · cases hfront
    · exact absurd rfl hne
  | cons c taken =>
    obtain ⟨rfl, hrest⟩ := List.cons.inj hfront
    obtain ⟨hlength, hresult⟩ := h.kept hsize 0 b bytes rfl
    have htaken : taken = [] := by simpa using hlength
    rw [htaken] at hrest
    exact ⟨hrest.symm, hresult⟩

end Reading

/-- How a write of bytes went on a device: it left the answers `q` for writes and put the answers
    `echo` for reads behind those that wait. -/
structure Writing (bytes : List UInt8) (d : Device) (echo : Queue Inbound) (q : Queue Outbound)
    (result : Except Error (List UInt8)) : Prop where
  echoed : echo.spread = d.script.echo result
  /-- At most what was to be sent is sent. -/
  sent : ∀ sent, result = .ok sent → sent <+: bytes
  /-- All is sent if the script says nothing else. -/
  whole : d.outbound = [] → d.script.writeError = none → bytes ≠ [] → result = .ok bytes ∧ q = []

/-! ## Single transfers -/

/-- A transfer of no bytes is the last one if it is not tried again, or if there is no time left. -/
theorem judge_done_of_empty {t : Transfer} {now : Nat} {result : Except Error (List UInt8)}
    (h : (s.judge t due now (.ok [])).value = .done result) :
    result = .ok [] ∨ result = .error (.usb .timeout) ∧ s.options.retryZeroLength = true ∧
      0 < t.size ∧ ∃ d, due = some d ∧ d < now + 1000 := by
  unfold judge at h
  split at h
  · cases ‹_ = Except.error _›
  · cases ‹_ = Except.ok _›
  · split at h
    · rename_i hretry
      obtain ⟨hretry, hsize⟩ := Bool.and_eq_true_iff.1 hretry
      split at h
      · cases h
      · rename_i d
        split at h
        · rename_i hshort
          unfold leastRemaining at hshort
          cases h
          exact .inr ⟨rfl, hretry, of_decide_eq_true hsize, d, rfl, by omega⟩
        · cases h
    · cases h
      exact .inl rfl

/-- What the last transfer has sent is what the operation has sent. -/
theorem judge_done {t : Transfer} {now : Nat} {answer : Except Failure (List UInt8)}
    {result : Except Error (List UInt8)} (h : (s.judge t due now answer).value = .done result) :
    (∀ sent, result = .ok sent → answer = .ok sent) ∧
      ∀ script : Script, script.echo result = script.echo answer := by
  rcases answer with code | _ | ⟨b, bytes⟩
  · cases h
    exact ⟨nofun, fun _ => rfl⟩
  · rcases judge_done_of_empty h with rfl | ⟨rfl, -⟩
    · exact ⟨fun sent hsent => by cases hsent; rfl, fun _ => rfl⟩
    · exact ⟨nofun, fun _ => rfl⟩
  · cases h
    exact ⟨fun sent hsent => by cases hsent; rfl, fun _ => rfl⟩

/-- A copy that holds bytes answers without any only where the buffer cannot hold one. -/
theorem eq_data_nil_of_answer {c : Inbound} (hsize : 0 < size) (h : c.answer size = .ok []) :
    c = .data [] := by
  cases c with
  | failure code => cases h
  | data bytes =>
    rcases List.take_eq_nil_iff.1 (Except.ok.inj h) with hzero | hnil
    · exact absurd hzero (Nat.ne_of_gt hsize)
    · rw [hnil]

/-- A read that ends with a transfer has taken the copy of that transfer. -/
theorem Reading.of_judge {c : Inbound} {left : List Inbound} {call : Call} {now : Nat}
    {result : Except Error (List UInt8)} (hcall : s.IsTransfer .incoming call)
    (h : (s.judge (.read size) due now (c.answer size)).value = .done result) :
    s.Reading size due [c] left now [call] result := by
  cases c with
  | failure code =>
    cases h
    exact .failure hcall code
  | data bytes =>
    cases hcut : bytes.take size with
    | cons b cut =>
      rw [Inbound.answer, hcut] at h
      cases h
      rw [← hcut]
      exact .data hcall bytes
    | nil =>
      rw [Inbound.answer, hcut] at h
      rcases judge_done_of_empty h with rfl | ⟨rfl, hretry, hsize, d, rfl, hd⟩
      · rw [← hcut]
        exact .data hcall bytes
      · rw [eq_data_nil_of_answer (c := .data bytes) hsize (congrArg Except.ok hcut)]
        exact .late hcall hretry hd

section Move

variable {remaining : Nat} {again : Bool} {p : Clocked}

theorem calls_move (t : Transfer) : Entry.calls ((s.move t remaining again).run p).trace =
    [s.callOf t remaining again] := rfl

variable (s remaining again) in
theorem isTransfer_callOf (t : Transfer) : s.IsTransfer t.direction (s.callOf t remaining again) :=
  ⟨t, remaining, again, rfl, rfl⟩

theorem move_read_of_nil (h : p.device.waiting = []) :
    ((s.move (.read size) remaining again).run p).value = .error .timeout ∧
      ((s.move (.read size) remaining again).run p).state.device = p.device :=
  p.device.enter_read_of_nil h

theorem move_read_of_cons {c : Inbound} {cs : List Inbound} (h : p.device.waiting = c :: cs) :
    ((s.move (.read size) remaining again).run p).value = c.answer size ∧
      ∃ q : Queue Inbound, q.spread = cs ∧
        ((s.move (.read size) remaining again).run p).state.device =
          p.device.queued q p.device.outbound :=
  p.device.enter_read_of_cons h

variable (s remaining again p) in
theorem move_write (bytes : List UInt8) :
    let o := (s.move (.write bytes) remaining again).run p
    ∃ (q : Queue Outbound) (echo : Queue Inbound), echo.spread = p.device.script.echo o.value ∧
      o.state.device = p.device.queued (p.device.inbound ++ echo) q ∧
      (∀ sent, o.value = .ok sent → sent <+: bytes) ∧
      (p.device.outbound = [] → p.device.script.writeError = none →
        o.value = .ok bytes ∧ q = []) := by
  obtain ⟨q, hq⟩ := p.device.enter_write bytes
  obtain ⟨echo, hecho, hleave⟩ :=
    (p.device.enter (.write bytes)).2.leave_write bytes (p.device.enter (.write bytes)).1.answer
  rw [hq] at hecho hleave
  refine ⟨q, echo, hecho, (congrArg _ hq).trans hleave,
    fun sent => p.device.isPrefix_of_enter_write bytes, fun hqueue hfree => ?_⟩
  obtain ⟨hvalue, hdevice⟩ := p.device.enter_write_of_nil bytes hqueue hfree
  refine ⟨hvalue, ?_⟩
  rw [← hqueue, ← hdevice, hq]
  rfl

end Move

/-! ## Whole operations -/

/-- A read takes the first copies, and nothing else of the device changes. -/
theorem transferUntil_read (s : Session) (size : Nat) (due : Option Nat) (remaining : Nat)
    (again : Bool) (p : Clocked) :
    let o := s.transferUntil (.read size) due remaining again p
    ∃ (taken : List Inbound) (q : Queue Inbound), p.device.waiting = taken ++ q.spread ∧
      o.state.device = p.device.queued q p.device.outbound ∧
      s.Reading size due taken q.spread o.state.now (Entry.calls o.trace) o.value := by
  fun_induction transferUntil s (.read size) due remaining again p with
  | case1 remaining again p moved judged result h =>
    intro o
    have hcall := s.isTransfer_callOf remaining again (.read size)
    have hcalls : Entry.calls o.trace = [s.callOf (.read size) remaining again] := by
      rw [Entry.calls_append, Entry.calls_map_log, List.append_nil, calls_move]
    rw [hcalls]
    cases hwaiting : p.device.waiting with
    | nil =>
      obtain ⟨hvalue, hdevice⟩ := move_read_of_nil hwaiting
      refine ⟨[], p.device.inbound, hwaiting.symm, hdevice, ?_⟩
      have hresult : o.value = .error (.usb .timeout) := by
        change (s.judge _ due _ moved.value).value = _ at h
        rw [hvalue] at h
        cases h
        rfl
      rw [hresult, show p.device.inbound.spread = [] from hwaiting]
      exact .vain hcall
    | cons c cs =>
      obtain ⟨hvalue, q, hq, hdevice⟩ := move_read_of_cons hwaiting
      refine ⟨[c], q, by rw [hq]; rfl, hdevice, .of_judge hcall ?_⟩
      rw [← hvalue]
      exact h
  | case2 remaining again p moved judged rest h next ih =>
    intro o
    have hcall := s.isTransfer_callOf remaining again (.read size)
    have hcalls : Entry.calls o.trace =
        s.callOf (.read size) remaining again :: Entry.calls next.trace := by
      rw [Entry.calls_append, Entry.calls_append, Entry.calls_map_log, List.append_nil, calls_move]
      rfl
    rw [hcalls]
    -- A read goes on after a copy without bytes only.
    obtain ⟨hempty, hsize⟩ := judge_again h
    obtain ⟨taken, q, hfront, hdevice, hread⟩ := ih
    cases hwaiting : p.device.waiting with
    | nil =>
      obtain ⟨hvalue, -⟩ := move_read_of_nil hwaiting
      cases hvalue.symm.trans hempty
    | cons c cs =>
      obtain ⟨hvalue, q', hq', hmoved⟩ := move_read_of_cons hwaiting
      have hc := eq_data_nil_of_answer hsize (hvalue.symm.trans hempty)
      refine ⟨.data [] :: taken, q, ?_, ?_, hread.again hcall⟩
      · rw [hc, List.cons_append, ← hfront, ← hq']
        exact congrArg _ (congrArg Device.waiting hmoved).symm
      · rw [hdevice, show moved.state.device = _ from hmoved]
        rfl

/-- A write sends the first bytes of what it is given, and only the queues of the device change. -/
theorem transferUntil_write (s : Session) (bytes : List UInt8) (due : Option Nat) (remaining : Nat)
    (again : Bool) (p : Clocked) :
    let o := s.transferUntil (.write bytes) due remaining again p
    ∃ (q : Queue Outbound) (echo : Queue Inbound),
      o.state.device = p.device.queued (p.device.inbound ++ echo) q ∧
      Writing bytes p.device echo q o.value := by
  fun_induction transferUntil s (.write bytes) due remaining again p with
  | case1 remaining again p moved judged result h =>
    obtain ⟨q, echo, hecho, hdevice, hsent, hwhole⟩ := s.move_write remaining again p bytes
    obtain ⟨hresult, hsame⟩ := judge_done h
    refine ⟨q, echo, hdevice, hecho.trans (hsame _).symm, fun sent h => hsent sent (hresult sent h),
      fun hqueue hfree hbytes => ?_⟩
    obtain ⟨hvalue, hq⟩ := hwhole hqueue hfree
    obtain ⟨b, bytes, rfl⟩ := List.exists_cons_of_ne_nil hbytes
    refine ⟨?_, hq⟩
    change (s.judge _ due _ moved.value).value = _ at h
    rw [show moved.value = _ from hvalue] at h
    cases h
    rfl
  | case2 remaining again p moved judged rest h next ih =>
    obtain ⟨q', echo', hdevice', hwriting⟩ := ih
    obtain ⟨q, echo, hecho, hmoved, -, hwhole⟩ := s.move_write remaining again p bytes
    -- The transfer before has sent nothing, so there is no echo of it.
    obtain ⟨hempty, -⟩ := judge_again h
    rw [show moved.state.device = _ from hmoved] at hdevice' hwriting
    refine ⟨q', echo ++ echo', hdevice'.trans ?_, ?_, hwriting.sent, fun hqueue hfree hbytes => ?_⟩
    · rw [← List.append_assoc]
      rfl
    · rw [Queue.spread_append, hecho, show _ = Except.ok [] from hempty]
      exact hwriting.echoed
    · cases (hwhole hqueue hfree).1.symm.trans hempty
      exact absurd rfl hbytes

/-- When a read has to be over that starts now and is given a timeout. Where that is zero it has the
    time of the options, or else five seconds. -/
def deadline (s : Session) (timeout now : Nat) : Option Nat :=
  let span := if timeout = 0 then s.options.readTimeout.getD 5000000 else timeout
  if span = 0 then none else some (now + span)

open Traced (Does)

theorem does_perform_read (h : s.state = .open) (size timeout : Nat) (p : Clocked) :
    ∃ (taken : List Inbound) (q : Queue Inbound) (result : Except Error (List UInt8))
      (calls : List Call) (ended : Nat), p.device.waiting = taken ++ q.spread ∧
      Does Entry.call? (s.perform (.read size timeout)) p (.read result, s) calls
        ⟨p.device.queued q p.device.outbound, ended⟩ ∧
      s.Reading size (s.deadline timeout p.now) taken q.spread ended calls result := by
  obtain ⟨taken, q, hfront, hdevice, hread⟩ :=
    s.transferUntil_read size (s.deadline timeout p.now) (s.readTimeout timeout) false p
  have hdispatch : (s.dispatch (.read size) (s.readTimeout timeout)).run p =
      s.transferUntil (.read size) (s.deadline timeout p.now) (s.readTimeout timeout) false p :=
    if_pos h
  have hdoes := s.does_read size timeout p
  rw [hdispatch] at hdoes
  generalize s.transferUntil (.read size) (s.deadline timeout p.now) (s.readTimeout timeout) false p
    = o at hdevice hread hdoes
  obtain ⟨result, ⟨device, ended⟩, trace⟩ := o
  cases hdevice
  exact ⟨taken, q, result, Entry.calls trace, ended, hfront, hdoes.bind_pure (.pure _ _), hread⟩

theorem does_perform_write (h : s.state = .open) (bytes : List UInt8) (p : Clocked) :
    ∃ (echo : Queue Inbound) (q : Queue Outbound) (result : Except Error (List UInt8))
      (calls : List Call) (ended : Nat),
      Does Entry.call? (s.perform (.write bytes)) p (.written (result.map List.length), s) calls
        ⟨p.device.queued (p.device.inbound ++ echo) q, ended⟩ ∧
      Writing bytes p.device echo q result := by
  obtain ⟨q, echo, hdevice, hwriting⟩ := s.transferUntil_write bytes none 0 false p
  have hdispatch : (s.dispatch (.write bytes) 0).run p =
      s.transferUntil (.write bytes) none 0 false p := if_pos h
  have hdoes := s.does_write bytes p
  rw [hdispatch] at hdoes
  generalize s.transferUntil (.write bytes) none 0 false p = o at hwriting hdevice hdoes
  obtain ⟨result, ⟨device, ended⟩, trace⟩ := o
  cases hdevice
  exact ⟨echo, q, result, Entry.calls trace, ended, hdoes.bind_pure (.pure _ _), hwriting⟩

end UsbSession.Session
