import UsbSession.Proofs.Transfer.Turns

/-!
# Retries and repetitions

A session may try a transfer that moved nothing again by itself, or leave that to its caller, who
makes the same request again and again (`Session.Repeats`). As long as there is no deadline it makes
no difference which of the two does it: the host gets the same calls, the device ends up the same,
and so does the request. Neither goes on for longer than the device has answers.

* `Session.retry_refines`: a session that retries does what its caller would do.
-/

namespace UsbSession

open Traced (Does)

/-! ## Requests again and again -/

/-- The call without the mark of a repetition, which is not told to the host. -/
def Call.unmarked : Call → Call
  | transfer kind endpoint what timeout _ => transfer kind endpoint what timeout false
  | c => c

/-- Whether a transfer has succeeded and moved nothing. -/
def Reply.isEmpty : Reply → Bool
  | read (.ok []) | written (.ok 0) => true
  | _ => false

theorem Reply.isEmpty_ofTransfer (result : Except Error (List UInt8)) (d : Direction) :
    (Reply.ofTransfer result d).isEmpty = true ↔ result = .ok [] := by
  rcases result with e | _ | ⟨b, bytes⟩ <;> cases d <;> simp [ofTransfer, isEmpty, Except.map]

/-- How a read or write ends by the answer of its last transfer. -/
inductive Concludes : HostAnswer → Except Error (List UInt8) → Prop
  /-- What was moved is the result. -/
  | moved (bytes : List UInt8) : Concludes (.ok bytes) (.ok bytes)
  /-- The device is lost. -/
  | lost {code : Failure} (h : code ∈ [.io, .noDevice, .pipe, .other]) :
      Concludes (.error code) (.error .disconnected)
  /-- Any other failure stays what it is. -/
  | failed {code : Failure} (h : code ∉ [.io, .noDevice, .pipe, .other]) :
      Concludes (.error code) (.error (.usb code))

theorem concludes_mapError (answer : HostAnswer) :
    Concludes answer (answer.mapError Error.ofTransfer) := by
  rcases answer with code | bytes
  · rw [Except.mapError, Error.ofTransfer_eq]
    split
    · rename_i h
      exact .lost h
    · rename_i h
      exact .failed h
  · exact .moved bytes

namespace Session

/-- A caller makes a request of a session, and again as long as nothing is moved: so many times, up
    to the last reply. -/
inductive Repeats (r : Request) :
    Session → Clocked → Nat → Reply × Session → List Call → Clocked → Prop
  | last {s s' : Session} {p p' : Clocked} {reply : Reply} {calls : List Call} :
      Does Entry.call? (s.perform r) p (reply, s') calls p' → reply.isEmpty = false →
      Repeats r s p 1 (reply, s') calls p'
  | again {s s' : Session} {p p' p'' : Clocked} {reply : Reply} {final : Reply × Session}
      {calls more : List Call} {n : Nat} :
      Does Entry.call? (s.perform r) p (reply, s') calls p' → reply.isEmpty = true →
      Repeats r s' p' n final more p'' → Repeats r s p (n + 1) final (calls ++ more) p''

theorem limit_retrying (s : Session) (on : Bool) (r : Request) :
    (s.retrying on).limit r = s.limit r := by
  cases r <;> rfl

variable {s : Session} {r : Request} {t : Transfer} {p : Clocked} {n : Nat}

/-- Without retries there is one transfer. -/
theorem does_perform_once (hr : r.transfer? = some t) (h : s.state = .open)
    (hretries : s.retries t = false) : Does Entry.call? (s.perform r) p
      (.ofTransfer ((p.answer t 0).mapError Error.ofTransfer) t.direction, s)
      [s.callOf t (s.limit r) false] (p.after t 1) := by
  obtain ⟨n, hturns⟩ := turns_dispatch h t (s.limit r) p
  obtain rfl : n = 0 := by
    by_contra hn
    rw [hturns.retries (Nat.pos_of_ne_zero hn)] at hretries
    cases hretries
  have hdoes := s.does_perform hr p
  dsimp only at hdoes
  rw [hturns.calls, hturns.state] at hdoes
  rcases judge_eq_done hturns.ends with ⟨-, hretry, -⟩ | ⟨-, hvalue⟩
  · rw [hretry] at hretries
    cases hretries
  · rw [hvalue] at hdoes
    exact hdoes

/-- A caller goes on until something is moved, or a transfer fails. -/
theorem repeats_perform (hr : r.transfer? = some t) (h : s.state = .open)
    (hretries : s.retries t = false) (hempty : ∀ k < n, p.answer t k = .ok [])
    (hlast : p.answer t n ≠ .ok []) :
    Repeats r s p (n + 1) (.ofTransfer ((p.answer t n).mapError Error.ofTransfer) t.direction, s)
      (List.replicate (n + 1) (s.callOf t (s.limit r) false)) (p.after t (n + 1)) := by
  have hnonempty {answer : HostAnswer} :
      (Reply.ofTransfer (answer.mapError Error.ofTransfer) t.direction).isEmpty = true ↔
        answer = .ok [] := by
    rw [Reply.isEmpty_ofTransfer]
    cases answer <;> simp [Except.mapError]
  induction n generalizing p with
  | zero =>
    exact .last (does_perform_once hr h hretries)
      (Bool.eq_false_iff.2 fun hnone => hlast (hnonempty.1 hnone))
  | succ n ih =>
    -- After the first transfer the others are those of the device as it is then.
    have hrest := ih (p := p.passed t)
      (fun k hk => (Clocked.answer_succ k).trans (hempty (k + 1) (Nat.succ_lt_succ hk)))
      (by rwa [Clocked.answer_succ])
    rw [Clocked.answer_succ, Clocked.after_succ] at hrest
    exact .again (does_perform_once hr h hretries) (hnonempty.2 (hempty 0 (Nat.succ_pos n))) hrest

/-! ## A session that retries -/

/-- A read or write without a deadline on a session that retries, and what it comes to. -/
structure Retried (s : Session) (r : Request) (t : Transfer) (p p' : Clocked)
    (result : Except Error (List UInt8)) (calls : List Call) : Prop where
  /-- The request leaves the session as it is, whatever fails. -/
  does : Does Entry.call? ((s.retrying true).perform r) p
    (.ofTransfer result t.direction, s.retrying true) calls p'
  /-- A session that does not retry does the same if its caller repeats the request. -/
  repeats : 0 < t.size → ∃ tries, Repeats r (s.retrying false) p tries
    (.ofTransfer result t.direction, s.retrying false) (calls.map Call.unmarked) p'
  /-- With an empty buffer it does the same anyway. -/
  single : t.size = 0 → calls.length ≤ 1 ∧ Does Entry.call? ((s.retrying false).perform r) p
    (.ofTransfer result t.direction, s.retrying false) calls p'
  /-- There is one transfer more at most than the queue of the direction has copies. -/
  bound : calls.length ≤ p.device.copies t.direction + 1
  /-- The last transfer decides. -/
  settled : s.state = .open → calls ≠ [] ∧ p' = p.after t calls.length ∧
    Concludes (p.answer t (calls.length - 1)) result
  /-- A session that is not open makes no transfer. -/
  closed : s.state ≠ .open → calls = [] ∧ p' = p ∧ result = .error .closed

/-- What a session that is not open replies, it replies with retries or without. -/
theorem Retried.of_not_open (hr : r.transfer? = some t) (h : s.state ≠ .open) (p : Clocked) :
    s.Retried r t p p (.error .closed) [] where
  does := does_perform_of_not_open (s := s.retrying true) hr h p
  repeats _ := ⟨1, .last (does_perform_of_not_open (s := s.retrying false) hr h p)
    (Bool.eq_false_iff.2 fun hempty => nomatch (Reply.isEmpty_ofTransfer _ _).1 hempty)⟩
  single _ := ⟨Nat.zero_le 1, does_perform_of_not_open (s := s.retrying false) hr h p⟩
  bound := Nat.zero_le _
  settled hopen := absurd hopen h
  closed _ := ⟨rfl, rfl, rfl⟩

/-- An empty buffer makes one transfer. -/
theorem Retried.of_size_eq_zero (hr : r.transfer? = some t) (h : s.state = .open)
    (hsize : t.size = 0) (p : Clocked) :
    s.Retried r t p (p.after t 1) ((p.answer t 0).mapError Error.ofTransfer)
      [s.callOf t (s.limit r) false] := by
  have hretries (on : Bool) : (s.retrying on).retries t = false := by
    rw [retries, hsize]
    exact Bool.and_false _
  have honce (on : Bool) := does_perform_once (s := s.retrying on) (p := p) hr h (hretries on)
  exact {
    does := honce true
    repeats := fun hpos => absurd hsize (Nat.ne_of_gt hpos)
    single := fun _ => ⟨Nat.le_refl 1, honce false⟩
    bound := Nat.le_add_left 1 _
    settled := fun _ => ⟨List.cons_ne_nil _ _, rfl, concludes_mapError _⟩
    closed := fun hclosed => absurd h hclosed }

/-- Without a limit a session goes on as its caller would. -/
theorem exists_retried (hr : r.transfer? = some t) (h : s.state = .open) (hsize : 0 < t.size)
    (hlimit : s.limit r = 0) (p : Clocked) :
    ∃ p' result calls, s.Retried r t p p' result calls := by
  have hretries : (s.retrying true).retries t = true := decide_eq_true hsize
  have hunlimited : (s.retrying true).limit r = 0 := (s.limit_retrying true r).trans hlimit
  have hdoes := (s.retrying true).does_perform hr p
  obtain ⟨n, hturns⟩ := turns_dispatch (s := s.retrying true) h t ((s.retrying true).limit r) p
  rw [hunlimited] at hdoes hturns
  generalize ((s.retrying true).dispatch t 0).run p = o at hdoes hturns
  have hempty (k : Nat) (hk : k < n) : p.answer t k = .ok [] := (hturns.empty k hk).1
  -- No time is ever spent, so the last transfer moved something or failed.
  obtain ⟨hlast, hvalue⟩ : p.answer t n ≠ .ok [] ∧
      o.value = (p.answer t n).mapError Error.ofTransfer := by
    rcases judge_eq_done hturns.ends with ⟨-, -, hspent, -⟩ | ⟨hlast | hretry, hvalue⟩
    · cases hspent
    · exact ⟨hlast, hvalue⟩
    · rw [hretries] at hretry
      cases hretry
  have hlength : (Entry.calls o.trace).length = n + 1 := by
    rw [hturns.calls, List.length_cons, List.length_map, List.length_range]
  have hunmarked : (Entry.calls o.trace).map Call.unmarked =
      List.replicate (n + 1) (s.callOf t 0 false) := by
    refine List.eq_replicate_iff.2 ⟨(List.length_map _).trans hlength, fun c hc => ?_⟩
    obtain ⟨marked, hmarked, rfl⟩ := List.mem_map.1 hc
    rw [hturns.calls] at hmarked
    rcases List.mem_cons.1 hmarked with rfl | hmarked
    · rfl
    · obtain ⟨k, -, rfl⟩ := List.mem_map.1 hmarked
      rfl
  refine ⟨p.after t (n + 1), (p.answer t n).mapError Error.ofTransfer, Entry.calls o.trace, {
    does := by
      rw [← hvalue, ← hturns.state]
      exact hdoes
    repeats := fun _ => ⟨n + 1, ?_⟩
    single := fun hzero => absurd hzero (Nat.ne_of_gt hsize)
    bound := by
      rw [hlength]
      exact Nat.succ_le_succ (Clocked.le_copies hsize hempty)
    settled := fun _ => ?_
    closed := fun hclosed => absurd h hclosed }⟩
  · have hrepeats := repeats_perform (s := s.retrying false) hr h rfl hempty hlast
    rwa [limit_retrying, hlimit, show (s.retrying false).callOf t 0 false = s.callOf t 0 false from
      rfl, ← hunmarked] at hrepeats
  · rw [hlength]
    refine ⟨fun hnil => ?_, rfl, concludes_mapError _⟩
    rw [hnil] at hlength
    cases hlength

/-- A read or write that has no deadline, or an empty buffer, is the same with retries as it is
    without them and repeated by the caller. -/
theorem retry_refines (hr : r.transfer? = some t) (hlimit : t.size = 0 ∨ s.limit r = 0)
    (p : Clocked) : ∃ p' result calls, s.Retried r t p p' result calls := by
  by_cases h : s.state = .open
  · rcases Nat.eq_zero_or_pos t.size with hsize | hsize
    · exact ⟨_, _, _, .of_size_eq_zero hr h hsize p⟩
    · exact exists_retried hr h hsize (hlimit.resolve_left (Nat.ne_of_gt hsize)) p
  · exact ⟨_, _, _, .of_not_open hr h p⟩

/-- A write moves nothing twice and then two bytes of three. -/
theorem retry_refines_write :
    let s := Crowd.plainSession
    let r := Request.write [1, 2, 3]
    let t := Transfer.write [1, 2, 3]
    let idle : Item Outbound := { answer := .accept (some 0), again := 1 }
    let last : Item Outbound := { answer := .accept (some 2) }
    let p : Clocked := ⟨{ (default : Device) with outbound := [idle, last] }, 0⟩
    r.transfer? = some t ∧ (t.size = 0 ∨ s.limit r = 0) ∧
      (List.range 3).map (p.answer t) = [.ok [], .ok [], .ok [1, 2]] ∧
      ∃ p' result calls, s.Retried r t p p' result calls :=
  ⟨rfl, .inr rfl, rfl, retry_refines rfl (.inr rfl) _⟩

end Session

end UsbSession
