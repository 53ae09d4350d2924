import UsbSession.Host.Act

/-!
# Sessions

A session holds an opened device with a claimed interface. Reads and writes go to the two endpoints
that were bound when the session was opened; closing it drains what the device still has to say,
releases the interface, gives back a kernel driver that was detached for it, and closes the handle.

* `Session.judge_again`: only a transfer of no bytes into a buffer with room is tried again;
* `Session.transferUntil`: such retries end, because each uses up an answer of the device.
-/

namespace UsbSession

open Log (Event Logged)

/-- The life of a session, which goes one way. -/
inductive Session.State
  | open
  | closing
  | closed
  deriving DecidableEq, Repr, Inhabited

/-- An opened device with a claimed interface. -/
structure Session where
  /-- The place of the device on the bus. -/
  device : Nat
  /-- The descriptor of the device, from when it was opened. -/
  details : Details
  /-- The interface and the endpoints. -/
  binding : Binding
  /-- The options that the session was opened with. -/
  options : Options
  /-- Whether a kernel driver has to be given back. -/
  reattach : Bool
  state : Session.State := .open
  deriving DecidableEq, Repr

namespace Session

/-! ## Transfers -/

/-- What follows the answer of a transfer. -/
inductive Verdict
  /-- The operation ends. -/
  | done (result : Except Error (List UInt8))
  /-- The transfer is tried again, with so much time left. -/
  | again (remaining : Nat)
  deriving Repr

/-- The least time that a read may be given again: one millisecond. A shorter one could be cut down
    to zero, and the host would wait forever. -/
def leastRemaining : Nat := 1000

/-- The judgement of a transfer that failed. -/
def judgeFailure (s : Session) (code : Failure) : Logged Verdict :=
  let first := match code with
    | .timeout => .transferTimedOut
    | _ => .transferFailed s.details.vendor s.details.product s.binding.interface code
  let lost := if code.isDisconnect then [.deviceLost s.details.vendor s.details.product] else []
  ⟨.done (.error (.ofTransfer code)), first :: lost⟩

/-- The judgement of a transfer by its answer, the deadline of the operation and the time now. -/
def judge (s : Session) (t : Transfer) (deadline : Option Nat) (now : Nat) :
    Except Failure (List UInt8) → Logged Verdict
  | .error code => s.judgeFailure code
  | .ok (b :: bytes) => ⟨.done (.ok (b :: bytes)), []⟩
  | .ok [] =>
    if s.options.retryZeroLength && 0 < t.size then
      match deadline with
      | none => ⟨.again 0, [.zeroLength]⟩
      | some due =>
        if due - now < leastRemaining then ⟨.done (.error (.usb .timeout)), []⟩
        else ⟨.again (due - now), [.zeroLength]⟩
    else ⟨.done (.ok []), []⟩

theorem judge_again {s : Session} {t : Transfer} {deadline : Option Nat} {now rest : Nat}
    {answer : Except Failure (List UInt8)}
    (h : (s.judge t deadline now answer).value = .again rest) :
    answer = .ok [] ∧ 0 < t.size := by
  unfold judge at h
  split at h
  · simp [judgeFailure] at h
  · simp at h
  · split at h
    · simp_all
    · simp at h

/-- Runs the transfer on the pipe of its direction. -/
def move (s : Session) (t : Transfer) (timeout : Nat) (again : Bool) :
    Act (Except Failure (List UInt8)) :=
  .transfer (s.binding.pipe t.direction) t timeout again

/-- Runs the transfer until its answer is judged to be the last. -/
def transferUntil (s : Session) (t : Transfer) (deadline : Option Nat) (remaining : Nat)
    (again : Bool) (p : Clocked) : Outcome Clocked Entry (Except Error (List UInt8)) :=
  let moved := (s.move t remaining again).run p
  let judged := s.judge t deadline moved.state.now moved.value
  match h : judged.value with
  | .done result => ⟨result, moved.state, moved.trace ++ judged.events.map .log⟩
  | .again rest =>
    let next := s.transferUntil t deadline rest true moved.state
    ⟨next.value, next.state, moved.trace ++ judged.events.map .log ++ next.trace⟩
termination_by p.device.copies t.direction
decreasing_by
  obtain ⟨hanswer, hsize⟩ := judge_again h
  simp only [moved, move, Act.run_transfer] at hanswer ⊢
  rw [hanswer]
  have leaves : ((p.device.enter t).2.leave t (.ok [])) = (p.device.enter t).2 := by
    cases t <;> rfl
  rw [leaves]
  exact Device.copies_enter_of_zero hsize hanswer

/-- Runs a transfer with a timeout; zero means that there is none. The deadline is a number of
    microseconds without a bound. A clock that counts nanoseconds up to some last one has no place
    for a deadline behind that; an operation that would need one breaks off there before its first
    transfer, which is left out here. -/
def dispatch (s : Session) (t : Transfer) (timeout : Nat) : Act (Except Error (List UInt8)) :=
  fun p =>
    if s.state = .open then
      s.transferUntil t (if timeout = 0 then none else some (p.now + timeout)) timeout false p
    else ⟨.error .closed, p, []⟩

/-- Sends bytes to the outgoing endpoint, with no timeout; the result is how many were taken. -/
def write (s : Session) (bytes : List UInt8) : Act (Except Error Nat) := do
  if s.options.debug then Act.log (.writing s.binding.outgoing.address bytes)
  return (← s.dispatch (.write bytes) 0).map List.length

/-- The timeout of a read: its own, or the default where that is zero. -/
def readTimeout (s : Session) (timeout : Nat) : Nat :=
  if timeout = 0 then s.options.defaultReadTimeout else timeout

/-- Reads up to `size` bytes from the incoming endpoint. -/
def read (s : Session) (size timeout : Nat) : Act (Except Error (List UInt8)) := do
  match ← s.dispatch (.read size) (s.readTimeout timeout) with
  | .ok bytes =>
    if s.options.debug then Act.log (.received s.binding.incoming.address bytes)
    return .ok bytes
  | .error e => return .error e

/-! ## Teardown -/

/-- The buffer of a read that drains. -/
def drainSize : Nat := 64

/-- The timeout of a read that drains: fifty milliseconds. -/
def drainTimeout : Nat := 50000

/-- The most reads that drain one session. -/
def drainLimit : Nat := 256

/-- Reads until a read fails, at most `budget` times, and counts the reads. -/
def drainUpTo (s : Session) : Nat → Act Nat
  | 0 => return 0
  | budget + 1 => do
    match ← s.move (.read drainSize) drainTimeout false with
    | .ok bytes =>
      Act.log (.drained bytes.length)
      return (← s.drainUpTo budget) + 1
    | .error code =>
      Act.log (.drainFinished code)
      return 1

/-- Cancels what is pending and drops what the device still sends. -/
def quiesce (s : Session) : Act Unit := do
  if let .error code ← Act.cancel then Act.log (.cancelFailed code)
  let reads ← s.drainUpTo drainLimit
  Act.log (.drainIssued reads)

/-- Releases the interface, gives back a kernel driver and closes the handle. Failures are logged
    and change nothing. -/
def giveBack (s : Session) : Act Unit := do
  let interface := s.binding.interface
  if let .error code ← Act.release interface then Act.log (.releaseFailed interface code)
  if s.reattach then
    match ← Act.attach interface with
    | .ok () => Act.log (.reattached interface)
    | .error code => Act.log (.reattachFailed interface code)
  Act.closeHandle
  Act.log .handleClosed

/-- Closes the session; on a session that is not open this does nothing. What is pending is
    cancelled and drained unless the device is known to be gone. -/
def close (s : Session) (disconnected : Bool) : Act Session := do
  if s.state = .open then
    Act.log (.closing s.details.vendor s.details.product disconnected)
    if !disconnected then s.quiesce
    s.giveBack
    return { s with state := .closed }
  else
    Act.log .alreadyClosed
    return s

/-- Lets go of the session; an open one is closed without draining. -/
def drop (s : Session) : Act Unit := do
  if s.state = .open then
    Act.log .droppedOpen
    let _ ← s.close true

/-! ## Description -/

/-- The name of a state. -/
def State.name : State → String
  | .open => "Open"
  | .closing => "Closing"
  | .closed => "Closed"

/-- The record with its fields by name. -/
def describe (s : Session) : String :=
  let pipe (p : Pipe) :=
    let kind := match p.kind with
      | .bulk => "Bulk"
      | .interrupt => "Interrupt"
    let direction := match p.direction with
      | .incoming => "In"
      | .outgoing => "Out"
    s!"EndpointSpec \x7b address: {p.address}, kind: {kind}, direction: {direction} \x7d"
  s!"Session \x7b details: {s.details.describe}, interface: {s.binding.interface}" ++
    s!", endpoint_in: {pipe s.binding.incoming}, endpoint_out: {pipe s.binding.outgoing}" ++
    s!", state: {s.state.name} \x7d"

end Session

end UsbSession
