import UsbSession.Session.Reply

/-!
# Threads on one session

What several threads do that use one session at a time, step by step. A thread stands at a point
(`Point`) of its operation; a step (`Point.step?`) takes it to the next one, looks at what the
threads have in common (`Common`) and changes it.

The threads have in common the state of the session, one lock a direction, and the handle. Transfers
share the handle; teardown takes it away, which needs that nobody shares it. A read or write looks
at the state before it shares the handle, so it may come in between that the session starts to
close: then the handle is still there, since a teardown waits for the thread, or it is gone.

* `Point.holds`, `Point.shares`, `Point.inside?`: what a thread has at a point.
-/

namespace UsbSession

open Log (Event)

/-! ## What threads have in common -/

/-- What the threads on one session have in common. -/
structure Common where
  /-- The state of the session. -/
  state : Session.State := .open
  /-- Whether some thread holds the lock of reads. -/
  reading : Bool := false
  /-- Whether some thread holds the lock of writes. -/
  writing : Bool := false
  /-- How many threads share the handle. -/
  sharers : Nat := 0
  /-- Whether a thread has the handle for itself. -/
  exclusive : Bool := false
  /-- Whether the handle is still there. -/
  handle : Bool := true
  deriving DecidableEq, Repr, Inhabited

namespace Common

/-- Whether the lock of a direction is held. -/
def held (c : Common) : Direction → Bool
  | .incoming => c.reading
  | .outgoing => c.writing

/-- The lock of a direction is taken, or given back. -/
def setHeld (c : Common) (value : Bool) : Direction → Common
  | .incoming => { c with reading := value }
  | .outgoing => { c with writing := value }

/-- One thread more shares the handle. -/
def share (c : Common) : Common := { c with sharers := c.sharers + 1 }

/-- One thread less shares the handle. -/
def unshare (c : Common) : Common := { c with sharers := c.sharers - 1 }

end Common

/-! ## Points -/

/-- A read or a write under way. -/
structure Exchange where
  what : Transfer
  /-- When the operation has to be over. -/
  deadline : Option Nat
  /-- The timeout of the next transfer. -/
  remaining : Nat
  /-- Whether there was a transfer before. -/
  again : Bool := false
  deriving DecidableEq, Repr

/-- What the host answers to a call. -/
abbrev HostAnswer := Except Failure (List UInt8)

/-- Where a thread stands in its operation, by what it does next. -/
inductive Point
  /-- Takes the lock of the direction, and starts to count the time. -/
  | queued (what : Transfer) (timeout : Nat)
  /-- Looks at the state. -/
  | checking (x : Exchange)
  /-- Shares the handle. -/
  | sharing (x : Exchange)
  /-- Starts the transfer. -/
  | starting (x : Exchange)
  /-- Returns from the transfer. -/
  | moving (x : Exchange) (answer : HostAnswer)
  /-- Leaves the handle to the others and judges the answer, if the handle was there. -/
  | moved (x : Exchange) (answer : Option HostAnswer)
  /-- Gives the lock of the direction back. -/
  | leaving (direction : Direction) (result : Except Error (List UInt8))
  /-- Takes an open session into closing. -/
  | flipping (disconnected : Bool)
  /-- Shares the handle to cancel what is pending. -/
  | cancelSharing
  /-- Starts to cancel. -/
  | cancelStarting
  /-- Returns from cancelling. -/
  | cancelling (answer : HostAnswer)
  /-- Leaves the handle to the others after cancelling. -/
  | cancelled
  /-- Takes the lock of reads to drain. -/
  | drainQueued
  /-- Shares the handle to drain. -/
  | drainSharing
  /-- Starts to drain once more, after so many reads. -/
  | drainStarting (reads : Nat)
  /-- Returns from a read that drains. -/
  | draining (reads : Nat) (answer : HostAnswer)
  /-- Leaves the handle to the others after so many reads. -/
  | drained (reads : Nat)
  /-- Gives the lock of reads back. -/
  | drainLeaving (reads : Nat)
  /-- Waits for the handle to be shared by nobody. -/
  | taking
  /-- Takes the handle away. -/
  | took
  /-- Starts to release the interface. -/
  | releaseStarting
  /-- Returns from the release. -/
  | releasing (answer : HostAnswer)
  /-- Starts to attach the kernel driver. -/
  | attachStarting
  /-- Returns from attaching. -/
  | attaching (answer : HostAnswer)
  /-- Starts to close the handle. -/
  | handleClosing
  /-- Returns from closing the handle. -/
  | handleClosed
  /-- Marks the session as closed. -/
  | storing
  /-- Looks at the session for a request that needs nothing else. -/
  | looking (request : Request)
  /-- Does nothing more. -/
  | finished (reply : Reply)
  deriving Repr

namespace Point

/-- Where a request starts. -/
def ofRequest (s : Session) : Request → Point
  | .read size timeout => .queued (.read size) (s.readTimeout timeout)
  | .write bytes => .queued (.write bytes) 0
  | .close disconnected => .flipping disconnected
  | r => .looking r

/-- The reply of a thread that has finished. -/
def reply? : Point → Option Reply
  | finished reply => some reply
  | _ => none

/-- Whether a thread at the point holds the lock of the direction. -/
def holds (direction : Direction) : Point → Bool
  | checking x | sharing x | starting x | moving x _ | moved x _ => x.what.direction == direction
  | leaving d _ => d == direction
  | drainSharing | drainStarting _ | draining .. | drained _ | drainLeaving _ =>
    direction == .incoming
  | _ => false

/-- Whether a thread at the point shares the handle. -/
def shares : Point → Bool
  | starting _ | moving .. | moved .. | cancelStarting | cancelling _ | cancelled
  | drainStarting _ | draining .. | drained _ => true
  | _ => false

/-- Whether a thread at the point waits to have the handle for itself. -/
def awaitsHandle : Point → Bool
  | taking => true
  | _ => false

/-- The transfer that a thread at the point has inside the host. -/
def inside? : Point → Option Transfer
  | moving x _ => some x.what
  | draining .. => some (.read Session.drainSize)
  | _ => none

end Point

/-! ## Steps -/

/-- What a step meets that is not the threads' own: the time, the answer of the host to a call that
    starts, and whether the handle may be shared. -/
structure Moment where
  /-- The time, in microseconds. -/
  now : Nat := 0
  /-- What the host answers. -/
  answer : HostAnswer := .ok []
  /-- Whether another thread is let in to share the handle. -/
  admits : Bool := true

/-- What a step leaves. -/
structure Move where
  /-- Where the thread stands now. -/
  point : Point
  /-- What the threads have in common now. -/
  common : Common
  /-- The calls that start, and the log events. -/
  entries : List Entry := []

namespace Point

/-- The log event of a failure, where there was one. -/
def logFailure (event : Failure → Event) : HostAnswer → List Entry
  | .ok _ => []
  | .error code => [.log (event code)]

/-- The call of a transfer on a session. -/
def transferCall (s : Session) (t : Transfer) (timeout : Nat) (again : Bool) : Entry :=
  let pipe := s.binding.pipe t.direction
  .call (.transfer pipe.kind pipe.address t timeout again)

/-- The log events of an operation that has its lock. -/
def opening (s : Session) : Transfer → List Entry
  | .read _ => []
  | .write bytes =>
    if s.options.debug then [.log (.writing s.binding.outgoing.address bytes)] else []

/-- The log events of an operation that gives its lock back. -/
def ending (s : Session) : Direction → Except Error (List UInt8) → List Entry
  | .incoming, .ok bytes =>
    if s.options.debug then [.log (.received s.binding.incoming.address bytes)] else []
  | _, _ => []

/-- A thread tries to share the handle, and goes on by whether the handle is there. -/
def enterHandle (c : Common) (m : Moment) (there gone : Point) : Option Move :=
  if c.exclusive || !m.admits then none
  else some ⟨if c.handle then there else gone, c.share, []⟩

/-- The next step of a thread, if it can take one. As for an operation alone (`Session.dispatch`),
    deadlines are microseconds without a bound. -/
def step? (s : Session) (c : Common) (m : Moment) : Point → Option Move
  | queued what timeout =>
    if c.held what.direction then none
    else
      let deadline := if timeout = 0 then none else some (m.now + timeout)
      some ⟨.checking ⟨what, deadline, timeout, false⟩, c.setHeld true what.direction,
        opening s what⟩
  | checking x =>
    if c.state = .open then some ⟨.sharing x, c, []⟩
    else some ⟨.leaving x.what.direction (.error .closed), c, []⟩
  | sharing x => enterHandle c m (.starting x) (.moved x none)
  | starting x =>
    some ⟨.moving x m.answer, c, [transferCall s x.what x.remaining x.again]⟩
  | moving x answer => some ⟨.moved x (some answer), c, []⟩
  | moved x none => some ⟨.leaving x.what.direction (.error .closed), c.unshare, []⟩
  | moved x (some answer) =>
    let judged := s.judge x.what x.deadline m.now answer
    let point := match judged.value with
      | .done result => .leaving x.what.direction result
      | .again remaining => .checking { x with remaining, again := true }
    some ⟨point, c.unshare, judged.events.map .log⟩
  | leaving direction result =>
    some ⟨.finished (.ofTransfer result direction), c.setHeld false direction,
      ending s direction result⟩
  | flipping disconnected =>
    if c.state = .open then
      some ⟨if disconnected then .taking else .cancelSharing, { c with state := .closing },
        [.log (.closing s.details.vendor s.details.product disconnected)]⟩
    else some ⟨.finished (.closed c.state), c, [.log .alreadyClosed]⟩
  | cancelSharing => enterHandle c m .cancelStarting .cancelled
  | cancelStarting => some ⟨.cancelling m.answer, c, [.call .cancel]⟩
  | cancelling answer => some ⟨.cancelled, c, logFailure .cancelFailed answer⟩
  | cancelled => some ⟨.drainQueued, c.unshare, []⟩
  | drainQueued =>
    if c.held .incoming then none else some ⟨.drainSharing, c.setHeld true .incoming, []⟩
  | drainSharing => enterHandle c m (.drainStarting 0) (.drained 0)
  | drainStarting reads =>
    some ⟨.draining reads m.answer, c,
      [transferCall s (.read Session.drainSize) Session.drainTimeout false]⟩
  | draining reads (.ok bytes) =>
    let next := if reads + 1 < Session.drainLimit then drainStarting (reads + 1)
      else drained (reads + 1)
    some ⟨next, c, [.log (.drained bytes.length)]⟩
  | draining reads (.error code) => some ⟨.drained (reads + 1), c, [.log (.drainFinished code)]⟩
  | drained reads => some ⟨.drainLeaving reads, c.unshare, []⟩
  | drainLeaving reads =>
    some ⟨.taking, c.setHeld false .incoming, [.log (.drainIssued reads)]⟩
  | taking =>
    if c.exclusive || 0 < c.sharers then none else some ⟨.took, { c with exclusive := true }, []⟩
  | took =>
    some ⟨if c.handle then .releaseStarting else .storing,
      { c with exclusive := false, handle := false }, []⟩
  | releaseStarting =>
    some ⟨.releasing m.answer, c, [.call (.release s.binding.interface)]⟩
  | releasing answer =>
    some ⟨if s.reattach then .attachStarting else .handleClosing, c,
      logFailure (.releaseFailed s.binding.interface) answer⟩
  | attachStarting =>
    some ⟨.attaching m.answer, c, [.call (.attach s.binding.interface)]⟩
  | attaching (.ok _) =>
    some ⟨.handleClosing, c, [.log (.reattached s.binding.interface)]⟩
  | attaching (.error code) =>
    some ⟨.handleClosing, c, [.log (.reattachFailed s.binding.interface code)]⟩
  | handleClosing => some ⟨.handleClosed, c, [.call .close]⟩
  | handleClosed => some ⟨.storing, c, [.log .handleClosed]⟩
  | storing => some ⟨.finished (.closed .closed), { c with state := .closed }, []⟩
  | looking .details => some ⟨.finished (.details s.details), c, []⟩
  | looking .debug =>
    some ⟨.finished (.description { s with state := c.state }.describe), c, []⟩
  | looking _ => some ⟨.finished (.state c.state), c, []⟩
  | finished _ => none

end Point

end UsbSession
