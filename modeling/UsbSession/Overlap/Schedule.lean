import UsbSession.Overlap.Point

/-!
# Operations that overlap

A script may say what else happens on the session while a transfer is inside the host. Then the
operation runs as one of several threads (`Session.overlapping`). The schedule is a fixed one: the
threads that were started meanwhile come first, in the order of their start, and the operation
itself moves only where they cannot. A transfer whose answer is due stays inside the host until what
its script says has come about (`Hold`).
-/

namespace UsbSession

/-- What a transfer that is inside the host waits for. -/
inductive Hold
  /-- The session is no longer open. -/
  | leftOpen
  /-- A thread has finished. -/
  | finished (thread : Nat)
  /-- The others can go no further. -/
  | pause
  deriving DecidableEq, Repr

/-- A thread on a session. -/
structure Thread where
  point : Point
  /-- What its transfer waits for. -/
  hold : Option Hold := none
  deriving Repr

/-- Threads on a session and the device they use. -/
structure Schedule where
  /-- The session, but for its state. -/
  session : Session
  /-- The device, and the time. -/
  here : Clocked
  common : Common
  /-- The threads, in the order of their start. -/
  threads : List Thread
  /-- The replies of what happened during transfers. -/
  nested : List Reply := []
  /-- The threads whose end nobody has waited for. -/
  pending : List Nat := []

namespace Schedule

/-- How long a transfer stays inside the host for a thread that has to wait for it. -/
def pauseTime : Nat := 10000

/-- A transfer enters the host. -/
def enter (sch : Schedule) (t : Transfer) : HostAnswer × Option Interlude × Schedule :=
  let (ticket, device) := sch.here.device.enter t
  (ticket.answer, ticket.during,
    { sch with here := ⟨device, sch.here.now + ticket.delay + Act.leastDelay⟩ })

/-- What the host does in the step of a thread at a point: its answer to a call that starts, and
    what the script has happen during it. -/
def serve (sch : Schedule) (p : Point) : HostAnswer × Option Interlude × Schedule :=
  let script := sch.here.device.script
  match p with
  | .starting x => sch.enter x.what
  | .drainStarting _ => sch.enter (.read Session.drainSize)
  | .moving x answer =>
    (.ok [], none, { sch with here.device := sch.here.device.leave x.what answer })
  | .cancelStarting => (answering script.cancelError [], none, sch)
  | .releaseStarting => (answering script.releaseError [], none, sch)
  | .attachStarting => (answering script.attachError [], none, sch)
  | .handleClosing => (.ok [], none, { sch with here.device := sch.here.device.closeHandle.2 })
  | _ => (.ok [], none, sch)

/-- Starts a thread for what happens during a transfer of the thread at a place. -/
def interrupt (sch : Schedule) (i : Nat) (point : Point) (during : Interlude) : Schedule :=
  let new := sch.threads.length
  let request := match during with
    | .run request | .queue request => request
  let (hold, pending) : Hold × List Nat := match during with
    | .run (.close _) => (.leftOpen, sch.pending ++ [new])
    | .run _ => (.finished new, sch.pending)
    | .queue _ => (.pause, sch.pending ++ [new])
  { sch with
    threads := sch.threads.set i ⟨point, some hold⟩ ++ [⟨.ofRequest sch.session request, none⟩]
    pending }

/-- Lets a transfer go on, if what it waits for has come about. -/
def letGo? (sch : Schedule) (i : Nat) (point : Point) (hold : Hold) : Option Schedule :=
  let freed := { sch with threads := sch.threads.set i ⟨point, none⟩ }
  match hold with
  | .leftOpen =>
    if sch.common.state = .open then none
    else some { freed with nested := sch.nested ++ [.state sch.common.state] }
  | .finished thread => do
    let other ← sch.threads[thread]?
    let reply ← other.point.reply?
    return { freed with nested := sch.nested ++ [reply] }
  | .pause => some { freed with here.now := sch.here.now + pauseTime }

/-- Moves the thread at a place, if it can move. -/
def move? (sch : Schedule) (i : Nat) : Option (Schedule × List Entry) := do
  let thread ← sch.threads[i]?
  match thread.hold with
  | some hold => return (← sch.letGo? i thread.point hold, [])
  | none =>
    let (answer, during, served) := sch.serve thread.point
    let moved ← thread.point.step? sch.session sch.common { now := sch.here.now, answer }
    let next := { served with
      common := moved.common
      threads := sch.threads.set i ⟨moved.point, none⟩ }
    match during with
    | none => return (next, moved.entries)
    | some during => return (next.interrupt i moved.point during, moved.entries)

/-- The places of the threads, in the order in which they may move. -/
def order (sch : Schedule) : List Nat := (List.range sch.threads.length).rotateLeft 1

/-- Moves threads, so many times at most, until none can move. -/
def run : Nat → Schedule → Schedule × List Entry
  | 0, sch => (sch, [])
  | fuel + 1, sch =>
    match sch.order.findSome? sch.move? with
    | none => (sch, [])
    | some (next, entries) =>
      let (last, more) := run fuel next
      (last, entries ++ more)

/-- More moves than threads can make on a device. An answer off a queue starts at most one thread,
    and without one a thread makes few hundred moves. -/
def enough (d : Device) : Nat := 2000 * (d.inbound.copies + d.outbound.copies + 1)

/-- The replies of the threads at the places that have finished. -/
def replies (sch : Schedule) (places : List Nat) : List Reply :=
  places.filterMap fun i => sch.threads[i]?.bind (·.point.reply?)

end Schedule

/-- Whether something happens during a transfer of the device. -/
def Device.hasInterludes (d : Device) : Bool :=
  d.inbound.any (·.during.isSome) || d.outbound.any (·.during.isSome)

namespace Session

/-- What an operation leaves that others may overlap. -/
structure Overlapped where
  /-- The reply of the operation itself, if it came to an end. -/
  reply : Option Reply
  /-- The replies of the others. -/
  nested : List Reply
  session : Session
  deriving Repr

/-- Runs an operation, and what the script has happen during its transfers. -/
def overlapping (s : Session) (r : Request) : Act Overlapped := fun p =>
  let start : Schedule :=
    { session := s
      here := p
      common := { state := s.state, handle := s.state == .open }
      threads := [⟨.ofRequest s r, none⟩] }
  let (last, entries) := start.run (Schedule.enough p.device)
  { value := ⟨(last.replies [0]).head?, last.nested ++ last.replies last.pending,
      { s with state := last.common.state }⟩
    state := last.here
    trace := entries }

end Session

end UsbSession
