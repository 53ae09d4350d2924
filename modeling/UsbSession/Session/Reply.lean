import UsbSession.Session

/-!
# Requests and replies

One function for every operation on a session (`Session.perform`): it takes a request and leaves a
reply and the session as it is afterwards. Only closing changes the session.
-/

namespace UsbSession

/-- What an operation on a session answers. -/
inductive Reply
  | read (result : Except Error (List UInt8))
  | written (result : Except Error Nat)
  /-- The state after closing. -/
  | closed (state : Session.State)
  | state (state : Session.State)
  | details (details : Details)
  | description (text : String)
  deriving Repr

/-- The reply to a transfer by its result. -/
def Reply.ofTransfer (result : Except Error (List UInt8)) : Direction → Reply
  | .incoming => .read result
  | .outgoing => .written (result.map List.length)

namespace Session

/-- Runs an operation on a session. -/
def perform (s : Session) : Request → Act (Reply × Session)
  | .read size timeout => return (.read (← s.read size timeout), s)
  | .write bytes => return (.written (← s.write bytes), s)
  | .close disconnected => do
    let closed ← s.close disconnected
    return (.closed closed.state, closed)
  | .state => return (.state s.state, s)
  | .details => return (.details s.details, s)
  | .debug => return (.description s.describe, s)

end Session

end UsbSession
