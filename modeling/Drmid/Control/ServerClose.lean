import Drmid.Control.Session

/-!
# Closing the server

`request_server_close_locked` starts a thread that calls `server->close()` after a delay. This
module has the threads beside the handler: `ServerRun` is what has happened since one
`onServerCreated`, with the closes that are scheduled and have not been made yet.

`handle_session_close` takes the lock twice, to authenticate and to close, so that other calls may
come in between; `DrmidWebHandler.handleSessionClose` is the two halves in one. `sessions` and
`closes` are ghosts: they count the opens that were answered 200 and the closes ever scheduled.
-/

namespace Drmid

def kServerCloseDelay : Nat := 80

namespace DrmidWebHandler

/-- The second half of `handle_session_close`. -/
def finishSessionClose (H : DrmidWebHandler) : DrmidWebHandler :=
  { H with sessionOpen := false, sessionToken := [] }.requestServerCloseLocked

/-- The server that the thread of `request_server_close_locked` will close, if one is started. -/
def closeTarget (H : DrmidWebHandler) : Option UInt64 :=
  if H.shutdownRequested || H.server.isNone || H.serverExiting then none else H.server

/-- The server that a call schedules the close of. -/
def schedules (mg : MgGetVar) (H : DrmidWebHandler) : WebEvent → Option UInt64
  | .post path body _ now =>
    if path = "/api/session/close" then (H.authenticateSession mg body now).bind closeTarget
    else none
  | .watchdog now =>
    let limit := if H.sessionOpen then kSessionIdleTimeout else kSessionOpenGrace
    if limit ≤ now - H.sessionLastActivity then H.closeTarget else none
  | .prepareCreate _ | .serverCreated _ _ | .beforeServerExit => none

end DrmidWebHandler

/-- The time of a call, 0 where the source reads no clock. -/
def WebEvent.time : WebEvent → Nat
  | .serverCreated _ now | .post _ _ _ now | .watchdog now => now
  | .prepareCreate _ | .beforeServerExit => 0

/-- The call is `onServerCreated`. -/
def WebEvent.createsServer : WebEvent → Bool
  | .serverCreated _ _ => true
  | .prepareCreate _ | .beforeServerExit | .post _ _ _ _ | .watchdog _ => false

/-- A thread that has not called `server->close()` yet, with the session it was started for. -/
structure PendingClose where
  server : UInt64
  session : Nat
  due : Nat
  deriving DecidableEq, Repr

structure ServerRun where
  handler : DrmidWebHandler
  /-- The sessions of the closes that are authenticated, and not finished. -/
  closers : List Nat
  pending : List PendingClose
  sessions : Nat
  closes : Nat

/-- What can happen until the next `onServerCreated`. -/
inductive ServerEvent
  | call (e : WebEvent) (h : e.createsServer = false)
  | authenticateClose (body : Bytes) (now : Nat)
  | finishClose (closer : Nat) (now : Nat)
  | closeServer (thread : Nat) (now : Nat)

namespace ServerRun

/-- After `onServerCreated`, whatever the handler went through before. -/
def created (H : DrmidWebHandler) (server : UInt64) (now : Nat) : ServerRun :=
  ⟨H.onServerCreated server now, [], [], 0, 0⟩

/-- A close is scheduled if there is a server to close. -/
def schedule (R : ServerRun) (target : Option UInt64) (session now : Nat) : ServerRun :=
  match target with
  | none => R
  | some server =>
    { R with
      pending := R.pending ++ [⟨server, session, now + kServerCloseDelay⟩]
      closes := R.closes + 1 }

/-- The call is an open that is answered 200. -/
def opens (e : WebEvent) (reply : WebReply) : Bool :=
  match e with
  | .post path _ _ _ => path == "/api/session/open" && reply.isOk
  | .prepareCreate _ | .serverCreated _ _ | .beforeServerExit | .watchdog _ => false

def step (mg : MgGetVar) (R : ServerRun) : ServerEvent → ServerRun
  | .call e _ =>
    let (H, reply) := R.handler.step mg e
    let sessions := if opens e reply then R.sessions + 1 else R.sessions
    { R with handler := H, sessions := sessions }.schedule (R.handler.schedules mg e) R.sessions
      e.time
  | .authenticateClose body now =>
    match R.handler.authenticateSession mg body now with
    | none => R
    | some H => { R with handler := H, closers := R.closers ++ [R.sessions] }
  | .finishClose closer now =>
    match R.closers[closer]? with
    | none => R
    | some session =>
      { R with
        handler := R.handler.finishSessionClose
        closers := R.closers.eraseIdx closer }.schedule R.handler.closeTarget session now
  | .closeServer thread now =>
    match R.pending[thread]? with
    | none => R
    | some close => if close.due ≤ now then { R with pending := R.pending.eraseIdx thread } else R

/-- An open that the handler serves finds no close on its way: none was requested since the server
was created, and none is authenticated. -/
def OpensBeforeClose (R : ServerRun) : ServerEvent → Prop
  | .call (.post path _ random _) _ =>
    path = "/api/session/open" → R.handler.ready = true → R.handler.serverExiting = false →
      random ≠ none → R.handler.shutdownRequested = false ∧ R.closers = []
  | .call _ _ | .authenticateClose _ _ | .finishClose _ _ | .closeServer _ _ => True

end ServerRun
end Drmid
