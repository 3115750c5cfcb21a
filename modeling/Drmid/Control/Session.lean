import Drmid.Kernel.Bytes
import Drmid.Lib.Run

/-!
# The WebUI's session

`DrmidWebHandler` of `web_ui.cpp` up to the point where a request has been authenticated: the
server's life-cycle calls, the three session routes, the authentication of every other route, and
the watchdog. Each call runs under the handler's lock, so it is one step. What the later routes do
is in `Drmid.Control.Apply`; none of them touches the members here.

The web server's `mg_get_var` is a parameter. `granted` is the specification: the token that a
client may hold after a history of calls and answers.
-/

namespace Drmid

def kSessionTokenHexBytes : Nat := 32
def kSessionOpenGrace : Nat := 15000
def kSessionIdleTimeout : Nat := 12000

/-- `mg_get_var(data, name, dst_len)`: the decoded value, whose length is the count it returns, or
`none` for a negative count. -/
abbrev MgGetVar := Bytes → String → Nat → Option Bytes

def formValue (mg : MgGetVar) (body : Bytes) (name : String) (maxBytes : Nat) : Option Bytes :=
  match mg body name (maxBytes + 1) with
  | none => none
  | some value => if maxBytes < value.length then none else some value

def kHex : Vector UInt8 16 :=
  #v[48, 49, 50, 51, 52, 53, 54, 55, 56, 57, 97, 98, 99, 100, 101, 102]

/-- A nibble as a digit. -/
def hexDigit (n : UInt8) : UInt8 := kHex[n.toNat % 16]

/-- `new_session_token`, `random` being what was read from the random source, if it could be. -/
def newSessionToken (random : Option (Vector UInt8 16)) : Bytes :=
  match random with
  | none => []
  | some bytes => bytes.toList.flatMap fun (b : UInt8) => [hexDigit (b >>> 4), hexDigit (b &&& 0x0f)]

/-! ## The handler -/

/-- The members that the calls read and write; times are in milliseconds. -/
structure DrmidWebHandler where
  privateDir : String
  controlPath : String
  socketPath : String
  server : Option UInt64
  sessionToken : Bytes
  sessionLastActivity : Nat
  sessionOpen : Bool
  shutdownRequested : Bool
  serverExiting : Bool

/-- A file of the private directory, or nothing for an empty directory name. -/
def defaultPath (dir name : String) : String :=
  if dir = "" then "" else (if dir.endsWith "/" then dir else dir ++ "/") ++ name

def defaultRuntimeControlPath (dir : String) : String :=
  defaultPath dir "drmid_runtime_control_v3.bin"

def defaultControlSocketPath (dir : String) : String := defaultPath dir "drmid_control_v5.sock"

/-- What a request was answered, or that it goes on to its route. -/
inductive WebReply
  | sent (status : Nat) (json : String)
  | routed
  | none
  deriving DecidableEq, Repr

/-- A call of the handler. `random` is what an open would read from the random source. -/
inductive WebEvent
  | prepareCreate (dir : String)
  | serverCreated (server : UInt64) (now : Nat)
  | beforeServerExit
  | post (path : String) (body : Bytes) (random : Option (Vector UInt8 16)) (now : Nat)
  | watchdog (now : Nat)

namespace DrmidWebHandler

/-- A handler as it is constructed. -/
def init : DrmidWebHandler := ⟨"", "", "", .none, [], 0, false, false, false⟩

def ready (H : DrmidWebHandler) : Bool :=
  H.privateDir != "" && H.controlPath != "" && H.socketPath != ""

def onPrepareCreate (H : DrmidWebHandler) (dir : String) : DrmidWebHandler :=
  { H with
    privateDir := dir
    controlPath := defaultRuntimeControlPath dir
    socketPath := defaultControlSocketPath dir }

def onServerCreated (H : DrmidWebHandler) (server : UInt64) (now : Nat) : DrmidWebHandler :=
  { H with
    server := some server
    sessionToken := []
    sessionOpen := false
    sessionLastActivity := now
    shutdownRequested := false
    serverExiting := false }

def onBeforeServerExit (H : DrmidWebHandler) : DrmidWebHandler :=
  { H with sessionOpen := false, sessionToken := [], serverExiting := true }

/-- `authenticate_session`: the handler after an accepted request, `none` after a 401. -/
def authenticateSession (mg : MgGetVar) (H : DrmidWebHandler) (body : Bytes) (now : Nat) :
    Option DrmidWebHandler :=
  match formValue mg body "session_token" kSessionTokenHexBytes with
  | none => none
  | some token =>
    if !H.sessionOpen || token != H.sessionToken || H.serverExiting then none
    else some { H with sessionLastActivity := now }

/-- The answer of `authenticate_session` to what it does not accept. -/
def unauthorised : WebReply := .sent 401 "\x7b\"result\":-1,\"stage\":\"session\"\x7d"

/-- A token as text. -/
def tokenText (token : Bytes) : String := String.ofList (token.map fun b => Char.ofNat b.toNat)

def handleSessionOpen (H : DrmidWebHandler) (random : Option (Vector UInt8 16)) (now : Nat) :
    DrmidWebHandler × WebReply :=
  if !H.ready || H.serverExiting then
    (H, .sent 503 "\x7b\"result\":-1,\"stage\":\"server\"\x7d")
  else
    let H := { H with sessionToken := newSessionToken random }
    if H.sessionToken.length ≠ kSessionTokenHexBytes then
      (H, .sent 500 "\x7b\"result\":-1,\"stage\":\"random\"\x7d")
    else
      ({ H with sessionOpen := true, sessionLastActivity := now, shutdownRequested := false },
        .sent 200 ("\x7b\"result\":0,\"session_token\":\"" ++ tokenText H.sessionToken ++
          "\",\"heartbeat_ms\":4000\x7d"))

def handleSessionPing (mg : MgGetVar) (H : DrmidWebHandler) (body : Bytes) (now : Nat) :
    DrmidWebHandler × WebReply :=
  match H.authenticateSession mg body now with
  | none => (H, unauthorised)
  | some H => (H, .sent 200 "\x7b\"result\":0,\"heartbeat_ms\":4000\x7d")

/-- `request_server_close_locked`; the server is closed by a thread of its own. -/
def requestServerCloseLocked (H : DrmidWebHandler) : DrmidWebHandler :=
  if H.shutdownRequested || H.server.isNone || H.serverExiting then H
  else { H with shutdownRequested := true }

def handleSessionClose (mg : MgGetVar) (H : DrmidWebHandler) (body : Bytes) (now : Nat) :
    DrmidWebHandler × WebReply :=
  match H.authenticateSession mg body now with
  | none => (H, unauthorised)
  | some H =>
    ({ H with sessionOpen := false, sessionToken := [] }.requestServerCloseLocked,
      .sent 200 "\x7b\"result\":0,\"closed\":true\x7d")

/-- `handlePost` up to the routes that need a session. -/
def handlePost (mg : MgGetVar) (H : DrmidWebHandler) (path : String) (body : Bytes)
    (random : Option (Vector UInt8 16)) (now : Nat) : DrmidWebHandler × WebReply :=
  if path = "/api/session/open" then H.handleSessionOpen random now
  else if path = "/api/session/ping" then H.handleSessionPing mg body now
  else if path = "/api/session/close" then H.handleSessionClose mg body now
  else
    match H.authenticateSession mg body now with
    | none => (H, unauthorised)
    | some H => (H, .routed)

/-- One pass of `session_watchdog`. -/
def sessionWatchdog (H : DrmidWebHandler) (now : Nat) : DrmidWebHandler :=
  if H.server.isNone || H.serverExiting || H.shutdownRequested then H
  else
    let limit := if H.sessionOpen then kSessionIdleTimeout else kSessionOpenGrace
    if limit ≤ now - H.sessionLastActivity then H.requestServerCloseLocked else H

def step (mg : MgGetVar) (H : DrmidWebHandler) : WebEvent → DrmidWebHandler × WebReply
  | .prepareCreate dir => (H.onPrepareCreate dir, .none)
  | .serverCreated server now => (H.onServerCreated server now, .none)
  | .beforeServerExit => (H.onBeforeServerExit, .none)
  | .post path body random now => H.handlePost mg path body random now
  | .watchdog now => (H.sessionWatchdog now, .none)

end DrmidWebHandler

/-! ## Histories -/

/-- The reply is a 200. -/
def WebReply.isOk : WebReply → Bool
  | .sent status _ => status == 200
  | .routed | .none => false

/-- The token a client may hold after one more call and its answer. -/
def grantStep (held : Option Bytes) : WebEvent × WebReply → Option Bytes
  | (.post path _ random _, reply) =>
    if path = "/api/session/open" ∧ reply.isOk then some (newSessionToken random)
    else if path = "/api/session/close" ∧ reply.isOk then none
    else held
  | (.serverCreated _ _, _) | (.beforeServerExit, _) => none
  | (.prepareCreate _, _) | (.watchdog _, _) => held

/-- The token of the last open that was answered 200, while no session close was answered 200 and
the server neither exited nor was created again since. -/
def granted (history : List (WebEvent × WebReply)) : Option Bytes := history.foldl grantStep none

/-- A handler with the history of its calls. -/
structure WebRun where
  handler : DrmidWebHandler
  history : List (WebEvent × WebReply)

namespace WebRun

def init : WebRun := ⟨.init, []⟩

def step (mg : MgGetVar) (R : WebRun) (e : WebEvent) : WebRun :=
  let (H, reply) := R.handler.step mg e
  ⟨H, R.history ++ [(e, reply)]⟩

def run (mg : MgGetVar) (R : WebRun) (es : List WebEvent) : WebRun := Lib.run (step mg) R es

/-- The random source does not fail in an open that the handler would serve while a session is
open. -/
def OpensCleanly (R : WebRun) : WebEvent → Prop
  | .post path _ random _ =>
    path = "/api/session/open" → R.handler.ready = true → R.handler.serverExiting = false →
      R.handler.sessionOpen = true → random ≠ none
  | _ => True

end WebRun
end Drmid
