import Drmid.Control.Answers
import Drmid.Lib.Urlencoded

/-!
# The WebUI's page

The script of `webroot/index.html`, up to the texts that it displays. A handler of the page and
what follows an `await` run to their end, so each is one step: it changes the page's variables and
controls and posts requests. What a `fetch` comes back with is any answer, or nothing.

The page opens a session once, when it is loaded; `PageRun` is a page with the requests that it
waits for and those it has posted.
-/

namespace Drmid

open Lib

/-! ## Requests -/

/-- What is posted to a route, besides the session's token. -/
inductive PagePost
  | ping
  | status
  | apply (mode : String) (action : IdAction) (idHex : String)
  | stop
  | close (reason : String)
  deriving DecidableEq, Repr

structure PageRequest where
  post : PagePost
  token : String
  deriving DecidableEq, Repr

def IdAction.value : IdAction → String
  | .keep => "keep"
  | .derive => "derive"
  | .random => "random"
  | .custom => "custom"

def PageRequest.path (q : PageRequest) : String :=
  match q.post with
  | .ping => "/api/session/ping"
  | .status => "/api/status"
  | .apply _ _ _ => "/api/apply"
  | .stop => "/api/stop"
  | .close _ => "/api/session/close"

/-- The fields of the body, in the order in which they are written. -/
def PageRequest.fields (q : PageRequest) : List (String × String) :=
  match q.post with
  | .ping | .status | .stop => [("session_token", q.token)]
  | .apply mode action idHex =>
    [("mode", mode), ("id_action", action.value), ("id_hex", idHex), ("session_token", q.token)]
  | .close reason => [("session_token", q.token), ("reason", reason)]

def utf8 (s : String) : Bytes := s.toList.flatMap String.utf8EncodeChar

/-- The text of a `URLSearchParams`. -/
def formBody (fields : List (String × String)) : Bytes :=
  Urlencoded.serialize (fields.map fun field => (utf8 field.1, utf8 field.2))

def PageRequest.body (q : PageRequest) : Bytes := formBody q.fields

def PageRequest.isClose (q : PageRequest) : Bool :=
  match q.post with
  | .close _ => true
  | _ => false

/-- A name of letters and underscores. -/
def isFormName (name : String) : Bool := name.toList.all fun c => ('a' ≤ c && c ≤ 'z') || c == '_'

/-- What `mg_get_var` is documented to do with a form: it finds the first field of a name, and
decodes its value if the buffer has room for it and its terminator. -/
def Decodes (mg : MgGetVar) : Prop :=
  ∀ (before after : List (String × String)) (name value : String) (dstLen : Nat),
    (∀ field ∈ before ++ (name, value) :: after, isFormName field.1 = true) →
    (∀ field ∈ before, field.1 ≠ name) →
    mg (formBody (before ++ (name, value) :: after)) name dstLen =
      if (utf8 value).length < dstLen then some (utf8 value) else none

/-- What a `fetch` comes back with. -/
inductive Fetched
  | failed
  | answered (answer : Answer)
  deriving DecidableEq, Repr

/-- What `post` returns, or the status of the error that it throws. -/
inductive Posted
  | ok (payload : Json)
  | thrown (status : Option Nat)

def isNull : Json → Bool
  | .null => true
  | _ => false

def posted : Fetched → Posted
  | .failed => .thrown none
  | .answered answer =>
    let payload := (Json.parse answer.text.toList).getD
      (.obj [("result".toList, .int (-1)), ("stage".toList, .str "json".toList)])
    if 200 ≤ answer.status ∧ answer.status ≤ 299 then .ok payload
    -- a null has no `stage`: what is thrown for it has no status
    else .thrown (if isNull payload then none else some answer.status)

/-- `s.session_token||''`, where the token of an answer is a text. -/
def sessionTokenOf (payload : Json) : String :=
  match payload.get? "session_token".toList with
  | some (.str token) => String.ofList token
  | _ => ""

/-- `s.mode===1`. -/
def modeIsOn (payload : Json) : Bool :=
  match payload.get? "mode".toList with
  | some (.num x) => x.mantissa * 10 ^ x.exponent.toNat = 10 ^ (-x.exponent).toNat
  | _ => false

/-! ## The page -/

/-- The variables of the script and the controls that it reads. `idAction` is `keep` where no
source is chosen; `left` says that a `pagehide` has been seen. -/
structure Page where
  token : String
  heartbeat : Bool
  terminal : Bool
  closeSent : Bool
  terminalReason : String
  busy : Bool
  formDirty : Bool
  stopArmedUntil : Nat
  visible : Bool
  left : Bool
  modeToggle : Bool
  idAction : IdAction
  idHex : String
  applyDisabled : Bool
  stopDisabled : Bool

/-- White space of `trim`. -/
def isTrimmed (c : Char) : Bool :=
  [9, 10, 11, 12, 13, 32, 0xa0, 0x1680, 0x2028, 0x2029, 0x202f, 0x205f, 0x3000, 0xfeff].contains
    c.toNat || (0x2000 ≤ c.toNat && c.toNat ≤ 0x200a)

def trimmed (text : String) : String :=
  String.ofList ((text.toList.dropWhile isTrimmed).reverse.dropWhile isTrimmed).reverse

/-- `[0-9a-fA-F]`. -/
def isHexChar (c : Char) : Bool :=
  ('0' ≤ c && c ≤ '9') || ('a' ≤ c && c ≤ 'f') || ('A' ≤ c && c ≤ 'F')

/-- `/^[0-9a-fA-F]{64}$/`. -/
def isHexId (text : String) : Bool := text.length == 64 && text.toList.all isHexChar

namespace Page

/-- A page as it is loaded, its session asked for. -/
def load (visible : Bool) : Page where
  token := ""
  heartbeat := false
  terminal := false
  closeSent := false
  terminalReason := ""
  busy := false
  formDirty := false
  stopArmedUntil := 0
  visible := visible
  left := false
  modeToggle := false
  idAction := .keep
  idHex := ""
  applyDisabled := true
  stopDisabled := false

def modeValue (p : Page) : String := if p.modeToggle then "write" else "dry"

def validCustom (p : Page) : Bool := p.idAction != .custom || isHexId (trimmed p.idHex)

def syncControls (p : Page) : Page :=
  { p with applyDisabled := p.terminal || p.token == "" || p.busy }

/-- `render`: none where it throws. -/
def render (p : Page) (payload : Json) : Option Page :=
  if p.terminal then some p
  else if isNull payload then none
  else
    let p := if !p.formDirty && !p.busy then
        { p with modeToggle := modeIsOn payload }
      else p
    some p.syncControls

def status (p : Page) : Page × List PageRequest :=
  (p, if p.token = "" ∨ p.terminal then [] else [⟨.status, p.token⟩])

def afterStatus (p : Page) : Posted → Page
  | .ok payload => (p.render payload).getD p
  | .thrown _ => p

def apply (p : Page) : Page × List PageRequest :=
  if p.busy then (p, [])
  else if p.token = "" then (p.syncControls, [])
  else if !p.validCustom then (p.syncControls, [])
  else
    ({ p with busy := true }.syncControls,
      [⟨.apply p.modeValue p.idAction (trimmed p.idHex), p.token⟩])

/-- The controls of a form that has been applied. -/
def clearForm (p : Page) : Page := { p with idAction := .keep, idHex := "" }

/-- After an apply that succeeded, up to where `render` may throw. -/
def applied (p : Page) (payload : Json) : Page :=
  let p := { p with formDirty := false }
  match p.render payload with
  | some p => p.clearForm
  | none => p

def applyFailed (p : Page) (status : Option Nat) : Page :=
  if status = some 401 then { p with token := "", formDirty := false } else p

def afterApply (p : Page) : Posted → Page
  | .ok payload => { p.applied payload with busy := false }.syncControls
  | .thrown status => { p.applyFailed status with busy := false }.syncControls

def stop (p : Page) (now : Nat) : Page × List PageRequest :=
  if p.stopArmedUntil < now then ({ p with stopArmedUntil := now + 5000 }, [])
  else ({ p with busy := true }.syncControls, [⟨.stop, p.token⟩])

def afterStop (p : Page) : Posted → Page
  | .ok _ => { p with stopDisabled := true, busy := false }.syncControls
  | .thrown _ => { p with busy := false }.syncControls

def showSessionEnded (p : Page) : Page := { p with terminal := true, heartbeat := false }

def dispatchSessionClose (p : Page) (sessionToken reason : String) : Page × List PageRequest :=
  if sessionToken = "" ∨ p.closeSent then (p, [])
  else ({ p with closeSent := true }, [⟨.close reason, sessionToken⟩])

/-- `if(!terminalReason)terminalReason=reason`. -/
def noteReason (p : Page) (reason : String) : Page :=
  if p.terminalReason = "" then { p with terminalReason := reason } else p

def closeSession (p : Page) (reason : String) : Page × List PageRequest :=
  let p := (p.noteReason reason).showSessionEnded
  let sessionToken := p.token
  let p := { p with token := "", formDirty := false, busy := false }.syncControls
  p.dispatchSessionClose sessionToken p.terminalReason

/-- What follows the `await` of `open`. -/
def afterOpen (p : Page) : Posted → Page × List PageRequest
  | .ok payload =>
    if isNull payload then { p with token := "" }.closeSession "session-open-failed"
    else
    let p := { p with token := sessionTokenOf payload, closeSent := false }
    if p.token = "" then p.closeSession "session-open-failed"
    else if p.terminal || !p.visible then
      p.closeSession (if p.terminalReason = "" then "hidden-during-open" else p.terminalReason)
    else { p with heartbeat := true }.syncControls.status
  | .thrown _ => { p with token := "" }.closeSession "session-open-failed"

/-- The interval's function. -/
def beat (p : Page) : Page × List PageRequest :=
  if !p.heartbeat then (p, [])
  else if !p.visible then p.closeSession "hidden"
  else (p, [⟨.ping, p.token⟩])

def afterPing (p : Page) : Posted → Page × List PageRequest
  | .ok _ => (p, [])
  | .thrown _ => p.closeSession "heartbeat-lost"

def markDirty (p : Page) : Page := { p with formDirty := true }.syncControls

end Page

/-! ## Steps -/

/-- What the user and the browser do. A click on a disabled button is none. -/
inductive PageEvent
  | toggle (on : Bool)
  | choose (action : IdAction)
  | input (text : String)
  | clickApply
  | clickRefresh
  | clickStop (now : Nat)
  | interval
  | visibilitychange (visible : Bool)
  | freeze
  | blur
  | pagehide
  | beforeunload
  | pageshow

namespace Page

def step (p : Page) : PageEvent → Page × List PageRequest
  | .toggle on => ({ p with modeToggle := on }.markDirty, [])
  | .choose action => ({ p with idAction := action }.markDirty, [])
  | .input text => ({ p with idHex := text }.markDirty, [])
  | .clickApply => if p.applyDisabled then (p, []) else p.apply
  | .clickRefresh => p.status
  | .clickStop now => if p.stopDisabled then (p, []) else p.stop now
  | .interval => p.beat
  | .visibilitychange visible =>
    let p := { p with visible := visible }
    if visible then (p, []) else p.closeSession "hidden"
  | .freeze => p.closeSession "freeze"
  | .blur => p.closeSession "blur"
  | .pagehide => { p with left := true }.closeSession "pagehide"
  | .beforeunload => p.closeSession "unload"
  -- the page comes from the cache where it had been left
  | .pageshow => (if p.left || p.terminal then p.showSessionEnded else p, [])

/-- What follows the `await` of a request's `post`. -/
def resume (p : Page) (q : PageRequest) (f : Fetched) : Page × List PageRequest :=
  match q.post with
  | .ping => p.afterPing (posted f)
  | .status => (p.afterStatus (posted f), [])
  | .apply _ _ _ => (p.afterApply (posted f), [])
  | .stop => (p.afterStop (posted f), [])
  | .close _ => (p, [])

end Page

/-! ## Runs of a page -/

/-- A page, whether its session has not been answered, the requests that it waits for, and all that
it has posted besides the open. `granted` is the token that the open was answered with, and
`refused` says that an apply was answered 401. -/
structure PageRun where
  page : Page
  opening : Bool
  waiting : List PageRequest
  sent : List PageRequest
  granted : String
  refused : Bool

inductive PageLabel
  | event (e : PageEvent)
  | opened (f : Fetched)
  /-- The request at a place of the waiting ones is answered. -/
  | answered (n : Nat) (f : Fetched)

/-- The token in what an open comes back with. -/
def Posted.token : Posted → String
  | .ok payload => sessionTokenOf payload
  | .thrown _ => ""

namespace PageRun

def load (visible : Bool) : PageRun := ⟨.load visible, true, [], [], "", false⟩

/-- The page after one of its turns. -/
def turned (R : PageRun) (turn : Page × List PageRequest) : PageRun :=
  { R with page := turn.1, waiting := R.waiting ++ turn.2, sent := R.sent ++ turn.2 }

/-- An apply that is answered 401. -/
def refuses (q : PageRequest) (f : Fetched) : Bool :=
  match q.post, posted f with
  | .apply _ _ _, .thrown (some status) => status == 401
  | _, _ => false

def step (R : PageRun) : PageLabel → PageRun
  | .event e => R.turned (R.page.step e)
  | .opened f =>
    if R.opening then
      { R with opening := false, granted := (posted f).token }.turned (R.page.afterOpen (posted f))
    else R
  | .answered n f =>
    match R.waiting[n]? with
    | some q =>
      { R with waiting := R.waiting.eraseIdx n, refused := R.refused || refuses q f }.turned
        (R.page.resume q f)
    | none => R

def run (R : PageRun) (labels : List PageLabel) : PageRun := Lib.run step R labels

/-- The closes that have been posted. -/
def closes (R : PageRun) : List PageRequest := R.sent.filter PageRequest.isClose

end PageRun
end Drmid
