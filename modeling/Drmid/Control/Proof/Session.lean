import Drmid.Control.Session

/-!
# Who is authenticated

`SessionInv` ties the handler's members to the history of its calls: an open session's token is the
one `granted` says. It is kept by every call but an open whose random source fails while a session
is open, which leaves the session open under an empty token. `session_authentication` is the result
over runs, `failed_open_admits_empty_token` the run that breaks it.
-/

namespace Drmid

open Lib

/-- An open session is the one the last successful open granted. -/
def SessionInv (R : WebRun) : Prop :=
  R.handler.sessionOpen = true →
    granted R.history = some R.handler.sessionToken ∧
      R.handler.sessionToken.length = kSessionTokenHexBytes

section
variable {mg : MgGetVar} {H H' : DrmidWebHandler} {R : WebRun}

theorem granted_concat (history : List (WebEvent × WebReply)) (x : WebEvent × WebReply) :
    granted (history ++ [x]) = grantStep (granted history) x := by
  simp [granted]

theorem length_newSessionToken (bytes : Vector UInt8 16) :
    (newSessionToken (some bytes)).length = kSessionTokenHexBytes := by
  simp only [newSessionToken, List.length_flatMap, List.length_cons, List.length_nil,
    List.map_const', List.sum_replicate_nat, Vector.length_toList]
  rfl

/-- An accepted request carries the token of an open session. -/
theorem authenticateSession_eq_some {body : Bytes} {now : Nat}
    (h : H.authenticateSession mg body now = some H') :
    formValue mg body "session_token" kSessionTokenHexBytes = some H.sessionToken ∧
      H.sessionOpen = true ∧ H.serverExiting = false ∧
      H' = { H with sessionLastActivity := now } := by
  unfold DrmidWebHandler.authenticateSession at h
  split at h
  · cases h
  · rename_i token htoken
    split at h
    · cases h
    · rename_i hguard
      simp only [Bool.or_eq_true, Bool.not_eq_true', bne_iff_ne, not_or, Bool.not_eq_false,
        not_not, Bool.not_eq_true] at hguard
      obtain ⟨⟨hopen, rfl⟩, hexit⟩ := hguard
      exact ⟨htoken, hopen, hexit, (Option.some.inj h).symm⟩

theorem requestServerCloseLocked_session (H : DrmidWebHandler) :
    H.requestServerCloseLocked.sessionOpen = H.sessionOpen ∧
      H.requestServerCloseLocked.sessionToken = H.sessionToken := by
  unfold DrmidWebHandler.requestServerCloseLocked
  split <;> exact ⟨rfl, rfl⟩

theorem sessionWatchdog_session (H : DrmidWebHandler) (now : Nat) :
    (H.sessionWatchdog now).sessionOpen = H.sessionOpen ∧
      (H.sessionWatchdog now).sessionToken = H.sessionToken := by
  unfold DrmidWebHandler.sessionWatchdog
  split
  · exact ⟨rfl, rfl⟩
  · generalize (if H.sessionOpen = true then kSessionIdleTimeout else kSessionOpenGrace) = limit
    dsimp only
    split
    · exact requestServerCloseLocked_session H
    · exact ⟨rfl, rfl⟩

/-- A call that changes neither the session nor the grant keeps the invariant. -/
theorem SessionInv.of_same (hR : SessionInv R) {history : List (WebEvent × WebReply)}
    (hopen : H.sessionOpen = R.handler.sessionOpen)
    (htoken : H.sessionToken = R.handler.sessionToken)
    (hgrant : granted history = granted R.history) : SessionInv ⟨H, history⟩ := by
  intro h
  obtain ⟨hg, hlen⟩ := hR (hopen ▸ h)
  show granted history = some H.sessionToken ∧ H.sessionToken.length = kSessionTokenHexBytes
  rw [hgrant, htoken]
  exact ⟨hg, hlen⟩

theorem SessionInv.of_closed {history : List (WebEvent × WebReply)}
    (hclosed : H.sessionOpen = false) : SessionInv ⟨H, history⟩ := by
  intro h
  rw [show H.sessionOpen = true from h] at hclosed
  cases hclosed

/-! ## The session routes -/

theorem SessionInv.open (hR : SessionInv R) {path : String} {body : Bytes}
    {random : Option (Vector UInt8 16)} {now : Nat} (hpath : path = "/api/session/open")
    (hclean : R.OpensCleanly (.post path body random now)) :
    SessionInv ⟨(R.handler.handleSessionOpen random now).1, R.history ++
      [(.post path body random now, (R.handler.handleSessionOpen random now).2)]⟩ := by
  unfold DrmidWebHandler.handleSessionOpen
  split
  · refine hR.of_same rfl rfl ?_
    simp [granted_concat, grantStep, WebReply.isOk]
  · rename_i hserved
    simp only [Bool.or_eq_true, Bool.not_eq_true', not_or, Bool.not_eq_false,
      Bool.not_eq_true] at hserved
    cases random with
    | none =>
      -- the token is emptied; the condition says that no session was open
      have hclosed : R.handler.sessionOpen = false := by
        cases hs : R.handler.sessionOpen with
        | false => rfl
        | true => exact absurd rfl (hclean hpath hserved.1 hserved.2 hs)
      have hshort : ¬(newSessionToken none).length = kSessionTokenHexBytes := by decide
      simp only [ne_eq, if_pos hshort]
      exact .of_closed hclosed
    | some bytes =>
      have hlen := length_newSessionToken bytes
      simp only [ne_eq, hlen, not_true, if_false]
      intro _
      refine ⟨?_, hlen⟩
      simp [granted_concat, grantStep, WebReply.isOk, hpath]

theorem SessionInv.ping (hR : SessionInv R) {path : String} {body : Bytes}
    {random : Option (Vector UInt8 16)} {now : Nat} (hopen : path ≠ "/api/session/open")
    (hclose : path ≠ "/api/session/close") :
    SessionInv ⟨(R.handler.handleSessionPing mg body now).1, R.history ++
      [(.post path body random now, (R.handler.handleSessionPing mg body now).2)]⟩ := by
  unfold DrmidWebHandler.handleSessionPing
  split
  · exact hR.of_same rfl rfl (by simp [granted_concat, grantStep, hopen, hclose])
  · rename_i H' hauth
    obtain ⟨-, -, -, rfl⟩ := authenticateSession_eq_some hauth
    exact hR.of_same rfl rfl (by simp [granted_concat, grantStep, hopen, hclose])

theorem SessionInv.close (hR : SessionInv R) {path : String} {body : Bytes}
    {random : Option (Vector UInt8 16)} {now : Nat} (hopen : path ≠ "/api/session/open") :
    SessionInv ⟨(R.handler.handleSessionClose mg body now).1, R.history ++
      [(.post path body random now, (R.handler.handleSessionClose mg body now).2)]⟩ := by
  unfold DrmidWebHandler.handleSessionClose
  split
  · refine hR.of_same rfl rfl ?_
    simp [granted_concat, grantStep, hopen, DrmidWebHandler.unauthorised, WebReply.isOk]
  · exact .of_closed (requestServerCloseLocked_session _).1

/-! ## Runs -/

theorem SessionInv.step (hR : SessionInv R) {e : WebEvent} (hclean : R.OpensCleanly e) :
    SessionInv (R.step mg e) := by
  cases e with
  | prepareCreate dir => exact hR.of_same rfl rfl (by simp [granted_concat, grantStep])
  | serverCreated server now => exact .of_closed rfl
  | beforeServerExit => exact .of_closed rfl
  | watchdog now =>
    obtain ⟨hopen, htoken⟩ := sessionWatchdog_session R.handler now
    exact hR.of_same hopen htoken (by simp [granted_concat, grantStep])
  | post path body random now =>
    simp only [WebRun.step, DrmidWebHandler.step, DrmidWebHandler.handlePost]
    by_cases hopen : path = "/api/session/open"
    · rw [if_pos hopen]
      exact hR.open hopen hclean
    rw [if_neg hopen]
    by_cases hping : path = "/api/session/ping"
    · rw [if_pos hping]
      exact hR.ping hopen (by rw [hping]; decide)
    rw [if_neg hping]
    by_cases hclose : path = "/api/session/close"
    · rw [if_pos hclose]
      exact hR.close hopen
    rw [if_neg hclose]
    split
    · exact hR.of_same rfl rfl (by simp [granted_concat, grantStep, hopen, hclose])
    · rename_i H' hauth
      obtain ⟨-, -, -, rfl⟩ := authenticateSession_eq_some hauth
      exact hR.of_same rfl rfl (by simp [granted_concat, grantStep, hopen, hclose])

end

/-- **Main result.** In every run in which the random source never fails in an open that finds a
session open, a request is accepted only with the 32-character token that is granted then. -/
theorem session_authentication (mg : MgGetVar) (es : List WebEvent)
    (hclean : Along (WebRun.step mg) WebRun.OpensCleanly .init es) (body : Bytes) (now : Nat)
    (H : DrmidWebHandler)
    (haccept : (WebRun.run mg .init es).handler.authenticateSession mg body now = some H) :
    ∃ token, granted (WebRun.run mg .init es).history = some token ∧
      token.length = kSessionTokenHexBytes ∧
      formValue mg body "session_token" kSessionTokenHexBytes = some token := by
  have hinv : SessionInv (WebRun.run mg .init es) :=
    hclean.induct (P := fun _ => SessionInv) (fun h => (by cases h)) fun _ _ _ hR he => hR.step he
  obtain ⟨hform, hopen, -, -⟩ := authenticateSession_eq_some haccept
  obtain ⟨hgrant, hlen⟩ := hinv hopen
  exact ⟨_, hgrant, hlen, hform⟩

/-- A form parser that finds a variable which is the whole body. -/
def wholeBody : MgGetVar := fun body name _ =>
  if (ascii (name ++ "=")).isPrefixOf body then some (body.drop (name.length + 1)) else none

/-- A server is created and a session opened. -/
def sampleOpen : List WebEvent :=
  [.prepareCreate "/data/drmid", .serverCreated 1 0,
    .post "/api/session/open" [] (some (Vector.replicate 16 0x5a)) 1]

theorem session_authentication_opened :
    ∃ token, granted (WebRun.run wholeBody .init sampleOpen).history = some token ∧
      token.length = kSessionTokenHexBytes ∧
      formValue wholeBody (ascii ("session_token=" ++ "5a5a5a5a5a5a5a5a5a5a5a5a5a5a5a5a"))
        "session_token" kSessionTokenHexBytes = some token := by
  have haccept : ((WebRun.run wholeBody .init sampleOpen).handler.authenticateSession wholeBody
      (ascii ("session_token=" ++ "5a5a5a5a5a5a5a5a5a5a5a5a5a5a5a5a")) 2).isSome = true := by
    decide +kernel
  obtain ⟨H, hH⟩ := Option.isSome_iff_exists.1 haccept
  refine session_authentication wholeBody sampleOpen ?_ _ 2 H hH
  simp only [sampleOpen, along_cons, Along.nil, and_true]
  exact ⟨trivial, trivial, fun _ _ _ _ h => (by cases h)⟩

/-- A second open fails at the random source, and a request with an empty token is accepted while
the token granted is the first one. -/
theorem failed_open_admits_empty_token :
    let R := WebRun.run wholeBody .init
      (sampleOpen ++ [.post "/api/session/open" [] none 2])
    (R.handler.authenticateSession wholeBody (ascii "session_token=") 3).isSome = true ∧
      formValue wholeBody (ascii "session_token=") "session_token" kSessionTokenHexBytes =
        some [] ∧
      granted R.history = some (newSessionToken (some (Vector.replicate 16 0x5a))) ∧
      granted R.history ≠ some [] := by
  decide +kernel

end Drmid
