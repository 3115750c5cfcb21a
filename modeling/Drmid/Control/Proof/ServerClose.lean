import Drmid.Control.ServerClose
import Drmid.Control.Proof.Session

/-!
# One close per server

`shutdown_requested_` keeps `request_server_close_locked` from starting a second thread, and
`handle_session_open` resets it without stopping a thread that was started. `CloseInv` holds in
every run in which no open is served once a close has been requested (`one_close_per_server`);
`reopened_server_closes_twice` is a run with an open in the delay of a close.
-/

namespace Drmid

open Lib

/-! ## One call -/

/-- What a call does to the flag, and the close that it schedules. -/
inductive Requests (H H' : DrmidWebHandler) (target : Option UInt64) : Prop
  | kept (hflag : H'.shutdownRequested = H.shutdownRequested) (hnone : target = none)
  | requested (hbefore : H.shutdownRequested = false) (hafter : H'.shutdownRequested = true)

namespace DrmidWebHandler

variable {mg : MgGetVar} {H : DrmidWebHandler}

theorem request_spec {H₀ : DrmidWebHandler} (H : DrmidWebHandler)
    (hflag : H.shutdownRequested = H₀.shutdownRequested) :
    Requests H₀ H.requestServerCloseLocked H.closeTarget := by
  unfold requestServerCloseLocked closeTarget
  split
  · exact .kept hflag rfl
  · rename_i hguard
    simp only [Bool.or_eq_true, not_or, Bool.not_eq_true] at hguard
    exact .requested (hflag ▸ hguard.1.1) rfl

theorem watchdog_spec (H : DrmidWebHandler) (now : Nat) :
    Requests H (H.sessionWatchdog now) (H.schedules mg (.watchdog now)) := by
  unfold sessionWatchdog schedules
  by_cases hguard : (H.server.isNone || H.serverExiting || H.shutdownRequested) = true
  · have hnone : H.closeTarget = none := by
      unfold closeTarget
      refine if_pos ?_
      simp only [Bool.or_eq_true] at hguard ⊢
      tauto
    rw [if_pos hguard, hnone]
    exact .kept rfl (ite_self _)
  rw [if_neg hguard]
  generalize (if H.sessionOpen = true then kSessionIdleTimeout else kSessionOpenGrace) = limit
  dsimp only
  split
  · exact request_spec H rfl
  · exact .kept rfl rfl

theorem sessionClose_spec (body : Bytes) (now : Nat) :
    Requests H (H.handleSessionClose mg body now).1
      ((H.authenticateSession mg body now).bind closeTarget) := by
  unfold handleSessionClose
  cases hauth : H.authenticateSession mg body now with
  | none => exact .kept rfl rfl
  | some H' =>
    obtain ⟨-, -, -, rfl⟩ := authenticateSession_eq_some hauth
    exact request_spec { H with
      sessionLastActivity := now, sessionOpen := false, sessionToken := [] } rfl

/-- An authenticated request that changes nothing else leaves the flag. -/
theorem routed_flag {body : Bytes} {now : Nat} {reply : WebReply} :
    (match H.authenticateSession mg body now with
      | none => (H, unauthorised)
      | some H' => (H', reply)).1.shutdownRequested = H.shutdownRequested := by
  cases hauth : H.authenticateSession mg body now with
  | none => rfl
  | some H' =>
    obtain ⟨-, -, -, rfl⟩ := authenticateSession_eq_some hauth
    rfl

/-- An open is answered 200 exactly when it is served, and then resets the flag. -/
theorem sessionOpen_spec (random : Option (Vector UInt8 16)) (now : Nat) :
    let r := H.handleSessionOpen random now
    (r.2.isOk = true → H.ready = true ∧ H.serverExiting = false ∧ random ≠ none ∧
        r.1.shutdownRequested = false) ∧
      (r.2.isOk = false → r.1.shutdownRequested = H.shutdownRequested) := by
  unfold handleSessionOpen
  split
  · exact ⟨fun h => (by cases h), fun _ => rfl⟩
  rename_i hserved
  simp only [Bool.or_eq_true, Bool.not_eq_true', not_or, Bool.not_eq_false,
    Bool.not_eq_true] at hserved
  dsimp only
  split
  · exact ⟨fun h => (by cases h), fun _ => rfl⟩
  · rename_i hlen
    refine ⟨fun _ => ⟨hserved.1, hserved.2, ?_, rfl⟩, fun h => (by cases h)⟩
    rintro rfl
    exact hlen (by decide)

/-- A call that is no successful open. -/
theorem step_requests {e : WebEvent} (hcreate : e.createsServer = false)
    (hopens : ServerRun.opens e (H.step mg e).2 = false) :
    Requests H (H.step mg e).1 (H.schedules mg e) := by
  cases e with
  | prepareCreate dir => exact .kept rfl rfl
  | serverCreated server now => cases hcreate
  | beforeServerExit => exact .kept rfl rfl
  | watchdog now => exact H.watchdog_spec now
  | post path body random now =>
    simp only [ServerRun.opens, step, handlePost, schedules] at hopens ⊢
    by_cases hopen : path = "/api/session/open"
    · subst hopen
      exact .kept ((sessionOpen_spec random now).2 (by simpa using hopens)) rfl
    rw [if_neg hopen]
    by_cases hping : path = "/api/session/ping"
    · subst hping
      exact .kept routed_flag rfl
    rw [if_neg hping]
    by_cases hclose : path = "/api/session/close"
    · rw [if_pos hclose, if_pos hclose]
      exact sessionClose_spec body now
    · rw [if_neg hclose, if_neg hclose]
      exact .kept routed_flag rfl

end DrmidWebHandler

/-! ## Runs -/

namespace ServerRun

variable {mg : MgGetVar} {R : ServerRun}

/-- What holds as long as no open is served after a request for a close. -/
structure CloseInv (R : ServerRun) : Prop where
  unrequested : R.handler.shutdownRequested = false → R.closes = 0
  once : R.closes ≤ 1
  scheduled : R.pending.length ≤ R.closes
  pending : ∀ close ∈ R.pending, close.session = R.sessions
  closers : ∀ session ∈ R.closers, session = R.sessions

theorem CloseInv.schedule (h : R.CloseInv) {H : DrmidWebHandler} {closers : List Nat}
    {target : Option UInt64} (hreq : Requests R.handler H target) (now : Nat)
    (hclosers : ∀ session ∈ closers, session = R.sessions) :
    CloseInv ({ R with handler := H, closers := closers }.schedule target R.sessions now) := by
  cases hreq with
  | kept hflag hnone =>
    subst hnone
    exact ⟨fun h' => h.unrequested (hflag ▸ h'), h.once, h.scheduled, h.pending, hclosers⟩
  | requested hbefore hafter =>
    have hzero := h.unrequested hbefore
    have hempty : R.pending = [] := List.eq_nil_of_length_eq_zero (by have := h.scheduled; omega)
    have hflag : H.shutdownRequested ≠ false := by rw [hafter]; decide
    cases target with
    | none => exact ⟨fun h' => absurd h' hflag, h.once, h.scheduled, h.pending, hclosers⟩
    | some server =>
      refine ⟨fun h' => absurd h' hflag, ?_, ?_, ?_, hclosers⟩
      · simp [ServerRun.schedule, hzero]
      · simp [ServerRun.schedule, hempty]
      · simp [ServerRun.schedule, hempty]

theorem CloseInv.open (h : R.CloseInv) {H : DrmidWebHandler}
    (hunrequested : R.handler.shutdownRequested = false) (hclosers : R.closers = []) :
    CloseInv { R with handler := H, sessions := R.sessions + 1 } := by
  have hzero := h.unrequested hunrequested
  have hempty : R.pending = [] := List.eq_nil_of_length_eq_zero (by have := h.scheduled; omega)
  refine ⟨fun _ => hzero, h.once, h.scheduled, ?_, ?_⟩
  · simp [hempty]
  · simp [hclosers]

theorem CloseInv.step (h : R.CloseInv) {l : ServerEvent} (hl : R.OpensBeforeClose l) :
    CloseInv (R.step mg l) := by
  cases l with
  | call e hcreate =>
    simp only [ServerRun.step]
    cases hopens : opens e (R.handler.step mg e).2 with
    | false => exact h.schedule (DrmidWebHandler.step_requests hcreate hopens) _ h.closers
    | true =>
      cases e with
      | post path body random now =>
        simp only [opens, Bool.and_eq_true, beq_iff_eq] at hopens
        obtain ⟨rfl, hok⟩ := hopens
        obtain ⟨hready, hexit, hrandom, -⟩ :=
          (DrmidWebHandler.sessionOpen_spec (H := R.handler) random now).1 hok
        obtain ⟨hunrequested, hclosers⟩ := hl rfl hready hexit hrandom
        exact h.open hunrequested hclosers
      | prepareCreate | serverCreated | beforeServerExit | watchdog => cases hopens
  | authenticateClose body now =>
    simp only [ServerRun.step]
    split
    · exact h
    · rename_i H' hauth
      obtain ⟨-, -, -, rfl⟩ := authenticateSession_eq_some hauth
      refine ⟨h.unrequested, h.once, h.scheduled, h.pending, ?_⟩
      simpa [or_imp, forall_and] using h.closers
  | finishClose closer now =>
    simp only [ServerRun.step]
    split
    · exact h
    · rename_i session hsession
      rw [h.closers session (List.mem_of_getElem? hsession)]
      have hreq : Requests R.handler R.handler.finishSessionClose R.handler.closeTarget :=
        DrmidWebHandler.request_spec { R.handler with sessionOpen := false, sessionToken := [] } rfl
      exact h.schedule hreq now fun s hs => h.closers s (List.mem_of_mem_eraseIdx hs)
  | closeServer thread now =>
    simp only [ServerRun.step]
    split
    · exact h
    split
    · refine ⟨h.unrequested, h.once, ?_, fun close hc => ?_, h.closers⟩
      · exact Nat.le_trans (List.length_eraseIdx_le ..) h.scheduled
      · exact h.pending close (List.mem_of_mem_eraseIdx hc)
    · exact h

end ServerRun

/-- **Main result: one close per server.** In every run after `onServerCreated` in which no open is
served once a close has been requested or authenticated, at most one close is scheduled, and no
close of an earlier session is still to come. -/
theorem one_close_per_server (mg : MgGetVar) (H : DrmidWebHandler) (server : UInt64) (now : Nat)
    (ls : List ServerEvent)
    (h : Along (ServerRun.step mg) ServerRun.OpensBeforeClose (.created H server now) ls) :
    let R := run (ServerRun.step mg) (.created H server now) ls
    R.closes ≤ 1 ∧ ∀ close ∈ R.pending, close.session = R.sessions := by
  have h0 : ServerRun.CloseInv (.created H server now) :=
    ⟨fun _ => rfl, Nat.zero_le _, Nat.le_refl _, by simp [ServerRun.created],
      by simp [ServerRun.created]⟩
  have hinv := h.induct (P := fun _ => ServerRun.CloseInv) h0 fun _ _ _ hR hl => hR.step hl
  exact ⟨hinv.once, hinv.pending⟩

/-- A form with the token of the samples. -/
def sampleForm : Bytes := ascii ("session_token=" ++ "5a5a5a5a5a5a5a5a5a5a5a5a5a5a5a5a")

/-- An open of the samples. -/
def openCall (now : Nat) : ServerEvent :=
  .call (.post "/api/session/open" [] (some (Vector.replicate 16 0x5a)) now) rfl

def closeCall (now : Nat) : ServerEvent :=
  .call (.post "/api/session/close" sampleForm none now) rfl

/-- A handler that is ready. -/
def preparedHandler : DrmidWebHandler := DrmidWebHandler.init.onPrepareCreate "/data/drmid"

/-- A session is opened and closed, and the watchdog finds the close requested. -/
theorem one_close_per_server_closed :
    let R := run (ServerRun.step wholeBody) (.created preparedHandler 1 0)
      [openCall 1, closeCall 2, .call (.watchdog 20000) rfl]
    R.closes = 1 ∧ R.closes ≤ 1 ∧ ∀ close ∈ R.pending, close.session = R.sessions := by
  refine ⟨by decide +kernel, one_close_per_server wholeBody preparedHandler 1 0 _ ?_⟩
  simp only [openCall, closeCall, along_cons, Along.nil, and_true]
  exact ⟨fun _ _ _ _ => ⟨rfl, rfl⟩, fun h => by simp at h, trivial⟩

/-- A second session is opened 10 ms after the close of the first was scheduled: that close is
still to come, and closing the second session schedules another. -/
theorem reopened_server_closes_twice :
    let R := run (ServerRun.step wholeBody) (.created preparedHandler 1 0)
      [openCall 1, closeCall 10, openCall 20]
    R.sessions = 2 ∧ R.handler.sessionOpen = true ∧ R.pending = [⟨1, 1, 90⟩] ∧
      (R.step wholeBody (closeCall 30)).closes = 2 ∧
      (R.step wholeBody (closeCall 30)).pending = [⟨1, 1, 90⟩, ⟨1, 2, 110⟩] := by
  decide +kernel

end Drmid
