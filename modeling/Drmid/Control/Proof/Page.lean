import Drmid.Control.Page
import Drmid.Control.Proof.Answers

/-!
# The session of a page

What a turn of the script may do with the session that the page holds (`Page.Turn`), and from it
where the session is in every run (`PageRun.Phase`). The requests' bodies are read back as the
fields that were written.
-/

namespace Drmid

open Lib

/-- An apply has a mode that the server knows, and a custom ID in full. -/
def PageRequest.Filled (q : PageRequest) : Prop :=
  ∀ mode action idHex, q.post = .apply mode action idHex →
    (mode = "write" ∨ mode = "dry") ∧ (action = .custom → isHexId idHex = true)

namespace PageRequest

theorem filled_of_ne {q : PageRequest}
    (h : ∀ mode action idHex, q.post ≠ .apply mode action idHex) : q.Filled :=
  fun mode action idHex heq => absurd heq (h mode action idHex)

theorem filled_status (token : String) : (PageRequest.mk .status token).Filled :=
  filled_of_ne fun _ _ _ heq => PagePost.noConfusion heq

theorem filled_close (reason token : String) : (PageRequest.mk (.close reason) token).Filled :=
  filled_of_ne fun _ _ _ heq => PagePost.noConfusion heq

end PageRequest

namespace Page

variable {p p' : Page} {qs : List PageRequest}

/-! ## Turns -/

/-- Where the session is: the token is given up when the page ends, and closed once. -/
structure Sane (p : Page) : Prop where
  ended : p.terminal = true → p.token = ""
  gone : p.left = true → p.terminal = true
  unsent : p.token ≠ "" → p.closeSent = false

/-- What a turn may do with the session. -/
inductive Turn (p : Page) : Page × List PageRequest → Prop
  | keeps {p' : Page} {qs : List PageRequest} (token : p'.token = p.token)
      (closeSent : p'.closeSent = p.closeSent) (live : p.token ≠ "" → p'.terminal = p.terminal)
      (stopped : p.terminal = true → p'.terminal = true) (sane : p'.Sane)
      (carry : ∀ q ∈ qs, q.token = p.token ∧ q.isClose = false ∧ q.Filled) : Turn p (p', qs)
  | closes {p' : Page} {reason : String} (held : p.token ≠ "") (token : p'.token = "")
      (terminal : p'.terminal = true) (sane : p'.Sane) : Turn p (p', [⟨.close reason, p.token⟩])

/-- What the session depends on is as before. -/
structure SameSession (p p' : Page) : Prop where
  token : p'.token = p.token
  terminal : p'.terminal = p.terminal
  closeSent : p'.closeSent = p.closeSent
  left : p'.left = p.left

theorem SameSession.sane (h : SameSession p p') (hp : p.Sane) : p'.Sane := by
  refine ⟨?_, ?_, ?_⟩
  · rw [h.terminal, h.token]
    exact hp.ended
  · rw [h.left, h.terminal]
    exact hp.gone
  · rw [h.token, h.closeSent]
    exact hp.unsent

theorem SameSession.turn (h : SameSession p p') (hp : p.Sane)
    (hq : ∀ q ∈ qs, q.token = p.token ∧ q.isClose = false ∧ q.Filled) : Turn p (p', qs) :=
  .keeps h.token h.closeSent (fun _ => h.terminal) (fun ht => h.terminal.trans ht) (h.sane hp) hq

theorem SameSession.quiet (h : SameSession p p') (hp : p.Sane) : Turn p (p', []) :=
  h.turn hp (List.forall_mem_nil _)

/-- One request besides a close and an apply. -/
theorem carry_one {post : PagePost} (hclose : (PageRequest.mk post p.token).isClose = false)
    (happly : ∀ mode action idHex, post ≠ .apply mode action idHex) :
    ∀ q ∈ [PageRequest.mk post p.token], q.token = p.token ∧ q.isClose = false ∧ q.Filled := by
  intro q hq
  obtain rfl := List.mem_singleton.1 hq
  exact ⟨rfl, hclose, PageRequest.filled_of_ne happly⟩

theorem noteReason_same (reason : String) : SameSession p (p.noteReason reason) := by
  unfold noteReason
  split <;> exact ⟨rfl, rfl, rfl, rfl⟩

theorem dispatchSessionClose_held {sessionToken : String} (hheld : sessionToken ≠ "")
    (hopen : p.closeSent = false) (reason : String) : p.dispatchSessionClose sessionToken reason =
      ({ p with closeSent := true }, [⟨.close reason, sessionToken⟩]) := by
  refine if_neg ?_
  rw [hopen]
  simp [hheld]

/-- What is left of a page that ends. -/
def ended (p : Page) (reason : String) : Page :=
  { (p.noteReason reason).showSessionEnded with token := "", formDirty := false, busy := false
    }.syncControls

theorem ended_closeSent (reason : String) : (p.ended reason).closeSent = p.closeSent :=
  (noteReason_same (p := p) reason).closeSent

theorem ended_sane (reason : String) : (p.ended reason).Sane :=
  ⟨fun _ => rfl, fun _ => rfl, fun hne => absurd rfl hne⟩

theorem closeSession_eq (reason : String) : p.closeSession reason =
    (p.ended reason).dispatchSessionClose p.token (p.ended reason).terminalReason := by
  show (p.ended reason).dispatchSessionClose (p.noteReason reason).token _ = _
  rw [(noteReason_same (p := p) reason).token]
  rfl

/-- A page that holds a session closes it. -/
theorem closeSession_held (hheld : p.token ≠ "") (hopen : p.closeSent = false) (reason : String) :
    ∃ p' reason', p.closeSession reason = (p', [⟨.close reason', p.token⟩]) ∧ p'.token = "" ∧
      p'.terminal = true ∧ p'.Sane := by
  rw [closeSession_eq, dispatchSessionClose_held hheld ((ended_closeSent reason).trans hopen)]
  exact ⟨_, _, rfl, rfl, rfl, fun _ => rfl, fun _ => rfl, fun hne => absurd rfl hne⟩

/-- A page without a session has none to close. -/
theorem closeSession_without (htoken : p.token = "") (reason : String) :
    ∃ p', p.closeSession reason = (p', []) ∧ p'.token = "" ∧ p'.terminal = true ∧
      p'.closeSent = p.closeSent ∧ p'.Sane := by
  have hnothing : p.closeSession reason = (p.ended reason, []) := by
    rw [closeSession_eq]
    exact if_pos (.inl htoken)
  exact ⟨_, hnothing, rfl, rfl, ended_closeSent reason, ended_sane reason⟩

/-- A page that ends after what a handler has noted in `p'`. -/
theorem turn_closeSession (p p' : Page) (htoken : p'.token = p.token)
    (hsent : p'.closeSent = p.closeSent) (h : p.token ≠ "" → p.closeSent = false)
    (reason : String) : Turn p (p'.closeSession reason) := by
  by_cases hheld : p'.token = ""
  · obtain ⟨p'', heq, hnone, hterminal, hclosed, hsane⟩ := closeSession_without hheld reason
    rw [heq]
    exact .keeps (hnone.trans (hheld.symm.trans htoken)) (hclosed.trans hsent)
      (fun hne => absurd (htoken.symm.trans hheld) hne) (fun _ => hterminal) hsane
      (List.forall_mem_nil _)
  · have hne : p.token ≠ "" := htoken ▸ hheld
    obtain ⟨p', reason', heq, hnone, hterminal, hsane⟩ :=
      closeSession_held hheld (hsent.trans (h hne)) reason
    rw [heq, htoken]
    exact .closes hne hnone hterminal hsane

theorem turn_closeSession_self (hp : p.Sane) (reason : String) : Turn p (p.closeSession reason) :=
  turn_closeSession p p rfl rfl hp.unsent reason

theorem render_same {payload : Json} (h : p.render payload = some p') : SameSession p p' := by
  unfold render at h
  split at h
  · obtain rfl := Option.some.inj h
    exact ⟨rfl, rfl, rfl, rfl⟩
  split at h
  · exact absurd h.symm (Option.some_ne_none _)
  · obtain rfl := Option.some.inj h
    split <;> exact ⟨rfl, rfl, rfl, rfl⟩

theorem afterStatus_same (r : Posted) : SameSession p (p.afterStatus r) := by
  cases r with
  | thrown status => exact ⟨rfl, rfl, rfl, rfl⟩
  | ok payload =>
    show SameSession p ((p.render payload).getD p)
    cases hrender : p.render payload with
    | none => exact ⟨rfl, rfl, rfl, rfl⟩
    | some p' => exact render_same hrender

theorem afterStop_same (r : Posted) : SameSession p (p.afterStop r) := by
  cases r <;> exact ⟨rfl, rfl, rfl, rfl⟩

theorem applied_same (payload : Json) : SameSession p (p.applied payload) := by
  unfold applied
  dsimp only
  cases hrender : ({ p with formDirty := false } : Page).render payload with
  | none => exact ⟨rfl, rfl, rfl, rfl⟩
  | some p' =>
    have hsame := render_same hrender
    exact ⟨hsame.token, hsame.terminal, hsame.closeSent, hsame.left⟩

/-- An apply's answer gives up the token if it is a 401, and leaves the session else. -/
theorem afterApply_cases (r : Posted) :
    SameSession p (p.afterApply r) ∨
      (r = .thrown (some 401) ∧ (p.afterApply r).token = "" ∧
        (p.afterApply r).terminal = p.terminal ∧ (p.afterApply r).closeSent = p.closeSent ∧
        (p.afterApply r).left = p.left) := by
  cases r with
  | ok payload =>
    have hsame := applied_same (p := p) payload
    exact .inl ⟨hsame.token, hsame.terminal, hsame.closeSent, hsame.left⟩
  | thrown status =>
    by_cases h : status = some 401
    · subst h
      exact .inr ⟨rfl, rfl, rfl, rfl, rfl⟩
    · have hfailed : p.applyFailed status = p := if_neg h
      have hsame : SameSession p (p.applyFailed status) := by
        rw [hfailed]
        exact ⟨rfl, rfl, rfl, rfl⟩
      exact .inl ⟨hsame.token, hsame.terminal, hsame.closeSent, hsame.left⟩

theorem turn_status (hp : p.Sane) : Turn p p.status := by
  refine SameSession.turn ⟨rfl, rfl, rfl, rfl⟩ hp ?_
  split
  · exact List.forall_mem_nil _
  · exact carry_one rfl fun _ _ _ h => PagePost.noConfusion h

theorem status_live (htoken : p.token ≠ "") (hlive : p.terminal = false) :
    p.status = (p, [⟨.status, p.token⟩]) := by
  have hasks : ¬(p.token = "" ∨ p.terminal = true) := by
    rw [hlive]
    simp [htoken]
  rw [status, if_neg hasks]

theorem modeValue_cases (p : Page) : p.modeValue = "write" ∨ p.modeValue = "dry" := by
  unfold modeValue
  split
  · exact .inl rfl
  · exact .inr rfl

theorem turn_apply (hp : p.Sane) : Turn p p.apply := by
  unfold apply
  split
  · exact SameSession.quiet ⟨rfl, rfl, rfl, rfl⟩ hp
  split
  · exact SameSession.quiet ⟨rfl, rfl, rfl, rfl⟩ hp
  split
  · exact SameSession.quiet ⟨rfl, rfl, rfl, rfl⟩ hp
  next hvalid =>
    refine SameSession.turn ⟨rfl, rfl, rfl, rfl⟩ hp fun q hq => ?_
    obtain rfl := List.mem_singleton.1 hq
    refine ⟨rfl, rfl, fun mode action idHex h => ?_⟩
    obtain ⟨rfl, rfl, rfl⟩ := PagePost.apply.inj h
    refine ⟨modeValue_cases p, fun hcustom => ?_⟩
    rw [validCustom, hcustom] at hvalid
    simpa using hvalid

theorem turn_stop (hp : p.Sane) (now : Nat) : Turn p (p.stop now) := by
  unfold stop
  split
  · exact SameSession.quiet ⟨rfl, rfl, rfl, rfl⟩ hp
  · exact SameSession.turn ⟨rfl, rfl, rfl, rfl⟩ hp
      (carry_one rfl fun _ _ _ h => PagePost.noConfusion h)

theorem turn_beat (hp : p.Sane) : Turn p p.beat := by
  unfold beat
  split
  · exact SameSession.quiet ⟨rfl, rfl, rfl, rfl⟩ hp
  split
  · exact turn_closeSession_self hp "hidden"
  · exact SameSession.turn ⟨rfl, rfl, rfl, rfl⟩ hp
      (carry_one rfl fun _ _ _ h => PagePost.noConfusion h)

/-- What the user or the browser does. -/
theorem turn_step (hp : p.Sane) (e : PageEvent) : Turn p (p.step e) := by
  cases e with
  | toggle on => exact SameSession.quiet ⟨rfl, rfl, rfl, rfl⟩ hp
  | choose action => exact SameSession.quiet ⟨rfl, rfl, rfl, rfl⟩ hp
  | input text => exact SameSession.quiet ⟨rfl, rfl, rfl, rfl⟩ hp
  | clickApply =>
    show Turn p (if p.applyDisabled then (p, []) else p.apply)
    split
    · exact SameSession.quiet ⟨rfl, rfl, rfl, rfl⟩ hp
    · exact turn_apply hp
  | clickRefresh => exact turn_status hp
  | clickStop now =>
    show Turn p (if p.stopDisabled then (p, []) else p.stop now)
    split
    · exact SameSession.quiet ⟨rfl, rfl, rfl, rfl⟩ hp
    · exact turn_stop hp now
  | interval => exact turn_beat hp
  | visibilitychange visible =>
    cases visible with
    | true => exact SameSession.quiet ⟨rfl, rfl, rfl, rfl⟩ hp
    | false => exact turn_closeSession p { p with visible := false } rfl rfl hp.unsent "hidden"
  | freeze => exact turn_closeSession_self hp "freeze"
  | blur => exact turn_closeSession_self hp "blur"
  | pagehide => exact turn_closeSession p { p with left := true } rfl rfl hp.unsent "pagehide"
  | beforeunload => exact turn_closeSession_self hp "unload"
  | pageshow =>
    show Turn p (if p.left || p.terminal then p.showSessionEnded else p, [])
    split
    next hover =>
      have hterminal : p.terminal = true := by
        rcases (Bool.or_eq_true _ _).mp hover with hleft | hterminal
        · exact hp.gone hleft
        · exact hterminal
      exact .keeps rfl rfl (fun hne => absurd (hp.ended hterminal) hne) (fun _ => rfl)
        ⟨fun _ => hp.ended hterminal, fun _ => rfl, hp.unsent⟩
        (List.forall_mem_nil _)
    next => exact SameSession.quiet ⟨rfl, rfl, rfl, rfl⟩ hp

/-- What follows a request, besides an apply. -/
theorem turn_resume (hp : p.Sane) {q : PageRequest} (f : Fetched)
    (hq : ∀ mode action idHex, q.post ≠ .apply mode action idHex) : Turn p (p.resume q f) := by
  unfold resume
  cases hpost : q.post with
  | ping =>
    show Turn p (p.afterPing (posted f))
    cases posted f with
    | ok payload => exact SameSession.quiet ⟨rfl, rfl, rfl, rfl⟩ hp
    | thrown status => exact turn_closeSession_self hp "heartbeat-lost"
  | status => exact (afterStatus_same _).quiet hp
  | apply mode action idHex => exact absurd hpost (hq mode action idHex)
  | stop => exact (afterStop_same _).quiet hp
  | close reason => exact SameSession.quiet ⟨rfl, rfl, rfl, rfl⟩ hp

/-- How the answer of the open ends: no token is given, it is held, or it is given back at once. -/
inductive Opened (token : String) : Page × List PageRequest → Prop
  | refused {p' : Page} (given : token = "") (none : p'.token = "") (unsent : p'.closeSent = false)
      (sane : p'.Sane) : Opened token (p', [])
  | held {p' : Page} (given : token ≠ "") (token_eq : p'.token = token)
      (live : p'.terminal = false) (sane : p'.Sane) : Opened token (p', [⟨.status, token⟩])
  | closed {p' : Page} {reason : String} (given : token ≠ "") (none : p'.token = "")
      (terminal : p'.terminal = true) (sane : p'.Sane) :
      Opened token (p', [⟨.close reason, token⟩])

theorem opened_without (htoken : p.token = "") (hsent : p.closeSent = false) (reason : String) :
    Opened "" (p.closeSession reason) := by
  obtain ⟨p', heq, hnone, -, hclosed, hsane⟩ := closeSession_without htoken reason
  rw [heq]
  exact .refused rfl hnone (hclosed.trans hsent) hsane

theorem sessionTokenOf_null {payload : Json} (h : isNull payload = true) :
    sessionTokenOf payload = "" := by
  cases payload with
  | null => rfl
  | bool | num | str | arr | obj => exact absurd h Bool.false_ne_true

theorem opened_afterOpen (hp : p.Sane) (hsent : p.closeSent = false) (r : Posted) :
    Opened r.token (p.afterOpen r) := by
  cases r with
  | thrown status =>
    exact opened_without (p := { p with token := "" }) rfl hsent "session-open-failed"
  | ok payload =>
    show Opened (sessionTokenOf payload) (p.afterOpen (.ok payload))
    unfold afterOpen
    dsimp only
    by_cases hnull : isNull payload = true
    · rw [if_pos hnull, sessionTokenOf_null hnull]
      exact opened_without (p := { p with token := "" }) rfl hsent "session-open-failed"
    rw [if_neg hnull]
    by_cases htoken : sessionTokenOf payload = ""
    · rw [if_pos htoken, htoken]
      exact opened_without rfl rfl _
    rw [if_neg htoken]
    by_cases hover : (p.terminal || !p.visible) = true
    · rw [if_pos hover]
      obtain ⟨p', reason', heq, hnone, hterminal, hsane⟩ := closeSession_held
        (p := { p with token := sessionTokenOf payload, closeSent := false }) htoken rfl
        (if p.terminalReason = "" then "hidden-during-open" else p.terminalReason)
      rw [heq]
      exact .closed htoken hnone hterminal hsane
    · rw [if_neg hover]
      have hlive : p.terminal = false := by
        cases hterminal : p.terminal with
        | false => rfl
        | true => exact absurd (by rw [hterminal, Bool.true_or]) hover
      rw [status_live]
      · refine .held htoken rfl hlive ⟨fun hterminal => ?_, hp.gone, fun _ => rfl⟩
        exact absurd (hlive.symm.trans hterminal) Bool.false_ne_true
      · exact htoken
      · exact hlive

end Page

/-! ## Runs -/

/-- **Where the session of a page is.** The page has none: none was given, or the server refused its
token with a 401; or it holds the one that was given, and goes on; or it has ended, and has closed
the session once, with nothing but its reason. -/
inductive PageRun.Phase (R : PageRun) : Prop
  | without (token : R.page.token = "") (none : ∀ q ∈ R.sent, q.isClose = false)
      (why : R.granted = "" ∨ R.refused = true)
  | live (granted : R.granted ≠ "") (token : R.page.token = R.granted)
      (live : R.page.terminal = false) (none : ∀ q ∈ R.sent, q.isClose = false)
  | closed (before after : List PageRequest) (reason : String) (granted : R.granted ≠ "")
      (token : R.page.token = "") (terminal : R.page.terminal = true)
      (sent : R.sent = before ++ ⟨.close reason, R.granted⟩ :: after)
      (only : ∀ q ∈ before ++ after, q.isClose = false) (silent : ∀ q ∈ after, q.token = "")

namespace PageRun

variable {R : PageRun}

structure Inv (R : PageRun) : Prop where
  sane : R.page.Sane
  phase : R.Phase
  unopened : R.opening = true → R.granted = "" ∧ R.page.token = "" ∧ R.page.closeSent = false
  carried : ∀ q ∈ R.sent, q.token = "" ∨ q.token = R.granted
  filled : ∀ q ∈ R.sent, q.Filled

theorem Phase.token_cases (h : R.Phase) : R.page.token = "" ∨ R.page.token = R.granted := by
  cases h with
  | without token => exact .inl token
  | live _ token => exact .inr token
  | closed _ _ _ _ token => exact .inl token

theorem Inv.turned (h : R.Inv) {turn : Page × List PageRequest} (hturn : R.page.Turn turn) :
    (R.turned turn).Inv := by
  cases hturn with
  | @keeps p' qs token closeSent live stopped sane carry =>
    have hcarried : ∀ q ∈ qs, q.token = "" ∨ q.token = R.granted := fun q hq => by
      rw [(carry q hq).1]
      exact h.phase.token_cases
    refine ⟨sane, ?_, fun hopening => ?_, List.forall_mem_append.2 ⟨h.carried, hcarried⟩,
      List.forall_mem_append.2 ⟨h.filled, fun q hq => (carry q hq).2.2⟩⟩
    · have hnone (hold : ∀ q ∈ R.sent, q.isClose = false) :=
        List.forall_mem_append.2 ⟨hold, fun q hq => (carry q hq).2.1⟩
      cases h.phase with
      | without htoken hold why => exact .without (token.trans htoken) (hnone hold) why
      | live hgranted htoken hlive hold =>
        exact .live hgranted (token.trans htoken) ((live (htoken ▸ hgranted)).trans hlive)
          (hnone hold)
      | closed before after reason hgranted htoken hterminal hsent only silent =>
        refine .closed before (after ++ qs) reason hgranted (token.trans htoken) (stopped hterminal)
          ?_ ?_ (List.forall_mem_append.2 ⟨silent, fun q hq => (carry q hq).1.trans htoken⟩)
        · rw [PageRun.turned, hsent, List.append_assoc, List.cons_append]
        · rw [← List.append_assoc]
          exact List.forall_mem_append.2 ⟨only, fun q hq => (carry q hq).2.1⟩
    · obtain ⟨hgranted, htoken, hsent⟩ := h.unopened hopening
      exact ⟨hgranted, token.trans htoken, closeSent.trans hsent⟩
  | @closes p' reason held token terminal sane =>
    have hgranted : R.page.token = R.granted := h.phase.token_cases.resolve_left held
    refine ⟨sane, ?_, fun hopening => absurd (h.unopened hopening).2.1 held,
      List.forall_mem_append.2 ⟨h.carried, List.forall_mem_singleton.2 (.inr hgranted)⟩,
      List.forall_mem_append.2
        ⟨h.filled, List.forall_mem_singleton.2 (PageRequest.filled_close reason _)⟩⟩
    cases h.phase with
    | without htoken => exact absurd htoken held
    | live hne htoken hlive hold =>
      refine .closed R.sent [] reason hne token terminal ?_ ?_ (List.forall_mem_nil _)
      · show R.sent ++ [⟨.close reason, R.page.token⟩] = R.sent ++ [⟨.close reason, R.granted⟩]
        rw [htoken]
      · rwa [List.append_nil]
    | closed _ _ _ _ htoken => exact absurd htoken held

/-- An answer that is waited for no more. -/
theorem Inv.awaited (h : R.Inv) (waiting : List PageRequest) (refused : Bool) :
    { R with waiting := waiting, refused := R.refused || refused }.Inv := by
  refine ⟨h.sane, ?_, h.unopened, h.carried, h.filled⟩
  cases h.phase with
  | without token none why =>
    exact .without token none (why.imp_right fun hrefused => by rw [hrefused, Bool.true_or])
  | live granted token live none => exact .live granted token live none
  | closed before after reason granted token terminal sent only silent =>
    exact .closed before after reason granted token terminal sent only silent

/-- A token that a 401 takes away. -/
theorem Inv.dropped (h : R.Inv) {p' : Page} (hrefused : R.refused = true) (token : p'.token = "")
    (terminal : p'.terminal = R.page.terminal) (closeSent : p'.closeSent = R.page.closeSent)
    (left : p'.left = R.page.left) : (R.turned (p', [])).Inv := by
  have hsent : (R.turned (p', [])).sent = R.sent := List.append_nil _
  refine ⟨⟨fun _ => token, ?_, fun hne => absurd token hne⟩, ?_, fun hopening => ?_,
    hsent ▸ h.carried, hsent ▸ h.filled⟩
  · intro hleft
    exact terminal.trans (h.sane.gone (left.symm.trans hleft))
  · cases h.phase with
    | without _ none => exact .without token (hsent ▸ none) (.inr hrefused)
    | live _ _ _ none => exact .without token (hsent ▸ none) (.inr hrefused)
    | closed before after reason hgranted _ hterminal sent only silent =>
      exact .closed before after reason hgranted token (terminal.trans hterminal)
        (hsent.trans sent) only silent
  · obtain ⟨hgranted, -, hunsent⟩ := h.unopened hopening
    exact ⟨hgranted, token, closeSent.trans hunsent⟩

theorem Inv.answered (h : R.Inv) (q : PageRequest) (f : Fetched)
    (hrefused : refuses q f = true → R.refused = true) :
    (R.turned (R.page.resume q f)).Inv := by
  by_cases happly : ∃ mode action idHex, q.post = .apply mode action idHex
  · obtain ⟨mode, action, idHex, hpost⟩ := happly
    have hresume : R.page.resume q f = (R.page.afterApply (posted f), []) := by
      rw [Page.resume, hpost]
    rw [hresume]
    rcases Page.afterApply_cases (p := R.page) (posted f) with hsame | ⟨h401, htoken, hrest⟩
    · exact h.turned (hsame.quiet h.sane)
    · refine h.dropped (hrefused ?_) htoken hrest.1 hrest.2.1 hrest.2.2
      rw [refuses, hpost, h401]
      rfl
  · refine h.turned (Page.turn_resume h.sane f fun mode action idHex hpost => ?_)
    exact happly ⟨mode, action, idHex, hpost⟩

theorem Inv.opened (h : R.Inv) (hopening : R.opening = true) (r : Posted) :
    ({ R with opening := false, granted := r.token }.turned (R.page.afterOpen r)).Inv := by
  obtain ⟨hgranted, htoken, hunsent⟩ := h.unopened hopening
  have hcarried : ∀ q ∈ R.sent, q.token = "" ∨ q.token = r.token := fun q hq =>
    .inl ((h.carried q hq).elim id fun heq => heq.trans hgranted)
  have hnone : ∀ q ∈ R.sent, q.isClose = false := by
    cases h.phase with
    | without _ none => exact none
    | live hne => exact absurd hgranted hne
    | closed _ _ _ hne => exact absurd hgranted hne
  have hend := Page.opened_afterOpen h.sane hunsent r
  generalize R.page.afterOpen r = turn at hend
  cases hend with
  | refused given none unsent sane =>
    refine ⟨sane, .without none ?_ (.inl given), fun h => absurd h Bool.false_ne_true, ?_, ?_⟩
    · exact List.forall_mem_append.2 ⟨hnone, List.forall_mem_nil _⟩
    · exact List.forall_mem_append.2 ⟨hcarried, List.forall_mem_nil _⟩
    · exact List.forall_mem_append.2 ⟨h.filled, List.forall_mem_nil _⟩
  | held given token_eq live sane =>
    refine ⟨sane, .live given token_eq live ?_, fun h => absurd h Bool.false_ne_true, ?_, ?_⟩
    · exact List.forall_mem_append.2 ⟨hnone, List.forall_mem_singleton.2 rfl⟩
    · exact List.forall_mem_append.2 ⟨hcarried, List.forall_mem_singleton.2 (.inr rfl)⟩
    · exact List.forall_mem_append.2
        ⟨h.filled, List.forall_mem_singleton.2 (PageRequest.filled_status _)⟩
  | @closed p' reason given none terminal sane =>
    refine ⟨sane, .closed R.sent [] reason given none terminal rfl ?_ (List.forall_mem_nil _),
      fun h => absurd h Bool.false_ne_true, ?_, ?_⟩
    · rwa [List.append_nil]
    · exact List.forall_mem_append.2 ⟨hcarried, List.forall_mem_singleton.2 (.inr rfl)⟩
    · exact List.forall_mem_append.2
        ⟨h.filled, List.forall_mem_singleton.2 (PageRequest.filled_close reason _)⟩

theorem Inv.load (visible : Bool) : (load visible).Inv where
  sane := ⟨fun _ => rfl, fun h => absurd h Bool.false_ne_true, fun h => absurd rfl h⟩
  phase := .without rfl (List.forall_mem_nil _) (.inl rfl)
  unopened _ := ⟨rfl, rfl, rfl⟩
  carried _ hq := absurd hq List.not_mem_nil
  filled _ hq := absurd hq List.not_mem_nil

theorem Inv.step (h : R.Inv) (label : PageLabel) : (R.step label).Inv := by
  cases label with
  | event e => exact h.turned (Page.turn_step h.sane e)
  | opened f =>
    unfold PageRun.step
    dsimp only
    by_cases hopening : R.opening = true
    · rw [if_pos hopening]
      exact h.opened hopening (posted f)
    · rw [if_neg hopening]
      exact h
  | answered n f =>
    unfold PageRun.step
    dsimp only
    cases R.waiting[n]? with
    | none => exact h
    | some q =>
      refine (h.awaited (R.waiting.eraseIdx n) (refuses q f)).answered q f fun hrefuses => ?_
      show (R.refused || refuses q f) = true
      rw [hrefuses, Bool.or_true]

theorem inv_run (visible : Bool) (labels : List PageLabel) : ((load visible).run labels).Inv :=
  run_induct (Inv.load visible) fun _ e h => h.step e

end PageRun

/-- **The session of a page.** Whatever the user and the browser do, and whatever comes back for the
requests and in which order: a request carries the token that the open was answered with or none;
a page that has the token and goes on has not closed its session, a page that has ended has closed
it, once, and carries the token in nothing after that, and a page loses the token otherwise only to
a 401. -/
theorem page_session (visible : Bool) (labels : List PageLabel) :
    ((PageRun.load visible).run labels).Phase ∧
      ∀ q ∈ ((PageRun.load visible).run labels).sent,
        q.token = "" ∨ q.token = ((PageRun.load visible).run labels).granted :=
  ⟨(PageRun.inv_run visible labels).phase, (PageRun.inv_run visible labels).carried⟩

/-! ## Bodies -/

theorem utf8_eq_ascii {s : String} (h : ∀ c ∈ s.toList, c.toNat < 128) : utf8 s = ascii s := by
  unfold utf8 ascii
  generalize s.toList = cs at h
  induction cs with
  | nil => rfl
  | cons c cs ih =>
    have hc := h c List.mem_cons_self
    have hsize : c.utf8Size = 1 := Char.utf8Size_eq_one_iff.2 (UInt32.le_iff_toNat_le.2 (by
      change c.toNat ≤ 127
      omega))
    rw [List.flatMap_cons, List.map_cons, ih fun d hd => h d (List.mem_cons_of_mem c hd),
      String.utf8EncodeChar_eq_singleton hsize]
    rfl

theorem isHexChar_lt {c : Char} (h : isHexChar c = true) : c.toNat < 128 := by
  simp only [isHexChar, Bool.or_eq_true, Bool.and_eq_true, decide_eq_true_eq, Char.le_def,
    UInt32.le_iff_toNat_le] at h
  change c.val.toNat < 128
  have h9 : '9'.val.toNat = 57 := rfl
  have hf : 'f'.val.toNat = 102 := rfl
  have hF : 'F'.val.toNat = 70 := rfl
  omega

theorem isSome_hexNibble {c : Char} (h : isHexChar c = true) :
    ∃ n, hexNibble c.toNat.toUInt8 = some n := by
  have hall : ∀ k < 128, isHexChar (Char.ofNat k) = true →
      (hexNibble (Nat.toUInt8 k)).isSome = true := by decide
  have hsome := hall c.toNat (isHexChar_lt h) (by rwa [Char.ofNat_toNat])
  exact Option.isSome_iff_exists.1 hsome

theorem isSome_mapM_hexNibble {cs : List Char} (h : ∀ c ∈ cs, isHexChar c = true) :
    ∃ nibbles, (cs.map fun c => c.toNat.toUInt8).mapM hexNibble = some nibbles := by
  induction cs with
  | nil => exact ⟨[], rfl⟩
  | cons c cs ih =>
    obtain ⟨n, hn⟩ := isSome_hexNibble (h c List.mem_cons_self)
    obtain ⟨ns, hns⟩ := ih fun d hd => h d (List.mem_cons_of_mem c hd)
    refine ⟨n :: ns, ?_⟩
    rw [List.map_cons, List.mapM_cons, hn, hns]
    rfl

/-- A custom ID that the page accepts is one that the server decodes. -/
theorem decodeVirtualId_of_isHexId {text : String} (h : isHexId text = true) :
    (utf8 text).length = kWidevineIdBytes * 2 ∧ ∃ id, decodeVirtualId (utf8 text) = some id := by
  rw [isHexId, Bool.and_eq_true, beq_iff_eq, List.all_eq_true] at h
  have hascii : utf8 text = ascii text := utf8_eq_ascii fun c hc => isHexChar_lt (h.2 c hc)
  have hlen : (ascii text).length = kWidevineIdBytes * 2 := by
    rw [ascii, List.length_map, String.length_toList, h.1]
    rfl
  obtain ⟨nibbles, hnibbles⟩ := isSome_mapM_hexNibble h.2
  rw [hascii]
  refine ⟨hlen, ?_⟩
  unfold decodeVirtualId
  rw [if_neg (not_not.2 hlen), ascii, hnibbles]
  exact ⟨_, rfl⟩

theorem isFormName_fields (q : PageRequest) : ∀ field ∈ q.fields, isFormName field.1 = true := by
  have htoken : isFormName "session_token" = true := by decide
  have hnone : ∀ field ∈ ([] : List (String × String)), isFormName field.1 = true :=
    List.forall_mem_nil _
  unfold PageRequest.fields
  cases q.post with
  | ping => exact List.forall_mem_cons.2 ⟨htoken, hnone⟩
  | status => exact List.forall_mem_cons.2 ⟨htoken, hnone⟩
  | stop => exact List.forall_mem_cons.2 ⟨htoken, hnone⟩
  | close reason =>
    have hreason : isFormName "reason" = true := by decide
    exact List.forall_mem_cons.2 ⟨htoken, List.forall_mem_cons.2 ⟨hreason, hnone⟩⟩
  | apply mode action idHex =>
    have hmode : isFormName "mode" = true := by decide
    have haction : isFormName "id_action" = true := by decide
    have hid : isFormName "id_hex" = true := by decide
    exact List.forall_mem_cons.2 ⟨hmode, List.forall_mem_cons.2 ⟨haction,
      List.forall_mem_cons.2 ⟨hid, List.forall_mem_cons.2 ⟨htoken, hnone⟩⟩⟩⟩

section
variable {mg : MgGetVar} (hmg : Decodes mg)
include hmg

/-- A field of a request is read as it was written, if it is not too long. -/
theorem formValue_body {q : PageRequest} {before after : List (String × String)}
    {name value : String} (hq : q.fields = before ++ (name, value) :: after)
    (hfirst : ∀ field ∈ before, field.1 ≠ name) (maxBytes : Nat) :
    formValue mg q.body name maxBytes =
      if (utf8 value).length ≤ maxBytes then some (utf8 value) else none := by
  have hnames := isFormName_fields q
  rw [hq] at hnames
  rw [formValue, PageRequest.body, hq, hmg before after name value (maxBytes + 1) hnames hfirst]
  by_cases h : (utf8 value).length ≤ maxBytes
  · rw [if_pos (Nat.lt_succ_of_le h), if_pos h]
    exact if_neg (not_lt.2 h)
  · rw [if_neg fun hlt => h (Nat.le_of_lt_succ hlt), if_neg h]

theorem sessionToken_body (q : PageRequest) (maxBytes : Nat) :
    formValue mg q.body "session_token" maxBytes =
      if (utf8 q.token).length ≤ maxBytes then some (utf8 q.token) else none := by
  have hnone : ∀ field ∈ ([] : List (String × String)), field.1 ≠ "session_token" :=
    List.forall_mem_nil _
  cases hpost : q.post with
  | ping => exact formValue_body hmg (by rw [PageRequest.fields, hpost]; rfl) hnone maxBytes
  | status => exact formValue_body hmg (by rw [PageRequest.fields, hpost]; rfl) hnone maxBytes
  | stop => exact formValue_body hmg (by rw [PageRequest.fields, hpost]; rfl) hnone maxBytes
  | close reason =>
    exact formValue_body hmg (by rw [PageRequest.fields, hpost]; rfl) hnone maxBytes
  | apply mode action idHex =>
    have hmode : "mode" ≠ "session_token" := by decide
    have haction : "id_action" ≠ "session_token" := by decide
    have hid : "id_hex" ≠ "session_token" := by decide
    have hfields : q.fields = [("mode", mode), ("id_action", action.value), ("id_hex", idHex)] ++
        ("session_token", q.token) :: [] := by
      rw [PageRequest.fields, hpost]
      rfl
    exact formValue_body hmg hfields (List.forall_mem_cons.2 ⟨hmode, List.forall_mem_cons.2
      ⟨haction, List.forall_mem_cons.2 ⟨hid, hnone⟩⟩⟩) maxBytes

/-- The form of an apply. -/
theorem parseApplyForm_body {q : PageRequest} {mode idHex : String} {action : IdAction}
    (hpost : q.post = .apply mode action idHex) (hmode : mode = "write" ∨ mode = "dry") :
    parseApplyForm mg q.body = if (utf8 idHex).length ≤ kWidevineIdBytes * 2 then
      some ⟨if mode = "write" then kWriteTest else kDryRun, action, utf8 idHex⟩ else none := by
  have hfields : q.fields = [("mode", mode), ("id_action", action.value), ("id_hex", idHex),
      ("session_token", q.token)] := by
    rw [PageRequest.fields, hpost]
  have hmodeAction : "mode" ≠ "id_action" := by decide
  have hmodeId : "mode" ≠ "id_hex" := by decide
  have hactionId : "id_action" ≠ "id_hex" := by decide
  have hafterMode : q.fields = [("mode", mode)] ++ ("id_action", action.value) ::
      [("id_hex", idHex), ("session_token", q.token)] := hfields
  have hafterAction : q.fields = [("mode", mode), ("id_action", action.value)] ++
      ("id_hex", idHex) :: [("session_token", q.token)] := hfields
  have hread : formValue mg q.body "mode" 8 = _ :=
    formValue_body hmg (List.nil_append q.fields ▸ hfields) (List.forall_mem_nil _) 8
  have hreadAction : formValue mg q.body "id_action" 8 = _ :=
    formValue_body hmg hafterMode (List.forall_mem_cons.2 ⟨hmodeAction, List.forall_mem_nil _⟩) 8
  have hreadId : formValue mg q.body "id_hex" (kWidevineIdBytes * 2) = _ :=
    formValue_body hmg hafterAction (List.forall_mem_cons.2 ⟨hmodeId, List.forall_mem_cons.2
      ⟨hactionId, List.forall_mem_nil _⟩⟩) (kWidevineIdBytes * 2)
  have hmodes : (utf8 mode).length ≤ 8 ∧
      parseMode (utf8 mode) = some (if mode = "write" then kWriteTest else kDryRun) := by
    rcases hmode with rfl | rfl <;> decide
  have hactions : (utf8 action.value).length ≤ 8 ∧
      parseIdAction (utf8 action.value) = some action := by
    cases action <;> decide
  rw [if_pos hmodes.1] at hread
  rw [if_pos hactions.1] at hreadAction
  unfold parseApplyForm
  rw [hread, hreadAction, hreadId]
  by_cases hlen : (utf8 idHex).length ≤ kWidevineIdBytes * 2
  · rw [if_pos hlen, if_pos hlen]
    simp only [Option.bind_eq_bind, Option.bind_some, hmodes.2, hactions.2]
    rfl
  · rw [if_neg hlen, if_neg hlen]
    rfl

/-- **What a page posts is what the server reads.** In every run of a page, the server reads off
each request the token that the page put there, and off each apply the mode, the source and the ID
that the controls showed, unless the ID is longer than 64 bytes; a custom ID never is, and it
decodes. -/
theorem page_forms_read (visible : Bool) (labels : List PageLabel) :
    ∀ q ∈ ((PageRun.load visible).run labels).sent,
      formValue mg q.body "session_token" kSessionTokenHexBytes =
          (if (utf8 q.token).length ≤ kSessionTokenHexBytes then some (utf8 q.token) else none) ∧
        ∀ mode action idHex, q.post = .apply mode action idHex →
          parseApplyForm mg q.body = (if (utf8 idHex).length ≤ kWidevineIdBytes * 2 then
            some ⟨if mode = "write" then kWriteTest else kDryRun, action, utf8 idHex⟩ else none) ∧
          (action = .custom → (utf8 idHex).length = kWidevineIdBytes * 2 ∧
            ∃ id, decodeVirtualId (utf8 idHex) = some id) := by
  intro q hq
  refine ⟨sessionToken_body hmg q _, fun mode action idHex hpost => ?_⟩
  obtain ⟨hmode, hcustom⟩ := (PageRun.inv_run visible labels).filled q hq mode action idHex hpost
  exact ⟨parseApplyForm_body hmg hpost hmode,
    fun haction => decodeVirtualId_of_isHexId (hcustom haction)⟩

end

/-! ## A reader -/

/-- `mg_get_var` as it is documented, for names in lower case. -/
def formVar : MgGetVar := fun body name dstLen =>
  (Urlencoded.getVar (ascii name) body).filter fun value => value.length < dstLen

theorem toNat_formName {name : String} (h : isFormName name = true) :
    ∀ c ∈ name.toList, (97 ≤ c.toNat ∧ c.toNat ≤ 122) ∨ c.toNat = 95 := by
  intro c hc
  have hchar := List.all_eq_true.1 h c hc
  simp only [Bool.or_eq_true, Bool.and_eq_true, decide_eq_true_eq, beq_iff_eq, Char.le_def,
    UInt32.le_iff_toNat_le] at hchar
  rcases hchar with hletter | rfl
  · exact .inl hletter
  · exact .inr rfl

theorem utf8_formName {name : String} (h : isFormName name = true) : utf8 name = ascii name :=
  utf8_eq_ascii fun c hc => by
    have hrange := toNat_formName h c hc
    omega

theorem plainName_utf8 {name : String} (h : isFormName name = true) :
    Urlencoded.PlainName (utf8 name) := by
  have hall : ∀ k < 128, (97 ≤ k ∧ k ≤ 122) ∨ k = 95 →
      Urlencoded.kept (Nat.toUInt8 k) = true := by decide
  rw [utf8_formName h]
  intro b hb
  obtain ⟨c, hc, rfl⟩ := List.mem_map.1 hb
  have hrange := toNat_formName h c hc
  exact hall c.toNat (by omega) hrange

/-- The names are told apart by their bytes. -/
theorem bytesText_utf8 {name : String} (h : isFormName name = true) :
    bytesText (utf8 name) = name := by
  have hchars : (utf8 name).map (fun b => Char.ofNat b.toNat) = name.toList.map id := by
    rw [utf8_formName h, ascii, List.map_map]
    refine List.map_congr_left fun c hc => ?_
    have hrange := toNat_formName h c hc
    have hnat : c.toNat.toUInt8.toNat = c.toNat := by
      rw [Nat.toUInt8, UInt8.toNat_ofNat']
      omega
    rw [Function.comp_apply, hnat, Char.ofNat_toNat, id]
  rw [bytesText, hchars, List.map_id, String.ofList_toList]

theorem decodes_formVar : Decodes formVar := by
  intro before after name value dstLen hnames hfirst
  have hname : isFormName name = true := hnames (name, value) (by simp)
  have hread : Urlencoded.getVar (ascii name) (formBody (before ++ (name, value) :: after)) =
      some (utf8 value) := by
    rw [formBody, List.map_append, List.map_cons, utf8_formName hname]
    refine Urlencoded.getVar_serialize (fun field hfield => ?_) fun field hfield heq => ?_
    · rw [← utf8_formName hname, ← List.map_cons (f := fun field : String × String =>
        (utf8 field.1, utf8 field.2)) (a := (name, value)), ← List.map_append] at hfield
      obtain ⟨pair, hpair, rfl⟩ := List.mem_map.1 hfield
      exact plainName_utf8 (hnames pair hpair)
    · obtain ⟨pair, hpair, rfl⟩ := List.mem_map.1 hfield
      refine hfirst pair hpair ?_
      have hpairName := hnames pair (List.mem_append_left _ hpair)
      rw [← bytesText_utf8 hpairName, ← bytesText_utf8 hname, utf8_formName hname]
      exact congrArg bytesText heq
  unfold formVar
  rw [hread, Option.filter_some]
  simp only [decide_eq_true_eq]

/-- A page opens, a custom ID is typed, and it is applied. -/
def sampleLabels : List PageLabel :=
  [.opened (.answered ⟨200, jsonObject [("result", "0"),
      ("session_token", jsonString "00112233445566778899aabbccddeeff"), ("heartbeat_ms", "4000")]⟩),
    .event (.choose .custom), .event (.input (String.ofList (List.replicate 64 'a'))),
    .event .clickApply]

/-- The apply that the sample posts. -/
def customRequest : PageRequest :=
  ⟨.apply "dry" .custom (String.ofList (List.replicate 64 'a')), "00112233445566778899aabbccddeeff"⟩

theorem page_forms_read_custom :
    formValue formVar customRequest.body "session_token" kSessionTokenHexBytes =
        some (utf8 customRequest.token) ∧
      parseApplyForm formVar customRequest.body =
        some ⟨kDryRun, .custom, utf8 (String.ofList (List.replicate 64 'a'))⟩ ∧
      ∃ id, decodeVirtualId (utf8 (String.ofList (List.replicate 64 'a'))) = some id := by
  obtain ⟨htoken, hform⟩ := page_forms_read decodes_formVar true sampleLabels customRequest
    (by decide +kernel)
  obtain ⟨hread, hcustom⟩ := hform "dry" .custom _ rfl
  exact ⟨htoken.trans (by decide +kernel), hread.trans (by decide +kernel), (hcustom rfl).2⟩

end Drmid
