import Drmid.Control.Clients
import Drmid.Control.Proof.Agreement

/-!
# Clients beside each other

A generation is chosen from the status that a client read when it began, so two clients may choose
the same one. As long as none is written twice (`Clients.WritesFresh`) a generation names one
config, and `Inv` says where the control file, the kernel and the clients are on the line of
generations. `no_lost_update` is read off it.
-/

namespace Drmid

open Lib

namespace Clients

/-! ## The stages of a client -/

section
variable {cfg : ServerConfig} {C : Clients} {i : Nat} {form : ApplyForm} {req : ApplyRequest}
  {current : ControlIpcResponse} {config : ReplacementConfig}

theorem step_start (hi : C.client i = .idle) :
    C.step cfg (.start i form req) = C.ask cfg i form req := by
  simp only [step, hi]

theorem step_idle (hi : C.client i = .idle) : C.step cfg (.next i) = C := by
  simp only [step, hi]

theorem step_asked (hi : C.client i = .asked form req current) :
    C.step cfg (.next i) = C.prepare i form req current := by
  simp only [step, hi]

theorem step_prepared (hi : C.client i = .prepared req config) :
    C.step cfg (.next i) = C.persist i req config := by
  simp only [step, hi]

theorem step_persisted (hi : C.client i = .persisted req config) :
    C.step cfg (.next i) = C.apply cfg i req := by
  simp only [step, hi]

theorem apply_state : (C.apply cfg i req).state = (applyStage cfg req.apply C.state).2 := rfl

theorem setClient_client (client : ApplyClient) : (C.setClient i client).client i = client :=
  Function.update_self _ _ _

theorem reply_client (r : ApplyReply) : (C.reply i r).client i = .idle :=
  Function.update_self _ _ _

/-- The files, the daemon and the answers. -/
def outcome (C : Clients) : ControlState × List (Nat × ApplyReply) := (C.state, C.replies)

/-- The end of a request whose config is prepared, if nobody comes between. -/
theorem run_prepared (hi : C.client i = .prepared req config) :
    (run (step cfg) C [.next i, .next i]).outcome =
      match persistStage req.writeScript config C.state with
      | (some r, S) => (S, (i, r) :: C.replies)
      | (none, S) =>
        ((applyStage cfg req.apply S).2, (i, (applyStage cfg req.apply S).1) :: C.replies) := by
  rw [run_cons, run_cons, run_nil, step_prepared hi, persist]
  rcases persistStage req.writeScript config C.state with ⟨_ | reply, S⟩
  · rw [step_persisted (setClient_client _)]
    rfl
  · rw [step_idle (reply_client _)]
    rfl

/-- A client whose stages nobody comes between is a request as the handler runs it. -/
theorem run_alone (hi : C.client i = .idle) :
    (run (step cfg) C [.start i form req, .next i, .next i, .next i]).outcome =
      ((applyForm cfg form req C.state).2,
        (i, (applyForm cfg form req C.state).1) :: C.replies) := by
  rw [run_cons, step_start hi, ask, applyForm]
  rcases statusStage cfg req.status C.state with ⟨reply | current, S₁⟩
  · rw [run_cons, step_idle (reply_client _), run_cons, step_idle (reply_client _), run_cons,
      step_idle (reply_client _)]
    rfl
  · rw [run_cons, step_asked (setClient_client _), prepare]
    dsimp only [setClient]
    rcases prepareStage form req current S₁ with ⟨reply | config, S₂⟩
    · rw [run_cons, step_idle (reply_client _), run_cons, step_idle (reply_client _)]
      rfl
    · refine (run_prepared (show _ = ApplyClient.prepared req config from
        Function.update_self _ _ _)).trans ?_
      dsimp only
      rcases persistStage req.writeScript config S₂ with ⟨_ | reply, S₃⟩
      · rfl
      · rfl

end

/-! ## The invariant -/

/-- What a client has in hand once `active` is the generation that is active and these configs have
been written; `first` was active at the start. -/
def Holds (first active : UInt64) (written : List ReplacementConfig) : ApplyClient → Prop
  | .idle => True
  | .asked _ _ current => first ≤ current.configGeneration ∧ current.configGeneration ≤ active
  | .prepared _ config =>
    first < config.configGeneration ∧ config.configGeneration.toNat ≤ active.toNat + 1
  | .persisted _ config => config ∈ written

structure Inv (first : UInt64) (C : Clients) : Prop where
  client : ∀ i, Holds first C.state.active.configGeneration C.written (C.client i)
  /-- The control file holds the newest record. -/
  control : ∀ c ∈ C.written.head?, C.state.control = .ok c.trim
  bounds : ∀ c ∈ C.written, first < c.configGeneration ∧
    c.configGeneration.toNat ≤ C.state.active.configGeneration.toNat + 1
  distinct : ∀ c ∈ C.written, ∀ c' ∈ C.written, c.configGeneration = c'.configGeneration → c = c'
  active : C.state.active.configGeneration = first ∨ ∃ c ∈ C.written, C.state.active = .ofConfig c
  /-- While the generation of the control file is the active one, none newer has been written. -/
  newest : ∀ c ∈ C.written.head?, c.configGeneration = C.state.active.configGeneration →
    ∀ c' ∈ C.written, c'.configGeneration ≤ C.state.active.configGeneration

variable {cfg : ServerConfig} {first : UInt64} {C C' : Clients}

theorem Holds.mono {client : ApplyClient} {active active' : UInt64}
    {written written' : List ReplacementConfig} (h : Holds first active written client)
    (hactive : active ≤ active') (hwritten : ∀ c ∈ written, c ∈ written') :
    Holds first active' written' client := by
  cases client with
  | idle => trivial
  | asked form req current => exact ⟨h.1, UInt64.le_trans h.2 hactive⟩
  | prepared req config =>
    refine ⟨h.1, h.2.trans ?_⟩
    have := UInt64.le_iff_toNat_le.1 hactive
    omega
  | persisted req config => exact hwritten config h

theorem Inv.init (S : ControlState) : Inv S.active.configGeneration (.init S) where
  client _ := trivial
  control _ h := by cases h
  bounds _ h := by cases h
  distinct _ h := by cases h
  active := .inl rfl
  newest _ h := by cases h

theorem Inv.first_le (h : Inv first C) : first ≤ C.state.active.configGeneration := by
  rcases h.active with heq | ⟨c, hc, heq⟩
  · rw [heq]
    exact UInt64.le_refl _
  · rw [heq]
    exact UInt64.le_of_lt (h.bounds c hc).1

/-- The active generation was written, by one client. -/
theorem Inv.eq_of_active (h : Inv first C) {config : ReplacementConfig} (hmem : config ∈ C.written)
    (hgen : config.configGeneration = C.state.active.configGeneration) :
    C.state.active = .ofConfig config := by
  rcases h.active with heq | ⟨c, hc, heq⟩
  · have hlt := (h.bounds config hmem).1
    rw [hgen, heq] at hlt
    exact absurd hlt (UInt64.lt_irrefl _)
  · have hsame : config.configGeneration = c.configGeneration := by
      rw [hgen, heq]
      rfl
    rw [h.distinct config hmem c hc hsame]
    exact heq

/-! ## Steps -/

/-- A step that leaves the control file and the kernel. -/
theorem Inv.of_same (h : Inv first C) (hcontrol : C'.state.control = C.state.control)
    (hactive : C'.state.active = C.state.active) (hwritten : C'.written = C.written)
    (hclient : ∀ i, C'.client i = C.client i ∨
      Holds first C.state.active.configGeneration C.written (C'.client i)) : Inv first C' where
  client i := by
    rw [hactive, hwritten]
    rcases hclient i with heq | hholds
    · rw [heq]
      exact h.client i
    · exact hholds
  control := by
    rw [hwritten, hcontrol]
    exact h.control
  bounds := by
    rw [hwritten, hactive]
    exact h.bounds
  distinct := by
    rw [hwritten]
    exact h.distinct
  active := by
    rw [hwritten, hactive]
    exact h.active
  newest := by
    rw [hwritten, hactive]
    exact h.newest

/-- The clients after one of them has moved. -/
theorem update_client {i : Nat} {client : ApplyClient} {P : ApplyClient → Prop} (hP : P client)
    (j : Nat) : Function.update C.client i client j = C.client j ∨
      P (Function.update C.client i client j) := by
  by_cases hj : j = i
  · subst hj
    rw [Function.update_self]
    exact .inr hP
  · exact .inl (Function.update_of_ne hj _ _)

theorem Inv.ask (h : Inv first C) (i : Nat) (form : ApplyForm) (req : ApplyRequest) :
    Inv first (C.ask cfg i form req) := by
  obtain ⟨hfiles, hctx, -, hcur⟩ := statusStage_spec cfg req.status C.state
  unfold Clients.ask
  rcases hs : statusStage cfg req.status C.state with ⟨res, S⟩
  rw [hs] at hfiles hctx hcur
  have hcontrol : S.control = C.state.control :=
    congrArg (fun files : FileSystem => controlOf (files .controlV3)) hfiles
  have hactive : S.active = C.state.active := congrArg KernelCounterContext.activeConfig hctx
  cases res with
  | error r => exact h.of_same hcontrol hactive rfl (update_client trivial)
  | ok current =>
    have hgen := (hcur current rfl).1
    refine h.of_same hcontrol hactive rfl (update_client ⟨?_, ?_⟩)
    · rw [hgen]
      exact h.first_le
    · rw [hgen]
      exact UInt64.le_refl _

theorem Inv.prepare (h : Inv first C) {i : Nat} {form : ApplyForm} {req : ApplyRequest}
    {current : ControlIpcResponse} (hi : C.client i = .asked form req current) :
    Inv first (C.prepare i form req current) := by
  have hholds := h.client i
  rw [hi] at hholds
  obtain ⟨hfirst, hle⟩ := hholds
  obtain ⟨hsame, hprep⟩ := prepareStage_spec (S := C.state) form req current
  unfold Clients.prepare
  rcases hp : prepareStage form req current C.state with ⟨res, S⟩
  rw [hp] at hsame hprep
  obtain rfl : S = C.state := hsame
  cases res with
  | error r => exact h.of_same rfl rfl rfl (update_client trivial)
  | ok config =>
    refine h.of_same rfl rfl rfl (update_client ?_)
    rcases hprep with ⟨persisted, -, hprep⟩ | ⟨err, hprep⟩
    · have hconfig : config.configGeneration = current.configGeneration + 1 ∧
          current.configGeneration ≠ 0xffffffffffffffff := by
        rcases prepareConfig_cases form req current persisted with
          ⟨reply, hreply, -⟩ | ⟨asked, -, ⟨-, hreply⟩ | ⟨-, hmax, hnext⟩⟩
        · rw [hreply] at hprep
          cases hprep
        · rw [hreply] at hprep
          cases hprep
        · rw [hnext] at hprep
          cases hprep
          exact ⟨rfl, hmax⟩
      have hnat := toNat_succ_of_ne_max hconfig.2
      have hle' := UInt64.le_iff_toNat_le.1 hle
      have hfirst' := UInt64.le_iff_toNat_le.1 hfirst
      show first < config.configGeneration ∧ _
      rw [hconfig.1, UInt64.lt_iff_toNat_lt, hnat]
      omega
    · cases hprep

/-- A record of a new generation is written. -/
theorem Inv.write (h : Inv first C) (i : Nat) (req : ApplyRequest) {config : ReplacementConfig}
    (hholds : Holds first C.state.active.configGeneration C.written (.prepared req config))
    (hfresh : ∀ c ∈ C.written, c.configGeneration ≠ config.configGeneration) {S : ControlState}
    (hcontrol : S.control = .ok config.trim) (hactive : S.active = C.state.active) :
    Inv first ({ C with state := S, written := config :: C.written }.setClient i
      (.persisted req config)) where
  client j := by
    show Holds first S.active.configGeneration (config :: C.written)
      (Function.update C.client i _ j)
    rw [hactive]
    have hnew : Holds first C.state.active.configGeneration (config :: C.written)
        (.persisted req config) := List.mem_cons_self
    rcases update_client hnew j with hj | hj
    · rw [hj]
      exact (h.client j).mono (UInt64.le_refl _) fun _ => List.mem_cons_of_mem _
    · exact hj
  control := by
    rintro c ⟨⟩
    exact hcontrol
  bounds := by
    show ∀ c ∈ config :: C.written, _ ∧ _ ≤ S.active.configGeneration.toNat + 1
    rw [hactive]
    exact List.forall_mem_cons.2 ⟨hholds, h.bounds⟩
  distinct := by
    intro c hc c' hc' heq
    rcases List.mem_cons.1 hc with rfl | hold
    · rcases List.mem_cons.1 hc' with rfl | hold'
      · rfl
      · exact absurd heq.symm (hfresh c' hold')
    · rcases List.mem_cons.1 hc' with rfl | hold'
      · exact absurd heq (hfresh c hold)
      · exact h.distinct c hold c' hold' heq
  active := by
    show S.active.configGeneration = first ∨ ∃ c ∈ config :: C.written, S.active = .ofConfig c
    rw [hactive]
    exact h.active.imp_right fun ⟨c, hc, heq⟩ => ⟨c, List.mem_cons_of_mem _ hc, heq⟩
  newest := by
    rintro c ⟨⟩ hgen
    -- the active generation has been written before, or was there at the start
    replace hgen : config.configGeneration = C.state.active.configGeneration := by
      rw [← hactive]
      exact hgen
    rcases h.active with heq | ⟨c, hc, heq⟩
    · have hlt := hholds.1
      rw [hgen, heq] at hlt
      exact absurd hlt (UInt64.lt_irrefl _)
    · refine absurd ?_ (hfresh c hc)
      rw [hgen, heq]
      rfl

theorem Inv.persist (h : Inv first C) {i : Nat} {req : ApplyRequest} {config : ReplacementConfig}
    (hi : C.client i = .prepared req config)
    (hfresh : ∀ c ∈ C.written, c.configGeneration ≠ config.configGeneration) :
    Inv first (C.persist i req config) := by
  have hholds := h.client i
  rw [hi] at hholds
  obtain ⟨hserver, hwrite⟩ := persistStage_spec (S := C.state) req.writeScript config
  unfold Clients.persist
  rcases hp : persistStage req.writeScript config C.state with ⟨res, S⟩
  rw [hp] at hserver hwrite
  have hactive : S.active = C.state.active :=
    congrArg (fun server : Server => server.daemon.ctx.activeConfig) hserver
  cases res with
  | some r => exact h.of_same hwrite.2 hactive rfl (update_client trivial)
  | none => exact h.write i req hholds hfresh hwrite hactive

/-- The newest record, which the control file holds. -/
theorem Inv.newest_mem (h : Inv first C) {config : ReplacementConfig} (hmem : config ∈ C.written) :
    ∃ c ∈ C.written, C.written.head? = some c ∧ C.state.control = .ok c.trim := by
  cases hwritten : C.written with
  | nil =>
    rw [hwritten] at hmem
    cases hmem
  | cons c rest =>
    have hhead : C.written.head? = some c := congrArg List.head? hwritten
    exact ⟨c, List.mem_cons_self, rfl, h.control c hhead⟩

/-- What an apply request of a client does: it publishes the newest record, whose generation is the
next one, or leaves the kernel, and then success means that the newest record is active. -/
theorem Inv.applied (cfg : ServerConfig) (h : Inv first C) {i : Nat} {req : ApplyRequest}
    {config : ReplacementConfig} (hi : C.client i = .persisted req config) :
    ∃ c ∈ C.written, C.written.head? = some c ∧
      let r := applyStage cfg req.apply C.state
      r.2.control = C.state.control ∧
      ((r.2.active = .ofConfig c ∧
          c.configGeneration.toNat = C.state.active.configGeneration.toNat + 1) ∨
        (r.2.active = C.state.active ∧
          (r.1.status = 200 → c.configGeneration = C.state.active.configGeneration))) := by
  have hmem := h.client i
  rw [hi] at hmem
  obtain ⟨c, hc, hhead, hcontrol⟩ := h.newest_mem hmem
  obtain ⟨hfiles, hend⟩ := applyStage_spec cfg req.apply C.state
  rw [hcontrol] at hend
  refine ⟨c, hc, hhead, congrArg (fun files : FileSystem => controlOf (files .controlV3)) hfiles, ?_⟩
  rcases hend with ⟨c', hc', hlt, hactive⟩ | ⟨hsame, hok⟩
  · obtain rfl : c.trim = c' := Except.ok.inj hc'
    rw [trim_configGeneration, UInt64.lt_iff_toNat_lt] at hlt
    have hbound := (h.bounds c hc).2
    exact .inl ⟨hactive.trans (ofConfig_trim c), by omega⟩
  · refine .inr ⟨hsame, fun hstatus => ?_⟩
    obtain ⟨c', hc', heq⟩ := hok hstatus
    obtain rfl : c.trim = c' := Except.ok.inj hc'
    rwa [trim_configGeneration] at heq

/-- The newest record is published. -/
theorem Inv.publish (h : Inv first C) (i : Nat) (r : ApplyReply) {c : ReplacementConfig}
    (hc : c ∈ C.written)
    (hgen : c.configGeneration.toNat = C.state.active.configGeneration.toNat + 1)
    {S : ControlState} (hcontrol : S.control = C.state.control) (hactive : S.active = .ofConfig c) :
    Inv first ({ C with state := S }.reply i r) := by
  have hactiveGen : S.active.configGeneration = c.configGeneration := congrArg _ hactive
  have hle : C.state.active.configGeneration ≤ S.active.configGeneration := by
    rw [hactiveGen, UInt64.le_iff_toNat_le]
    omega
  have hbounds (c' : ReplacementConfig) (hc' : c' ∈ C.written) :
      c'.configGeneration ≤ S.active.configGeneration := by
    have := (h.bounds c' hc').2
    rw [hactiveGen, UInt64.le_iff_toNat_le]
    omega
  refine ⟨fun j => ?_, ?_, fun c' hc' => ⟨(h.bounds c' hc').1, ?_⟩, h.distinct, .inr ⟨c, hc, hactive⟩,
    fun _ _ _ => hbounds⟩
  · show Holds first S.active.configGeneration C.written (Function.update C.client i .idle j)
    have hidle : Holds first S.active.configGeneration C.written .idle := trivial
    rcases update_client hidle j with hj | hj
    · rw [hj]
      exact (h.client j).mono hle fun _ => id
    · exact hj
  · show ∀ c ∈ C.written.head?, S.control = .ok c.trim
    rw [hcontrol]
    exact h.control
  · have := UInt64.le_iff_toNat_le.1 (hbounds c' hc')
    exact this.trans (Nat.le_succ _)

theorem Inv.apply (h : Inv first C) {i : Nat} {req : ApplyRequest} {config : ReplacementConfig}
    (hi : C.client i = .persisted req config) : Inv first (C.apply cfg i req) := by
  obtain ⟨c, hc, -, hcontrol, hactive⟩ := h.applied cfg hi
  unfold Clients.apply
  rcases hr : applyStage cfg req.apply C.state with ⟨r, S⟩
  rw [hr] at hcontrol hactive
  rcases hactive with ⟨hactive, hgen⟩ | ⟨hactive, -⟩
  · exact h.publish i r hc hgen hcontrol hactive
  · exact h.of_same hcontrol hactive rfl (update_client trivial)

theorem Inv.step (h : Inv first C) {e : ClientStep} (hfresh : C.WritesFresh e) :
    Inv first (C.step cfg e) := by
  cases e with
  | start i form req =>
    cases hi : C.client i with
    | idle =>
      rw [step_start hi]
      exact h.ask i form req
    | asked | prepared | persisted =>
      simp only [Clients.step, hi]
      exact h
  | next i =>
    cases hi : C.client i with
    | idle =>
      rw [step_idle hi]
      exact h
    | asked form req current =>
      rw [step_asked hi]
      exact h.prepare hi
    | prepared req config =>
      rw [step_prepared hi]
      exact h.persist hi (hfresh req config hi)
    | persisted req config =>
      rw [step_persisted hi]
      exact h.apply hi

/-! ## Updates -/

/-- A config is active with its own mode and ID. -/
theorem shows_ofConfig {slot : RuntimeConfigSlot} {config : ReplacementConfig}
    (h : slot = .ofConfig config) :
    slot.replacementMode = config.mode ∧ slot.idBytes = config.idBytes := by
  subst h
  refine ⟨rfl, ?_⟩
  rw [RuntimeConfigSlot.idBytes, ofConfig_virtualId]
  exact toList_copyId_take _ _

theorem Inv.keepsUpdate (h : Inv first C) (e : ClientStep) : C.KeepsUpdate cfg e := by
  cases e with
  | start => trivial
  | next i =>
    intro req config hi hok
    have hmem := h.client i
    rw [hi] at hmem
    obtain ⟨c, hc, hhead, -, hactive⟩ := h.applied cfg hi
    rw [step_persisted hi, apply_state]
    rcases hactive with ⟨hactive, hgen⟩ | ⟨hactive, hsame⟩
    · -- the newest record has been published, and its generation is the largest
      rw [hactive]
      have hbound := (h.bounds config hmem).2
      by_cases heq : config.configGeneration = c.configGeneration
      · rw [h.distinct config hmem c hc heq]
        exact .inl (shows_ofConfig rfl)
      · refine .inr (UInt64.lt_of_le_of_ne ?_ heq)
        rw [UInt64.le_iff_toNat_le]
        exact hbound.trans hgen.ge
    · -- the newest record was active before, so no record is newer than the active config
      rw [hactive]
      have hle := h.newest c hhead (hsame hok) config hmem
      by_cases heq : config.configGeneration = C.state.active.configGeneration
      · exact .inl (shows_ofConfig (h.eq_of_active hmem heq))
      · exact .inr (UInt64.lt_of_le_of_ne hle heq)

end Clients

/-- **No update is lost**, in any interleaving of any number of clients in which no generation is
written to the control file twice: an apply request that is answered with success finds the mode and
ID of its client active, or a newer generation. -/
theorem no_lost_update (cfg : ServerConfig) (S₀ : ControlState) (steps : List ClientStep)
    (hfresh : Along (Clients.step cfg) Clients.WritesFresh (.init S₀) steps) :
    Along (Clients.step cfg) (Clients.KeepsUpdate cfg) (.init S₀) steps := by
  refine hfresh.of_inv (P := Clients.Inv S₀.active.configGeneration) (.init S₀) ?_ ?_
  · exact fun _ _ h hok => h.step hok
  · exact fun _ e h _ => h.keepsUpdate e

/-! ## Stages that nothing disturbs -/

namespace Clients

variable {C : Clients} {i : Nat} {form : ApplyForm} {req : ApplyRequest}
  {file installed config next : ReplacementConfig} {current : ControlIpcResponse}

/-- The daemon serves, and this is what the control file and the kernel hold. -/
structure At (C : Clients) (file installed : ReplacementConfig) : Prop where
  serving : C.state.Serving sampleDaemon
  control : C.state.control = .ok file
  active : C.state.active = .ofConfig installed

/-- The status tells what is active. -/
def Reports (current : ControlIpcResponse) (config : ReplacementConfig) : Prop :=
  current.configGeneration = config.configGeneration ∧ current.replacementMode = config.mode

theorem ask_smooth (h : C.At file installed) (hi : C.client i = .idle) (form : ApplyForm)
    (hreq : req.Smooth) :
    ∃ current, Reports current installed ∧
      (C.step sampleDaemon (.start i form req)).At file installed ∧
      (C.step sampleDaemon (.start i form req)).client =
        Function.update C.client i (.asked form req current) ∧
      (C.step sampleDaemon (.start i form req)).written = C.written := by
  obtain ⟨current, hcurrent⟩ := statusStage_smooth h.serving
  obtain ⟨hfiles, hctx, -, hcur⟩ := statusStage_spec sampleDaemon .smooth C.state
  obtain ⟨hgen, hmode, -⟩ := hcur current hcurrent
  rcases hs : statusStage sampleDaemon .smooth C.state with ⟨res, S⟩
  rw [hs] at hfiles hctx hcurrent
  obtain rfl : res = .ok current := hcurrent
  have hstep : C.step sampleDaemon (.start i form req) =
      { C with state := S }.setClient i (.asked form req current) := by
    rw [step_start hi]
    simp only [ask, hreq.status, hs]
  rw [h.active] at hgen hmode
  rw [hstep]
  refine ⟨current, ⟨hgen, hmode⟩, ⟨⟨h.serving.session, ?_⟩, ?_, ?_⟩, rfl, rfl⟩
  · have hstamped := h.serving.stamped
    rwa [← hctx] at hstamped
  · exact (congrArg (fun files : FileSystem => controlOf (files .controlV3)) hfiles).trans h.control
  · exact (congrArg KernelCounterContext.activeConfig hctx).trans h.active

/-- A config of another mode is prepared. -/
theorem prepare_smooth (h : C.At file installed) (hi : C.client i = .asked form req current)
    (hreq : req.Smooth) (hreports : Reports current installed)
    (hasked : requestedConfig form req file = .ok config) (hmode : installed.mode ≠ config.mode)
    (hmax : installed.configGeneration ≠ 0xffffffffffffffff)
    (hnext : next = { config with configGeneration := installed.configGeneration + 1 }) :
    (C.step sampleDaemon (.next i)).At file installed ∧
      (C.step sampleDaemon (.next i)).client = Function.update C.client i (.prepared req next) ∧
      (C.step sampleDaemon (.next i)).written = C.written := by
  have hnoop : ¬isNoOp current config = true := by
    simp only [isNoOp, Bool.and_eq_true, beq_iff_eq, hreports.2]
    exact fun h => hmode h.1.1
  have hprep : prepareStage form req current C.state = (.ok next, C.state) := by
    refine Prod.ext ?_ (prepareStage_spec form req current).1
    rw [prepareStage_smooth form current hreq.read h.control, prepareConfig, hasked]
    simp only [hnoop, hreports.1, hmax, if_false, hnext]
    rfl
  have hstep : C.step sampleDaemon (.next i) = C.setClient i (.prepared req next) := by
    rw [step_asked hi]
    simp only [prepare, hprep]
  rw [hstep]
  exact ⟨⟨h.serving, h.control, h.active⟩, rfl, rfl⟩

theorem persist_smooth (h : C.At file installed) (hi : C.client i = .prepared req config)
    (hreq : req.Smooth) (hvalid : validateConfig config = true) :
    (C.step sampleDaemon (.next i)).At config.trim installed ∧
      (C.step sampleDaemon (.next i)).client =
        Function.update C.client i (.persisted req config) ∧
      (C.step sampleDaemon (.next i)).written = config :: C.written := by
  obtain ⟨hserver, hwritten⟩ := persistStage_spec (S := C.state) smoothScript config
  have hnone := persistStage_smooth (S := C.state) hvalid
  rcases hp : persistStage smoothScript config C.state with ⟨res, S⟩
  rw [hp] at hserver hwritten hnone
  obtain rfl : res = none := hnone
  have hstep : C.step sampleDaemon (.next i) =
      { C with state := S, written := config :: C.written }.setClient i
        (.persisted req config) := by
    rw [step_prepared hi]
    simp only [persist, hreq.write, hp]
  rw [hstep]
  refine ⟨⟨⟨h.serving.session, ?_⟩, hwritten, ?_⟩, rfl, rfl⟩
  · have hstamped := h.serving.stamped
    rwa [← hserver] at hstamped
  · exact (congrArg (fun server : Server => server.daemon.ctx.activeConfig) hserver).trans h.active

/-- A config that is newer than the active one is published. -/
theorem apply_smooth (h : C.At config.trim installed) (hi : C.client i = .persisted req config)
    (hreq : req.apply = .smooth) (hgen : installed.configGeneration < config.configGeneration) :
    (C.step sampleDaemon (.next i)).At config.trim config ∧
      (C.step sampleDaemon (.next i)).client = Function.update C.client i .idle ∧
      (C.step sampleDaemon (.next i)).written = C.written := by
  have hlt : C.state.active.configGeneration < config.trim.configGeneration := by
    rw [h.active, trim_configGeneration]
    exact hgen
  have hfiles := (applyStage_spec sampleDaemon .smooth C.state).1
  rw [step_persisted hi]
  refine ⟨⟨?_, ?_, ?_⟩, rfl, rfl⟩ <;> rw [apply_state, hreq]
  · exact applyStage_smooth_serving h.serving h.control (UInt64.le_of_lt hlt)
  · exact (congrArg (fun files : FileSystem => controlOf (files .controlV3)) hfiles).trans h.control
  · exact (applyStage_smooth_active h.serving h.control hlt).trans (ofConfig_trim config)

/-- The steps of a request that no other client comes between. -/
def requestSteps (i : Nat) (form : ApplyForm) (req : ApplyRequest) : List ClientStep :=
  [.start i form req, .next i, .next i, .next i]

/-- A request for another mode, with a generation that has not been written. -/
theorem request_smooth (h : C.At file installed) (hi : C.client i = .idle) (hreq : req.Smooth)
    (happly : req.apply = .smooth) (hasked : requestedConfig form req file = .ok config)
    (hmode : installed.mode ≠ config.mode)
    (hmax : installed.configGeneration ≠ 0xffffffffffffffff)
    (hnext : next = { config with configGeneration := installed.configGeneration + 1 })
    (hvalid : validateConfig next = true)
    (hfresh : ∀ c ∈ C.written, c.configGeneration ≠ next.configGeneration) :
    Along (step sampleDaemon) WritesFresh C (requestSteps i form req) ∧
      (run (step sampleDaemon) C (requestSteps i form req)).At next.trim next ∧
      (run (step sampleDaemon) C (requestSteps i form req)).client =
        Function.update C.client i .idle ∧
      (run (step sampleDaemon) C (requestSteps i form req)).written = next :: C.written := by
  have hgen : installed.configGeneration < next.configGeneration := by
    rw [hnext]
    exact lt_succ_of_ne_max hmax
  simp only [requestSteps, along_cons, run_cons, run_nil]
  obtain ⟨current, hreports, h₁, hc₁, hw₁⟩ := ask_smooth h hi form hreq
  generalize C.step sampleDaemon _ = C₁ at h₁ hc₁ hw₁ ⊢
  have hi₁ : C₁.client i = .asked form req current := by
    rw [hc₁, Function.update_self]
  obtain ⟨h₂, hc₂, hw₂⟩ := prepare_smooth h₁ hi₁ hreq hreports hasked hmode hmax hnext
  generalize C₁.step sampleDaemon _ = C₂ at h₂ hc₂ hw₂ ⊢
  have hi₂ : C₂.client i = .prepared req next := by
    rw [hc₂, Function.update_self]
  obtain ⟨h₃, hc₃, hw₃⟩ := persist_smooth h₂ hi₂ hreq hvalid
  generalize C₂.step sampleDaemon _ = C₃ at h₃ hc₃ hw₃ ⊢
  have hi₃ : C₃.client i = .persisted req next := by
    rw [hc₃, Function.update_self]
  obtain ⟨h₄, hc₄, hw₄⟩ := apply_smooth h₃ hi₃ happly hgen
  refine ⟨⟨trivial, ?_, ?_, ?_, .nil⟩, h₄, ?_, ?_⟩
  · intro req' config' hprepared
    rw [hi₁] at hprepared
    cases hprepared
  · intro req' config' hprepared
    rw [hi₂] at hprepared
    cases hprepared
    rw [hw₂, hw₁]
    exact hfresh
  · intro req' config' hprepared
    rw [hi₃] at hprepared
    cases hprepared
  · rw [hc₄, hc₃, hc₂, hc₁]
    simp only [Function.update_idem]
  · rw [hw₄, hw₃, hw₂, hw₁]

theorem init_at : (init sampleAgreed).At sampleControl sampleControl :=
  ⟨sampleState_serving sampleControl sampleControl, sampleAgreed_control, rfl⟩

end Clients

/-- Two clients, one after the other: the first asks for dry mode, the second for write mode. -/
def inTurn : List ClientStep :=
  Clients.requestSteps 0 (keepForm kDryRun) (sampleDryRequest .smooth) ++
    Clients.requestSteps 1 (keepForm kWriteTest) sampleWriteRequest

/-- The config that the second client writes. -/
def sampleWriteAgain : ReplacementConfig := { sampleControl with configGeneration := 6 }

/-- Generations 5 and 6 are written, and both are published. -/
theorem no_lost_update_in_turn :
    Along (Clients.step sampleDaemon) (Clients.KeepsUpdate sampleDaemon) (.init sampleAgreed)
        inTurn ∧
      (run (Clients.step sampleDaemon) (.init sampleAgreed) inTurn).written =
        [sampleWriteAgain, sampleDry] ∧
      (run (Clients.step sampleDaemon) (.init sampleAgreed) inTurn).state.active =
        .ofConfig sampleWriteAgain := by
  suffices hrun : Along (Clients.step sampleDaemon) Clients.WritesFresh (.init sampleAgreed)
      inTurn ∧ (run (Clients.step sampleDaemon) (.init sampleAgreed) inTurn).written =
        [sampleWriteAgain, sampleDry] ∧
      (run (Clients.step sampleDaemon) (.init sampleAgreed) inTurn).state.active =
        .ofConfig sampleWriteAgain from
    ⟨no_lost_update sampleDaemon sampleAgreed inTurn hrun.1, hrun.2⟩
  have hdry : (sampleDryRequest .smooth).Smooth := sampleRequest_smooth _ .smooth
  have hwrite : sampleWriteRequest.Smooth := sampleRequest_smooth _ .smooth
  obtain ⟨hfirst, hat, hclient, hwritten⟩ := Clients.request_smooth Clients.init_at
    (show (Clients.init sampleAgreed).client 0 = .idle from rfl) hdry rfl
    (sampleDryRequest_asked .smooth) (by decide) (by decide) (rfl : sampleDry = _) (by decide)
    (List.forall_mem_nil _)
  rw [inTurn, along_append, run_append]
  generalize run (Clients.step sampleDaemon) (.init sampleAgreed) (Clients.requestSteps 0 _ _) = C
    at hfirst hat hclient hwritten ⊢
  have htrim : sampleDry.trim = sampleDry := trim_of_zero rfl
  rw [htrim] at hat
  have hidle : C.client 1 = .idle := by
    rw [hclient]
    rfl
  obtain ⟨hsecond, hat', -, hwritten'⟩ := Clients.request_smooth hat hidle hwrite rfl
    sampleWriteRequest_asked (by decide) (by decide) (rfl : sampleWriteAgain = _) (by decide)
    (by rw [hwritten]; decide)
  refine ⟨⟨hfirst, hsecond⟩, ?_, hat'.active⟩
  rw [hwritten', hwritten]
  rfl

/-- Two clients beside each other: one asks for dry mode, the other for a random ID. -/
def twoClients : List ClientStep :=
  [.start 0 (keepForm kDryRun) (sampleDryRequest .smooth),
    .start 1 randomForm (sampleRandomRequest .smooth), .next 0, .next 1, .next 0, .next 1, .next 0]

/-- Both have written generation 5. The apply request of the first publishes the record of the
second and is answered with success. -/
theorem same_generation_loses_update :
    ¬Along (Clients.step sampleDaemon) (Clients.KeepsUpdate sampleDaemon) (.init sampleAgreed)
      twoClients := by
  intro h
  have hdry : (sampleDryRequest .smooth).Smooth := sampleRequest_smooth _ .smooth
  have hrandom : (sampleRandomRequest .smooth).Smooth := sampleRequest_smooth _ .smooth
  have hmode : sampleControl.mode ≠ kDryRun := by decide
  have hmax : sampleControl.configGeneration ≠ 0xffffffffffffffff := by decide
  -- both clients read generation 4
  obtain ⟨current₀, hreports₀, h₁, hc₁, -⟩ :=
    Clients.ask_smooth Clients.init_at (show (Clients.init sampleAgreed).client 0 = .idle from rfl)
      (keepForm kDryRun) hdry
  replace h := (along_cons.1 h).2
  generalize Clients.step sampleDaemon (.init sampleAgreed) _ = C₁ at h h₁ hc₁
  obtain ⟨current₁, hreports₁, h₂, hc₂, -⟩ :=
    Clients.ask_smooth h₁ (show C₁.client 1 = .idle by rw [hc₁]; rfl) randomForm hrandom
  replace h := (along_cons.1 h).2
  generalize C₁.step sampleDaemon _ = C₂ at h h₂ hc₂
  -- both prepare generation 5
  obtain ⟨h₃, hc₃, -⟩ := Clients.prepare_smooth h₂
    (show C₂.client 0 = .asked (keepForm kDryRun) _ current₀ by rw [hc₂, hc₁]; rfl) hdry hreports₀
    (sampleDryRequest_asked .smooth) hmode hmax (rfl : sampleDry = _)
  replace h := (along_cons.1 h).2
  generalize C₂.step sampleDaemon _ = C₃ at h h₃ hc₃
  obtain ⟨h₄, hc₄, -⟩ := Clients.prepare_smooth h₃
    (show C₃.client 1 = .asked randomForm _ current₁ by rw [hc₃, hc₂]; rfl) hrandom hreports₁
    (sampleRandomRequest_asked .smooth) hmode hmax (rfl : sampleRandom = _)
  replace h := (along_cons.1 h).2
  generalize C₃.step sampleDaemon _ = C₄ at h h₄ hc₄
  -- the second record replaces the first
  obtain ⟨h₅, hc₅, -⟩ := Clients.persist_smooth h₄
    (show C₄.client 0 = .prepared _ sampleDry by rw [hc₄, hc₃]; rfl) hdry (by decide)
  replace h := (along_cons.1 h).2
  generalize C₄.step sampleDaemon _ = C₅ at h h₅ hc₅
  obtain ⟨h₆, hc₆, -⟩ := Clients.persist_smooth h₅
    (show C₅.client 1 = .prepared _ sampleRandom by rw [hc₅, hc₄]; rfl) hrandom (by decide)
  replace h := (along_cons.1 h).2
  generalize C₅.step sampleDaemon _ = C₆ at h h₆ hc₆
  have hclient : C₆.client 0 = .persisted (sampleDryRequest .smooth) sampleDry := by
    rw [hc₆, hc₅]
    rfl
  have hlt : C₆.state.active.configGeneration < sampleRandom.trim.configGeneration := by
    rw [h₆.active, trim_configGeneration]
    decide
  have hok := applyStage_smooth h₆.serving h₆.control (UInt64.le_of_lt hlt)
  have hactive : (C₆.step sampleDaemon (.next 0)).state.active = .ofConfig sampleRandom := by
    rw [Clients.step_persisted hclient, Clients.apply_state]
    exact (applyStage_smooth_active h₆.serving h₆.control hlt).trans (ofConfig_trim _)
  rcases (along_cons.1 h).1 _ _ hclient hok with ⟨-, hid⟩ | hnewer
  · rw [hactive, (Clients.shows_ofConfig rfl).2] at hid
    exact sampleRandom_idBytes hid
  · rw [hactive] at hnewer
    exact absurd hnewer (by decide)

end Drmid
