import Drmid.Hook.Proof.Stream
import Drmid.Hook.Proof.StreamErrors

/-!
# The stream walker follows the framing grammar

The loop invariant (`Visited`) says that the commands visited so far are admitted by the grammar,
stand in the log where they stand in the stream, and that no read left the stream. A command that
follows keeps it (`Visited.next`), and a loop that stops can visit nothing more (`Finished`), so
what it visited is the longest framed prefix.
-/

namespace Drmid

/-! ## Offsets -/

theorem extent_concat (ws : List UInt32) (c : UInt32) :
    extent (ws ++ [c]) = extent ws + commandBytes c := by
  simp [extent]

theorem within_offset (base : UInt64) {off n total : Nat} (h : off + n ≤ total) :
    Within base total (base + UInt64.ofNat off) n := by
  have hoff : (UInt64.ofNat off).toNat ≤ off := by
    rw [UInt64.toNat_ofNat']
    exact Nat.mod_le _ _
  unfold Within
  rw [UInt64.add_comm, UInt64.add_sub_cancel]
  omega

/-- The size the loop advances by. -/
theorem toNat_size (command : UInt32) :
    ((iocSize command).toUInt64 + 4).toNat = commandBytes command := by
  have := (iocSize command).toNat_lt
  rw [UInt64.toNat_add, UInt32.toNat_toUInt64, show (4 : UInt64).toNat = 4 from rfl, commandBytes]
  omega

theorem Follows.det {stream : StreamType} {n : Nat} {base : UInt64}
    {mem : List UInt32 → UserMemory} (ws : List UInt32) (c d : UInt32)
    (hc : Follows stream n base mem ws c) (hd : Follows stream n base mem ws d) : c = d :=
  Option.some.inj (hc.1.symm.trans hd.1)

/-! ## Processing commands -/

section
variable {t : TaskIdentity} {stream : StreamType} {acquired : Nat → Bool} {base n : UInt64}
  {w : Walk}

theorem processed_concat (ws : List UInt32) (c : UInt32) :
    w.processed t stream acquired base (ws ++ [c]) =
      (w.processed t stream acquired base ws).processCommand t stream
        (acquired (kMaxParsedCommands - 1 - ws.length)) c (base + UInt64.ofNat (extent ws)) := by
  simp [Walk.processed, Lib.history_concat]

theorem recordedOf_concat (ws : List UInt32) (c : UInt32) :
    recordedOf t stream acquired base w (ws ++ [c]) = recordedOf t stream acquired base w ws ++
      (stream.transactionAt (w.processed t stream acquired base ws).user base (extent ws)
        c).toList := by
  cases h : stream.transactionAt (w.processed t stream acquired base ws).user base (extent ws) c <;>
    simp [recordedOf, Lib.history_concat, h]

theorem recordedOf_prefix {vs ws : List UInt32} (h : vs <+: ws) {d : Handed}
    (hd : d ∈ recordedOf t stream acquired base w vs) :
    d ∈ recordedOf t stream acquired base w ws := by
  obtain ⟨us, rfl⟩ := h
  induction us using List.reverseRecOn with
  | nil => rwa [List.append_nil]
  | append_singleton us c ih =>
    rw [← List.append_assoc, recordedOf_concat]
    exact List.mem_append_left _ ih

/-- A processed command is recorded when the grammar says so. -/
theorem processCommand_handed (got : Bool) (off : Nat) (c : UInt32) :
    (w.processCommand t stream got c (base + UInt64.ofNat off)).handed =
      w.handed ++ (stream.transactionAt w.user base off c).toList := by
  unfold Walk.processCommand StreamType.transactionAt
  dsimp only
  split
  · unfold Walk.processTransaction
    dsimp only
    rw [show ((w.count stream.counters.command).count stream.counters.transaction).user = w.user
      from rfl]
    cases w.user.copyFromUser (base + UInt64.ofNat off + 4) 64 with
    | none => exact (List.append_nil _).symm
    | some data => rfl
  · exact (List.append_nil _).symm

theorem processed_handed (ws : List UInt32) : (w.processed t stream acquired base ws).handed =
    w.handed ++ recordedOf t stream acquired base w ws := by
  induction ws using List.reverseRecOn with
  | nil => exact (List.append_nil _).symm
  | append_singleton ws c ih =>
    rw [processed_concat, processCommand_handed, recordedOf_concat, ih, List.append_assoc]

theorem processCommand_errors (got : Bool) (addr : UInt64) (c : UInt32) :
    SameErrors w.ctx (w.processCommand t stream got c addr).ctx := by
  have hcommand : SameErrors w.ctx (w.count stream.counters.command).ctx := by
    cases stream <;> exact SameErrors.rfl.count _ rfl
  have htransaction : SameErrors w.ctx
      ((w.count stream.counters.command).count stream.counters.transaction).ctx := by
    cases stream <;> exact hcommand.count _ rfl
  unfold Walk.processCommand
  dsimp only
  split
  · unfold Walk.processTransaction
    dsimp only
    split
    · exact htransaction.count _ rfl
    · exact emitRecordTransaction_errors t stream c got _ _ htransaction
  · exact hcommand

theorem processed_errors (ws : List UInt32) :
    SameErrors w.ctx (w.processed t stream acquired base ws).ctx := by
  induction ws using List.reverseRecOn with
  | nil => cases stream <;> exact SameErrors.rfl.count _ rfl
  | append_singleton ws c ih =>
    rw [processed_concat]
    exact ih.trans (processCommand_errors _ _ c)

variable (t stream w) in
theorem record_user (got : Bool) (c : UInt32) (td : BinderTransactionData) :
    (isReply stream c = false → (w.record t stream got c td).user = w.user) ∧
      SameButArray td.buffer w.user (w.record t stream got c td).user :=
  emitRecordTransaction_user t stream c got w.user { w.scratch with transaction := td } w.ctx

/-- A processed command leaves user memory as it is but for the array of a recorded reply. -/
theorem processCommand_user (got : Bool) (off : Nat) (c : UInt32) :
    let u' := (w.processCommand t stream got c (base + UInt64.ofNat off)).user
    u'.readable = w.user.readable ∧ ∀ a,
      (∀ h ∈ stream.transactionAt w.user base off c, isReply stream h.command = true →
        32 ≤ (a - (h.transaction.buffer + 8)).toNat) → u'.byte a = w.user.byte a := by
  unfold Walk.processCommand StreamType.transactionAt
  dsimp only
  split
  · unfold Walk.processTransaction
    have hw₂ : ((w.count stream.counters.command).count stream.counters.transaction).user =
        w.user := rfl
    generalize (w.count stream.counters.command).count stream.counters.transaction = w₂ at hw₂ ⊢
    dsimp only
    rw [hw₂]
    cases w.user.copyFromUser (base + UInt64.ofNat off + 4) 64 with
    | none =>
      dsimp only [Walk.count]
      rw [hw₂]
      exact ⟨rfl, fun _ _ => rfl⟩
    | some data =>
      have hrecord := record_user t stream w₂ got c (.ofBytes data)
      dsimp only
      rw [hw₂] at hrecord
      generalize (w₂.record t stream got c (.ofBytes data)).user = u' at hrecord ⊢
      obtain ⟨hsame, harray⟩ := hrecord
      refine ⟨harray.readable, fun a ha => ?_⟩
      cases hreply : isReply stream c with
      | true => exact harray.byte a (ha ⟨c, .ofBytes data⟩ rfl hreply)
      | false => rw [hsame hreply]
  · exact ⟨rfl, fun _ _ => rfl⟩

/-- The stream is as it was when no recorded reply has its array in it. -/
theorem processed_user {total : Nat} {ws : List UInt32}
    (h : ∀ h ∈ recordedOf t stream acquired base w ws, isReply stream h.command = true →
      ∀ i < total, 32 ≤ (base + UInt64.ofNat i - (h.transaction.buffer + 8)).toNat) :
    (w.processed t stream acquired base ws).user.readable = w.user.readable ∧
      ∀ i < total, (w.processed t stream acquired base ws).user.byte (base + UInt64.ofNat i) =
        w.user.byte (base + UInt64.ofNat i) := by
  induction ws using List.reverseRecOn with
  | nil => exact ⟨rfl, fun _ _ => rfl⟩
  | append_singleton ws c ih =>
    rw [recordedOf_concat] at h
    obtain ⟨hread, hbyte⟩ := ih fun d hd => h d (List.mem_append_left _ hd)
    rw [processed_concat]
    obtain ⟨hread', hbyte'⟩ := processCommand_user (t := t)
      (w := w.processed t stream acquired base ws)
      (acquired (kMaxParsedCommands - 1 - ws.length)) (extent ws) c
    refine ⟨hread'.trans hread, fun i hi => (hbyte' _ fun d hd hr => ?_).trans (hbyte i hi)⟩
    exact h d (List.mem_append_right _ (Option.mem_toList.2 hd)) hr i hi

end

/-! ## The loop -/

section
variable {t : TaskIdentity} {stream : StreamType} {acquired : Nat → Bool} {base n : UInt64}
  {w : Walk} {ws : List UInt32}

variable (t stream acquired base n w) in
/-- The loop has visited `ws` and logged `log`. -/
structure Visited (ws : List UInt32) (log : List StreamAction) : Prop where
  admitted : Lib.Admitted
    (Follows stream n.toNat base fun ws => (w.processed t stream acquired base ws).user) ws
  visits : log.filterMap StreamAction.visited =
    (Lib.history ws).map fun p => (base + UInt64.ofNat (extent p.1), p.2)
  reads : ∀ a k, .read a k ∈ log → Within base n.toNat a k

variable (t stream acquired base n w) in
/-- The loop has visited `ws` and can visit no more. -/
structure Finished (ws : List UInt32) (run : LoggedWalk) : Prop where
  visited : Visited t stream acquired base n w ws run.log
  length_le : ws.length ≤ kMaxParsedCommands
  stuck : ws.length = kMaxParsedCommands ∨ ∀ c,
    ¬Follows stream n.toNat base (fun ws => (w.processed t stream acquired base ws).user) ws c
  walk : run.walk =
    match framingEnd n.toNat base (w.processed t stream acquired base ws).user ws with
    | none => w.processed t stream acquired base ws
    | some e => (w.processed t stream acquired base ws).count (stream.errorCounter e)

theorem Visited.nil : Visited t stream acquired base n w [] [] :=
  ⟨Lib.admitted_nil, rfl, fun _ _ h => absurd h List.not_mem_nil⟩

theorem Visited.read {log : List StreamAction} (h : Visited t stream acquired base n w ws log)
    (hword : extent ws + 4 ≤ n.toNat) : Visited t stream acquired base n w ws
      (log ++ [.read (base + UInt64.ofNat (extent ws)) 4]) := by
  refine ⟨h.admitted, ?_, fun a k ha => ?_⟩
  · rw [List.filterMap_append, h.visits]
    exact List.append_nil _
  · rcases List.mem_append.1 ha with ha | ha
    · exact h.reads a k ha
    · cases List.mem_singleton.1 ha
      exact within_offset base hword

/-- **A command that follows is visited.** -/
theorem Visited.next {log : List StreamAction} {c : UInt32}
    (h : Visited t stream acquired base n w ws log)
    (hc : Follows stream n.toNat base (fun ws => (w.processed t stream acquired base ws).user) ws
      c) :
    Visited t stream acquired base n w (ws ++ [c])
      (log ++ .visit (base + UInt64.ofNat (extent ws)) c ::
        if stream.transactionCommands.contains c then
          [.read (base + UInt64.ofNat (extent ws) + 4) 64] else []) := by
  refine ⟨Lib.admitted_concat.2 ⟨h.admitted, hc⟩, ?_, fun a k ha => ?_⟩
  · rw [List.filterMap_append, h.visits, Lib.history_concat, List.map_append]
    split <;> rfl
  · rcases List.mem_append.1 ha with ha | ha
    · exact h.reads a k ha
    · rcases List.mem_cons.1 ha with heq | ha
      · cases heq
      · split at ha
        · rename_i htx
          cases List.mem_singleton.1 ha
          -- every transaction word says at least 64 bytes
          have hsize := StreamType.le_iocSize (List.contains_iff_mem.1 htx)
          have hfits := hc.2.2
          unfold commandBytes at hfits
          rw [show base + UInt64.ofNat (extent ws) + 4 = base + UInt64.ofNat (extent ws + 4) from
            add_ofNat_add base (extent ws) 4]
          exact within_offset base (by omega)
        · cases ha

theorem Visited.stop {lw : LoggedWalk} {e : StreamEnd}
    (hv : Visited t stream acquired base n w ws lw.log)
    (hwalk : lw.walk = w.processed t stream acquired base ws)
    (hlen : ws.length ≤ kMaxParsedCommands)
    (hstuck : ws.length = kMaxParsedCommands ∨ ∀ c,
      ¬Follows stream n.toNat base (fun ws => (w.processed t stream acquired base ws).user) ws c)
    (hend : framingEnd n.toNat base (w.processed t stream acquired base ws).user ws = some e) :
    Finished t stream acquired base n w ws (lw.stop stream e) := by
  refine ⟨hv, hlen, hstuck, ?_⟩
  rw [hend, LoggedWalk.stop, hwalk]

/-- The end of a walk that stops before the end of the stream and below the command cap. -/
theorem framingEnd_early {n : Nat} {u : UserMemory} (hn : n ≤ kMaxParsedStreamBytes.toNat)
    (hrest : extent ws < n) (hlen : ws.length < kMaxParsedCommands) : framingEnd n base u ws =
      if n < extent ws + 4 then some .boundary
      else if u.commandAt base (extent ws) = none then some .copyFault
      else some .boundary := by
  unfold framingEnd
  rw [if_neg (by omega), if_neg (by omega), if_neg (by omega)]
  cases u.commandAt base (extent ws) <;> rfl

/-- The loop head at the offset of `ws`: it visits the command that follows or ends the walk. -/
theorem logLoop_step {left : Nat} {remaining : UInt64} {lw : LoggedWalk}
    (hn : n.toNat ≤ kMaxParsedStreamBytes.toNat)
    (hv : Visited t stream acquired base n w ws lw.log)
    (hwalk : lw.walk = w.processed t stream acquired base ws)
    (hlen : ws.length + (left + 1) = kMaxParsedCommands)
    (hrem : extent ws + remaining.toNat = n.toNat) (hpos : 0 < remaining.toNat) :
    let addr := base + UInt64.ofNat (extent ws)
    Finished t stream acquired base n w ws
        (logLoop t stream acquired (left + 1) addr remaining lw) ∨
      ∃ c, let size := (iocSize c).toUInt64 + 4
        let lw' := (lw.readWord addr).command t stream (acquired left) c addr
        Follows stream n.toNat base (fun ws => (w.processed t stream acquired base ws).user) ws c ∧
        logLoop t stream acquired (left + 1) addr remaining lw =
          if remaining - size = 0 then lw'
          else logLoop t stream acquired left (addr + size) (remaining - size) lw' := by
  intro addr
  have hearly : framingEnd n.toNat base (w.processed t stream acquired base ws).user ws = _ :=
    framingEnd_early hn (by omega) (by omega)
  -- the word the loop reads is the grammar's
  have hword : (w.processed t stream acquired base ws).user.commandAt base (extent ws) =
      (lw.walk.user.copyFromUser addr 4).map le32 := by
    rw [UserMemory.commandAt, hwalk]
  rw [logLoop]
  by_cases hfour : remaining < 4
  · rw [if_pos hfour]
    rw [UInt64.lt_iff_toNat_lt, show (4 : UInt64).toNat = 4 from rfl] at hfour
    refine .inl (hv.stop hwalk (by omega) (.inr fun c hc => ?_) ?_)
    · have := hc.2.2
      unfold commandBytes at this
      omega
    · rw [hearly, if_pos (by omega)]
  · rw [if_neg hfour]
    rw [UInt64.lt_iff_toNat_lt, show (4 : UInt64).toNat = 4 from rfl] at hfour
    rw [if_neg (by omega)] at hearly
    have hread := hv.read (by omega)
    dsimp only [LoggedWalk.readWord]
    cases hcopy : lw.walk.user.copyFromUser addr 4 with
    | none =>
      rw [hcopy, Option.map_none] at hword
      refine .inl (hread.stop hwalk (by omega) (.inr fun c hc => ?_) ?_)
      · have := hc.1
        rw [hword] at this
        cases this
      · rw [hearly, if_pos hword]
    | some data =>
      rw [hcopy, Option.map_some] at hword
      rw [hword, if_neg (by simp)] at hearly
      have hsize := toNat_size (le32 data)
      -- nothing follows a word that does not fit
      have hmisfit : ¬Fits stream n.toNat (extent ws) (le32 data) →
          Finished t stream acquired base n w ws
            (LoggedWalk.stop ⟨lw.walk, lw.log ++ [.read addr 4]⟩ stream .boundary) := by
        intro hnot
        refine hread.stop hwalk (by omega) (.inr fun c hc => ?_) hearly
        cases Option.some.inj (hword.symm.trans hc.1)
        exact hnot hc.2
      dsimp only
      split
      · rename_i htype
        exact .inl (hmisfit fun hfits => htype hfits.1)
      · rename_i htype
        split
        · rename_i hover
          rw [UInt64.lt_iff_toNat_lt, hsize] at hover
          exact .inl (hmisfit fun hfits => by have := hfits.2; omega)
        · rename_i hover
          rw [UInt64.lt_iff_toNat_lt, hsize] at hover
          exact .inr ⟨le32 data, ⟨hword, not_not.1 htype, by omega⟩, rfl⟩

/-- **The loop visits as long as a command follows.** -/
theorem logLoop_finished {left : Nat} {addr remaining : UInt64} {lw : LoggedWalk}
    (hn : n.toNat ≤ kMaxParsedStreamBytes.toNat)
    (hv : Visited t stream acquired base n w ws lw.log)
    (hwalk : lw.walk = w.processed t stream acquired base ws)
    (hlen : ws.length + left = kMaxParsedCommands)
    (haddr : addr = base + UInt64.ofNat (extent ws))
    (hrem : extent ws + remaining.toNat = n.toNat) (hpos : 0 < remaining.toNat) :
    ∃ ws', Finished t stream acquired base n w ws'
      (logLoop t stream acquired left addr remaining lw) := by
  induction left generalizing ws addr remaining lw with
  | zero =>
    refine ⟨ws, hv.stop hwalk (by omega) (.inl (by omega)) ?_⟩
    unfold framingEnd
    rw [if_neg (by omega), if_neg (by omega), if_pos (by omega)]
  | succ left ih =>
    subst haddr
    rcases logLoop_step hn hv hwalk hlen hrem hpos with hdone | ⟨c, hc, hnext⟩
    · exact ⟨ws, hdone⟩
    · rw [hnext]
      have hfits := hc.2.2
      have hsize := toNat_size c
      have hsub : (remaining - ((iocSize c).toUInt64 + 4)).toNat =
          remaining.toNat - commandBytes c := by
        rw [UInt64.toNat_sub_of_le _ _ (UInt64.le_iff_toNat_le.2 (by omega)), hsize]
      have hv' := (hv.read (by unfold commandBytes at hfits; omega)).next hc
      have hleft : kMaxParsedCommands - 1 - ws.length = left := by omega
      have hwalk' : ((lw.readWord (base + UInt64.ofNat (extent ws))).command t stream
          (acquired left) c (base + UInt64.ofNat (extent ws))).walk =
            w.processed t stream acquired base (ws ++ [c]) := by
        rw [processed_concat, hleft, ← hwalk]
        rfl
      have hext := extent_concat ws c
      split
      · rename_i hzero
        rw [hzero] at hsub
        have hend : extent (ws ++ [c]) = n.toNat := by
          simp only [UInt64.toNat_zero] at hsub
          omega
        refine ⟨ws ++ [c], hv', by simp; omega, .inr fun d hd => ?_, ?_⟩
        · have := hd.2.2
          unfold commandBytes at this
          omega
        · rw [framingEnd, if_neg (by omega), if_pos hend, hwalk']
      · rename_i hnonzero
        have hpos' : (remaining - ((iocSize c).toUInt64 + 4)).toNat ≠ 0 :=
          fun h => hnonzero (UInt64.toNat_inj.1 h)
        refine ih hv' hwalk' (by simp; omega) ?_ (by omega) (by omega)
        rw [hext, ← add_ofNat_add, ← hsize, UInt64.ofNat_toNat]

/-! ## The walk -/

/-- The loop's invariant at a stop is what the walk owes. -/
theorem Finished.walksFraming {run : LoggedWalk} (hn : n ≤ kMaxParsedStreamBytes)
    (h : Finished t stream acquired base n w ws run) :
    WalksFraming t stream acquired base n w run ws := by
  have hlongest := Lib.longest_of_stuck Follows.det h.visited.admitted h.length_le h.stuck
  refine ⟨fun hcap => absurd hn (UInt64.not_le.2 hcap), fun _ => hlongest, fun _ hapart => ?_,
    h.visited.visits, ?_, h.visited.reads, fun e => ?_⟩
  · -- on the stream, every prefix leaves the memory as it was
    have hsame : ∀ vs, vs <+: ws → ∀ c,
        Follows stream n.toNat base (fun ws => (w.processed t stream acquired base ws).user) vs c ↔
          Follows stream n.toNat base (fun _ => w.user) vs c := by
      intro vs hvs c
      obtain ⟨hread, hbyte⟩ := @processed_user t stream acquired base w n.toNat vs
        fun d hd => hapart d <| recordedOf_prefix hvs hd
      have hword : extent vs + 4 ≤ n.toNat →
          (w.processed t stream acquired base vs).user.commandAt base (extent vs) =
            w.user.commandAt base (extent vs) := by
        intro hle
        simp only [UserMemory.commandAt, UserMemory.copyFromUser, hread]
        split
        · refine congrArg some (le32_congr fun i hi => ?_)
          rw [add_ofNat_add]
          exact hbyte _ (by omega)
        · rfl
      unfold Follows Fits commandBytes
      constructor
      · rintro ⟨hc, htype, hle⟩
        exact ⟨by rw [← hword (by omega)]; exact hc, htype, hle⟩
      · rintro ⟨hc, htype, hle⟩
        exact ⟨by rw [hword (by omega)]; exact hc, htype, hle⟩
    refine Lib.longest_of_stuck Follows.det
      (h.visited.admitted.congr fun vs hvs c hc => (hsame vs hvs c).1 hc) h.length_le ?_
    exact h.stuck.imp_right fun hnone c hc => hnone c ((hsame ws List.prefix_rfl c).2 hc)
  · rw [← processed_handed, h.walk]
    split <;> rfl
  · have herrors : (w.processed t stream acquired base ws).ctx.counter (stream.errorCounter e) =
        w.ctx.counter (stream.errorCounter e) := processed_errors ws _ (errorCounter_mem stream e)
    rw [h.walk]
    cases framingEnd n.toNat base (w.processed t stream acquired base ws).user ws with
    | none => simpa using herrors
    | some e' => exact (counter_errorCounter _ stream e e').trans (by rw [herrors])

end

/-- **The stream walker is the framing grammar**: on any bytes, readable or not, it visits the
longest framed prefix, records exactly what the grammar records, reads nothing outside the stream
and counts the one error it stops with. -/
theorem emitParseCommandStream_framing (t : TaskIdentity) (stream : StreamType)
    (acquired : Nat → Bool) {base : UInt64} (n : UInt64) (w : Walk) (hbase : base ≠ 0) :
    let run := logCommandStream t stream acquired base n w
    run.walk = emitParseCommandStream t stream acquired base n w ∧
      ∃ ws, WalksFraming t stream acquired base n w run ws := by
  refine ⟨logCommandStream_walk t stream acquired base n w, ?_⟩
  unfold logCommandStream
  by_cases hzero : n = 0
  · -- the empty stream is not even counted
    subst hzero
    have hstuck : ∀ mem c, ¬Follows stream 0 base mem [] c := by
      rintro mem c ⟨-, -, hle⟩
      simp [extent, commandBytes] at hle
    have hlongest := fun mem => Lib.longest_of_stuck (m := kMaxParsedCommands)
      (Follows.det (n := 0)) Lib.admitted_nil
      (Nat.zero_le _) (.inr (hstuck mem))
    exact ⟨[], fun _ => rfl, fun _ => hlongest _, fun _ _ => hlongest _, rfl,
      (List.append_nil _).symm, fun _ _ h => absurd h List.not_mem_nil,
      fun e => (UInt64.add_zero _).symm⟩
  · rw [if_neg hzero, if_neg hbase]
    by_cases hcap : kMaxParsedStreamBytes < n
    · have hcap' : kMaxParsedStreamBytes.toNat < n.toNat := UInt64.lt_iff_toNat_lt.1 hcap
      rw [if_pos hcap]
      refine ⟨[], fun _ => rfl, fun h => absurd hcap (UInt64.not_lt.2 h),
        fun h => absurd hcap (UInt64.not_lt.2 h), rfl, (List.append_nil _).symm,
        fun _ _ h => absurd h List.not_mem_nil, fun e => ?_⟩
      rw [framingEnd, if_pos hcap']
      exact counter_errorCounter w.ctx stream e .capped
    · rw [if_neg hcap]
      have hn := UInt64.not_lt.1 hcap
      have hpos : 0 < n.toNat :=
        Nat.pos_of_ne_zero fun h => hzero (UInt64.toNat_inj.1 h)
      have hwalk : (LoggedWalk.mk (w.count stream.counters.stream) []).walk =
        w.processed t stream acquired base [] := rfl
      obtain ⟨ws, h⟩ := logLoop_finished (UInt64.le_iff_toNat_le.1 hn) .nil hwalk (Nat.zero_add _)
        (UInt64.add_zero base).symm (Nat.zero_add _) hpos
      exact ⟨ws, h.walksFraming hn⟩

/-- A walk over one whole `BC_ENTER_LOOPER` and half a word. -/
def shortWalk : Walk := ⟨.ofBytes 0x1000 [0x0c, 0x63, 0, 0, 0x0c, 0x63], .zero, .zero, []⟩

/-- The whole command is visited, the half word is a boundary error. -/
theorem emitParseCommandStream_framing_short :
    let run := logCommandStream ⟨0x40, 1, 7⟩ .bc (fun _ => true) 0x1000 6 shortWalk
    (run.log = [.read 0x1000 4, .visit 0x1000 0x630c] ∧
        run.walk.ctx.counter .writeBoundaryErrors = 1) ∧
      run.walk = emitParseCommandStream ⟨0x40, 1, 7⟩ .bc (fun _ => true) 0x1000 6 shortWalk ∧
      ∃ ws, WalksFraming ⟨0x40, 1, 7⟩ .bc (fun _ => true) 0x1000 6 shortWalk run ws :=
  ⟨by decide +kernel,
    emitParseCommandStream_framing ⟨0x40, 1, 7⟩ .bc (fun _ => true) 6 shortWalk (by decide)⟩

end Drmid
