import Mathlib.Data.List.GetD
import Drmid.Lib.Fips180
import Drmid.Storage.Sha256

/-!
# The streaming hash is SHA-256

`Sha256` of `runtime_profile.cpp` against FIPS 180-4. `transform` is the compression function
(`words_transform`), `update` keeps the hash value of the whole blocks and the bytes behind them
(`Holds.update`), and `finish` makes the one or two blocks of the padding (`finalBlocks_eq`).
-/

namespace Drmid

open Lib

/-! ## Words -/

theorem toBitVec_rotr (value : UInt32) {bits : UInt32} (h0 : 0 < bits.toNat)
    (h : bits.toNat < 32) : (rotr value bits).toBitVec = value.toBitVec.rotateRight bits.toNat := by
  have hleft : (32 - bits).toNat = 32 - bits.toNat :=
    UInt32.toNat_sub_of_le _ _ (UInt32.le_iff_toNat_le.2 (Nat.le_of_lt h))
  change value.toBitVec >>> (bits.toNat % 32) ||| value.toBitVec <<< ((32 - bits).toNat % 32) = _
  rw [BitVec.rotateRight_def, hleft, Nat.mod_eq_of_lt h, Nat.mod_eq_of_lt (by omega)]

theorem toNat_shiftedByte (b : UInt8) {bits : UInt32} (h : bits.toNat ≤ 24) :
    (b.toUInt32 <<< bits).toNat = b.toNat <<< bits.toNat := by
  have hb := b.toNat_lt
  have hlt : b.toNat <<< bits.toNat < 2 ^ 32 := by
    rw [Nat.shiftLeft_eq]
    calc b.toNat * 2 ^ bits.toNat < 2 ^ 8 * 2 ^ bits.toNat :=
          Nat.mul_lt_mul_of_pos_right hb (Nat.two_pow_pos _)
      _ ≤ 2 ^ 8 * 2 ^ 24 := Nat.mul_le_mul_left _ (Nat.pow_le_pow_right (by decide) h)
      _ = 2 ^ 32 := by decide
  rw [UInt32.toNat_shiftLeft, UInt8.toNat_toUInt32, Nat.mod_eq_of_lt (by omega : bits.toNat < 32)]
  exact Nat.mod_eq_of_lt hlt

/-- Four bytes as a word. -/
theorem toNat_word (b₀ b₁ b₂ b₃ : UInt8) :
    (b₀.toUInt32 <<< 24 ||| b₁.toUInt32 <<< 16 ||| b₂.toUInt32 <<< 8 ||| b₃.toUInt32).toNat =
      Fips180.bigEndian [b₀, b₁, b₂, b₃] := by
  have hbyte (n : ℕ) (b : UInt8) : n <<< 8 + b.toNat = n <<< 8 ||| b.toNat :=
    Nat.shiftLeft_add_eq_or_of_lt b.toNat_lt n
  have h24 : (24 : UInt32).toNat = 24 := rfl
  have h16 : (16 : UInt32).toNat = 16 := rfl
  have h8 : (8 : UInt32).toNat = 8 := rfl
  rw [UInt32.toNat_or, UInt32.toNat_or, UInt32.toNat_or, toNat_shiftedByte _ (by decide),
    toNat_shiftedByte _ (by decide), toNat_shiftedByte _ (by decide), UInt8.toNat_toUInt32, h24,
    h16, h8]
  simp only [Fips180.bigEndian, List.foldl_cons, List.foldl_nil, hbyte, Nat.shiftLeft_or_distrib,
    ← Nat.shiftLeft_add, Nat.zero_shiftLeft, Nat.zero_or]

theorem smallSigma0_eq (x : UInt32) :
    (rotr x 7 ^^^ rotr x 18 ^^^ (x >>> 3)).toBitVec = Fips180.smallSigma0 x.toBitVec := by
  rw [UInt32.toBitVec_xor, UInt32.toBitVec_xor, toBitVec_rotr x (by decide) (by decide),
    toBitVec_rotr x (by decide) (by decide)]
  rfl

theorem smallSigma1_eq (x : UInt32) :
    (rotr x 17 ^^^ rotr x 19 ^^^ (x >>> 10)).toBitVec = Fips180.smallSigma1 x.toBitVec := by
  rw [UInt32.toBitVec_xor, UInt32.toBitVec_xor, toBitVec_rotr x (by decide) (by decide),
    toBitVec_rotr x (by decide) (by decide)]
  rfl

theorem bigSigma0_eq (x : UInt32) :
    (rotr x 2 ^^^ rotr x 13 ^^^ rotr x 22).toBitVec = Fips180.bigSigma0 x.toBitVec := by
  rw [UInt32.toBitVec_xor, UInt32.toBitVec_xor, toBitVec_rotr x (by decide) (by decide),
    toBitVec_rotr x (by decide) (by decide), toBitVec_rotr x (by decide) (by decide)]
  rfl

theorem bigSigma1_eq (x : UInt32) :
    (rotr x 6 ^^^ rotr x 11 ^^^ rotr x 25).toBitVec = Fips180.bigSigma1 x.toBitVec := by
  rw [UInt32.toBitVec_xor, UInt32.toBitVec_xor, toBitVec_rotr x (by decide) (by decide),
    toBitVec_rotr x (by decide) (by decide), toBitVec_rotr x (by decide) (by decide)]
  rfl

theorem take_four {l : Bytes} {m : ℕ} (h : m + 4 ≤ l.length) :
    (l.drop m).take 4 = [l.getD m 0, l.getD (m + 1) 0, l.getD (m + 2) 0, l.getD (m + 3) 0] := by
  rw [List.drop_eq_getElem_cons (by omega : m < l.length),
    List.drop_eq_getElem_cons (by omega : m + 1 < l.length),
    List.drop_eq_getElem_cons (by omega : m + 2 < l.length),
    List.drop_eq_getElem_cons (by omega : m + 3 < l.length)]
  have hget (k : ℕ) (hk : k < l.length) : l.getD k 0 = l[k] := by simp [hk]
  rw [hget m, hget (m + 1), hget (m + 2), hget (m + 3)]
  rfl

theorem be32_eq {block : Bytes} {t : ℕ} (h : 4 * t + 4 ≤ block.length) :
    (be32 block t).toBitVec = Fips180.messageWord block t := by
  rw [Fips180.messageWord, take_four h, Nat.mul_comm 4 t, ← toNat_word]
  exact ((BitVec.ofNat_toNat _ _).trans (BitVec.setWidth_eq _)).symm

/-- The constants of the source are those of the standard. -/
theorem sha256K_eq : sha256K.map UInt32.toBitVec = Fips180.roundConstants := by
  decide +kernel

/-- A state as a hash value. -/
def Sha256State.hash (s : Sha256State) : Fips180.Words :=
  ⟨s.a.toBitVec, s.b.toBitVec, s.c.toBitVec, s.d.toBitVec, s.e.toBitVec, s.f.toBitVec,
    s.g.toBitVec, s.h.toBitVec⟩

theorem reset_hash : Sha256.reset.state.hash = Fips180.initial := by
  decide +kernel

/-! ## The compression function -/

theorem scheduleWord_eq {block : Bytes} {w : List UInt32} (h16 : 16 ≤ w.length)
    (hw : ∀ i < w.length, (w.getD i 0).toBitVec = Fips180.schedule block i) :
    (scheduleWord w).toBitVec = Fips180.schedule block w.length := by
  rw [Fips180.schedule, if_neg (by omega), ← hw _ (by omega), ← hw _ (by omega), ← hw _ (by omega),
    ← hw _ (by omega)]
  simp only [scheduleWord, UInt32.toBitVec_add, smallSigma0_eq, smallSigma1_eq]
  ac_rfl

theorem iterate_schedule {block : Bytes} (h : block.length = 64) (n : ℕ) :
    (Nat.iterate (fun w => w ++ [scheduleWord w]) n ((List.range 16).map (be32 block))).length =
      16 + n ∧
    ∀ i < 16 + n, ((Nat.iterate (fun w => w ++ [scheduleWord w]) n
      ((List.range 16).map (be32 block))).getD i 0).toBitVec = Fips180.schedule block i := by
  induction n with
  | zero =>
    refine ⟨by simp, fun i hi => ?_⟩
    rw [Fips180.schedule, if_pos hi, ← be32_eq (by omega)]
    simp [show i < 16 from hi]
  | succ n ih =>
    obtain ⟨hlen, hw⟩ := ih
    rw [Function.iterate_succ_apply']
    refine ⟨by rw [List.length_append, hlen]; rfl, fun i hi => ?_⟩
    rcases (by omega : i < 16 + n ∨ i = 16 + n) with hlt | rfl
    · rw [List.getD_append _ _ _ _ (hlen ▸ hlt)]
      exact hw i hlt
    · rw [List.getD_append_right _ _ _ _ (by omega), hlen, Nat.sub_self]
      have hword := scheduleWord_eq (by omega) (hlen ▸ hw)
      rwa [hlen] at hword

/-- The array `w` is the message schedule. -/
theorem schedule_eq {block : Bytes} (h : block.length = 64) :
    (schedule block).length = 64 ∧
      ∀ i < 64, ((schedule block).getD i 0).toBitVec = Fips180.schedule block i :=
  iterate_schedule h 48

theorem hash_round (s : Sha256State) (k w : UInt32) :
    (s.round k w).hash = Fips180.round s.hash k.toBitVec w.toBitVec := by
  simp only [Sha256State.round, Sha256State.hash, Fips180.round, UInt32.toBitVec_add,
    bigSigma0_eq, bigSigma1_eq]
  rfl

/-- The rounds over a list of constants and words. -/
theorem hash_rounds (kws : List (UInt32 × UInt32)) (s : Sha256State) :
    (kws.foldl (fun v kw => v.round kw.1 kw.2) s).hash =
      (kws.map fun kw => (kw.1.toBitVec, kw.2.toBitVec)).foldl
        (fun v kw => Fips180.round v kw.1 kw.2) s.hash := by
  induction kws generalizing s with
  | nil => rfl
  | cons kw kws ih => simp only [List.foldl_cons, List.map_cons, ih, hash_round]

/-- The constants with the words of a block. -/
theorem zip_schedule {block : Bytes} (h : block.length = 64) :
    (sha256K.zip (schedule block)).map (fun kw => (kw.1.toBitVec, kw.2.toBitVec)) =
      (List.range 64).map fun t =>
        (Fips180.roundConstants.getD t 0, Fips180.schedule block t) := by
  obtain ⟨hlen, hword⟩ := schedule_eq h
  have hk : sha256K.length = 64 := rfl
  rw [← sha256K_eq]
  generalize sha256K = ks at hk ⊢
  generalize schedule block = ws at hlen hword ⊢
  refine List.ext_getElem (by simp [hk, hlen]) fun i hi _ => ?_
  have hi64 : i < 64 := by simpa [hk, hlen] using hi
  have hw := hword i hi64
  simp only [List.getElem_map, List.getElem_zip, List.getElem_range, ← hw]
  simp [hk, hlen, hi64]

/-- `transform` is the compression function. -/
theorem hash_transform {block : Bytes} (h : block.length = 64) (s : Sha256State) :
    (s.transform block).hash = Fips180.compress s.hash block := by
  have hrounds := hash_rounds (sha256K.zip (schedule block)) s
  rw [zip_schedule h, List.foldl_map] at hrounds
  unfold Sha256State.transform Fips180.compress
  rw [← hrounds]
  generalize (sha256K.zip (schedule block)).foldl (fun v kw => v.round kw.1 kw.2) s = v
  rfl

/-! ## Streaming -/

namespace Sha256

variable {hash : Sha256} {message data : Bytes}

/-- The loop of `update` works off the whole blocks and buffers what is left. -/
theorem absorb_spec {passes : ℕ} (hpasses : data.length ≤ passes)
    (hbuffer : hash.buffer.length < 64) :
    (absorb passes hash data).state.hash =
        (blocks 64 (hash.buffer ++ data)).foldl Fips180.compress hash.state.hash ∧
      (absorb passes hash data).buffer = leftover 64 (hash.buffer ++ data) ∧
      (absorb passes hash data).totalBytes = hash.totalBytes := by
  induction passes generalizing hash data with
  | zero =>
    have hnil : data = [] := List.eq_nil_of_length_eq_zero (Nat.le_zero.1 hpasses)
    rw [hnil, List.append_nil, blocks_of_lt hbuffer, leftover_of_lt hbuffer]
    exact ⟨rfl, rfl, rfl⟩
  | succ passes ih =>
    by_cases hnil : data = []
    · rw [hnil, List.append_nil, blocks_of_lt hbuffer, leftover_of_lt hbuffer]
      exact ⟨rfl, rfl, rfl⟩
    have hpos : 0 < data.length := List.length_pos_iff.2 hnil
    rw [absorb, if_neg (by simpa using hnil)]
    dsimp only
    by_cases hfull : 64 - hash.buffer.length ≤ data.length
    · -- the buffer is filled
      rw [Nat.min_eq_right hfull]
      generalize htake : data.take (64 - hash.buffer.length) = front
      generalize hdrop : data.drop (64 - hash.buffer.length) = rest
      have hsplit : data = front ++ rest := by rw [← htake, ← hdrop, List.take_append_drop]
      have hfront : front.length = 64 - hash.buffer.length := by
        rw [← htake, List.length_take_of_le hfull]
      have hblock : (hash.buffer ++ front).length = 64 := by
        rw [List.length_append, hfront]
        omega
      have hrest : rest.length ≤ passes := by
        rw [← hdrop, List.length_drop]
        omega
      rw [if_pos hblock, hsplit, ← List.append_assoc, blocks_cons (by decide) hblock,
        leftover_cons (by decide) hblock, List.foldl_cons, ← hash_transform hblock]
      exact ih hrest (Nat.zero_lt_succ 63)
    · -- the data fit in
      have hle : data.length ≤ 64 - hash.buffer.length := by omega
      have hlt : (hash.buffer ++ data).length < 64 := by
        rw [List.length_append]
        omega
      rw [Nat.min_eq_left hle, List.take_length, List.drop_length, if_neg (Nat.ne_of_lt hlt),
        blocks_of_lt hlt, leftover_of_lt hlt]
      have hrest := @ih { hash with buffer := hash.buffer ++ data } [] (Nat.zero_le _) hlt
      simp only [List.append_nil, blocks_of_lt hlt, leftover_of_lt hlt] at hrest
      exact hrest

/-- What the object holds after `message` has been fed to it. -/
structure Holds (hash : Sha256) (message : Bytes) : Prop where
  state : hash.state.hash = (blocks 64 message).foldl Fips180.compress Fips180.initial
  buffer : hash.buffer = leftover 64 message
  total : hash.totalBytes = UInt64.ofNat message.length

theorem Holds.reset : Holds .reset [] := by
  refine ⟨?_, by simp [Sha256.reset], rfl⟩
  rw [blocks_nil]
  exact reset_hash

theorem Holds.update (h : hash.Holds message) (data : Bytes) :
    (hash.update data).Holds (message ++ data) := by
  obtain ⟨hblocks, hleft⟩ := blocks_append (n := 64) (by decide) message data
  have hbuffer : hash.buffer.length < 64 := by
    rw [h.buffer]
    exact length_leftover_lt (by decide)
  have hcounted : { hash with
      totalBytes := hash.totalBytes + UInt64.ofNat data.length }.buffer.length < 64 := hbuffer
  obtain ⟨hstate, hbuf, htotal⟩ := absorb_spec (Nat.le_refl data.length) hcounted
  refine ⟨hstate.trans ?_, hbuf.trans ?_, htotal.trans ?_⟩
  · rw [hblocks, List.foldl_append, ← h.state, ← h.buffer]
  · rw [hleft, ← h.buffer]
  · rw [List.length_append, UInt64.ofNat_add, h.total]

theorem Holds.updates (h : hash.Holds message) (chunks : List Bytes) :
    (chunks.foldl Sha256.update hash).Holds (message ++ chunks.flatten) := by
  induction chunks generalizing hash message with
  | nil => rwa [List.flatten_nil, List.append_nil]
  | cons data chunks ih =>
    rw [List.flatten_cons, ← List.append_assoc]
    exact ih (h.update data)

/-! ## The end -/

theorem leBytes_reverse (w : UInt64) : (leBytes 8 w).reverse = Fips180.toBigEndian 8 w.toNat := by
  refine List.ext_getElem (by simp [Fips180.length_toBigEndian]) fun i hi _ => ?_
  have hi8 : i < 8 := by simpa using hi
  have hshift : (UInt64.ofNat (8 * (8 - 1 - i))).toNat % 64 = 8 * (8 - 1 - i) := by
    rw [UInt64.toNat_ofNat_of_lt' (by rw [UInt64.size]; omega), Nat.mod_eq_of_lt (by omega)]
  simp only [Fips180.toBigEndian, leBytes, List.getElem_reverse, List.getElem_map,
    List.getElem_range, List.length_map, List.length_range]
  rw [← UInt8.toNat_inj, UInt64.toNat_toUInt8, UInt64.toNat_shiftRight, hshift,
    Nat.shiftRight_eq_div_pow, UInt8.toNat_ofNat']

/-- The field for the length. -/
theorem lengthBytes_eq (n : ℕ) :
    (leBytes 8 (UInt64.ofNat n * 8)).reverse = Fips180.toBigEndian 8 (8 * n) := by
  have hbits : (UInt64.ofNat n * 8).toNat = 8 * n % 2 ^ (8 * 8) := by
    rw [UInt64.toNat_mul, UInt64.toNat_ofNat', Nat.mod_mul_mod, Nat.mul_comm]
    rfl
  rw [leBytes_reverse, hbits, Fips180.toBigEndian_mod]

/-- The last blocks are those of the padded leftover. -/
theorem finalBlocks_eq (h : hash.Holds message) :
    hash.finalBlocks = blocks 64 (hash.buffer ++ Fips180.padding message.length) := by
  have hbytes := lengthBytes_eq message.length
  rw [← h.total] at hbytes
  have height := Fips180.length_toBigEndian 8 (8 * message.length)
  have hmarked : (hash.buffer ++ [0x80]).length = message.length % 64 + 1 := by
    rw [List.length_append, h.buffer, length_leftover]
    rfl
  have hr : message.length % 64 < 64 := Nat.mod_lt _ (by decide)
  unfold finalBlocks Fips180.padding
  dsimp only
  rw [hbytes, List.cons_append,
    List.append_cons hash.buffer 0x80 (List.replicate ((119 - message.length % 64) % 64) 0 ++ _)]
  generalize Fips180.toBigEndian 8 (8 * message.length) = lengthBytes at height ⊢
  generalize hash.buffer ++ [0x80] = marked at hmarked ⊢
  generalize message.length % 64 = r at hmarked hr ⊢
  by_cases hlong : 56 < marked.length
  · -- the length does not fit behind the mark
    have hzeros : (119 - r) % 64 = (64 - marked.length) + 56 := by
      rw [Nat.mod_eq_of_lt] <;> omega
    have hfirst : (marked ++ List.replicate (64 - marked.length) 0).length = 64 := by
      rw [List.length_append, List.length_replicate]
      omega
    have hsecond : (List.replicate 56 0 ++ lengthBytes).length = 64 := by
      rw [List.length_append, List.length_replicate, height]
    rw [if_pos hlong, hzeros, List.replicate_add, List.append_assoc, ← List.append_assoc marked,
      blocks_cons (by decide) hfirst, blocks_eq_singleton (by decide) hsecond]
  · have hzeros : (119 - r) % 64 = 56 - marked.length := by
      rw [hmarked, ← Nat.mod_eq_of_lt (by omega : 56 - (r + 1) < 64)]
      omega
    have hblock :
        (marked ++ (List.replicate (56 - marked.length) 0 ++ lengthBytes)).length = 64 := by
      rw [List.length_append, List.length_append, List.length_replicate, height]
      omega
    rw [if_neg hlong, hzeros, blocks_eq_singleton (by decide) hblock, List.append_assoc]

theorem wordBytes_eq (w : UInt32) :
    [(w >>> 24).toUInt8, (w >>> 16).toUInt8, (w >>> 8).toUInt8, w.toUInt8] =
      Fips180.toBigEndian 4 w.toBitVec.toNat := by
  have hbyte (k : UInt32) (hk : k.toNat < 32) :
      (w >>> k).toUInt8 = UInt8.ofNat (w.toBitVec.toNat / 2 ^ k.toNat) := by
    rw [← UInt8.toNat_inj, UInt32.toNat_toUInt8, UInt32.toNat_shiftRight, Nat.mod_eq_of_lt hk,
      Nat.shiftRight_eq_div_pow, UInt8.toNat_ofNat']
    rfl
  have h0 := hbyte 0 (by decide)
  rw [UInt32.shiftRight_zero] at h0
  rw [hbyte 24 (by decide), hbyte 16 (by decide), hbyte 8 (by decide), h0]
  rfl

theorem finish_eq (h : hash.Holds message) : hash.finish = Fips180.sha256 message := by
  have hbuffer := h.buffer
  have hfold : ∀ (bs : List Bytes) (s : Sha256State), (∀ block ∈ bs, block.length = 64) →
      (bs.foldl Sha256State.transform s).hash = bs.foldl Fips180.compress s.hash := by
    intro bs
    induction bs with
    | nil => exact fun _ _ => rfl
    | cons block bs ih =>
      intro s hbs
      rw [List.foldl_cons, List.foldl_cons, ih _ fun b hb => hbs b (List.mem_cons_of_mem _ hb),
        hash_transform (hbs block List.mem_cons_self)]
  have hlast : ∀ block ∈ hash.finalBlocks, block.length = 64 := by
    rw [finalBlocks_eq h]
    exact fun block hb => length_of_mem_blocks hb
  have hhash : (hash.finalBlocks.foldl Sha256State.transform hash.state).hash =
      (blocks 64 (message ++ Fips180.padding message.length)).foldl Fips180.compress
        Fips180.initial := by
    rw [hfold _ _ hlast, finalBlocks_eq h, h.state, h.buffer,
      (blocks_append (by decide) message _).1, List.foldl_append]
  unfold finish Fips180.sha256
  rw [← hhash]
  simp only [wordBytes_eq]
  rfl

end Sha256

/-- **Main result: the streaming hash is SHA-256**, however the message is split. -/
theorem streaming_sha256 (chunks : List Bytes) :
    (chunks.foldl Sha256.update .reset).finish = Fips180.sha256 chunks.flatten :=
  Sha256.finish_eq (Sha256.Holds.reset.updates chunks)

end Drmid
