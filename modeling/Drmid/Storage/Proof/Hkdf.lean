import Drmid.Lib.Hkdf
import Drmid.Storage.RuntimeProfile
import Drmid.Storage.Proof.Sha256

/-!
# The key derivation is HKDF

`hmac_sha256` is the HMAC of SHA-256, for a key of any length (`hmacSha256_eq`), and `hkdf_sha256`
writes the output of RFC 5869 up to 255 blocks and nothing beyond (`hkdf_rfc5869`). The loop's
invariant is in `hkdfExpand_eq`: after `i` passes `previous` is the block `T(i)`, the counter is
`i + 1` and the output is what the first `i` blocks give.
-/

namespace Drmid

open Lib

/-! ## HMAC -/

theorem sha256_eq (data : Bytes) : sha256 data = Fips180.sha256 data :=
  Sha256.finish_eq (Sha256.Holds.reset.update data)

theorem length_sha256 (data : Bytes) : (sha256 data).length = 32 := by
  rw [sha256_eq, Fips180.length_sha256]

theorem hmacSha256Updates_eq (key data : Bytes) :
    hmacSha256Updates key data = hmacSha256 key data := by
  have hfeed (a b : Bytes) : ((Sha256.reset.update a).update b).finish = sha256 (a ++ b) := by
    rw [sha256_eq]
    exact Sha256.finish_eq ((Sha256.Holds.reset.update a).update b)
  simp only [hmacSha256Updates, hmacSha256, hfeed]

theorem hmacSha256_eq : hmacSha256 = hmac Fips180.sha256 64 := by
  funext key data
  have hkey : (hmacKey Fips180.sha256 64 key).length = 64 := by
    rw [hmacKey]
    by_cases h : 64 < key.length
    · rw [if_pos h, List.length_append, List.length_replicate, Fips180.length_sha256]
    · rw [if_neg h, List.length_append, List.length_replicate]
      omega
  have hpad (byte : UInt8) :
      hmacPad Fips180.sha256 64 key byte = (hmacKey Fips180.sha256 64 key).map (· ^^^ byte) :=
    zipWith_replicate_self _ _ _ hkey
  simp only [hmac, hpad, hmacSha256, hmacKey, sha256_eq]

theorem length_hmacSha256 (key data : Bytes) : (hmacSha256 key data).length = 32 :=
  length_sha256 _

/-! ## HKDF -/

/-- The loop from its `i`th pass on, for any number of passes that suffices. -/
theorem hkdfExpand_eq {prk info : Bytes} {outputSize passes i n : ℕ} (hi : i ≤ n)
    (hn : outputSize ≤ 32 * n) (hpasses : outputSize ≤ 32 * (i + passes)) :
    hkdfExpand prk info outputSize passes (Hkdf.block hmacSha256 prk info i) (UInt8.ofNat (i + 1))
        ((Hkdf.stream hmacSha256 prk info i).take outputSize) =
      (Hkdf.stream hmacSha256 prk info n).take outputSize := by
  induction passes generalizing i with
  | zero => exact (Hkdf.take_stream length_hmacSha256 hpasses hi).symm
  | succ passes ih =>
    have hlen : (Hkdf.stream hmacSha256 prk info i).length = 32 * i :=
      Hkdf.length_stream length_hmacSha256 i
    rw [hkdfExpand, List.length_take, hlen]
    by_cases hmore : 32 * i < outputSize
    · have hi' : i + 1 ≤ n := by omega
      have hle : (Hkdf.stream hmacSha256 prk info i).length ≤ outputSize := by omega
      have hnext := ih hi' (by omega)
      rw [Hkdf.stream_succ, List.take_append, List.take_of_length_le hle, hlen] at hnext
      rw [if_pos (by omega), List.take_of_length_le hle, Nat.min_eq_right (Nat.le_of_lt hmore)]
      have hcounter : UInt8.ofNat (i + 1) + 1 = UInt8.ofNat (i + 1 + 1) := by
        rw [UInt8.ofNat_add (i + 1) 1]
        rfl
      rw [hcounter]
      exact hnext
    · rw [if_neg (by omega)]
      exact (Hkdf.take_stream length_hmacSha256 (Nat.not_lt.1 hmore) hi).symm

/-- The whole loop. A pass produces at least one byte. -/
theorem hkdfExpand_start {prk info : Bytes} {outputSize passes : ℕ} (h : outputSize ≤ passes) :
    hkdfExpand prk info outputSize passes [] 1 [] =
      Hkdf.expand hmacSha256 prk info 32 outputSize := by
  have hsize : outputSize ≤ 32 * passes := by omega
  have henough : outputSize ≤ 32 * (0 + passes) := by omega
  have hloop : hkdfExpand prk info outputSize passes [] 1
      ((Hkdf.stream hmacSha256 prk info 0).take outputSize) =
        (Hkdf.stream hmacSha256 prk info passes).take outputSize :=
    hkdfExpand_eq (Nat.zero_le passes) hsize henough
  rw [Hkdf.expand_eq (by decide) length_hmacSha256 hsize, ← hloop]
  exact congrArg _ List.take_nil.symm

/-- `hkdf_sha256` is HKDF over the HMAC of SHA-256. -/
theorem hkdfSha256_eq (ikm salt info : Bytes) (outputSize : ℕ) :
    hkdfSha256 ikm salt info outputSize =
      Hkdf.derive (hmac Fips180.sha256 64) 32 ikm salt info outputSize := by
  rw [← hmacSha256_eq, hkdfSha256, Hkdf.derive]
  by_cases h : 255 * 32 < outputSize
  · rw [if_pos h, if_neg (by omega)]
  · rw [if_neg h, if_pos (Nat.not_lt.1 h), hkdfExpand_start (Nat.le_refl _)]

/-- **Main result: HKDF over its whole range.** Up to 8160 bytes the output has exactly the size
asked for and is the start of `T(1)`, `T(2)`, ..., the loop needs no more passes than there are
bytes, and a shorter output is a prefix of a longer one. Beyond 8160 bytes there is none. The HMAC
is that of RFC 2104 for every key, as the source feeds its parts. -/
theorem hkdf_rfc5869 (ikm salt info : Bytes) (outputSize : ℕ) :
    let prf := hmac Fips180.sha256 64
    (outputSize ≤ 8160 → ∃ output, hkdfSha256 ikm salt info outputSize = some output ∧
      output.length = outputSize ∧
      output = (Hkdf.stream prf (prf salt ikm) info 255).take outputSize ∧
      (∀ passes ≥ outputSize,
        hkdfExpand (hmacSha256 salt ikm) info outputSize passes [] 1 [] = output) ∧
      ∀ larger ≤ 8160, outputSize ≤ larger → ∃ output', hkdfSha256 ikm salt info larger =
        some output' ∧ output <+: output') ∧
    (8160 < outputSize → hkdfSha256 ikm salt info outputSize = none) ∧
    ∀ key data, hmacSha256Updates key data = prf key data := by
  intro prf
  have hprf : prf = hmacSha256 := hmacSha256_eq.symm
  have hsize (key text : Bytes) : (prf key text).length = 32 := Fips180.length_sha256 _
  have hderive (size : ℕ) (h : size ≤ 8160) : hkdfSha256 ikm salt info size =
      some (Hkdf.expand prf (prf salt ikm) info 32 size) := by
    rw [hkdfSha256_eq, Hkdf.derive, if_pos h]
  refine ⟨fun h => ⟨_, hderive outputSize h, ?_, ?_, ?_, ?_⟩, fun h => ?_, fun key data => ?_⟩
  · exact Hkdf.length_expand (by decide) hsize outputSize
  · exact Hkdf.expand_eq (by decide) hsize h
  · intro passes hpasses
    rw [hkdfExpand_start hpasses, hprf]
  · intro larger hlarger hle
    exact ⟨_, hderive larger hlarger, Hkdf.expand_prefix (by decide) hsize hle⟩
  · rw [hkdfSha256, if_pos h]
  · rw [hmacSha256Updates_eq, hmacSha256_eq]

end Drmid
