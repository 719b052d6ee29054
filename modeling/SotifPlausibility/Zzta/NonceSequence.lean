import Mathlib.Tactic.NormNum.Prime
import SotifPlausibility.Zzta.SoftwareCryptoProvider

/-!
# The sequence of challenges

The software provider takes its challenges from a 32-bit register. The feedback mask is said to be
primitive, for a cycle of 2^32 − 1 words. It is not: the polynomial is a product of factors of
degree 5, 10 and 17, and the cycles are those of the factors.

* `iterate_lfsr_order` — after 1023 · 131071 steps every register is back;
  `dvd_minimalPeriod_lfsr` — the period of a register is a multiple of 31 or of 131071.
* `nonceAt provider k` — the `k`-th challenge. `nonceAt_eq_iff`: challenges repeat exactly when the
  registers they start from do.
* `challengePeriod` — the period of a seed: between 31 (`challengePeriod_weak`) and 134085633
  (`challengePeriod_default`).

Source: `CryptoPlatformInterface.cpp`, `LfsrNext`, `GenerateRandomNonce`.
-/

namespace SotifPlausibility.Zzta

open SotifPlausibility.Found SotifPlausibility.Found.ShiftRegister Function

/-! ### The cycles of the register -/

/-- The feedback mask as bits. -/
def kLfsrWord : BitVec 32 := 0xB4000000#32

/-- The number of steps after which every register is back. -/
def kLfsrOrder : ℕ := 1023 * 131071

/-- A step of the generator can be undone. -/
theorem lfsr_injective : Injective (step kLfsrWord) := step_injective rfl

/-- **After 1023 · 131071 steps every register is back.** -/
theorem iterate_lfsr_order (s : BitVec 32) : (step kLfsrWord)^[kLfsrOrder] s = s := by
  apply iterate_eq_self_of_top
  -- by squaring: 2^27 steps are one step less than the order and 2^17 and 2^10 steps more
  have h10 : (step kLfsrWord)^[1024] (top 32) = 0x3224B40#32 := by
    rw [iterate_double (n := 1) (k := 10) (by norm_num)]
    decide +kernel
  have h17 : (step kLfsrWord)^[131072] (top 32) = 0xABE787BC#32 := by
    rw [iterate_double (n := 1024) (k := 7) (by norm_num), h10]
    decide +kernel
  have h27 : (step kLfsrWord)^[134217728] (top 32) = 0xE8C5CCFC#32 := by
    rw [iterate_double (n := 131072) (k := 10) (by norm_num), h17]
    decide +kernel
  have hsum : (step kLfsrWord)^[131072 + 1024] ((step kLfsrWord)^[kLfsrOrder] (top 32)) =
      (step kLfsrWord)^[131072 + 1024] (top 32) := by
    have hcount : 131072 + 1024 + kLfsrOrder = 1 + 134217728 := by decide
    rw [← iterate_add_apply, hcount, iterate_add_top, iterate_add_top 131072, h27, h17, h10]
    decide +kernel
  exact (lfsr_injective.iterate _) hsum

/-- The period of every state divides the order of the step. -/
theorem minimalPeriod_lfsr_dvd (s : BitVec 32) :
    minimalPeriod (step kLfsrWord) s ∣ kLfsrOrder :=
  IsPeriodicPt.minimalPeriod_dvd (iterate_lfsr_order s)

/-- No register but zero is back after 33 steps. -/
theorem eq_zero_of_iterate_lfsr_33 {s : BitVec 32} (h : (step kLfsrWord)^[33] s = s) :
    s = 0#32 := by
  have hlinear : XorLinear fun s : BitVec 32 => (step kLfsrWord)^[33] s ^^^ s := by
    intro a b
    show (step kLfsrWord)^[33] (a ^^^ b) ^^^ (a ^^^ b) =
      ((step kLfsrWord)^[33] a ^^^ a) ^^^ ((step kLfsrWord)^[33] b ^^^ b)
    rw [iterate_step_xor]
    ac_rfl
  have hcomm : ∀ s : BitVec 32, (step kLfsrWord)^[33] (step kLfsrWord s) ^^^ step kLfsrWord s =
      step kLfsrWord ((step kLfsrWord)^[33] s ^^^ s) := by
    intro s
    rw [iterate_step_comm, step_xor]
  have hinverse : mul kLfsrWord ((step kLfsrWord)^[33] (top 32) ^^^ top 32) 0x946CB5DE#32 =
      top 32 := by
    decide +kernel
  apply injective_of_mul_eq_top hlinear hcomm _ hinverse
  show (step kLfsrWord)^[33] s ^^^ s = (step kLfsrWord)^[33] 0#32 ^^^ 0#32
  rw [h, (iterate_step_xor 33).map_zero, BitVec.xor_self, BitVec.xor_self]

/-- **The period of a register is a multiple of 31 or of 131071.** -/
theorem dvd_minimalPeriod_lfsr {s : BitVec 32} (hs : s ≠ 0#32) :
    31 ∣ minimalPeriod (step kLfsrWord) s ∨ 131071 ∣ minimalPeriod (step kLfsrWord) s := by
  by_contra hnot
  rw [not_or] at hnot
  have hcop31 : Nat.Coprime (minimalPeriod (step kLfsrWord) s) 31 :=
    ((Nat.Prime.coprime_iff_not_dvd (by norm_num)).mpr hnot.1).symm
  have hcop17 : Nat.Coprime (minimalPeriod (step kLfsrWord) s) 131071 :=
    ((Nat.Prime.coprime_iff_not_dvd (by norm_num)).mpr hnot.2).symm
  have hfactors : kLfsrOrder = 33 * 31 * 131071 := by decide
  have hdvd := minimalPeriod_lfsr_dvd s
  rw [hfactors] at hdvd
  have h33 := hcop31.dvd_of_dvd_mul_right (hcop17.dvd_of_dvd_mul_right hdvd)
  exact hs (eq_zero_of_iterate_lfsr_33 (isPeriodicPt_iff_minimalPeriod_dvd.mpr h33))

/-- Some iterates of the top bit, up to 1023 steps. -/
theorem iterate_lfsr_top :
    (step kLfsrWord)^[33] (top 32) = 0x5A000000#32 ∧
      (step kLfsrWord)^[93] (top 32) = 0x4DE80004#32 ∧
      (step kLfsrWord)^[341] (top 32) = 0xC9A841BC#32 ∧
      (step kLfsrWord)^[1023] (top 32) = 0x06449680#32 := by
  have h31 : (step kLfsrWord)^[31] (top 32) = 1#32 := by decide +kernel
  have h62 : (step kLfsrWord)^[62] (top 32) = sq kLfsrWord 1#32 := by
    rw [iterate_double (n := 31) (k := 1) (by norm_num), h31, iterate_one]
  have h248 : (step kLfsrWord)^[248] (top 32) = (sq kLfsrWord)^[3] 1#32 := by
    rw [iterate_double (n := 31) (k := 3) (by norm_num), h31]
  have h992 : (step kLfsrWord)^[992] (top 32) = (sq kLfsrWord)^[5] 1#32 := by
    rw [iterate_double (n := 31) (k := 5) (by norm_num), h31]
  refine ⟨by decide +kernel, ?_, ?_, ?_⟩
  · rw [iterate_add_top 62 31, h62, h31]
    decide +kernel
  · rw [iterate_add_top 248 93, iterate_add_top 62 31, h248, h62, h31]
    decide +kernel
  · rw [iterate_add_top 992 31, h992, h31]
    decide +kernel

/-- A period that divides 131071 times some number of steps shows after 2^17 times as many. The
squares are passed in two parts. -/
theorem not_minimalPeriod_lfsr_dvd {s a b c : BitVec 32} {d : ℕ}
    (ha : (step kLfsrWord)^[d] (top 32) = a) (hb : (sq kLfsrWord)^[8] a = b)
    (hc : (sq kLfsrWord)^[9] b = c) (hne : mul kLfsrWord c s ≠ mul kLfsrWord a s) :
    ¬ minimalPeriod (step kLfsrWord) s ∣ d * 131071 := by
  intro hdvd
  apply hne
  have hback : (step kLfsrWord)^[d * 131071] s = s := isPeriodicPt_iff_minimalPeriod_dvd.mpr hdvd
  have hcount : d + d * 131071 = d * 2 ^ 17 := by omega
  have htop : (step kLfsrWord)^[d * 2 ^ 17] (top 32) = c := by
    rw [iterate_double rfl, ha, iterate_add_apply _ 9 8, hb, hc]
  rw [← htop, ← iterate_eq_mul, ← hcount, iterate_add_apply, hback, iterate_eq_mul, ha]

/-- **The register that is seeded by default** runs through a cycle of the full order. -/
theorem minimalPeriod_lfsr_default :
    minimalPeriod (step kLfsrWord) 0xDEADBEEF#32 = kLfsrOrder := by
  obtain ⟨h33, h93, h341, h1023⟩ := iterate_lfsr_top
  obtain ⟨c, hc⟩ := minimalPeriod_lfsr_dvd 0xDEADBEEF#32
  have horder : kLfsrOrder = 3 * 11 * 31 * 131071 := by decide
  by_contra hne
  have hc1 : c ≠ 1 := by
    rintro rfl
    exact hne (by rw [hc, Nat.mul_one])
  -- a prime that is left over divides the order, so it is one of four
  obtain ⟨p, hp, d, rfl⟩ := Nat.exists_prime_and_dvd hc1
  rw [← Nat.mul_assoc, Nat.mul_right_comm] at hc
  have hrest : minimalPeriod (step kLfsrWord) 0xDEADBEEF#32 ∣ kLfsrOrder / p :=
    ⟨d, by rw [hc, Nat.mul_div_cancel _ hp.pos]⟩
  have hdvd : p ∣ 3 * 11 * 31 * 131071 := horder ▸ Dvd.intro_left _ hc.symm
  rw [hp.dvd_mul, hp.dvd_mul, hp.dvd_mul, Nat.prime_dvd_prime_iff_eq hp (by norm_num),
    Nat.prime_dvd_prime_iff_eq hp (by norm_num), Nat.prime_dvd_prime_iff_eq hp (by norm_num),
    Nat.prime_dvd_prime_iff_eq hp (by norm_num)] at hdvd
  rcases hdvd with ((rfl | rfl) | rfl) | rfl
  · exact not_minimalPeriod_lfsr_dvd (b := 0xFC66E5E3#32) (c := 0x5483FD3F#32) h341
      (by decide +kernel) (by decide +kernel) (by decide +kernel) hrest
  · exact not_minimalPeriod_lfsr_dvd (b := 0x3292491B#32) (c := 0x68155146#32) h93
      (by decide +kernel) (by decide +kernel) (by decide +kernel) hrest
  · exact not_minimalPeriod_lfsr_dvd (b := 0xBA96650A#32) (c := 0x9BA86E61#32) h33
      (by decide +kernel) (by decide +kernel) (by decide +kernel) hrest
  · have hback : (step kLfsrWord)^[1023] 0xDEADBEEF#32 = 0xDEADBEEF#32 :=
      isPeriodicPt_iff_minimalPeriod_dvd.mpr hrest
    rw [iterate_eq_mul, h1023] at hback
    exact absurd hback (by decide +kernel)

/-- The steps of the register in the provider are shifts. -/
theorem iterate_lfsrStep_toBitVec (n : ℕ) (state : UInt32) :
    (lfsrStep^[n] state).toBitVec = (step kLfsrWord)^[n] state.toBitVec := by
  have hsemi : Semiconj UInt32.toBitVec lfsrStep (step kLfsrWord) := lfsrStep_toBitVec
  exact (hsemi.iterate_right n).eq state

/-! ### The challenges -/

namespace SoftwareCryptoProvider

variable (provider : SoftwareCryptoProvider)

/-- **What is filled in**: the words of the register one after the other, whatever was there. -/
theorem fillNonce_spec (nonceOut : Nonce) {n : ℕ} (hn : n ≤ 8) :
    (provider.fillNonce nonceOut n).2.lfsrState = lfsrStep^[n] provider.lfsrState ∧
      ∀ i (hi : i < n), (provider.fillNonce nonceOut n).1.load (4 * i) 4 (by omega) =
        Bytes.packU32 (lfsrStep^[i + 1] provider.lfsrState) := by
  induction n with
  | zero => exact ⟨rfl, fun i hi => absurd hi (Nat.not_lt_zero i)⟩
  | succ n ih =>
      obtain ⟨hstate, hwords⟩ := ih (by omega)
      have hfill : provider.fillNonce nonceOut (n + 1) =
          ((provider.fillNonce nonceOut n).1.store (4 * n)
              (Bytes.packU32 (provider.fillNonce nonceOut n).2.lfsrNext.1),
            (provider.fillNonce nonceOut n).2.lfsrNext.2) := by
        unfold fillNonce
        rw [List.range_succ, List.foldl_append]
        rfl
      have hnext : lfsrStep (provider.fillNonce nonceOut n).2.lfsrState =
          lfsrStep^[n + 1] provider.lfsrState := by
        rw [hstate, iterate_succ_apply']
      rw [hfill]
      refine ⟨hnext, ?_⟩
      intro i hi
      by_cases hlast : i = n
      · subst hlast
        rw [Bytes.load_store, ← hnext]
        rfl
      · rw [Bytes.load_store_of_disjoint _ _ _ (by omega)]
        exact hwords i (by omega)

/-- A nonce is its eight words. -/
theorem nonce_ext {nonce nonce' : Nonce}
    (h : ∀ i (hi : i < 8), nonce.load (4 * i) 4 (by omega) = nonce'.load (4 * i) 4 (by omega)) :
    nonce = nonce' := by
  apply Vector.ext
  intro k hk
  have hword := congrArg (fun w : Bytes 4 => getElem w (k % 4) (Nat.mod_lt _ (by omega)))
    (h (k / 4) (by omega))
  simpa [Nat.div_add_mod] using hword

/-- **Two challenges are equal** exactly when the registers before them are. -/
theorem generateRandomNonce_eq_iff (provider' : SoftwareCryptoProvider)
    (nonceOut nonceOut' : Nonce) :
    (provider.generateRandomNonce nonceOut).1 = (provider'.generateRandomNonce nonceOut').1 ↔
      provider.lfsrState = provider'.lfsrState := by
  have hwords := (provider.fillNonce_spec nonceOut (Nat.le_refl 8)).2
  have hwords' := (provider'.fillNonce_spec nonceOut' (Nat.le_refl 8)).2
  constructor
  · intro h
    have hfirst : Bytes.packU32 (lfsrStep provider.lfsrState) =
        Bytes.packU32 (lfsrStep provider'.lfsrState) :=
      (hwords 0 (by omega)).symm.trans
        ((congrArg (fun nonce : Nonce => nonce.load 0 4) h).trans (hwords' 0 (by omega)))
    have hstep := congrArg Bytes.unpackU32 hfirst
    rw [Bytes.unpackU32_packU32, Bytes.unpackU32_packU32, ← UInt32.toBitVec_inj,
      lfsrStep_toBitVec, lfsrStep_toBitVec] at hstep
    exact UInt32.toBitVec_inj.mp (lfsr_injective hstep)
  · intro h
    apply nonce_ext
    intro i hi
    exact (hwords i hi).trans ((congrArg _ (by rw [h])).trans (hwords' i hi).symm)

/-- The provider after a challenge. -/
def next : SoftwareCryptoProvider := (provider.generateRandomNonce (Bytes.zeros 32)).2

/-- The `k`-th challenge of a provider, counted from 0. -/
def nonceAt (k : ℕ) : Nonce := ((next^[k] provider).generateRandomNonce (Bytes.zeros 32)).1

/-- A challenge takes eight steps, whatever was in the buffer. -/
theorem lfsrState_generateRandomNonce (nonceOut : Nonce) :
    (provider.generateRandomNonce nonceOut).2.lfsrState = lfsrStep^[8] provider.lfsrState :=
  (provider.fillNonce_spec nonceOut (Nat.le_refl 8)).1

/-- A challenge takes eight steps of the generator. -/
theorem lfsrState_iterate_next (k : ℕ) :
    (next^[k] provider).lfsrState = lfsrStep^[8 * k] provider.lfsrState := by
  induction k with
  | zero => rfl
  | succ k ih =>
      rw [iterate_succ_apply', next, lfsrState_generateRandomNonce, ih, ← iterate_add_apply,
        Nat.mul_succ, Nat.add_comm]

/-- Two challenges are equal exactly when their numbers are congruent by the period of the state. -/
theorem nonceAt_eq_iff (j k : ℕ) :
    provider.nonceAt j = provider.nonceAt k ↔
      Nat.ModEq (minimalPeriod (step kLfsrWord) provider.lfsrState.toBitVec) j k := by
  have hodd : Nat.Coprime (minimalPeriod (step kLfsrWord) provider.lfsrState.toBitVec) 8 :=
    Nat.Coprime.coprime_dvd_left (minimalPeriod_lfsr_dvd _) (by decide)
  unfold nonceAt
  rw [generateRandomNonce_eq_iff, lfsrState_iterate_next, lfsrState_iterate_next,
    ← UInt32.toBitVec_inj, iterate_lfsrStep_toBitVec, iterate_lfsrStep_toBitVec,
    iterate_eq_iterate_iff lfsr_injective]
  constructor
  · exact Nat.ModEq.cancel_left_of_coprime hodd
  · exact Nat.ModEq.mul_left 8

end SoftwareCryptoProvider

/-! ### The period of a seed -/

/-- The number of challenges after which those of a seed begin again. -/
noncomputable def challengePeriod (seed : UInt32) : ℕ :=
  minimalPeriod (step kLfsrWord) (SoftwareCryptoProvider.new seed).lfsrState.toBitVec

/-- The period of a seed divides 1023 * 131071. -/
theorem challengePeriod_dvd (seed : UInt32) : challengePeriod seed ∣ 1023 * 131071 :=
  minimalPeriod_lfsr_dvd _

/-- It is a multiple of 31 or of 131071. -/
theorem dvd_challengePeriod (seed : UInt32) :
    31 ∣ challengePeriod seed ∨ 131071 ∣ challengePeriod seed := by
  apply dvd_minimalPeriod_lfsr
  intro hzero
  exact (SoftwareCryptoProvider.new seed).lfsrState_ne_zero (UInt32.toBitVec_inj.mp hzero)

/-- **Two challenges of a seed are equal** exactly when their numbers agree modulo its period. -/
theorem nonceAt_new_eq_iff (seed : UInt32) (j k : ℕ) :
    (SoftwareCryptoProvider.new seed).nonceAt j = (SoftwareCryptoProvider.new seed).nonceAt k ↔
      j % challengePeriod seed = k % challengePeriod seed :=
  (SoftwareCryptoProvider.new seed).nonceAt_eq_iff j k

/-- The default seed has the longest period there is. The comment of the source promises one 32
times as long. -/
theorem challengePeriod_default :
    challengePeriod SoftwareCryptoProvider.kDefaultSeed = 134085633 :=
  minimalPeriod_lfsr_default

/-- A seed with the shortest period there is. -/
theorem challengePeriod_weak : challengePeriod 0x12D0C9F7 = 31 := by
  have hback : (step kLfsrWord)^[31] 0x12D0C9F7#32 = 0x12D0C9F7#32 := by decide +kernel
  have hdvd : challengePeriod 0x12D0C9F7 ∣ 31 := isPeriodicPt_iff_minimalPeriod_dvd.mp hback
  rcases dvd_challengePeriod 0x12D0C9F7 with h | h
  · exact Nat.dvd_antisymm hdvd h
  · exact absurd (h.trans hdvd) (by decide)

end SotifPlausibility.Zzta
