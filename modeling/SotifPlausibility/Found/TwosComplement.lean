import Mathlib.Data.Nat.Digits.Defs
import Mathlib.Tactic.Ring
import SotifPlausibility.Found.ByteCodec

/-!
# Integers in bytes

What bytes on the wire say about integers, independent of the code that shifts and masks them.

* `Bytes.leNat`, `Bytes.leInt` — the number that bytes stand for, least significant first: the
  natural one, and the signed one in two's complement.
* `Bytes.leBytes k z` — the `k` bytes of an integer.
* **Round trips**: `leNat_leBytes`, `leInt_leBytes`, each for the integers that fit.
* `toNat_unpackU32_eq`, `toInt_toInt32_unpackU32`, … — the words of `ByteCodec`, and their casts to
  signed words, are these numbers.
-/

namespace SotifPlausibility.Found.Bytes

/-! ### Numbers of bytes -/

section numbers

variable {k : ℕ} {z : ℤ}

/-- The number that bytes stand for, least significant first. -/
def leNat (b : Bytes k) : ℕ := Nat.ofDigits 256 (b.toList.map UInt8.toNat)

/-- The signed number that bytes stand for, in two's complement. -/
def leInt (b : Bytes k) : ℤ := Int.bmod b.leNat (256 ^ k)

/-- The `k` bytes of an integer, least significant first; in two's complement, if it is negative. -/
def leBytes (k : ℕ) (z : ℤ) : Bytes k :=
  Vector.ofFn fun i : Fin k => (z / 256 ^ i.val % 256).toNat.toUInt8

/-- The lowest digit of a remainder, and the rest. -/
theorem emod_pow_succ (z : ℤ) (k : ℕ) :
    z % 256 ^ (k + 1) = z % 256 + 256 * (z / 256 % 256 ^ k) := by
  have hdiv : z / (256 * 256 ^ k) = z / 256 / 256 ^ k := Int.ediv_mul_of_nonneg (by decide)
  rw [pow_succ', Int.emod_def, Int.emod_def z, Int.emod_def (z / 256), hdiv]
  ring

/-- A digit to the base 256, as a byte. -/
theorem toNat_digit (z : ℤ) : ((z % 256).toNat.toUInt8.toNat : ℤ) = z % 256 := by
  have hpos : 0 ≤ z % 256 := Int.emod_nonneg z (by decide)
  have hlt : z % 256 < 256 := Int.emod_lt_of_pos z (by decide)
  have hsmall : (z % 256).toNat < 2 ^ 8 := by omega
  have hdigit : (z % 256).toNat.toUInt8.toNat = (z % 256).toNat :=
    UInt8.toNat_ofNat_of_lt' hsmall
  rw [hdigit, Int.toNat_of_nonneg hpos]

/-- The bytes of an integer stand for it, up to a multiple of `256 ^ k`. -/
theorem leNat_leBytes_eq_emod (k : ℕ) (z : ℤ) : ((leBytes k z).leNat : ℤ) = z % 256 ^ k := by
  unfold leNat leBytes
  rw [Vector.toList_ofFn]
  induction k generalizing z with
  | zero => simp
  | succ k ih =>
      have hshift : ∀ i : Fin k, z / 256 ^ i.succ.val = z / 256 / 256 ^ i.val := by
        intro i
        rw [Fin.val_succ, pow_succ']
        exact Int.ediv_mul_of_nonneg (by decide)
      rw [List.ofFn_succ, List.map_cons, Nat.ofDigits_cons, emod_pow_succ, ← ih (z / 256)]
      push_cast
      simp only [hshift, Fin.val_zero, pow_zero, Int.ediv_one, toNat_digit]

/-- The bytes of a natural number that fits stand for it. -/
theorem leNat_leBytes {n : ℕ} (hlt : n < 256 ^ k) : (leBytes k n).leNat = n := by
  have hmod := leNat_leBytes_eq_emod k n
  rw [Int.emod_eq_of_lt (Int.natCast_nonneg n) (by exact_mod_cast hlt)] at hmod
  exact_mod_cast hmod

/-- **The bytes of an integer that fits stand for it**, the negative ones included. -/
theorem leInt_leBytes (hlo : -256 ^ k ≤ 2 * z) (hhi : 2 * z < 256 ^ k) :
    (leBytes k z).leInt = z := by
  have hpow : ((256 ^ k : ℕ) : ℤ) = 256 ^ k := by push_cast; rfl
  unfold leInt
  rw [leNat_leBytes_eq_emod, ← hpow, Int.emod_bmod]
  apply Int.bmod_eq_of_le <;> omega

end numbers

/-! ### Words -/

section words

/-- The word of two bytes is the number they stand for. -/
theorem toNat_unpackU16_eq (b : Bytes 2) : (unpackU16 b).toNat = b.leNat := by
  have hlist : b.toList = [b[0], b[1]] := by
    apply List.ext_getElem (by simp)
    intro i hi hi'
    simp at hi
    interval_cases i <;> simp
  rw [toNat_unpackU16, leNat, hlist]
  simp only [List.map_cons, List.map_nil, Nat.ofDigits_cons, Nat.ofDigits_nil]
  omega

/-- The word of four bytes is the number they stand for. -/
theorem toNat_unpackU32_eq (b : Bytes 4) : (unpackU32 b).toNat = b.leNat := by
  have hlist : b.toList = [b[0], b[1], b[2], b[3]] := by
    apply List.ext_getElem (by simp)
    intro i hi hi'
    simp at hi
    interval_cases i <;> simp
  rw [toNat_unpackU32, leNat, hlist]
  simp only [List.map_cons, List.map_nil, Nat.ofDigits_cons, Nat.ofDigits_nil]
  omega

/-- A word of two bytes, cast to a signed one, is the signed number they stand for. -/
theorem toInt_toInt16_unpackU16 (b : Bytes 2) : (unpackU16 b).toInt16.toInt = b.leInt := by
  unfold leInt
  rw [← toNat_unpackU16_eq]
  exact BitVec.toInt_eq_toNat_bmod (unpackU16 b).toBitVec

/-- A word of four bytes, cast to a signed one, is the signed number they stand for. -/
theorem toInt_toInt32_unpackU32 (b : Bytes 4) : (unpackU32 b).toInt32.toInt = b.leInt := by
  unfold leInt
  rw [← toNat_unpackU32_eq]
  exact BitVec.toInt_eq_toNat_bmod (unpackU32 b).toBitVec

end words

end SotifPlausibility.Found.Bytes
