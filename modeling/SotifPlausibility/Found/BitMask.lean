import Mathlib.Data.Nat.Bitwise
import Mathlib.Tactic.Common

/-!
# Bytes as sets of bits

A byte that says of each of eight things whether it is the case.

* `has mask i` — bit `i` of a byte. `has_or`, `has_and`, `has_one_shiftLeft` read the operators of a
  mask bit by bit.
* `has_foldl` — a mask that a loop builds by setting one bit after the other has exactly the bits
  that were set.
* The tests code makes on masks, as statements about bits: `shiftRight_and_one_ne_zero`,
  `and_one_shiftLeft_ne_zero`, `and_ne_zero_iff`.
-/

namespace SotifPlausibility.Found.BitMask

/-- Bit `i` of a byte. -/
def has (mask : UInt8) (i : ℕ) : Bool := mask.toNat.testBit i

variable {mask mask' : UInt8} {i : ℕ}

/-- The empty mask has no bit. -/
@[simp] theorem has_zero : has 0 i = false := by
  simp [has]

/-- The bits of a union. -/
@[simp] theorem has_or : has (mask ||| mask') i = (has mask i || has mask' i) := by
  simp [has]

/-- The bits of an intersection. -/
@[simp] theorem has_and : has (mask &&& mask') i = (has mask i && has mask' i) := by
  simp [has]

/-- A byte has no bits from 8 on. -/
theorem has_of_le (hi : 8 ≤ i) : has mask i = false := by
  apply Nat.testBit_eq_false_of_lt
  exact lt_of_lt_of_le mask.toNat_lt (Nat.pow_le_pow_right (by omega) hi)

/-- A one shifted to a place below 8 is that bit alone. -/
theorem toNat_one_shiftLeft {k : UInt8} (hk : k.toNat < 8) :
    ((1 : UInt8) <<< k).toNat = 2 ^ k.toNat := by
  have hpow : 2 ^ k.toNat < 2 ^ 8 := Nat.pow_lt_pow_right (by omega) hk
  rw [UInt8.toNat_shiftLeft, Nat.mod_eq_of_lt hk, UInt8.toNat_one, Nat.one_shiftLeft,
    Nat.mod_eq_of_lt hpow]

/-- The one bit of a shifted one. -/
theorem has_one_shiftLeft {k : UInt8} (hk : k.toNat < 8) :
    has (1 <<< k) i = decide (k.toNat = i) := by
  unfold has
  rw [toNat_one_shiftLeft hk, Nat.testBit_two_pow]

/-- A byte is not zero when it has a bit. -/
theorem ne_zero_iff : mask ≠ 0 ↔ ∃ i < 8, has mask i = true := by
  constructor
  · intro hne
    have hnat : mask.toNat ≠ 0 := by
      intro hzero
      exact hne (UInt8.toNat_inj.mp hzero)
    obtain ⟨i, hi⟩ := Nat.exists_testBit_of_ne_zero hnat
    refine ⟨i, ?_, hi⟩
    by_contra hge
    have hnone : has mask i = false := has_of_le (Nat.not_lt.mp hge)
    exact absurd hi (by simpa [has] using hnone)
  · rintro ⟨i, -, hi⟩ rfl
    simp at hi

/-- Two masks meet in a bit. -/
theorem and_ne_zero_iff :
    mask &&& mask' ≠ 0 ↔ ∃ i < 8, has mask i = true ∧ has mask' i = true := by
  rw [ne_zero_iff]
  simp only [has_and, Bool.and_eq_true]

/-- The test of the bit at a place by a shifted one. -/
theorem and_one_shiftLeft_ne_zero {k : UInt8} (hk : k.toNat < 8) :
    mask &&& (1 <<< k) ≠ 0 ↔ has mask k.toNat = true := by
  rw [and_ne_zero_iff]
  simp only [has_one_shiftLeft hk, decide_eq_true_eq]
  constructor
  · rintro ⟨i, -, hi, rfl⟩
    exact hi
  · intro h
    exact ⟨k.toNat, hk, h, rfl⟩

/-- The test of a bit by shifting the mask. -/
theorem shiftRight_and_one_ne_zero (hi : i < 8) :
    (mask >>> UInt8.ofNat i) &&& 0x01 ≠ 0 ↔ has mask i = true := by
  have hof : (UInt8.ofNat i).toNat = i := by
    rw [UInt8.toNat_ofNat']
    exact Nat.mod_eq_of_lt (by omega)
  have hbit : ((mask >>> UInt8.ofNat i) &&& 0x01).toNat = (has mask i).toNat := by
    rw [UInt8.toNat_and, UInt8.toNat_shiftRight, hof, Nat.mod_eq_of_lt hi, UInt8.toNat_one]
    unfold has
    rw [Nat.and_one_is_mod, Nat.shiftRight_eq_div_pow, Nat.toNat_testBit]
  constructor
  · intro hne
    by_contra hnot
    apply hne
    apply UInt8.toNat_inj.mp
    rw [hbit, Bool.eq_false_iff.mpr hnot]
    rfl
  · intro h hzero
    rw [hzero, h] at hbit
    exact absurd hbit (by decide)

/-- **A mask built by a loop** has the bits it started with and those that were set. -/
theorem has_foldl {α : Type*} (p : α → Prop) [DecidablePred p] (place : α → UInt8) (as : List α)
    (hplace : ∀ a ∈ as, (place a).toNat < 8) (start : UInt8) :
    has (as.foldl (fun mask a => if p a then mask ||| (1 <<< place a) else mask) start) i = true ↔
      has start i = true ∨ ∃ a ∈ as, p a ∧ (place a).toNat = i := by
  induction as generalizing start with
  | nil => simp
  | cons a as ih =>
      have hrest : ∀ b ∈ as, (place b).toNat < 8 := fun b hb => hplace b (by simp [hb])
      rw [List.foldl_cons, ih hrest]
      by_cases hp : p a
      · rw [if_pos hp, has_or, has_one_shiftLeft (hplace a (by simp))]
        simp [hp, or_assoc]
      · rw [if_neg hp]
        simp [hp]

end SotifPlausibility.Found.BitMask
