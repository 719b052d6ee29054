import Mathlib.Data.Nat.Basic
import Mathlib.Tactic.Common

/-!
# Clocks that wrap

A clock that shows a time modulo `M`, and what can be told from two of its readings.

* `mod_le_mod_iff` — the readings come in the order of the times exactly when the clock did not wrap
  in between.
* `sub_mod_eq` — the difference of two readings modulo `M` is the time that went by, wherever the
  clock wrapped, as long as it is less than `M`.
-/

namespace SotifPlausibility.Found.WrappedClock

variable {M t t' : ℕ}

/-- A clock that wraps between two times less than `M` apart wraps once. -/
theorem div_eq_or_succ (hle : t ≤ t') (hspan : t' - t < M) :
    t' / M = t / M ∨ t' / M = t / M + 1 := by
  have hM : 0 < M := by omega
  have hlow : t / M ≤ t' / M := Nat.div_le_div_right hle
  have hhigh : t' / M ≤ t / M + 1 :=
    calc t' / M ≤ (t + M) / M := Nat.div_le_div_right (by omega)
      _ = t / M + 1 := Nat.add_div_right t hM
  omega

/-- **The order of two readings** is that of the times when the clock did not wrap in between. -/
theorem mod_le_mod_iff (hle : t ≤ t') (hspan : t' - t < M) : t % M ≤ t' % M ↔ t / M = t' / M := by
  have ht := Nat.div_add_mod t M
  have ht' := Nat.div_add_mod t' M
  rcases div_eq_or_succ hle hspan with hsame | hnext
  · rw [hsame] at ht'
    constructor
    · intro _
      exact hsame.symm
    · intro _
      omega
  · rw [hnext, Nat.mul_add, Nat.mul_one] at ht'
    constructor
    · intro hmod
      omega
    · intro hsame
      omega

/-- **The difference of two readings** is the time between them. -/
theorem sub_mod_eq (hle : t ≤ t') (hspan : t' - t < M) : (M - t % M + t' % M) % M = t' - t := by
  have hlt : t % M < M := Nat.mod_lt _ (by omega)
  have ht := Nat.div_add_mod t M
  have ht' := Nat.div_add_mod t' M
  rcases div_eq_or_succ hle hspan with hsame | hnext
  · have hsum : M - t % M + t' % M = (t' - t) + M := by
      rw [hsame] at ht'
      omega
    rw [hsum, Nat.add_mod_right, Nat.mod_eq_of_lt hspan]
  · have hsum : M - t % M + t' % M = t' - t := by
      rw [hnext, Nat.mul_add, Nat.mul_one] at ht'
      omega
    rw [hsum, Nat.mod_eq_of_lt hspan]

end SotifPlausibility.Found.WrappedClock
