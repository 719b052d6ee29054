import Mathlib

/-!
# Single-precision numbers

Lean's `Float32` computes on bit patterns through `unpack` and `pack`. This module has the facts
about it that a program's range checks rest on.

* `Canonical` — the form of the values `unpack` gives; `unpack_pack`: on it, `unpack` takes back
  what `pack` wrote.
* **Comparisons** (`not_lt`): between numbers that are not NaN, `a < b` fails exactly when `b ≤ a`
  holds. A NaN fails every comparison (`not_lt_of_isNaN`), which is why a range check written as
  two rejections lets it through.
* `le_iff_orderKey`: comparing is comparing places in a linear order, so `≤` is transitive
  (`le_trans`).
* `abs_le_iff`: the absolute value taken by a comparison has the upper bounds of `Float32.abs`.
* `isNaN_sub`: a difference of finite numbers is a number.
-/

namespace SotifPlausibility.Found.Binary32

open Float.Model (UnpackedFloat Format)
open Float.Model.UnpackedFloat

/-! ### Bit patterns -/

section bits

/-- A normal number's mantissa has the implicit bit on top. -/
theorem toNat_implicit (m : BitVec 23) : (1#1 ++ m).toNat = 2 ^ 23 + m.toNat := by
  rw [BitVec.toNat_append, ← Nat.shiftLeft_add_eq_or_of_lt m.isLt, Nat.shiftLeft_eq]
  simp

/-- A significand with its implicit bit is not zero. -/
theorem toNat_implicit_pos (m : BitVec 23) : 0 < (1#1 ++ m).toNat := by
  rw [toNat_implicit]
  omega

/-- A significand that is not the zero vector is not zero. -/
theorem toNat_pos_of_ne_zero {m : BitVec 23} (h : m ≠ 0#23) : 0 < m.toNat := by
  simpa [BitVec.toNat_pos, BitVec.pos_iff_ne_zero] using h

/-- What a word with given fields, not all ones in the exponent, unpacks to. -/
theorem unpack_packComponents (s : Sign) (e : BitVec 8) (m : BitVec 23) (he : e ≠ -1#8) :
    UnpackedFloat.unpack Format.binary32 (packComponents Format.binary32 s e m) =
      if e = 0#8 then
        if h : m = 0#23 then .zero s else .finite s m.toNat (-149) (toNat_pos_of_ne_zero h)
      else .finite s (1#1 ++ m).toNat ((e.toNat : ℤ) - 150) (toNat_implicit_pos m) := by
  have hs := (congrArg Sign.ofBitVec
    (@unpackSign_packComponents Format.binary32 s e m)).trans (Sign.ofBitVec_toBitVec s)
  have hx := @unpackExponent_packComponents Format.binary32 s e m
  have hm := @unpackMantissa_packComponents Format.binary32 s e m
  unfold UnpackedFloat.unpack
  simp only [hs, hx, hm]
  rw [if_neg he]
  split_ifs with h0 h1
  · rfl
  · subst h0
    rfl
  · rfl

end bits

/-! ### Canonical values -/

section canonical

/-- The form of an unpacked value: a finite one has a 24-bit mantissa, and its top bit is set
unless the exponent is the least one. -/
def Canonical : UnpackedFloat → Prop
  | .finite _ m e _ => m < 2 ^ 24 ∧ -149 ≤ e ∧ e ≤ 104 ∧ (2 ^ 23 ≤ m ∨ e = -149)
  | _ => True

/-- A small exponent is not the one of infinities and NaNs. -/
theorem ne_neg_one_of_lt {k : ℕ} (h : k + 1 < 256) : BitVec.ofNat 8 k ≠ -1#8 := by
  intro hk
  have := congrArg BitVec.toNat hk
  simp at this
  omega

/-- A number that fits and is not zero gives a vector that is not zero. -/
theorem ofNat_ne_zero {w k : ℕ} (hpos : 0 < k) (h : k < 2 ^ w) : BitVec.ofNat w k ≠ 0#w := by
  intro hk
  have := congrArg BitVec.toNat hk
  simp [Nat.mod_eq_of_lt h] at this
  omega

/-- A word whose exponent is not all ones is one of its components' values. -/
theorem unpack_eq (b : BitVec 32) (he : @unpackExponent Format.binary32 b ≠ -1#8) :
    UnpackedFloat.unpack Format.binary32 b =
      if @unpackExponent Format.binary32 b = 0#8 then
        if h : @unpackMantissa Format.binary32 b = 0#23 then
          .zero (Sign.ofBitVec (@unpackSign Format.binary32 b))
        else .finite (Sign.ofBitVec (@unpackSign Format.binary32 b))
          (@unpackMantissa Format.binary32 b).toNat (-149) (toNat_pos_of_ne_zero h)
      else .finite (Sign.ofBitVec (@unpackSign Format.binary32 b))
        (1#1 ++ @unpackMantissa Format.binary32 b).toNat
        (((@unpackExponent Format.binary32 b).toNat : ℤ) - 150) (toNat_implicit_pos _) := by
  conv_lhs => rw [← @packComponents_unpackSign_unpackExponent_unpackMantissa Format.binary32 b]
  exact unpack_packComponents _ _ _ he

/-- What is unpacked is canonical. -/
theorem canonical_unpack (b : BitVec 32) :
    Canonical (UnpackedFloat.unpack Format.binary32 b) := by
  by_cases he : @unpackExponent Format.binary32 b = -1#8
  · unfold UnpackedFloat.unpack
    simp only [if_pos he]
    split_ifs <;> trivial
  · rw [unpack_eq b he]
    have hm : (@unpackMantissa Format.binary32 b).toNat < 2 ^ 23 := BitVec.isLt _
    have hx : (@unpackExponent Format.binary32 b).toNat < 2 ^ 8 := BitVec.isLt _
    have hx255 : (@unpackExponent Format.binary32 b).toNat ≠ 255 :=
      fun h => he (BitVec.eq_of_toNat_eq (by simpa using h))
    split_ifs with h0 h1
    · trivial
    · exact ⟨by omega, by omega, by omega, Or.inr rfl⟩
    · have hx0 : (@unpackExponent Format.binary32 b).toNat ≠ 0 :=
        fun h => h0 (BitVec.eq_of_toNat_eq (by simpa using h))
      simp only [Canonical, toNat_implicit]
      omega

/-- The bits `pack` writes for a finite value of normal or subnormal form. -/
theorem pack_finite {s : Sign} {m : ℕ} {e : ℤ} {hm : 0 < m}
    (h : Canonical (.finite s m e hm)) :
    UnpackedFloat.pack Format.binary32 (.finite s m e hm) =
      packComponents Format.binary32 s
        (if 2 ^ 23 ≤ m then BitVec.ofNat 8 (e + 150).toNat else 0#8) (BitVec.ofNat 23 m) := by
  obtain ⟨hm24, hlo, hhi, -⟩ := h
  have hlog : m.log2 + 1 = 24 ↔ 2 ^ 23 ≤ m := by
    have h23 := Nat.le_log2 (n := m) (k := 23) (by omega)
    have h24 := Nat.log2_lt (n := m) (k := 24) (by omega)
    omega
  have hexp : ¬ 2 ^ 8 ≤ (e + 127 + 23).toNat + 1 := by omega
  have he : (e + 127 + 23).toNat = (e + 150).toNat := by omega
  show (if 2 ^ 8 ≤ (e + 127 + 23).toNat + 1 then _
    else if m.log2 + 1 = 24 then _ else _) = _
  rw [if_neg hexp]
  split_ifs with hl hn hn
  · rw [← he]
    rfl
  · exact absurd (hlog.mp hl) hn
  · exact absurd (hlog.mpr hn) hl
  · rfl

/-- `unpack` takes back what `pack` wrote for a canonical value. -/
theorem unpack_pack {u : UnpackedFloat} (h : Canonical u) :
    UnpackedFloat.unpack Format.binary32 (UnpackedFloat.pack Format.binary32 u) = u := by
  rcases u with (_ | _) | _ | (_ | _) | ⟨s, m, e, hm⟩
  · rfl
  · rfl
  · rfl
  · rfl
  · rfl
  · rw [pack_finite h]
    obtain ⟨hm24, hlo, hhi, hnorm⟩ := h
    by_cases hn : 2 ^ 23 ≤ m
    · rw [if_pos hn, unpack_packComponents _ _ _ (ne_neg_one_of_lt (by omega)),
        if_neg (ofNat_ne_zero (by omega) (by omega))]
      congr 1
      · rw [toNat_implicit, BitVec.toNat_ofNat]
        omega
      · rw [BitVec.toNat_ofNat]
        omega
    · rw [if_neg hn, unpack_packComponents _ _ _ (by decide), if_pos rfl,
        dif_neg (ofNat_ne_zero hm (by omega))]
      congr 1
      · rw [BitVec.toNat_ofNat]
        omega
      · omega

/-- The negation of a canonical float is canonical. -/
theorem canonical_neg {u : UnpackedFloat} (h : Canonical u) : Canonical u.neg := by
  rcases u with _ | _ | _ | _ <;> exact h

/-- The absolute value of a canonical float is canonical. -/
theorem canonical_abs {u : UnpackedFloat} (h : Canonical u) : Canonical u.abs := by
  rcases u with _ | _ | _ | _ <;> exact h

end canonical

/-! ### Comparing unpacked values -/

section compare

/-- Only a NaN does not compare. -/
theorem compare_eq_none_iff {u v : UnpackedFloat} :
    u.compare v = none ↔ u.isNaN = true ∨ v.isNaN = true := by
  rcases u with (_ | _) | _ | _ | ⟨_ | _, _, _, _⟩ <;>
    rcases v with (_ | _) | _ | _ | ⟨_ | _, _, _, _⟩ <;>
      simp [UnpackedFloat.compare, isNaN]

/-- The comparison of exponents and significands, the other way round. -/
theorem swap_then_compare (e e' : ℤ) (m m' : ℕ) :
    ((compare e e').then (compare m m')).swap = (compare e' e).then (compare m' m) := by
  rw [Ordering.swap_then, ← Std.OrientedOrd.eq_swap, ← Std.OrientedOrd.eq_swap]

/-- Comparing the other way round swaps the outcome. -/
theorem compare_comm (u v : UnpackedFloat) :
    v.compare u = (u.compare v).map Ordering.swap := by
  rcases u with (_ | _) | _ | _ | ⟨_ | _, _, _, _⟩ <;>
    rcases v with (_ | _) | _ | _ | ⟨_ | _, _, _, _⟩ <;>
      first
        | rfl
        | simp only [UnpackedFloat.compare, Option.map_some, swap_then_compare]

/-- Taking the sign off, by the sign or by a comparison with zero, gives the same upper bounds. -/
theorem abs_le_unpacked {u v : UnpackedFloat} (hu : u.isNaN = false) :
    u.abs.le v = true ↔ (if u.lt (.zero .positive) = true then u.neg else u).le v = true := by
  rcases u with (_ | _) | _ | (_ | _) | ⟨_ | _, m, e, hm⟩
  case notANumber => simp [isNaN] at hu
  case zero.negative => rcases v with (_ | _) | _ | _ | ⟨_ | _, _, _, _⟩ <;> exact Iff.rfl
  all_goals exact Iff.rfl

/-- The absolute value is the float or its negation. -/
theorem abs_eq_self_or_neg (u : UnpackedFloat) : u.abs = u ∨ u.abs = u.neg := by
  rcases u with (_ | _) | _ | (_ | _) | ⟨_ | _, _, _, _⟩ <;>
    first
      | exact Or.inl rfl
      | exact Or.inr rfl

/-- A negation is a NaN when the float is one. -/
theorem isNaN_neg (u : UnpackedFloat) : u.neg.isNaN = u.isNaN := by
  rcases u with _ | _ | _ | _ <;> rfl

/-- A finite float is no NaN. -/
theorem isNaN_of_isFinite {u : UnpackedFloat} (h : u.isFinite = true) : u.isNaN = false := by
  rcases u with _ | _ | _ | _ <;> first | rfl | simp [isFinite] at h

/-- Without NaNs the order is total. -/
theorem not_lt_unpacked {u v : UnpackedFloat} (hu : u.isNaN = false) (hv : v.isNaN = false) :
    ¬ u.lt v = true ↔ v.le u = true := by
  obtain ⟨o, ho⟩ : ∃ o, u.compare v = some o := by
    rw [← Option.ne_none_iff_exists']
    intro hnone
    rcases compare_eq_none_iff.mp hnone with h | h
    · rw [hu] at h
      exact Bool.false_ne_true h
    · rw [hv] at h
      exact Bool.false_ne_true h
  rw [UnpackedFloat.lt, UnpackedFloat.le, compare_comm u v, ho]
  cases o <;> decide

/-- Where a number stands: its class, then its exponent, then its mantissa, the last two turned
round below zero. -/
def orderKey : UnpackedFloat → ℤ ×ₗ ℤ ×ₗ ℤ
  | .infinity .negative => toLex (-2, toLex (0, 0))
  | .finite .negative m e _ => toLex (-1, toLex (-e, -m))
  | .finite .positive m e _ => toLex (1, toLex (e, m))
  | .infinity .positive => toLex (2, toLex (0, 0))
  | _ => toLex (0, toLex (0, 0))

/-- The comparison of exponents and significands is lexicographic. -/
theorem isLE_then_compare (e e' : ℤ) (m m' : ℕ) :
    ((compare e e').then (compare m m')).isLE = true ↔ e < e' ∨ e = e' ∧ m ≤ m' := by
  rcases lt_trichotomy e e' with h | h | h
  · simp [compare_lt_iff_lt.mpr h, h]
  · simp [h, Nat.isLE_compare]
  · simp [compare_gt_iff_gt.mpr h, h.not_gt, h.ne']

/-- **Comparing numbers is comparing where they stand**, in a linear order. -/
theorem le_iff_orderKey {u v : UnpackedFloat} (hu : u.isNaN = false) (hv : v.isNaN = false) :
    u.le v = true ↔ orderKey u ≤ orderKey v := by
  rcases u with (_ | _) | _ | _ | ⟨_ | _, m, e, _⟩
  case notANumber => simp [isNaN] at hu
  all_goals rcases v with (_ | _) | _ | _ | ⟨_ | _, m', e', _⟩
  any_goals simp [isNaN] at hv
  all_goals simp [UnpackedFloat.le, UnpackedFloat.compare, orderKey, Prod.Lex.toLex_le_toLex,
    swap_then_compare, isLE_then_compare]
  case finite.negative.finite.negative => omega
  -- what is left are infinities
  all_goals decide

/-- Values that compare are numbers. -/
theorem isNaN_of_le {u v : UnpackedFloat} (h : u.le v = true) :
    u.isNaN = false ∧ v.isNaN = false := by
  have hsome : u.compare v ≠ none := by
    intro hnone
    rw [UnpackedFloat.le, hnone] at h
    exact absurd h (by decide)
  rw [Ne, compare_eq_none_iff, not_or] at hsome
  exact ⟨Bool.eq_false_iff.mpr hsome.1, Bool.eq_false_iff.mpr hsome.2⟩

/-- The order is transitive, NaNs included. -/
theorem le_trans_unpacked {u v w : UnpackedFloat} (huv : u.le v = true) (hvw : v.le w = true) :
    u.le w = true := by
  obtain ⟨hu, hv⟩ := isNaN_of_le huv
  obtain ⟨-, hw⟩ := isNaN_of_le hvw
  rw [le_iff_orderKey hu hv] at huv
  rw [le_iff_orderKey hv hw] at hvw
  rw [le_iff_orderKey hu hw]
  exact huv.trans hvw

end compare

/-! ### Differences -/

section sub

/-- Rounding gives no NaN. -/
theorem isNaN_roundWithAccuracy (spec : Format) (s : Sign) (m : ℕ) (e : ℤ) (a : Accuracy) :
    (roundWithAccuracy spec s m e a).isNaN = false := by
  unfold roundWithAccuracy
  simp only
  split_ifs <;> rfl

/-- Normalizing gives no NaN. -/
theorem isNaN_normalize (spec : Format) (m : ℤ) (e : ℤ) (s : Sign) :
    (UnpackedFloat.normalize spec m e s).isNaN = false := by
  unfold UnpackedFloat.normalize
  split
  · exact isNaN_roundWithAccuracy _ _ _ _ _
  · rfl
  · exact isNaN_roundWithAccuracy _ _ _ _ _

/-- The difference of finite floats is no NaN. -/
theorem isNaN_sub_unpacked {u v : UnpackedFloat} (hu : u.isFinite = true)
    (hv : v.isFinite = true) : (u.sub Format.binary32 v).isNaN = false := by
  rcases u with _ | _ | s | ⟨s, m, e, hm⟩
  · simp [isFinite] at hu
  · simp [isFinite] at hu
  all_goals rcases v with _ | _ | s' | ⟨s', m', e', hm'⟩
  any_goals simp [isFinite] at hv
  · simp only [UnpackedFloat.sub]
    split_ifs <;> rfl
  · rfl
  · rfl
  · exact isNaN_normalize _ _ _ _

/-- Packing never turns a number into a NaN: what is too large becomes an infinity. -/
theorem isNaN_unpack_pack {u : UnpackedFloat} (h : u.isNaN = false) :
    (UnpackedFloat.unpack Format.binary32 (UnpackedFloat.pack Format.binary32 u)).isNaN =
      false := by
  rcases u with s | _ | s | ⟨s, m, e, hm⟩
  · rw [unpack_pack (u := .infinity s) trivial]
    rfl
  · exact h
  · rw [unpack_pack (u := .zero s) trivial]
    rfl
  · unfold UnpackedFloat.pack
    simp only
    split_ifs with hbig hnormal
    · exact congrArg UnpackedFloat.isNaN (unpack_pack (u := .infinity s) trivial)
    · rw [unpack_packComponents _ _ _ (ne_neg_one_of_lt (by exact not_le.mp hbig))]
      split_ifs <;> rfl
    · rw [unpack_packComponents _ _ _ (by decide)]
      split_ifs <;> rfl

end sub

/-! ### `Float32` -/

section float32

variable {a b c : Float32}

/-- The value a number's bits unpack to. -/
def unpacked (a : Float32) : UnpackedFloat := a.toModel.unpack

/-- A float, unpacked, is canonical. -/
theorem canonical_unpacked (a : Float32) : Canonical (unpacked a) := canonical_unpack _

/-- The negation, unpacked. -/
theorem unpacked_neg (a : Float32) : unpacked (-a) = (unpacked a).neg :=
  unpack_pack (canonical_neg (canonical_unpacked a))

/-- The absolute value, unpacked. -/
theorem unpacked_abs (a : Float32) : unpacked a.abs = (unpacked a).abs :=
  unpack_pack (canonical_abs (canonical_unpacked a))

/-- The strict order, unpacked. -/
theorem lt_iff : a < b ↔ (unpacked a).lt (unpacked b) = true :=
  decide_eq_true_iff (p := a.toModel < b.toModel)

/-- The order, unpacked. -/
theorem le_iff : a ≤ b ↔ (unpacked a).le (unpacked b) = true :=
  decide_eq_true_iff (p := a.toModel ≤ b.toModel)

/-- **`≤` is transitive**, NaN or not. -/
theorem le_trans (hab : a ≤ b) (hbc : b ≤ c) : a ≤ c := by
  rw [le_iff] at hab hbc ⊢
  exact le_trans_unpacked hab hbc

/-- A finite float is no NaN. -/
theorem isNaN_of_isFinite32 (h : a.isFinite = true) : a.isNaN = false := isNaN_of_isFinite h

/-- **Comparisons of numbers are total**: `a < b` fails exactly when `b ≤ a` holds. -/
theorem not_lt (ha : a.isNaN = false) (hb : b.isNaN = false) : ¬ a < b ↔ b ≤ a := by
  rw [lt_iff, le_iff]
  exact not_lt_unpacked ha hb

/-- **A NaN fails every comparison.** -/
theorem not_lt_of_isNaN (h : a.isNaN = true ∨ b.isNaN = true) : ¬ a < b := by
  have hnone : (unpacked a).compare (unpacked b) = none := compare_eq_none_iff.mpr h
  rw [lt_iff, UnpackedFloat.lt, hnone]
  decide

/-- A negation is no NaN when the float is none. -/
theorem isNaN_neg32 (h : a.isNaN = false) : (-a).isNaN = false := by
  have hneg : (unpacked (-a)).isNaN = false := by
    rw [unpacked_neg, isNaN_neg]
    exact h
  exact hneg

/-- Zero, unpacked. -/
theorem unpacked_zero : unpacked 0.0 = .zero .positive := rfl

/-- The absolute value taken by a comparison with zero is below the same bounds as the one that
clears the sign. The two differ on `-0`, which compares as `0`. -/
theorem abs_le_iff (h : a.isNaN = false) :
    a.abs ≤ c ↔ (if a < 0.0 then -a else a) ≤ c := by
  have hlt : a < 0.0 ↔ (unpacked a).lt (.zero .positive) = true := by
    rw [lt_iff, unpacked_zero]
  rw [le_iff, unpacked_abs, abs_le_unpacked (u := unpacked a) h]
  by_cases hneg : a < 0.0
  · rw [if_pos hneg, if_pos (hlt.mp hneg), le_iff, unpacked_neg]
  · rw [if_neg hneg, if_neg (mt hlt.mpr hneg), le_iff]

/-- The difference of two finite numbers is a number. -/
theorem isNaN_sub (ha : a.isFinite = true) (hb : b.isFinite = true) : (a - b).isNaN = false :=
  isNaN_unpack_pack (isNaN_sub_unpacked ha hb)

/-- An absolute value is no NaN when the float is none. -/
theorem isNaN_abs (h : a.isNaN = false) : a.abs.isNaN = false := by
  have habs : (unpacked a).abs.isNaN = false := by
    rcases abs_eq_self_or_neg (unpacked a) with habs | habs
    · rw [habs]
      exact h
    · rw [habs, isNaN_neg]
      exact h
  exact isNaN_unpack_pack habs

end float32

end SotifPlausibility.Found.Binary32
