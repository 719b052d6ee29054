import Mathlib.Data.List.FinRange
import Mathlib.Data.List.Induction
import Mathlib.Data.Vector.Basic
import Mathlib.Tactic.Common
import Mathlib.Tactic.IntervalCases

/-!
# Byte records and little-endian words

A record on the wire is a vector of bytes of known length, read and written field by field.

* `Bytes n` — `n` bytes. `Bytes.load b off k` reads `k` bytes at `off`; `Bytes.store b off w` writes
  the bytes `w` at `off`.
* **Field laws**: a load of the bytes just stored gives them back (`load_store`), a store leaves
  every byte outside its range alone (`load_store_of_disjoint`), so a loop may store one field after
  the other (`load_foldl_store`), a field of a field is a field (`load_load`), and a record is its
  fields put one after the other (`toList_eq_append`, `ext_load`).
* `packU16`, `unpackU16`, `packU32`, `unpackU32` — little-endian words, byte by byte with shifts
  and masks. `unpackU32_packU32` and `packU32_unpackU32` (and the two for `U16`) make them inverse.
-/

namespace SotifPlausibility.Found

/-- `n` bytes. -/
abbrev Bytes (n : ℕ) := Vector UInt8 n

namespace Bytes

/-! ### Fields -/

section fields

variable {n k : ℕ}

/-- `n` zero bytes. -/
def zeros (n : ℕ) : Bytes n := Vector.replicate n 0

/-- The `k` bytes at `off`. -/
def load (b : Bytes n) (off k : ℕ) (h : off + k ≤ n := by decide) : Bytes k :=
  Vector.ofFn fun i : Fin k => b[off + i]

/-- Writes the bytes `w` at `off`. -/
def store (b : Bytes n) (off : ℕ) (w : Bytes k) : Bytes n :=
  Vector.ofFn fun i : Fin n =>
    if h : off ≤ i ∧ i < off + k then getElem w (i - off) (by omega) else b[i]

/-- Each byte of a zeroed buffer is zero. -/
@[simp] theorem getElem_zeros {i : ℕ} (hi : i < n) : (zeros n)[i] = 0 := by
  simp [zeros]

/-- A byte of a window. -/
@[simp] theorem getElem_load (b : Bytes n) {off : ℕ} (h : off + k ≤ n) {i : ℕ} (hi : i < k) :
    (b.load off k h)[i] = b[off + i] := by
  simp [load]

/-- A byte that was stored. -/
theorem getElem_store_of_mem (b : Bytes n) {off : ℕ} (w : Bytes k) {i : ℕ} (hi : i < n)
    (h : off ≤ i ∧ i < off + k) : (b.store off w)[i] = getElem w (i - off) (by omega) := by
  simp [store, h]

/-- A byte beside what was stored. -/
theorem getElem_store_of_not_mem (b : Bytes n) {off : ℕ} (w : Bytes k) {i : ℕ} (hi : i < n)
    (h : ¬ (off ≤ i ∧ i < off + k)) : (b.store off w)[i] = b[i] := by
  simp only [store, Vector.getElem_ofFn, dif_neg h]
  rfl

/-- **A load of the stored range gives what was stored.** -/
theorem load_store (b : Bytes n) (off : ℕ) (w : Bytes k) (h : off + k ≤ n) :
    (b.store off w).load off k h = w := by
  ext i hi
  rw [getElem_load, getElem_store_of_mem _ _ _ ⟨by omega, by omega⟩]
  simp

/-- **A store leaves the bytes outside its range alone.** -/
theorem load_store_of_disjoint (b : Bytes n) {off off' k' : ℕ} (w : Bytes k)
    (h' : off' + k' ≤ n) (hd : off + k ≤ off' ∨ off' + k' ≤ off) :
    (b.store off w).load off' k' h' = b.load off' k' h' := by
  ext i hi
  rw [getElem_load, getElem_load, getElem_store_of_not_mem]
  omega

/-- **A loop that stores fields of equal size side by side** leaves each of them in its place. -/
theorem load_foldl_store {m : ℕ} (b : Bytes n) (g : Fin m → Bytes k) (is : List (Fin m)) {i : Fin m}
    (hi : i ∈ is) (h : k * i + k ≤ n) :
    (is.foldl (fun b j => b.store (k * j) (g j)) b).load (k * i) k h = g i := by
  induction is using List.reverseRecOn with
  | nil => exact absurd hi List.not_mem_nil
  | append_singleton is j ih =>
      rw [List.foldl_append, List.foldl_cons, List.foldl_nil]
      by_cases hij : i = j
      · subst hij
        rw [load_store]
      · have hmem : i ∈ is := by simpa [hij] using hi
        have hdisjoint : k * (j : ℕ) + k ≤ k * (i : ℕ) ∨ k * (i : ℕ) + k ≤ k * (j : ℕ) := by
          rcases Nat.lt_or_gt_of_ne (fun heq => hij (Fin.ext heq)) with hlt | hgt
          · exact Or.inr (Nat.mul_succ k i ▸ Nat.mul_le_mul_left k hlt)
          · exact Or.inl (Nat.mul_succ k j ▸ Nat.mul_le_mul_left k hgt)
        rw [load_store_of_disjoint _ _ _ hdisjoint, ih hmem]

/-- Storing what is there changes nothing. -/
theorem store_load (b : Bytes n) {off : ℕ} (h : off + k ≤ n) :
    b.store off (b.load off k h) = b := by
  ext i hi
  by_cases hmem : off ≤ i ∧ i < off + k
  · have hidx : off + (i - off) = i := by omega
    rw [getElem_store_of_mem _ _ hi hmem, getElem_load]
    simp only [hidx]
  · rw [getElem_store_of_not_mem _ _ hi hmem]

/-- A window of a zeroed buffer is zero. -/
@[simp] theorem load_zeros {off : ℕ} (h : off + k ≤ n) : (zeros n).load off k h = zeros k := by
  ext i hi
  simp

/-- A field of a field. -/
theorem load_load (b : Bytes n) {off k off' k' : ℕ} (h : off + k ≤ n) (h' : off' + k' ≤ k) :
    (b.load off k h).load off' k' h' = b.load (off + off') k' (by omega) := by
  ext i hi
  simp [Nat.add_assoc]

/-- A field, as a stretch of the bytes. -/
theorem toList_load (b : Bytes n) {off k : ℕ} (h : off + k ≤ n) :
    (b.load off k h).toList = (b.toList.drop off).take k := by
  apply List.ext_getElem
  · simp only [Vector.length_toList, List.length_take, List.length_drop]
    omega
  · intro i hi hi'
    simp

/-- The first bytes of a record are those just stored there. -/
theorem take_toList_store (b : Bytes n) (w : Bytes k) (h : 0 + k ≤ n) :
    (b.store 0 w).toList.take k = w.toList := by
  have hload := toList_load (b.store 0 w) h
  rw [load_store, List.drop_zero] at hload
  exact hload.symm

/-- The bytes of a record are those of a first field and then of the rest. -/
theorem toList_eq_append (b : Bytes n) (k k' : ℕ) (hk : k + k' = n) :
    b.toList = (b.load 0 k (by omega)).toList ++ (b.load k k' (by omega)).toList := by
  apply List.ext_getElem (by simp [hk])
  intro i hi hi'
  by_cases hik : i < k
  · rw [List.getElem_append_left (by simpa using hik)]
    simp
  · have hidx : k + (i - k) = i := by omega
    rw [List.getElem_append_right (by simpa using hik)]
    simp [hidx]

/-- Records that agree on a first field and on the rest are equal. -/
theorem ext_load {b c : Bytes n} (k k' : ℕ) (hk : k + k' = n)
    (hfst : b.load 0 k (by omega) = c.load 0 k (by omega))
    (hrest : b.load k k' (by omega) = c.load k k' (by omega)) : b = c := by
  apply Vector.ext
  intro i hi
  by_cases hik : i < k
  · have hget := congrArg (fun v : Bytes k => v[i]) hfst
    simpa using hget
  · have hidx : k + (i - k) = i := by omega
    have hget := congrArg (fun v : Bytes k' => getElem v (i - k) (by omega)) hrest
    simpa [hidx] using hget

/-- Stores of single bytes, one after the other, at the positions `is`. -/
def storeBytes (b : Bytes n) (is : List (Fin n)) (w : Fin n → UInt8) : Bytes n :=
  is.foldl (fun b i => b.setIfInBounds i.val (w i)) b

/-- **A loop of single stores** leaves the bytes stored and the others. -/
theorem getElem_storeBytes (b : Bytes n) (is : List (Fin n)) (w : Fin n → UInt8) {i : ℕ}
    (hi : i < n) :
    (b.storeBytes is w)[i] = if (⟨i, hi⟩ : Fin n) ∈ is then w ⟨i, hi⟩ else b[i] := by
  unfold storeBytes
  induction is using List.reverseRecOn with
  | nil => rfl
  | append_singleton is j ih =>
      rw [List.foldl_append, List.foldl_cons, List.foldl_nil,
        Vector.getElem_setIfInBounds hi]
      by_cases hj : j.val = i
      · obtain rfl : j = ⟨i, hi⟩ := Fin.ext hj
        simp
      · have hne : (⟨i, hi⟩ : Fin n) ≠ j := fun h => hj (congrArg Fin.val h).symm
        simp [hj, hne, ih]

/-- A loop over all bytes leaves what it stores. -/
@[simp] theorem storeBytes_finRange (b : Bytes n) (w : Fin n → UInt8) :
    b.storeBytes (List.finRange n) w = Vector.ofFn w := by
  ext i hi
  rw [getElem_storeBytes, if_pos (List.mem_finRange _), Vector.getElem_ofFn]

end fields

/-! ### Little-endian words -/

section words

/-- The two bytes of a word, least significant first. -/
def packU16 (x : UInt16) : Bytes 2 := #v[(x &&& 0xFF).toUInt8, ((x >>> 8) &&& 0xFF).toUInt8]

/-- The word two bytes stand for, least significant first. -/
def unpackU16 (b : Bytes 2) : UInt16 := b[0].toUInt16 ||| (b[1].toUInt16 <<< 8)

/-- The four bytes of a word, least significant first. -/
def packU32 (x : UInt32) : Bytes 4 :=
  #v[(x &&& 0xFF).toUInt8, ((x >>> 8) &&& 0xFF).toUInt8, ((x >>> 16) &&& 0xFF).toUInt8,
    ((x >>> 24) &&& 0xFF).toUInt8]

/-- The word four bytes stand for, least significant first. -/
def unpackU32 (b : Bytes 4) : UInt32 :=
  b[0].toUInt32 ||| (b[1].toUInt32 <<< 8) ||| (b[2].toUInt32 <<< 16) ||| (b[3].toUInt32 <<< 24)

/-- Byte `k / 8` of a word, as it is packed. -/
theorem toNat_byte32 (x k : UInt32) (hk : k.toNat < 32) :
    ((x >>> k) &&& 0xFF).toUInt8.toNat = x.toNat / 2 ^ k.toNat % 256 := by
  rw [UInt32.toNat_toUInt8, UInt32.toNat_and, UInt32.toNat_shiftRight,
    Nat.mod_eq_of_lt (a := k.toNat) hk, Nat.shiftRight_eq_div_pow]
  show (_ &&& (2 ^ 8 - 1)) % _ = _
  rw [Nat.and_two_pow_sub_one_eq_mod]
  omega

/-- A byte of a 16-bit number, as the code shifts and masks it out. -/
theorem toNat_byte16 (x k : UInt16) (hk : k.toNat < 16) :
    ((x >>> k) &&& 0xFF).toUInt8.toNat = x.toNat / 2 ^ k.toNat % 256 := by
  rw [UInt16.toNat_toUInt8, UInt16.toNat_and, UInt16.toNat_shiftRight,
    Nat.mod_eq_of_lt (a := k.toNat) hk, Nat.shiftRight_eq_div_pow]
  show (_ &&& (2 ^ 8 - 1)) % _ = _
  rw [Nat.and_two_pow_sub_one_eq_mod]
  omega

/-- A byte put above `k` lower bits is added. -/
theorem toNat_or_shiftLeft32 {x k : UInt32} (y : UInt8) (hk : k.toNat ≤ 24)
    (hx : x.toNat < 2 ^ k.toNat) :
    (x ||| (y.toUInt32 <<< k)).toNat = x.toNat + y.toNat * 2 ^ k.toNat := by
  have hmul : y.toNat * 2 ^ k.toNat < 2 ^ 32 :=
    calc y.toNat * 2 ^ k.toNat < 2 ^ 8 * 2 ^ k.toNat :=
          Nat.mul_lt_mul_of_pos_right y.toNat_lt (Nat.two_pow_pos _)
      _ ≤ 2 ^ 8 * 2 ^ 24 := Nat.mul_le_mul_left _ (Nat.pow_le_pow_right (by omega) hk)
      _ = 2 ^ 32 := rfl
  rw [UInt32.toNat_or, UInt32.toNat_shiftLeft, UInt8.toNat_toUInt32,
    Nat.mod_eq_of_lt (a := k.toNat) (by omega), Nat.shiftLeft_eq, Nat.mod_eq_of_lt hmul,
    ← Nat.shiftLeft_eq, Nat.or_comm, ← Nat.shiftLeft_add_eq_or_of_lt hx, Nat.add_comm]

/-- The number two bytes stand for, least significant byte first. -/
theorem toNat_unpackU16 (b : Bytes 2) :
    (unpackU16 b).toNat = b[0].toNat + b[1].toNat * 256 := by
  have hmul : b[1].toNat * 2 ^ 8 < 2 ^ 16 :=
    Nat.mul_lt_mul_of_pos_right b[1].toNat_lt (Nat.two_pow_pos 8)
  unfold unpackU16
  rw [UInt16.toNat_or, UInt16.toNat_shiftLeft, UInt8.toNat_toUInt16, UInt8.toNat_toUInt16]
  show _ ||| b[1].toNat <<< 8 % 2 ^ 16 = _
  rw [Nat.shiftLeft_eq, Nat.mod_eq_of_lt hmul, ← Nat.shiftLeft_eq, Nat.or_comm,
    ← Nat.shiftLeft_add_eq_or_of_lt b[0].toNat_lt, Nat.add_comm, Nat.shiftLeft_eq]

/-- The number four bytes stand for, least significant byte first. -/
theorem toNat_unpackU32 (b : Bytes 4) :
    (unpackU32 b).toNat =
      b[0].toNat + b[1].toNat * 2 ^ 8 + b[2].toNat * 2 ^ 16 + b[3].toNat * 2 ^ 24 := by
  have h0 := b[0].toNat_lt
  have h1 := b[1].toNat_lt
  have h2 := b[2].toNat_lt
  have e1 := toNat_or_shiftLeft32 (x := b[0].toUInt32) (k := 8) b[1] (by decide) (by simpa using h0)
  have e2 := toNat_or_shiftLeft32 (x := b[0].toUInt32 ||| (b[1].toUInt32 <<< 8)) (k := 16) b[2]
    (by decide) (by
      rw [e1, UInt8.toNat_toUInt32]
      simp only [UInt32.reduceToNat]
      omega)
  have e3 := toNat_or_shiftLeft32
    (x := b[0].toUInt32 ||| (b[1].toUInt32 <<< 8) ||| (b[2].toUInt32 <<< 16)) (k := 24) b[3]
    (by decide) (by
      rw [e2, e1, UInt8.toNat_toUInt32]
      simp only [UInt32.reduceToNat]
      omega)
  unfold unpackU32
  rw [e3, e2, e1, UInt8.toNat_toUInt32]
  rfl

/-- Packing a 16-bit number loses nothing. -/
@[simp] theorem unpackU16_packU16 (x : UInt16) : unpackU16 (packU16 x) = x := by
  have h0 : (packU16 x)[0].toNat = x.toNat % 256 := by
    have := toNat_byte16 x 0 (by decide)
    simpa [packU16] using this
  have h1 : (packU16 x)[1].toNat = x.toNat / 2 ^ 8 % 256 := toNat_byte16 x 8 (by decide)
  have hx := x.toNat_lt
  apply UInt16.toNat_inj.mp
  rw [toNat_unpackU16, h0, h1]
  omega

/-- Packing a 32-bit number loses nothing. -/
@[simp] theorem unpackU32_packU32 (x : UInt32) : unpackU32 (packU32 x) = x := by
  have h0 : (packU32 x)[0].toNat = x.toNat % 256 := by
    have := toNat_byte32 x 0 (by decide)
    simpa [packU32] using this
  have h1 : (packU32 x)[1].toNat = x.toNat / 2 ^ 8 % 256 := toNat_byte32 x 8 (by decide)
  have h2 : (packU32 x)[2].toNat = x.toNat / 2 ^ 16 % 256 := toNat_byte32 x 16 (by decide)
  have h3 : (packU32 x)[3].toNat = x.toNat / 2 ^ 24 % 256 := toNat_byte32 x 24 (by decide)
  have hx := x.toNat_lt
  apply UInt32.toNat_inj.mp
  rw [toNat_unpackU32, h0, h1, h2, h3]
  omega

/-- Different bytes stand for different 16-bit numbers. -/
theorem unpackU16_injective {b b' : Bytes 2} (h : unpackU16 b = unpackU16 b') : b = b' := by
  have hnat := congrArg UInt16.toNat h
  rw [toNat_unpackU16, toNat_unpackU16] at hnat
  have hb := b[0].toNat_lt
  have hc := b'[0].toNat_lt
  ext i hi
  interval_cases i <;> omega

/-- Different bytes stand for different 32-bit numbers. -/
theorem unpackU32_injective {b b' : Bytes 4} (h : unpackU32 b = unpackU32 b') : b = b' := by
  have hnat := congrArg UInt32.toNat h
  rw [toNat_unpackU32, toNat_unpackU32] at hnat
  have hb0 := b[0].toNat_lt
  have hb1 := b[1].toNat_lt
  have hb2 := b[2].toNat_lt
  have hc0 := b'[0].toNat_lt
  have hc1 := b'[1].toNat_lt
  have hc2 := b'[2].toNat_lt
  ext i hi
  interval_cases i <;> omega

/-- The bytes of a word are the bytes it was read from. -/
@[simp] theorem packU16_unpackU16 (b : Bytes 2) : packU16 (unpackU16 b) = b :=
  unpackU16_injective (unpackU16_packU16 _)

/-- The bytes of the number that four bytes stand for are these bytes. -/
@[simp] theorem packU32_unpackU32 (b : Bytes 4) : packU32 (unpackU32 b) = b :=
  unpackU32_injective (unpackU32_packU32 _)

end words

end Bytes

end SotifPlausibility.Found
