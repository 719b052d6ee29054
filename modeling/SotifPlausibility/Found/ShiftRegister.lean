import Mathlib.Dynamics.PeriodicPts.Defs
import Mathlib.Data.List.Count
import Mathlib.Data.List.GetD
import Mathlib.Data.Nat.Bits
import Mathlib.Data.Nat.ModEq
import Mathlib.Tactic.Common

/-!
# Linear feedback shift registers

A register that is shifted right and, when a one falls out, gets a feedback word added without
carry. Checksums feed a message into it bit by bit; generators let it run.

* `step poly` — one shift. It is linear (`step_xor`), and invertible when the feedback word has its
  top bit (`step_injective`).
* `mul poly a v` — the product of the algebra the register generates. A linear map that commutes
  with the shift is a product by its value at the top bit (`eq_mul_of_commute`), so high iterates
  are reached by squaring (`iterate_double`).
* `feed poly`, `remainder poly` — a message bit, and a whole message. `remainder_xor`: the remainder
  is linear in the message. `remainder_eq_iterate_pack`: up to a register's width the bits may be
  put into the register at once.
* `IsCodeword poly` — messages without a remainder. Two of them differ by one
  (`isCodeword_zipWith_xor_iff`), and a difference that is short, odd in number or two bits close
  together is none.
-/

namespace SotifPlausibility.Found.ShiftRegister

variable {w : ℕ}

/-! ### Linear maps -/

/-- A map that respects addition without carry. -/
def XorLinear (f : BitVec w → BitVec w) : Prop := ∀ a b, f (a ^^^ b) = f a ^^^ f b

section linear

variable {f g : BitVec w → BitVec w}

/-- A linear map sends zero to zero. -/
theorem XorLinear.map_zero (hf : XorLinear f) : f 0#w = 0#w := by
  have h := hf 0#w 0#w
  rwa [BitVec.xor_self, BitVec.xor_self] at h

/-- The iterates of a linear map are linear. -/
theorem XorLinear.iterate (hf : XorLinear f) (n : ℕ) : XorLinear f^[n] := by
  induction n with
  | zero => exact fun _ _ => rfl
  | succ n ih =>
      intro a b
      rw [Function.iterate_succ_apply', Function.iterate_succ_apply', Function.iterate_succ_apply',
        ih, hf]

/-- Two words are equal when nothing is left of their sum. -/
theorem xor_eq_zero_iff {a b : BitVec w} : a ^^^ b = 0#w ↔ a = b := by
  constructor
  · intro h
    have hcancel : a ^^^ b ^^^ b = a := by rw [BitVec.xor_assoc, BitVec.xor_self, BitVec.xor_zero]
    rw [h, BitVec.zero_xor] at hcancel
    exact hcancel.symm
  · rintro rfl
    exact BitVec.xor_self

/-- A linear map that takes only zero to zero is injective. -/
theorem XorLinear.injective (hf : XorLinear f) (hzero : ∀ s, f s = 0#w → s = 0#w) :
    Function.Injective f := by
  intro a b h
  apply xor_eq_zero_iff.mp
  apply hzero
  rw [hf, h, BitVec.xor_self]

end linear

/-! ### The shift -/

/-- One shift of the register. -/
def step (poly s : BitVec w) : BitVec w :=
  if s.getLsbD 0 = true then (s >>> 1) ^^^ poly else s >>> 1

section step

variable {poly : BitVec w}

/-- Without a lowest bit a step is a shift. -/
theorem step_of_even {s : BitVec w} (h : s.getLsbD 0 = false) : step poly s = s >>> 1 :=
  if_neg (by simp [h])

/-- A step is linear. -/
theorem step_xor : XorLinear (step poly) := by
  intro a b
  unfold step
  rw [BitVec.getLsbD_xor, BitVec.ushiftRight_xor_distrib]
  cases a.getLsbD 0 <;> cases b.getLsbD 0 <;>
    simp only [Bool.xor_false, Bool.false_xor, Bool.xor_self, Bool.false_eq_true, if_true, if_false]
  · rw [BitVec.xor_assoc]
  · ac_rfl
  · have hcancel : a >>> 1 ^^^ poly ^^^ (b >>> 1 ^^^ poly) =
        a >>> 1 ^^^ b >>> 1 ^^^ (poly ^^^ poly) := by ac_rfl
    rw [hcancel, BitVec.xor_self, BitVec.xor_zero]

/-- Steps are linear. -/
theorem iterate_step_xor (n : ℕ) : XorLinear (step poly)^[n] := step_xor.iterate n

/-- A register that is not zero does not become zero, if the feedback has its top bit. -/
theorem eq_zero_of_step_eq_zero (hmsb : poly.msb = true) {s : BitVec w} (h : step poly s = 0#w) :
    s = 0#w := by
  have hw : 0 < w := by
    by_contra hzero
    obtain rfl : w = 0 := by omega
    simp [BitVec.of_length_zero] at hmsb
  by_cases hlsb : s.getLsbD 0 = true
  · -- the feedback's top bit survives, for the shifted register has none
    rw [step, if_pos hlsb] at h
    have htop := congrArg (fun v => BitVec.getLsbD v (w - 1)) h
    simp only [BitVec.getLsbD_xor, BitVec.getLsbD_ushiftRight] at htop
    rw [BitVec.getLsbD_of_ge s _ (by omega), Bool.false_xor, ← BitVec.msb_eq_getLsbD_last, hmsb]
      at htop
    exact absurd htop (by simp)
  · rw [step_of_even (by simpa using hlsb)] at h
    apply BitVec.eq_of_getLsbD_eq
    intro i hi
    cases i with
    | zero => simpa using hlsb
    | succ i =>
        have hbit := congrArg (fun v => BitVec.getLsbD v i) h
        rw [BitVec.getLsbD_ushiftRight, Nat.add_comm] at hbit
        simpa using hbit

/-- A step can be undone, if the feedback word has its highest bit. -/
theorem step_injective (hmsb : poly.msb = true) : Function.Injective (step poly) :=
  step_xor.injective fun _ => eq_zero_of_step_eq_zero hmsb

/-- The register never becomes zero by itself. -/
theorem iterate_ne_zero (hmsb : poly.msb = true) {s : BitVec w} (hs : s ≠ 0#w) (n : ℕ) :
    (step poly)^[n] s ≠ 0#w := by
  intro h
  have hzero : (step poly)^[n] 0#w = 0#w := (iterate_step_xor n).map_zero
  rw [← hzero] at h
  exact hs ((step_injective hmsb).iterate n h)

/-- Shifts over zeros only shift. -/
theorem iterate_step_of_low_zero {s : BitVec w} {k : ℕ} (h : ∀ i < k, s.getLsbD i = false) :
    (step poly)^[k] s = s >>> k := by
  induction k with
  | zero => exact (BitVec.ushiftRight_zero s).symm
  | succ k ih =>
      have heven : (s >>> k).getLsbD 0 = false := by
        rw [BitVec.getLsbD_ushiftRight]
        exact h k (Nat.lt_succ_self k)
      rw [Function.iterate_succ_apply', ih fun i hi => h i (Nat.lt_succ_of_lt hi),
        step_of_even heven, BitVec.shiftRight_add]

/-- **Several shifts at once**: those of the low bits, from a table say, and the rest moved down. -/
theorem iterate_step_low (s : BitVec w) (k : ℕ) :
    (step poly)^[k] s = s >>> k ^^^ (step poly)^[k] ((s.setWidth k).setWidth w) := by
  have hlow : ∀ i < k, (s ^^^ (s.setWidth k).setWidth w).getLsbD i = false := by
    intro i hi
    by_cases hiw : i < w
    · simp [hi, hiw]
    · exact BitVec.getLsbD_of_ge _ _ (Nat.not_lt.mp hiw)
  have hhigh : (s ^^^ (s.setWidth k).setWidth w) >>> k = s >>> k := by
    apply BitVec.eq_of_getLsbD_eq
    intro i hi
    simp
  have hsplit : s = (s ^^^ (s.setWidth k).setWidth w) ^^^ (s.setWidth k).setWidth w := by
    rw [BitVec.xor_assoc, BitVec.xor_self, BitVec.xor_zero]
  calc (step poly)^[k] s
      = (step poly)^[k] (s ^^^ (s.setWidth k).setWidth w) ^^^
          (step poly)^[k] ((s.setWidth k).setWidth w) := by
        rw [← iterate_step_xor, ← hsplit]
    _ = s >>> k ^^^ (step poly)^[k] ((s.setWidth k).setWidth w) := by
        rw [iterate_step_of_low_zero hlow, hhigh]

end step

/-! ### The algebra of a register -/

/-- The register with its top bit alone. Its iterates generate all registers. -/
def top (w : ℕ) : BitVec w := BitVec.twoPow w (w - 1)

/-- The sum of the iterates of `a` that the lowest `k` bits of `v` select, the lowest bit the
highest iterate. -/
def mulTo (poly a v : BitVec w) (k : ℕ) : BitVec w :=
  (List.range k).foldl
    (fun acc j => step poly acc ^^^ (if v.getLsbD j = true then a else 0#w)) 0#w

/-- The product of two registers. -/
def mul (poly a v : BitVec w) : BitVec w := mulTo poly a v w

section algebra

variable {poly : BitVec w} {f : BitVec w → BitVec w}

/-- One bit more of the multiplier. -/
theorem mulTo_succ (a v : BitVec w) (k : ℕ) :
    mulTo poly a v (k + 1) =
      step poly (mulTo poly a v k) ^^^ (if v.getLsbD k = true then a else 0#w) := by
  rw [mulTo, List.range_succ, List.foldl_append]
  rfl

/-- Shifting one place less brings in one more bit, at the top. -/
theorem shiftLeft_pred (v : BitVec w) {k : ℕ} (hk : k < w) :
    (v <<< (w - k)) >>> 1 ^^^ (if v.getLsbD k = true then top w else 0#w) =
      v <<< (w - (k + 1)) := by
  apply BitVec.eq_of_getLsbD_eq
  intro i hi
  have hbit : (if v.getLsbD k = true then top w else 0#w).getLsbD i =
      (decide (i = w - 1) && v.getLsbD k) := by
    cases v.getLsbD k <;> simp [top, BitVec.getLsbD_twoPow, eq_comm]
    omega
  rw [BitVec.getLsbD_xor, hbit, BitVec.getLsbD_ushiftRight, BitVec.getLsbD_shiftLeft,
    BitVec.getLsbD_shiftLeft]
  by_cases hlast : i = w - 1
  · subst hlast
    have hidx : w - 1 - (w - (k + 1)) = k := by omega
    have hout : ¬ 1 + (w - 1) < w := by omega
    have hin : ¬ w - 1 < w - (k + 1) := by omega
    simp [hidx, hout, hin, hi]
  · have hidx : 1 + i - (w - k) = i - (w - (k + 1)) := by omega
    have hlt : 1 + i < w := by omega
    have hcond : 1 + i < w - k ↔ i < w - (k + 1) := by omega
    simp [hidx, hlt, hcond, hi, hlast]

/-- **A linear map that commutes with the shift is a product**, by its value at the top bit. -/
theorem eq_mul_of_commute (hf : XorLinear f) (hcomm : ∀ s, f (step poly s) = step poly (f s))
    (v : BitVec w) : f v = mul poly (f (top w)) v := by
  -- by induction on the bits: the product so far is the value at the bits so far, shifted up
  have hpartial : ∀ k ≤ w, mulTo poly (f (top w)) v k = f (v <<< (w - k)) := by
    intro k
    induction k with
    | zero =>
        intro _
        rw [Nat.sub_zero, BitVec.shiftLeft_eq_zero (Nat.le_refl w), hf.map_zero]
        rfl
    | succ k ih =>
        intro hk
        have heven : (v <<< (w - k)).getLsbD 0 = false := by
          rw [BitVec.getLsbD_shiftLeft]
          simp
          omega
        have hite : (if v.getLsbD k = true then f (top w) else 0#w) =
            f (if v.getLsbD k = true then top w else 0#w) := by
          split_ifs
          · rfl
          · rw [hf.map_zero]
        rw [mulTo_succ, ih (by omega), ← hcomm, step_of_even heven, hite, ← hf,
          shiftLeft_pred v hk]
  have hall := hpartial w (Nat.le_refl w)
  rw [Nat.sub_self, BitVec.shiftLeft_zero] at hall
  exact hall.symm

/-- A step more, before or after. -/
theorem iterate_step_comm (n : ℕ) (s : BitVec w) :
    (step poly)^[n] (step poly s) = step poly ((step poly)^[n] s) := by
  rw [← Function.iterate_succ_apply, Function.iterate_succ_apply']

/-- Steps multiply by what they make of one. -/
theorem iterate_eq_mul (n : ℕ) (v : BitVec w) :
    (step poly)^[n] v = mul poly ((step poly)^[n] (top w)) v :=
  eq_mul_of_commute (iterate_step_xor n) (iterate_step_comm n) v

/-- Iterates are multiplied by adding. -/
theorem iterate_add_top (m n : ℕ) :
    (step poly)^[m + n] (top w) =
      mul poly ((step poly)^[m] (top w)) ((step poly)^[n] (top w)) := by
  rw [Function.iterate_add_apply, iterate_eq_mul m]

/-- A square. -/
def sq (poly a : BitVec w) : BitVec w := mul poly a a

/-- **High iterates by squaring.** -/
theorem iterate_double {m n k : ℕ} (hm : n * 2 ^ k = m) :
    (step poly)^[m] (top w) = (sq poly)^[k] ((step poly)^[n] (top w)) := by
  subst hm
  induction k with
  | zero => rw [pow_zero, Nat.mul_one, Function.iterate_zero_apply]
  | succ k ih =>
      rw [pow_succ, ← Nat.mul_assoc, Nat.mul_two, iterate_add_top, ih,
        Function.iterate_succ_apply', sq]

/-- An iterate that brings the top bit back brings every register back. -/
theorem iterate_eq_self_of_top {n : ℕ} (h : (step poly)^[n] (top w) = top w) (s : BitVec w) :
    (step poly)^[n] s = s := by
  rw [iterate_eq_mul, h]
  exact (iterate_eq_mul 0 s).symm

/-- The product is linear in its first factor. -/
theorem mulTo_xor_left (u : BitVec w) (k : ℕ) : XorLinear fun a => mulTo poly a u k := by
  intro a b
  induction k with
  | zero => exact BitVec.xor_self.symm
  | succ k ih =>
      simp only [mulTo_succ, ih, step_xor _ _]
      split_ifs
      · ac_rfl
      · simp only [BitVec.xor_zero]

/-- A step of a factor is a step of the product. -/
theorem mulTo_step_left (a u : BitVec w) (k : ℕ) :
    mulTo poly (step poly a) u k = step poly (mulTo poly a u k) := by
  induction k with
  | zero => exact step_xor.map_zero.symm
  | succ k ih =>
      rw [mulTo_succ, mulTo_succ, ih, step_xor]
      split_ifs
      · rfl
      · rw [step_xor.map_zero]

/-- **A linear map that commutes with the shift is injective** if its value at the top bit has an
inverse. -/
theorem injective_of_mul_eq_top (hf : XorLinear f)
    (hcomm : ∀ s, f (step poly s) = step poly (f s)) (u : BitVec w)
    (hu : mul poly (f (top w)) u = top w) : Function.Injective f := by
  -- multiplying by the inverse undoes the map, since both commute with the shift
  have hinverse : ∀ v, mul poly (f v) u = v := by
    intro v
    have hmul : mul poly (f v) u = mul poly (mul poly (f (top w)) u) v := by
      apply eq_mul_of_commute (f := fun v => mul poly (f v) u)
      · intro a b
        show mul poly (f (a ^^^ b)) u = _
        rw [hf]
        exact mulTo_xor_left u w _ _
      · intro s
        show mul poly (f (step poly s)) u = _
        rw [hcomm]
        exact mulTo_step_left _ _ _
    rw [hmul, hu]
    exact (iterate_eq_mul 0 v).symm
  intro a b h
  rw [← hinverse a, h, hinverse b]

end algebra

/-! ### Periods -/

/-- The iterates of an injective map repeat with the period of the point, and never else. -/
theorem iterate_eq_iterate_iff {α : Type*} {f : α → α} (hf : Function.Injective f) (x : α)
    (a b : ℕ) : f^[a] x = f^[b] x ↔ Nat.ModEq (Function.minimalPeriod f x) a b := by
  wlog hab : a ≤ b generalizing a b
  · rw [eq_comm, Nat.ModEq.comm]
    exact this b a (Nat.le_of_not_le hab)
  obtain ⟨d, rfl⟩ := Nat.exists_eq_add_of_le hab
  rw [Function.iterate_add_apply, (hf.iterate a).eq_iff, eq_comm, Nat.modEq_iff_dvd' hab,
    Nat.add_sub_cancel_left]
  exact Function.isPeriodicPt_iff_minimalPeriod_dvd

/-! ### Messages -/

/-- A bit, at the bottom of a register. -/
def bit (b : Bool) : BitVec w := if b = true then 1#w else 0#w

/-- Adds a message bit at the bottom and shifts. -/
def feed (poly s : BitVec w) (b : Bool) : BitVec w := step poly (s ^^^ bit b)

/-- The register after a message. -/
def remainder (poly s : BitVec w) (bs : List Bool) : BitVec w := bs.foldl (feed poly) s

/-- The bits of a message in one register, the first at the bottom. -/
def pack : List Bool → BitVec w
  | [] => 0#w
  | b :: bs => bit b ^^^ pack bs <<< 1

/-- The bits of a word, the lowest first. -/
def unpack (v : BitVec w) : List Bool := (List.range w).map v.getLsbD

section messages

variable {poly : BitVec w}

/-- The word of a bit is linear in the bit. -/
theorem bit_xor (b c : Bool) : (bit (b ^^ c) : BitVec w) = bit b ^^^ bit c := by
  cases b <;> cases c <;> simp [bit]

/-- The word of a bit has it in the lowest place. -/
theorem getLsbD_bit (b : Bool) (i : ℕ) :
    (bit b : BitVec w).getLsbD i = (decide (i = 0 ∧ 0 < w) && b) := by
  cases b <;> simp [bit, BitVec.getLsbD_one, Bool.and_comm]

/-- **The bits of a packed message** are those of the message, as far as the register goes. -/
theorem getLsbD_pack (bs : List Bool) (i : ℕ) :
    (pack bs : BitVec w).getLsbD i = (decide (i < w) && bs.getD i false) := by
  induction bs generalizing i with
  | nil => simp [pack]
  | cons b bs ih =>
      rw [pack, BitVec.getLsbD_xor, getLsbD_bit, BitVec.getLsbD_shiftLeft, ih]
      cases i with
      | zero => simp
      | succ i =>
          by_cases hi : i + 1 < w
          · have hi' : i < w := by omega
            simp [hi, hi']
          · simp [hi]

/-- A word has as many bits as it is wide. -/
@[simp] theorem length_unpack (v : BitVec w) : (unpack v).length = w := by
  simp [unpack]

/-- A word that is unpacked and packed again is cut or padded to the width of the register. -/
theorem pack_unpack {w' : ℕ} (v : BitVec w') : (pack (unpack v) : BitVec w) = v.setWidth w := by
  apply BitVec.eq_of_getLsbD_eq
  intro i hi
  rw [getLsbD_pack, BitVec.getLsbD_setWidth]
  by_cases hiw : i < w'
  · rw [List.getD_eq_getElem _ _ (by simpa using hiw)]
    simp [unpack]
  · rw [List.getD_eq_default _ _ (by simpa using hiw), BitVec.getLsbD_of_ge _ _ (Nat.not_lt.mp hiw)]

/-- Different words have different bits. -/
theorem unpack_injective : Function.Injective (unpack : BitVec w → List Bool) := by
  intro v v' h
  have hpack := congrArg (pack (w := w)) h
  rwa [pack_unpack, pack_unpack, BitVec.setWidth_eq, BitVec.setWidth_eq] at hpack

/-- The bits of an exclusive or. -/
theorem unpack_xor (v v' : BitVec w) :
    unpack (v ^^^ v') = List.zipWith (· ^^ ·) (unpack v) (unpack v') := by
  apply List.ext_getElem (by simp)
  intro i hi hi'
  simp [unpack]

/-- Bits that fit into a word are told apart by it. -/
theorem pack_injective {bs cs : List Bool} (hlen : bs.length = cs.length) (hw : bs.length ≤ w)
    (h : (pack bs : BitVec w) = pack cs) : bs = cs := by
  apply List.ext_getElem hlen
  intro i hi hi'
  have hbit := congrArg (fun v => BitVec.getLsbD v i) h
  have hiw : i < w := by omega
  simp only [getLsbD_pack, hiw, decide_true, Bool.true_and] at hbit
  rwa [List.getD_eq_getElem _ _ hi, List.getD_eq_getElem _ _ hi'] at hbit

/-- The step undoes a shift to the left that loses no bit. -/
theorem step_shiftLeft_one {s : BitVec w} (h : s.getLsbD (w - 1) = false) :
    step poly (s <<< 1) = s := by
  rw [step_of_even (by simp)]
  apply BitVec.eq_of_getLsbD_eq
  intro i hi
  rw [BitVec.getLsbD_ushiftRight, BitVec.getLsbD_shiftLeft]
  by_cases hlast : i = w - 1
  · subst hlast
    rw [h]
    simp
    omega
  · have hlt : 1 + i < w := by omega
    simp [hlt]

@[simp] theorem remainder_nil (s : BitVec w) : remainder poly s [] = s := rfl

@[simp] theorem remainder_cons (s : BitVec w) (b : Bool) (bs : List Bool) :
    remainder poly s (b :: bs) = remainder poly (step poly (s ^^^ bit b)) bs := rfl

/-- The remainder of a message in two parts. -/
theorem remainder_append (s : BitVec w) (bs cs : List Bool) :
    remainder poly s (bs ++ cs) = remainder poly (remainder poly s bs) cs :=
  List.foldl_append

/-- **The remainder is linear in the message.** -/
theorem remainder_xor (s t : BitVec w) {bs cs : List Bool} (hlen : bs.length = cs.length) :
    remainder poly (s ^^^ t) (List.zipWith (· ^^ ·) bs cs) =
      remainder poly s bs ^^^ remainder poly t cs := by
  induction bs generalizing s t cs with
  | nil =>
      obtain rfl := List.eq_nil_of_length_eq_zero hlen.symm
      rfl
  | cons b bs ih =>
      obtain ⟨c, cs, rfl⟩ := List.exists_cons_of_length_eq_add_one hlen.symm
      have hsum : s ^^^ t ^^^ bit (b ^^ c) = (s ^^^ bit b) ^^^ (t ^^^ bit c) := by
        rw [bit_xor]
        ac_rfl
      rw [List.zipWith_cons_cons, remainder_cons, hsum, step_xor,
        ih _ _ (Nat.succ.inj hlen)]
      rfl

/-- Zeros only shift. -/
theorem remainder_replicate_false (s : BitVec w) (n : ℕ) :
    remainder poly s (List.replicate n false) = (step poly)^[n] s := by
  induction n generalizing s with
  | zero => rfl
  | succ n ih =>
      have hzero : s ^^^ bit false = s := BitVec.xor_zero
      rw [List.replicate_succ, remainder_cons, hzero, ih, Function.iterate_succ_apply]

/-- **Up to the width of the register, the bits may be put into it at once.** -/
theorem remainder_eq_iterate_pack (s : BitVec w) {bs : List Bool} (hlen : bs.length ≤ w) :
    remainder poly s bs = (step poly)^[bs.length] (s ^^^ pack bs) := by
  induction bs generalizing s with
  | nil => exact BitVec.xor_zero.symm
  | cons b bs ih =>
      have hlen' : bs.length + 1 ≤ w := hlen
      have htop : (pack bs : BitVec w).getLsbD (w - 1) = false := by
        rw [getLsbD_pack, List.getD_eq_default _ _ (by omega), Bool.and_false]
      have hsum : s ^^^ (bit b ^^^ pack bs <<< 1) = (s ^^^ bit b) ^^^ pack bs <<< 1 := by
        ac_rfl
      rw [remainder_cons, ih _ (by omega), List.length_cons, Function.iterate_succ_apply, pack,
        hsum, step_xor (s ^^^ bit b), step_shiftLeft_one htop]

end messages

/-! ### Parity -/

/-- Whether the lowest `k` bits hold an odd number of ones. -/
def parityTo (s : BitVec w) : ℕ → Bool
  | 0 => false
  | k + 1 => parityTo s k ^^ s.getLsbD k

/-- Whether a register holds an odd number of ones. -/
def parity (s : BitVec w) : Bool := parityTo s w

section parity

variable {poly : BitVec w}

/-- The parity of some bits is linear. -/
theorem parityTo_xor (s t : BitVec w) (k : ℕ) :
    parityTo (s ^^^ t) k = (parityTo s k ^^ parityTo t k) := by
  induction k with
  | zero => rfl
  | succ k ih =>
      rw [parityTo, ih, BitVec.getLsbD_xor, parityTo, parityTo, Bool.xor_assoc, Bool.xor_assoc,
        Bool.xor_left_comm (parityTo t k)]

/-- The parity of zero is even. -/
theorem parity_zero : parity 0#w = false := by
  have hself := parityTo_xor 0#w 0#w w
  rw [BitVec.xor_self, Bool.xor_self] at hself
  exact hself

/-- A shift loses the bit at the bottom. -/
theorem parityTo_ushiftRight (s : BitVec w) (k : ℕ) :
    parityTo (s >>> 1) k = (parityTo s (k + 1) ^^ s.getLsbD 0) := by
  induction k with
  | zero => simp [parityTo]
  | succ k ih =>
      rw [parityTo, ih, BitVec.getLsbD_ushiftRight, Nat.add_comm 1 k, parityTo, parityTo, parityTo,
        Bool.xor_right_comm]

/-- With a feedback word of odd weight, the bit that falls out is made up for. -/
theorem parity_step (hodd : parity poly = true) (s : BitVec w) :
    parity (step poly s) = parity s := by
  have hshift : parity (s >>> 1) = (parity s ^^ s.getLsbD 0) := by
    unfold parity
    rw [parityTo_ushiftRight, parityTo, BitVec.getLsbD_of_ge s w (Nat.le_refl w), Bool.xor_false]
  unfold step
  split_ifs with hlsb
  · have hxor : parity (s >>> 1 ^^^ poly) = (parity (s >>> 1) ^^ parity poly) :=
      parityTo_xor _ _ _
    rw [hxor, hshift, hlsb, hodd]
    cases parity s <;> rfl
  · rw [hshift, Bool.eq_false_iff.mpr hlsb, Bool.xor_false]

/-- The parity of the word of a bit is the bit. -/
theorem parity_bit (hw : 0 < w) (b : Bool) : parity (bit b : BitVec w) = b := by
  have hbit : ∀ k, 0 < k → parityTo (bit b : BitVec w) k = b := by
    intro k hk
    induction k with
    | zero => omega
    | succ k ih =>
        rw [parityTo, getLsbD_bit]
        cases k with
        | zero => simp [parityTo, hw]
        | succ k => simp [ih (by omega)]
  exact hbit w hw

/-- **The remainder keeps the parity of the message**, if the feedback word has odd weight. -/
theorem parity_remainder (hodd : parity poly = true) (s : BitVec w) (bs : List Bool) :
    parity (remainder poly s bs) = (parity s ^^ (bs.count true).bodd) := by
  have hw : 0 < w := by
    by_contra hzero
    obtain rfl : w = 0 := by omega
    exact absurd hodd (by simp [parity, parityTo])
  induction bs generalizing s with
  | nil => simp
  | cons b bs ih =>
      have hadd : parity (s ^^^ bit b) = (parity s ^^ parity (bit b : BitVec w)) :=
        parityTo_xor _ _ _
      rw [remainder_cons, ih, parity_step hodd, hadd, parity_bit hw]
      cases b <;> simp

end parity

/-! ### Codewords -/

/-- A message without a remainder. -/
def IsCodeword (poly : BitVec w) (bs : List Bool) : Prop := remainder poly 0#w bs = 0#w

instance (poly : BitVec w) (bs : List Bool) : Decidable (IsCodeword poly bs) :=
  inferInstanceAs (Decidable (_ = _))

section codewords

variable {poly : BitVec w}

/-- **The difference of two messages is a codeword** exactly when their remainders agree. -/
theorem isCodeword_zipWith_xor_iff {bs cs : List Bool} (hlen : bs.length = cs.length) :
    IsCodeword poly (List.zipWith (· ^^ ·) bs cs) ↔
      remainder poly 0#w bs = remainder poly 0#w cs := by
  have hxor : remainder poly (0#w ^^^ 0#w) (List.zipWith (· ^^ ·) bs cs) =
      remainder poly 0#w bs ^^^ remainder poly 0#w cs := remainder_xor 0#w 0#w hlen
  rw [BitVec.xor_self] at hxor
  rw [IsCodeword, hxor, xor_eq_zero_iff]

/-- **A message with its checksum behind it is a codeword**, and with anything else it is not. -/
theorem isCodeword_append_iff (hmsb : poly.msb = true) (bs : List Bool) {crc : List Bool}
    (hcrc : crc.length = w) :
    IsCodeword poly (bs ++ crc) ↔ remainder poly 0#w bs = pack crc := by
  rw [IsCodeword, remainder_append, remainder_eq_iterate_pack _ (le_of_eq hcrc)]
  constructor
  · intro h
    by_contra hne
    exact iterate_ne_zero hmsb (mt xor_eq_zero_iff.mp hne) _ h
  · intro h
    rw [h, BitVec.xor_self]
    exact (iterate_step_xor _).map_zero

/-- Zeros in front of a message do not change its remainder. -/
theorem remainder_zeros_append (n : ℕ) (bs : List Bool) :
    remainder poly 0#w (List.replicate n false ++ bs) = remainder poly 0#w bs := by
  rw [remainder_append, remainder_replicate_false, (iterate_step_xor n).map_zero]

/-- Zeros around a message do not make it a codeword. -/
theorem isCodeword_pad_iff (hmsb : poly.msb = true) (m n : ℕ) (bs : List Bool) :
    IsCodeword poly (List.replicate m false ++ bs ++ List.replicate n false) ↔
      IsCodeword poly bs := by
  unfold IsCodeword
  rw [List.append_assoc, remainder_zeros_append, remainder_append, remainder_replicate_false]
  constructor
  · intro h
    by_contra hne
    exact iterate_ne_zero hmsb hne n h
  · intro h
    rw [h]
    exact (iterate_step_xor n).map_zero

/-- **A codeword is not one short burst.** -/
theorem not_isCodeword_of_short (hmsb : poly.msb = true) {bs : List Bool} (hlen : bs.length ≤ w)
    (hone : true ∈ bs) : ¬ IsCodeword poly bs := by
  unfold IsCodeword
  rw [remainder_eq_iterate_pack _ hlen, BitVec.zero_xor]
  apply iterate_ne_zero hmsb
  intro hzero
  have hbits : bs = List.replicate bs.length false := by
    apply pack_injective (List.length_replicate).symm hlen
    rw [hzero]
    apply BitVec.eq_of_getLsbD_eq
    intro i hi
    rw [getLsbD_pack]
    by_cases hib : i < bs.length
    · rw [List.getD_replicate _ hib]
      simp
    · rw [List.getD_eq_default _ _ (by simpa using hib)]
      simp
  rw [hbits] at hone
  exact absurd (List.eq_of_mem_replicate hone) (by decide)

/-- **A codeword has an even number of ones**, if the feedback word has an odd one. -/
theorem not_isCodeword_of_odd (hodd : parity poly = true) {bs : List Bool}
    (hcount : bs.count true % 2 = 1) : ¬ IsCodeword poly bs := by
  intro h
  have hparity := parity_remainder hodd 0#w bs
  rw [h, parity_zero, Bool.false_xor] at hparity
  rw [Nat.mod_two_of_bodd, ← hparity] at hcount
  exact absurd hcount (by decide)

/-- A list with a one in it begins with zeros and a one. -/
theorem exists_leading_zeros {bs : List Bool} (h : true ∈ bs) :
    ∃ m cs, bs = List.replicate m false ++ true :: cs := by
  induction bs with
  | nil => simp at h
  | cons b bs ih =>
      cases b with
      | true => exact ⟨0, bs, rfl⟩
      | false =>
          obtain ⟨m, cs, rfl⟩ := ih (by simpa using h)
          exact ⟨m + 1, cs, rfl⟩

/-- Two ones among zeros. -/
theorem exists_pair_of_count_eq_two (bs : List Bool) (h : bs.count true = 2) :
    ∃ m d n, bs = List.replicate m false ++ (true :: (List.replicate d false ++ [true])) ++
      List.replicate n false := by
  have htwo : 0 < bs.count true := by omega
  obtain ⟨m, cs, rfl⟩ := exists_leading_zeros (List.count_pos_iff.mp htwo)
  have hrest : cs.count true = 1 := by simpa [List.count_replicate] using h
  have hone : 0 < cs.count true := by omega
  obtain ⟨d, ds, rfl⟩ := exists_leading_zeros (List.count_pos_iff.mp hone)
  have hnone : ds.count true = 0 := by simpa [List.count_replicate] using hrest
  have hzeros : ds = List.replicate ds.length false := by
    apply List.eq_replicate_length.mpr
    intro b hb
    cases b with
    | true => exact absurd hb (List.count_eq_zero.mp hnone)
    | false => rfl
  exact ⟨m, d, ds.length, by rw [hzeros]; simp⟩

/-- The register does not come from `s` to `t` within `n` steps. -/
def avoids (poly t : BitVec w) : ℕ → BitVec w → Bool
  | 0, _ => true
  | n + 1, s => step poly s != t && avoids poly t n (step poly s)

/-- What the search over the steps says. -/
theorem iterate_ne_of_avoids {t s : BitVec w} {n : ℕ} (h : avoids poly t n s = true) {k : ℕ}
    (hk : k < n) : (step poly)^[k + 1] s ≠ t := by
  induction n generalizing s k with
  | zero => omega
  | succ n ih =>
      rw [avoids, Bool.and_eq_true, bne_iff_ne] at h
      cases k with
      | zero => exact h.1
      | succ k =>
          rw [Function.iterate_succ_apply]
          exact ih h.2 (by omega)

/-- **A codeword is not two bits** closer than the register needs to come back. -/
theorem not_isCodeword_pair (hmsb : poly.msb = true) {d : ℕ}
    (hreturn : (step poly)^[d + 1] 1#w ≠ 1#w) :
    ¬ IsCodeword poly (true :: (List.replicate d false ++ [true])) := by
  have hone : 0#w ^^^ bit true = 1#w := BitVec.zero_xor
  unfold IsCodeword
  rw [remainder_cons, hone, remainder_append, remainder_replicate_false,
    ← Function.iterate_succ_apply, remainder_cons, remainder_nil]
  intro h
  exact hreturn (xor_eq_zero_iff.mp (eq_zero_of_step_eq_zero hmsb h))

end codewords

end SotifPlausibility.Found.ShiftRegister
