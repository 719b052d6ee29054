import Mathlib.Data.List.OfFn
import Mathlib.Data.Vector.Basic
import Mathlib.Tactic.Common

/-!
# A ring of slots is a bounded queue

A single-producer single-consumer ring of `N` slots: `head` is the slot the producer writes next,
`tail` the slot the consumer reads next, and one slot always stays free, so that `head = tail`
means empty and `head + 1 = tail` (modulo `N`) means full.

* `Ring α N` carries its index bounds as fields. `Ring.push` and `Ring.pop` are the two ends'
  operations; `Ring.contents` is the queue a ring stands for, oldest first.
* `Ring.push_eq_none_iff`: a push is refused exactly when `N - 1` elements are waiting.
* `Ring.contents_push`: a push appends one element and moves none.
* `Ring.contents_pop`: a pop takes the oldest element and moves none.
-/

namespace SotifPlausibility.Found

/-- A ring of `N` slots with its two indices. -/
structure Ring (α : Type*) (N : ℕ) where
  /-- The slot the producer writes next. -/
  head : ℕ
  /-- The slot the consumer reads next. -/
  tail : ℕ
  /-- The slots. -/
  slots : Vector α N
  head_lt : head < N
  tail_lt : tail < N

namespace Ring

variable {α : Type*} {N : ℕ}

/-! ### Indices -/

/-- A sum of two indices wraps at most once. -/
theorem add_mod_eq {a b : ℕ} (ha : a < N) (hb : b < N) :
    (a + b) % N = if a + b < N then a + b else a + b - N := by
  split_ifs with h
  · exact Nat.mod_eq_of_lt h
  · rw [Nat.mod_eq_sub_mod (by omega), Nat.mod_eq_of_lt (by omega)]

/-- The index after `k`, wrapping. -/
def next (N k : ℕ) : ℕ := (k + 1) % N

/-- The next index, by a comparison. -/
theorem next_eq {k : ℕ} (hk : k < N) : next N k = if k + 1 < N then k + 1 else 0 := by
  unfold next
  split_ifs with h
  · exact Nat.mod_eq_of_lt h
  · have hkN : k + 1 = N := by omega
    rw [hkN, Nat.mod_self]

/-- The next index is in range. -/
theorem next_lt {k : ℕ} (hk : k < N) : next N k < N := Nat.mod_lt _ (by omega)

/-- Different indices have different next ones. -/
theorem next_inj {k l : ℕ} (hk : k < N) (hl : l < N) : next N k = next N l ↔ k = l := by
  constructor
  · intro heq
    rw [next_eq hk, next_eq hl] at heq
    split_ifs at heq <;> omega
  · intro heq
    rw [heq]

/-- The number of waiting elements. -/
def count (r : Ring α N) : ℕ := (r.head + (N - r.tail)) % N

/-- The number of elements, by a comparison. -/
theorem count_eq (r : Ring α N) :
    r.count = if r.tail ≤ r.head then r.head - r.tail else r.head + N - r.tail := by
  have hh := r.head_lt
  have ht := r.tail_lt
  unfold count
  split_ifs with h
  · rw [Nat.mod_eq_sub_mod (by omega), Nat.mod_eq_of_lt (by omega)]
    omega
  · rw [Nat.mod_eq_of_lt (by omega)]
    omega

/-- One place always stays free. -/
theorem count_lt (r : Ring α N) : r.count < N :=
  Nat.mod_lt _ (by have := r.head_lt; omega)

/-- The slot of the `i`-th waiting element. -/
def slotIndex (r : Ring α N) (i : ℕ) : ℕ := (r.tail + i) % N

/-- The places of the elements are in range. -/
theorem slotIndex_lt (r : Ring α N) (i : ℕ) : r.slotIndex i < N :=
  Nat.mod_lt _ (by have := r.head_lt; omega)

/-! ### The queue a ring stands for -/

/-- The waiting elements, oldest first. -/
def contents (r : Ring α N) : List α :=
  List.ofFn fun i : Fin r.count => getElem r.slots (r.slotIndex i) (r.slotIndex_lt i)

/-- The contents are as many as the ring counts. -/
@[simp] theorem length_contents (r : Ring α N) : r.contents.length = r.count := by
  simp [contents]

/-- An element by its place. -/
theorem getElem_contents (r : Ring α N) {i : ℕ} (hi : i < r.contents.length) :
    r.contents[i] = getElem r.slots (r.slotIndex i) (r.slotIndex_lt i) := by
  simp [contents]

/-- The producer's end: write the slot at `head` and advance, unless the ring is full. -/
def push (r : Ring α N) (x : α) : Option (Ring α N) :=
  if next N r.head = r.tail then none
  else some
    { head := next N r.head
      tail := r.tail
      slots := r.slots.set r.head x r.head_lt
      head_lt := next_lt r.head_lt
      tail_lt := r.tail_lt }

/-- The consumer's end: read the slot at `tail` and advance, unless the ring is empty. -/
def pop (r : Ring α N) : Option (α × Ring α N) :=
  if r.tail = r.head then none
  else some
    (getElem r.slots r.tail r.tail_lt,
      { head := r.head
        tail := next N r.tail
        slots := r.slots
        head_lt := r.head_lt
        tail_lt := next_lt r.tail_lt })

/-- A push is refused exactly when all but one slot are taken. -/
theorem push_eq_none_iff (r : Ring α N) (x : α) :
    r.push x = none ↔ r.contents.length = N - 1 := by
  have hh := r.head_lt
  have ht := r.tail_lt
  have hfull : next N r.head = r.tail ↔ r.count = N - 1 := by
    rw [next_eq hh, count_eq]
    split_ifs <;> omega
  rw [length_contents, ← hfull]
  unfold push
  split_ifs with h <;> simp [h]

/-- What a push that is not refused writes. -/
theorem push_eq_some {r r' : Ring α N} {x : α} (h : r.push x = some r') :
    next N r.head ≠ r.tail ∧ r'.head = next N r.head ∧ r'.tail = r.tail ∧
      r'.slots = r.slots.set r.head x r.head_lt := by
  unfold push at h
  split_ifs at h with hfull
  obtain rfl := Option.some.inj h
  exact ⟨hfull, rfl, rfl, rfl⟩

/-- A push adds one element. -/
theorem count_push {r r' : Ring α N} {x : α} (h : r.push x = some r') :
    r'.count = r.count + 1 := by
  obtain ⟨hfull, hhead, htail, -⟩ := push_eq_some h
  have hh := r.head_lt
  have ht := r.tail_lt
  rw [next_eq hh] at hfull
  rw [count_eq, count_eq, hhead, htail, next_eq hh]
  split_ifs at hfull ⊢ <;> omega

/-- **A push appends**: the waiting elements stay, and `x` comes last. -/
theorem contents_push {r r' : Ring α N} {x : α} (h : r.push x = some r') :
    r'.contents = r.contents ++ [x] := by
  have hcount' := count_push h
  obtain ⟨-, -, htail, hslots⟩ := push_eq_some h
  have hh := r.head_lt
  have ht := r.tail_lt
  have hcount := r.count_eq
  apply List.ext_getElem (by simp [hcount'])
  intro i hi _
  have hi' : i < r.count + 1 := by simpa [hcount'] using hi
  rw [getElem_contents]
  simp only [slotIndex, htail, hslots]
  by_cases hlast : i < r.count
  · -- an older element: its slot is not the one at `head`
    rw [List.getElem_append_left (by simpa using hlast), getElem_contents]
    have hi_lt : i < N := lt_trans hlast r.count_lt
    have hne : r.head ≠ (r.tail + i) % N := by
      rw [add_mod_eq ht hi_lt]
      split_ifs at hcount ⊢ <;> omega
    exact Vector.getElem_set_ne _ _ hne
  · obtain rfl : i = r.count := by omega
    have hslot : (r.tail + r.count) % N = r.head := by
      rw [add_mod_eq ht r.count_lt]
      split_ifs at hcount ⊢ <;> omega
    simp [hslot]

/-- The slot at `head` is free: what is written there does not change the queue. -/
theorem contents_set_head (r : Ring α N) (x : α) :
    { r with slots := r.slots.set r.head x r.head_lt }.contents = r.contents := by
  have hh := r.head_lt
  have ht := r.tail_lt
  have hcount := r.count_eq
  apply List.ext_getElem (by simp [count])
  intro i hi hi'
  have hlast : i < r.count := by simpa using hi'
  have hne : r.head ≠ (r.tail + i) % N := by
    rw [add_mod_eq ht (lt_trans hlast r.count_lt)]
    split_ifs at hcount ⊢ <;> omega
  rw [getElem_contents, getElem_contents]
  exact Vector.getElem_set_ne hh _ hne

/-- What a pop that finds an element reads and writes. -/
theorem pop_eq_some {r r' : Ring α N} {x : α} (h : r.pop = some (x, r')) :
    r.tail ≠ r.head ∧ x = getElem r.slots r.tail r.tail_lt ∧ r'.head = r.head ∧
      r'.tail = next N r.tail ∧ r'.slots = r.slots := by
  unfold pop at h
  split_ifs at h with hempty
  obtain ⟨rfl, rfl⟩ := Prod.mk.inj (Option.some.inj h)
  exact ⟨hempty, rfl, rfl, rfl, rfl⟩

/-- A pop takes one element. -/
theorem count_pop {r r' : Ring α N} {x : α} (h : r.pop = some (x, r')) :
    r'.count + 1 = r.count := by
  obtain ⟨hempty, -, hhead, htail, -⟩ := pop_eq_some h
  have hh := r.head_lt
  have ht := r.tail_lt
  rw [count_eq, count_eq, hhead, htail, next_eq ht]
  split_ifs <;> omega

/-- **A pop takes the oldest**: the element read is the first waiting one, and the others stay. -/
theorem contents_pop {r r' : Ring α N} {x : α} (h : r.pop = some (x, r')) :
    r.contents = x :: r'.contents := by
  have hcount' := count_pop h
  obtain ⟨-, rfl, -, htail, hslots⟩ := pop_eq_some h
  have ht := r.tail_lt
  apply List.ext_getElem (by simp [← hcount'])
  intro i hi _
  have hi_lt : i < N := lt_trans (by simpa using hi) r.count_lt
  rw [getElem_contents]
  rcases i with _ | i
  · simp [slotIndex, Nat.mod_eq_of_lt ht]
  · rw [List.getElem_cons_succ, getElem_contents]
    have hslot : (next N r.tail + i) % N = (r.tail + (i + 1)) % N := by
      rw [add_mod_eq (next_lt ht) (by omega), add_mod_eq ht hi_lt, next_eq ht]
      split_ifs <;> omega
    simp only [slotIndex, htail, hslots, hslot]

end Ring

end SotifPlausibility.Found
