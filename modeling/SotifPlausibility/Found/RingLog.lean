import Mathlib.Data.List.TakeDrop
import Mathlib.Data.Vector.Basic
import Mathlib.Tactic.Common

/-!
# A ring that overwrites its oldest entry

A log of fixed size: an entry is written at `head`, which then moves on, and the oldest entry is
lost when the ring is full. It is read backwards from `head`.

* `RingLog α n` carries the bound of its index as a field. `RingLog.push` writes an entry,
  `RingLog.newest i` is the entry written `i` entries ago.
* `RingLog.Records as` — what the ring still has of the entries `as`, oldest first: the last `n` of
  them. It holds of no entries and `Records.push` keeps it.
* `Records.newest_map`: up to `n` entries, read backwards, are the last of `as`, newest first.
-/

namespace SotifPlausibility.Found

/-- A ring of `n` entries and the place of the next one. -/
structure RingLog (α : Type*) (n : ℕ) where
  entries : Vector α n
  head : ℕ
  head_lt : head < n

namespace RingLog

variable {α : Type*} {n : ℕ}

/-- A log has room for an entry. -/
theorem size_pos (log : RingLog α n) : 0 < n := Nat.zero_lt_of_lt log.head_lt

/-- Writes an entry and moves on, wrapping. -/
def push (log : RingLog α n) (a : α) : RingLog α n where
  entries := log.entries.set log.head a log.head_lt
  head := (log.head + 1) % n
  head_lt := Nat.mod_lt _ log.size_pos

/-- The place of the entry written `i` entries before the one at `head` is due. -/
def place (n head i : ℕ) : ℕ := (head + n - 1 - i) % n

/-- The entry written `i` entries ago. -/
def newest (log : RingLog α n) (i : ℕ) : α :=
  log.entries.get ⟨place n log.head i, Nat.mod_lt _ log.size_pos⟩

/-! ### Places -/

section places

variable {head : ℕ} (hhead : head < n)
include hhead

/-- The last entry is where the head was. -/
theorem place_succ_zero : place n ((head + 1) % n) 0 = head := by
  unfold place
  by_cases hwrap : head + 1 < n
  · have hsum : head + 1 + n - 1 - 0 = head + n := by omega
    rw [Nat.mod_eq_of_lt hwrap, hsum, Nat.add_mod_right, Nat.mod_eq_of_lt hhead]
  · have hend : head + 1 = n := by omega
    rw [hend, Nat.mod_self, Nat.mod_eq_of_lt (by omega)]
    omega

/-- One entry later, every entry is one further back. -/
theorem place_succ_succ {i : ℕ} (hi : i + 1 < n) :
    place n ((head + 1) % n) (i + 1) = place n head i := by
  unfold place
  by_cases hwrap : head + 1 < n
  · have hsum : head + 1 + n - 1 - (i + 1) = head + n - 1 - i := by omega
    rw [Nat.mod_eq_of_lt hwrap, hsum]
  · have hend : head + 1 = n := by omega
    have hsum : head + n - 1 - i = n - 1 - (i + 1) + n := by omega
    rw [hend, Nat.mod_self, hsum, Nat.add_mod_right, Nat.zero_add]

/-- The head is where no entry is looked for. -/
theorem place_ne_head {i : ℕ} (hi : i + 1 < n) : head ≠ place n head i := by
  unfold place
  by_cases hback : i + 1 ≤ head
  · have hsum : head + n - 1 - i = head - 1 - i + n := by omega
    rw [hsum, Nat.add_mod_right, Nat.mod_eq_of_lt (by omega)]
    omega
  · rw [Nat.mod_eq_of_lt (by omega)]
    omega

end places

/-! ### What is left of a sequence of entries -/

/-- The newest entry is the one pushed last. -/
theorem newest_push_zero (log : RingLog α n) (a : α) : (log.push a).newest 0 = a := by
  have hplace : place n (log.push a).head 0 = log.head := place_succ_zero log.head_lt
  unfold newest
  simp only [hplace]
  exact Vector.getElem_set_self log.head_lt

/-- The entries before it move back by one. -/
theorem newest_push_succ (log : RingLog α n) (a : α) {i : ℕ} (hi : i + 1 < n) :
    (log.push a).newest (i + 1) = log.newest i := by
  have hplace : place n (log.push a).head (i + 1) = place n log.head i :=
    place_succ_succ log.head_lt hi
  unfold newest
  simp only [hplace]
  exact Vector.getElem_set_ne log.head_lt _ (place_ne_head log.head_lt hi)

/-- The ring holds the last `n` of the entries `as`, which are listed oldest first. -/
def Records (log : RingLog α n) (as : List α) : Prop :=
  ∀ i < n, ∀ a, as.reverse[i]? = some a → log.newest i = a

/-- A ring records no entries, whatever is in it. -/
theorem records_nil (log : RingLog α n) : log.Records [] := by
  intro i _ a ha
  simp at ha

/-- **A write adds an entry** and loses none but the oldest. -/
theorem Records.push {log : RingLog α n} {as : List α} (h : log.Records as) (a : α) :
    (log.push a).Records (as ++ [a]) := by
  intro i hi b hb
  rw [List.reverse_append, List.reverse_singleton, List.singleton_append] at hb
  cases i with
  | zero =>
      rw [newest_push_zero]
      exact Option.some.inj hb
  | succ i =>
      rw [newest_push_succ log a hi]
      exact h i (by omega) b hb

/-- **The ring read backwards**: the last entries, newest first. -/
theorem Records.newest_map {log : RingLog α n} {as : List α} (h : log.Records as) {k : ℕ}
    (hn : k ≤ n) (hlen : k ≤ as.length) :
    (List.range k).map log.newest = as.reverse.take k := by
  apply List.ext_getElem?
  intro i
  by_cases hi : i < k
  · have hsome : i < as.reverse.length := by
      rw [List.length_reverse]
      omega
    rw [List.getElem?_map, List.getElem?_range hi, List.getElem?_take_of_lt hi,
      List.getElem?_eq_getElem hsome]
    exact congrArg some (h i (by omega) _ (List.getElem?_eq_getElem hsome))
  · rw [List.getElem?_eq_none (by simpa using hi), List.getElem?_eq_none (by simp; omega)]

end RingLog

end SotifPlausibility.Found
