import Mathlib.Tactic.Common

/-!
# Ordered checks

A validator that tests one condition after the other and reports the first that fails.

* `Check ρ` — a condition and the reason reported when it fails.
* `Decides cs v` — the answer `v` (a flag and a reason) is that of the checks `cs`: all of them hold
  and the flag is set, or the flag is not set and the reason is that of the first one that fails
  (`FirstFailed`).
* **Composition** (`decides_append`): validators in sequence decide their checks one after the
  other. So a validator is specified by the list of its checks and proved check by check.
-/

namespace SotifPlausibility.Found

variable {ρ : Type*}

/-- A condition, and the reason it fails with. -/
structure Check (ρ : Type*) where
  /-- The condition. -/
  holds : Prop
  /-- The reason reported when it fails. -/
  reason : ρ

/-- Every check holds. -/
def AllHold (cs : List (Check ρ)) : Prop := ∀ k ∈ cs, k.holds

/-- The reason `r` is that of the first check that fails. -/
def FirstFailed (cs : List (Check ρ)) (r : ρ) : Prop :=
  ∃ pre k post, cs = pre ++ k :: post ∧ AllHold pre ∧ ¬ k.holds ∧ k.reason = r

/-- The answer `v` is that of the checks `cs`. -/
def Decides (cs : List (Check ρ)) (v : Bool × ρ) : Prop :=
  if v.1 = true then AllHold cs else FirstFailed cs v.2

/-- Where a check failed first, not all hold. -/
theorem FirstFailed.not_allHold {cs : List (Check ρ)} {r : ρ} (h : FirstFailed cs r) :
    ¬ AllHold cs := by
  obtain ⟨pre, k, post, rfl, -, hk, -⟩ := h
  intro hall
  exact hk (hall k (by simp))

section decides

variable {cs cs' : List (Check ρ)} {k : Check ρ} {v v' : Bool × ρ}

/-- No checks are passed. -/
theorem decides_nil (r : ρ) : Decides [] (true, r) := by
  intro k hk
  exact absurd hk List.not_mem_nil

/-- A check that fails decides the whole list. -/
theorem decides_cons_of_not (hk : ¬ k.holds) (cs : List (Check ρ)) :
    Decides (k :: cs) (false, k.reason) :=
  ⟨[], k, cs, rfl, fun _ hj => absurd hj List.not_mem_nil, hk, rfl⟩

/-- A check that holds leaves the decision to the rest. -/
theorem decides_cons_of_holds (hk : k.holds) (h : Decides cs v) : Decides (k :: cs) v := by
  unfold Decides at h ⊢
  split_ifs at h ⊢ with hv
  · intro j hj
    rcases List.mem_cons.mp hj with rfl | hj
    · exact hk
    · exact h j hj
  · obtain ⟨pre, l, post, rfl, hpre, hl, hr⟩ := h
    refine ⟨k :: pre, l, post, rfl, ?_, hl, hr⟩
    intro j hj
    rcases List.mem_cons.mp hj with rfl | hj
    · exact hk
    · exact hpre j hj

/-- **Validators in sequence** decide their checks one after the other. -/
theorem decides_append (h : Decides cs v) (h' : Decides cs' v') :
    Decides (cs ++ cs') (if v.1 = true then v' else (false, v.2)) := by
  by_cases hv : v.1 = true
  · rw [if_pos hv]
    have hall : AllHold cs := by
      unfold Decides at h
      rwa [if_pos hv] at h
    unfold Decides at h' ⊢
    split_ifs at h' ⊢ with hv'
    · intro j hj
      rcases List.mem_append.mp hj with hj | hj
      · exact hall j hj
      · exact h' j hj
    · obtain ⟨pre, k, post, rfl, hpre, hk, hr⟩ := h'
      refine ⟨cs ++ pre, k, post, by simp, ?_, hk, hr⟩
      intro j hj
      rcases List.mem_append.mp hj with hj | hj
      · exact hall j hj
      · exact hpre j hj
  · rw [if_neg hv]
    unfold Decides at h
    rw [if_neg hv] at h
    obtain ⟨pre, k, post, rfl, hpre, hk, hr⟩ := h
    exact ⟨pre, k, post ++ cs', by simp, hpre, hk, hr⟩

/-- The flag says whether every check holds. -/
theorem Decides.flag_iff (h : Decides cs v) : v.1 = true ↔ AllHold cs := by
  unfold Decides at h
  split_ifs at h with hv
  · constructor
    · intro _
      exact h
    · intro _
      exact hv
  · constructor
    · intro hv'
      exact absurd hv' hv
    · intro hall
      exact absurd hall h.not_allHold

/-- The reason of a failure is that of the first check that fails. -/
theorem Decides.firstFailed (h : Decides cs v) (hv : v.1 = false) : FirstFailed cs v.2 := by
  unfold Decides at h
  rwa [if_neg (by simp [hv])] at h

end decides

end SotifPlausibility.Found
