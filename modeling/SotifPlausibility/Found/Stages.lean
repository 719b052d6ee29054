import Mathlib.Data.List.Basic
import Mathlib.Tactic.Common

/-!
# Staged procedures

A procedure that goes through stages in order. A stage makes a call or none, and has a condition;
at the first stage whose condition fails the procedure stops with the reason of that stage.

* `Stage κ ρ` — the call, the condition and the reason.
* `Passes` — all stages were gone through; `Stops` — one of them failed; `Follows` — one or the
  other, with the value of success.
* **Composition**: stages in sequence are gone through one after the other (`Passes.append_follows`,
  `Stops.append_follows`).
* `Follows.isPrefix`: the calls are a prefix of those of the stages.
* `Stops.exists_last`: only the last call of a stop can belong to a stage that failed.
* `Follows.tail`: a stage that is known to hold once its call is made is gone through.
-/

namespace SotifPlausibility.Found

variable {κ ρ : Type*}

/-- A stage: the call it makes, its condition, and the reason it stops with. -/
structure Stage (κ ρ : Type*) where
  /-- The call, made before the condition is looked at. -/
  call : Option κ
  /-- The condition to go on. -/
  holds : Prop
  /-- The reason when it fails. -/
  reason : ρ

/-- The calls of a list of stages. -/
def callsOf (stages : List (Stage κ ρ)) : List κ := stages.filterMap (·.call)

/-- All stages are gone through. -/
def Passes (stages : List (Stage κ ρ)) (calls : List κ) : Prop :=
  (∀ st ∈ stages, st.holds) ∧ calls = callsOf stages

/-- The first stage that fails ends the procedure. -/
def Stops (stages : List (Stage κ ρ)) (calls : List κ) (v : ρ) : Prop :=
  ∃ pre st post, stages = pre ++ st :: post ∧ (∀ s ∈ pre, s.holds) ∧ ¬ st.holds ∧
    calls = callsOf (pre ++ [st]) ∧ v = st.reason

/-- All stages are gone through with success `ok`, or the first that fails gives its reason. -/
def Follows (ok : ρ) (stages : List (Stage κ ρ)) (calls : List κ) (v : ρ) : Prop :=
  (Passes stages calls ∧ v = ok) ∨ Stops stages calls v

section rules

variable {ok v : ρ} {st : Stage κ ρ} {stages stages' : List (Stage κ ρ)} {calls calls' : List κ}

/-- The calls of stages in two parts. -/
theorem callsOf_append : callsOf (stages ++ stages') = callsOf stages ++ callsOf stages' :=
  List.filterMap_append

/-- The calls of stages by the first. -/
theorem callsOf_cons : callsOf (st :: stages) = st.call.toList ++ callsOf stages := by
  unfold callsOf
  cases h : st.call <;> simp [h]

/-- The calls of stages are those of its members. -/
theorem mem_callsOf {c : κ} : c ∈ callsOf stages ↔ ∃ st ∈ stages, st.call = some c :=
  List.mem_filterMap

/-- No stages are passed without a call. -/
theorem passes_nil : Passes ([] : List (Stage κ ρ)) [] :=
  ⟨fun _ h => absurd h List.not_mem_nil, rfl⟩

/-- A stage that holds is passed with its call. -/
theorem passes_cons (h : st.holds) (hp : Passes stages calls) :
    Passes (st :: stages) (st.call.toList ++ calls) := by
  obtain ⟨hall, rfl⟩ := hp
  refine ⟨?_, callsOf_cons.symm⟩
  intro s hs
  rcases List.mem_cons.mp hs with rfl | hs
  · exact h
  · exact hall s hs

/-- A stage that fails stops the procedure. -/
theorem stops_cons_of_not (h : ¬ st.holds) : Stops (st :: stages) st.call.toList st.reason := by
  refine ⟨[], st, stages, rfl, fun _ hs => absurd hs List.not_mem_nil, h, ?_, rfl⟩
  rw [List.nil_append, callsOf_cons]
  exact (List.append_nil _).symm

/-- A stage that holds leaves the stop to the rest. -/
theorem stops_cons_of_holds (h : st.holds) (hs : Stops stages calls v) :
    Stops (st :: stages) (st.call.toList ++ calls) v := by
  obtain ⟨pre, st', post, rfl, hpre, hst', rfl, rfl⟩ := hs
  refine ⟨st :: pre, st', post, rfl, ?_, hst', ?_, rfl⟩
  · intro s hs
    rcases List.mem_cons.mp hs with rfl | hs
    · exact h
    · exact hpre s hs
  · rw [List.cons_append, callsOf_cons]

/-- **Stages in sequence**: after stages that pass, the rest decides. -/
theorem Passes.append_follows (hp : Passes stages calls) (hf : Follows ok stages' calls' v) :
    Follows ok (stages ++ stages') (calls ++ calls') v := by
  obtain ⟨hall, rfl⟩ := hp
  rcases hf with ⟨⟨hall', rfl⟩, rfl⟩ | ⟨pre, st, post, rfl, hpre, hst, rfl, rfl⟩
  · refine Or.inl ⟨⟨?_, callsOf_append.symm⟩, rfl⟩
    intro s hs
    rcases List.mem_append.mp hs with hs | hs
    · exact hall s hs
    · exact hall' s hs
  · refine Or.inr ⟨stages ++ pre, st, post, ?_, ?_, hst, ?_, rfl⟩
    · rw [List.append_assoc]
    · intro s hs
      rcases List.mem_append.mp hs with hs | hs
      · exact hall s hs
      · exact hpre s hs
    · rw [List.append_assoc, ← callsOf_append]

/-- A stop is not undone by further stages. -/
theorem Stops.append_follows (hs : Stops stages calls v) (stages' : List (Stage κ ρ)) :
    Follows ok (stages ++ stages') calls v := by
  obtain ⟨pre, st, post, rfl, hpre, hst, rfl, rfl⟩ := hs
  refine Or.inr ⟨pre, st, post ++ stages', ?_, hpre, hst, rfl, rfl⟩
  rw [List.append_assoc, List.cons_append]

/-- A stop has the reason of a stage that failed. -/
theorem Stops.exists_stage (hs : Stops stages calls v) :
    ∃ st ∈ stages, ¬ st.holds ∧ v = st.reason := by
  obtain ⟨pre, st, post, rfl, -, hst, -, rfl⟩ := hs
  exact ⟨st, by simp, hst, rfl⟩

/-- Every call of a list of stages that all hold belongs to a stage that holds. -/
theorem Passes.holds_of_mem (hp : Passes stages calls) :
    ∀ c ∈ calls, ∃ st ∈ stages, st.call = some c ∧ st.holds := by
  obtain ⟨hall, rfl⟩ := hp
  intro c hc
  obtain ⟨st, hst, hcall⟩ := mem_callsOf.mp hc
  exact ⟨st, hst, hcall, hall st hst⟩

/-- The call of the stage that failed, if it makes one, is the last; every earlier one belongs to a
stage that holds. -/
theorem Stops.exists_last (hs : Stops stages calls v) :
    ∃ st ∈ stages, ¬ st.holds ∧ v = st.reason ∧ ∃ earlier, calls = earlier ++ st.call.toList ∧
      ∀ c ∈ earlier, ∃ st' ∈ stages, st'.call = some c ∧ st'.holds := by
  obtain ⟨pre, st, post, rfl, hpre, hst, rfl, rfl⟩ := hs
  refine ⟨st, by simp, hst, rfl, callsOf pre, ?_, ?_⟩
  · rw [callsOf_append, callsOf_cons]
    exact congrArg _ (List.append_nil _)
  · intro c hc
    obtain ⟨st', hst', hcall⟩ := mem_callsOf.mp hc
    exact ⟨st', by simp [hst'], hcall, hpre st' hst'⟩

/-- A stage whose condition holds, once its call is known to be made, is gone through. -/
theorem Follows.tail {all : List κ} (hf : Follows ok (st :: stages) calls v) (hsub : calls ⊆ all)
    (h : (∀ c ∈ st.call, c ∈ all) → st.holds) :
    ∃ calls', calls' ⊆ all ∧ (∀ c ∈ st.call, c ∈ all) ∧ Follows ok stages calls' v := by
  rcases hf with ⟨⟨hall, rfl⟩, rfl⟩ | ⟨pre, st', post, hsplit, hpre, hst', rfl, rfl⟩
  · rw [callsOf_cons, List.append_subset] at hsub
    exact ⟨callsOf stages, hsub.2, fun c hc => hsub.1 (Option.mem_toList.mpr hc),
      Or.inl ⟨⟨fun s hs => hall s (by simp [hs]), rfl⟩, rfl⟩⟩
  · rcases pre with _ | ⟨s, pre⟩
    · obtain ⟨rfl, rfl⟩ := List.cons.inj hsplit
      rw [List.nil_append, callsOf_cons, List.append_subset] at hsub
      exact absurd (h fun c hc => hsub.1 (Option.mem_toList.mpr hc)) hst'
    · obtain ⟨rfl, rfl⟩ := List.cons.inj hsplit
      rw [List.cons_append, callsOf_cons, List.append_subset] at hsub
      exact ⟨callsOf (pre ++ [st']), hsub.2, fun c hc => hsub.1 (Option.mem_toList.mpr hc),
        Or.inr ⟨pre, st', post, rfl, fun s hs => hpre s (by simp [hs]), hst', rfl, rfl⟩⟩

/-- Without stages nothing goes wrong. -/
theorem Follows.eq_of_nil (hf : Follows ok ([] : List (Stage κ ρ)) calls v) : v = ok := by
  rcases hf with ⟨-, rfl⟩ | ⟨pre, st, post, hsplit, -⟩
  · rfl
  · simp at hsplit

/-- The calls made are the first ones of the stages. -/
theorem Follows.isPrefix (hf : Follows ok stages calls v) : calls <+: callsOf stages := by
  rcases hf with ⟨⟨-, rfl⟩, -⟩ | ⟨pre, st, post, rfl, -, -, rfl, -⟩
  · exact List.prefix_rfl
  · refine ⟨callsOf post, ?_⟩
    rw [← callsOf_append, List.append_assoc, List.singleton_append]

end rules

end SotifPlausibility.Found
