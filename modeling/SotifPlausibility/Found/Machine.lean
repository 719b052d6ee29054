import Mathlib.Data.List.Chain
import Mathlib.Data.List.Induction
import Mathlib.Tactic.Common

/-!
# Machines with outputs and their histories

* `Machine σ ι ο` — a deterministic machine: a step reads an input in a state and gives an output
  and the next state. `Entry` is one step as it was taken, `Machine.history s is` the list of the
  steps of the run on the inputs `is` from `s`, oldest first, and `Machine.final s is` its last
  state.
* **The invariant rule** (`Machine.run_induction`): a relation between a history and the state it
  ends in that holds of the empty history and is kept by every step holds of every run. A safety
  property of a system is then one step lemma.
* **Splitting a run** (`Machine.history_eq_append_cons`): a split of the history is a split of the
  inputs, so a statement "whenever, in a run, a step does …" is a statement about the step taken
  from the state some prefix of the run ends in.
* **Components** (`Machine.final_component`): a part of the state that reads only some inputs is
  what those inputs make of it.
* `Machine.history_getElem?` — the steps of a run by position.
* **Two runs** (`Machine.map_history_eq_iff`): runs from two states on the same inputs are compared
  step by step.
* `filterMap_getElem?_eq_some` — where the `k`-th value read from a history comes from;
  `pairwise_concat_iff` — what keeps the values read in order.
* `AtEach P h` — every step of `h` meets `P`, which may look at the steps before it.
* `Since φ ψ h` — the past-time operator: `ψ` held at some step of `h` and `φ` at every step after
  it. `atEach_concat` and `since_concat` are their one-step unfoldings.
-/

namespace SotifPlausibility.Found

/-- A deterministic machine with outputs. -/
structure Machine (σ ι ο : Type*) where
  /-- One step: the output and the next state. -/
  step : σ → ι → ο × σ

/-- One step of a run as it was taken. -/
structure Entry (σ ι ο : Type*) where
  /-- The state the step was taken in. -/
  before : σ
  /-- The input it read. -/
  input : ι
  /-- The output it gave. -/
  output : ο
  /-- The state it left. -/
  after : σ

namespace Machine

variable {σ ι ο : Type*} (m : Machine σ ι ο)

/-- The step on `i` in `s`, as an entry of a history. -/
def entry (s : σ) (i : ι) : Entry σ ι ο := ⟨s, i, (m.step s i).1, (m.step s i).2⟩

@[simp] theorem entry_before (s : σ) (i : ι) : (m.entry s i).before = s := rfl

@[simp] theorem entry_input (s : σ) (i : ι) : (m.entry s i).input = i := rfl

@[simp] theorem entry_output (s : σ) (i : ι) : (m.entry s i).output = (m.step s i).1 := rfl

@[simp] theorem entry_after (s : σ) (i : ι) : (m.entry s i).after = (m.step s i).2 := rfl

/-- The state a run ends in. -/
def final (s : σ) : List ι → σ
  | [] => s
  | i :: is => final (m.step s i).2 is

/-- The steps of a run, oldest first. -/
def history (s : σ) : List ι → List (Entry σ ι ο)
  | [] => []
  | i :: is => m.entry s i :: history (m.step s i).2 is

@[simp] theorem final_nil (s : σ) : m.final s [] = s := rfl

@[simp] theorem history_nil (s : σ) : m.history s [] = [] := rfl

/-- A run in two parts ends where the second ends. -/
theorem final_append (s : σ) (is js : List ι) :
    m.final s (is ++ js) = m.final (m.final s is) js := by
  induction is generalizing s with
  | nil => rfl
  | cons i is ih => exact ih _

/-- The history of a run in two parts. -/
theorem history_append (s : σ) (is js : List ι) :
    m.history s (is ++ js) = m.history s is ++ m.history (m.final s is) js := by
  induction is generalizing s with
  | nil => rfl
  | cons i is ih => simp only [List.cons_append, history, final, ih]

/-- A run ends where its last step leads. -/
theorem final_concat (s : σ) (is : List ι) (i : ι) :
    m.final s (is ++ [i]) = (m.step (m.final s is) i).2 :=
  m.final_append s is [i]

/-- The history of a run by its last step. -/
theorem history_concat (s : σ) (is : List ι) (i : ι) :
    m.history s (is ++ [i]) = m.history s is ++ [m.entry (m.final s is) i] :=
  m.history_append s is [i]

/-- **The invariant rule.** A relation between histories and states that holds at the start and
that every step keeps holds of every run. -/
theorem run_induction {P : List (Entry σ ι ο) → σ → Prop} {s : σ} (start : P [] s)
    (step : ∀ h t i, P h t → P (h ++ [m.entry t i]) (m.step t i).2) (is : List ι) :
    P (m.history s is) (m.final s is) := by
  induction is using List.reverseRecOn with
  | nil => exact start
  | append_singleton is i ih =>
      rw [history_concat, final_concat]
      exact step _ _ _ ih

/-- The rule for a property of states alone. -/
theorem final_induction {P : σ → Prop} {s : σ} (start : P s)
    (step : ∀ t i, P t → P (m.step t i).2) (is : List ι) : P (m.final s is) :=
  m.run_induction (P := fun _ t => P t) start (fun _ t i h => step t i h) is

/-- **A component of a machine.** If, while `I` holds, the part `p` of the state changes only on the
inputs `read` lets through, as `f` says, then a run leaves the fold of `f` over these inputs. -/
theorem final_component {τ κ : Type*} {I : σ → Prop} {p : σ → τ} {read : ι → Option κ}
    {f : τ → κ → τ} (keep : ∀ t i, I t → I (m.step t i).2)
    (step : ∀ t i, I t → p (m.step t i).2 = (read i).elim (p t) (f (p t))) {s : σ} (start : I s)
    (is : List ι) : p (m.final s is) = (is.filterMap read).foldl f (p s) := by
  induction is generalizing s with
  | nil => rfl
  | cons i is ih =>
      rw [final, ih (keep s i start), step s i start]
      cases hread : read i with
      | none => rw [List.filterMap_cons_none hread, Option.elim_none]
      | some k => rw [List.filterMap_cons_some hread, List.foldl_cons, Option.elim_some]

/-- **A split of a history is a split of the inputs.** -/
theorem history_eq_append_cons {s : σ} {is : List ι} {pre post : List (Entry σ ι ο)}
    {e : Entry σ ι ο} (h : m.history s is = pre ++ e :: post) :
    ∃ is₁ i is₂, is = is₁ ++ i :: is₂ ∧ pre = m.history s is₁ ∧
      e = m.entry (m.final s is₁) i ∧ post = m.history (m.step (m.final s is₁) i).2 is₂ := by
  induction is generalizing s pre with
  | nil => simp at h
  | cons i is ih =>
      rw [history] at h
      rcases pre with _ | ⟨p, pre⟩
      · obtain ⟨rfl, rfl⟩ := List.cons.inj h
        exact ⟨[], i, is, rfl, rfl, rfl, rfl⟩
      · obtain ⟨rfl, htail⟩ := List.cons.inj h
        obtain ⟨is₁, j, is₂, rfl, rfl, rfl, rfl⟩ := ih htail
        exact ⟨i :: is₁, j, is₂, rfl, rfl, rfl, rfl⟩

/-- **The steps of a run by position**: each is taken from the state that the inputs before it lead
to. -/
theorem history_getElem? (s : σ) (is : List ι) (k : ℕ) :
    (m.history s is)[k]? = is[k]?.map (m.entry (m.final s (is.take k))) := by
  induction is generalizing s k with
  | nil => simp
  | cons i is ih =>
      cases k with
      | zero => rfl
      | succ k =>
          simp only [history, List.getElem?_cons_succ, List.take_succ_cons]
          exact ih _ k

/-- **Two runs on the same inputs show the same** exactly when each step of the one shows what the
step of the other on the same input does. -/
theorem map_history_eq_iff {β : Type*} (f : Entry σ ι ο → β) (s t : σ) (is : List ι) :
    (m.history s is).map f = (m.history t is).map f ↔
      ∀ pre i post, is = pre ++ i :: post →
        f (m.entry (m.final s pre) i) = f (m.entry (m.final t pre) i) := by
  induction is generalizing s t with
  | nil => simp
  | cons i is ih =>
      rw [history, history, List.map_cons, List.map_cons, List.cons.injEq, ih]
      constructor
      · rintro ⟨hhead, htail⟩ pre j post hsplit
        rcases pre with _ | ⟨p, pre⟩
        · obtain ⟨rfl, -⟩ := List.cons.inj hsplit
          exact hhead
        · obtain ⟨rfl, hrest⟩ := List.cons.inj hsplit
          exact htail pre j post hrest
      · intro h
        refine ⟨h [] i is rfl, ?_⟩
        intro pre j post hsplit
        exact h (i :: pre) j post (congrArg (i :: ·) hsplit)

end Machine

/-! ### Reading a history -/

section reading

variable {α β : Type*} (f : α → Option β)

/-- What a filter keeps of a history, by its last step. -/
theorem filterMap_concat (h : List α) (e : α) :
    (h ++ [e]).filterMap f = h.filterMap f ++ (f e).toList := by
  rw [List.filterMap_append]
  cases hf : f e <;> simp [hf]

/-- The last value read from a history is read at its last step, if that gives one, or before. -/
theorem getLast?_filterMap_concat (h : List α) (e : α) :
    ((h ++ [e]).filterMap f).getLast? = (f e).or (h.filterMap f).getLast? := by
  rw [filterMap_concat]
  cases f e <;> simp

/-- The `k`-th value read from a history is read at a step before which `k` values were read. -/
theorem filterMap_getElem?_eq_some {h : List α} {k : ℕ} {b : β}
    (hk : (h.filterMap f)[k]? = some b) :
    ∃ pre e post, h = pre ++ e :: post ∧ (pre.filterMap f).length = k ∧ f e = some b := by
  induction h using List.reverseRecOn with
  | nil => simp at hk
  | append_singleton h e ih =>
      rw [filterMap_concat] at hk
      by_cases hlt : k < (h.filterMap f).length
      · rw [List.getElem?_append_left hlt] at hk
        obtain ⟨pre, e', post, rfl, hlen, he'⟩ := ih hk
        exact ⟨pre, e', post ++ [e], by simp, hlen, he'⟩
      · rw [List.getElem?_append_right (Nat.not_lt.mp hlt)] at hk
        cases hf : f e with
        | none => simp [hf] at hk
        | some b' =>
            rw [hf] at hk
            obtain ⟨hzero, hb⟩ := List.getElem?_eq_some_iff.mp hk
            have hlen : k - (h.filterMap f).length = 0 := by simpa using hzero
            refine ⟨h, e, [], rfl, by omega, ?_⟩
            rw [hf]
            simpa [hlen] using hb

/-- Where a relation is transitive, a list extended by one value is ordered exactly when the list is
and the value comes after its last. -/
theorem pairwise_concat_iff {R : β → β → Prop} [Trans R R R] (l : List β) (b : β) :
    (l ++ [b]).Pairwise R ↔ l.Pairwise R ∧ ∀ a ∈ l.getLast?, R a b := by
  rw [← List.isChain_iff_pairwise, ← List.isChain_iff_pairwise, List.isChain_append]
  simp

end reading

/-! ### The past of a history -/

section past

variable {α : Type*} {P : List α → α → Prop} {φ ψ : α → Prop}

/-- Every point of `h`, with the points before it, satisfies `P`. -/
def AtEach (P : List α → α → Prop) (h : List α) : Prop :=
  ∀ pre e post, h = pre ++ e :: post → P pre e

/-- Nothing has to hold along an empty history. -/
theorem atEach_nil : AtEach P [] := by
  intro pre e post h
  simp at h

/-- A split of `h ++ [e]` is at its last point or a split of `h`. -/
theorem append_cons_eq_concat {h pre post : List α} {e f : α}
    (hsplit : h ++ [e] = pre ++ f :: post) :
    (pre = h ∧ f = e ∧ post = []) ∨ ∃ post', post = post' ++ [e] ∧ h = pre ++ f :: post' := by
  rcases List.eq_nil_or_concat post with rfl | ⟨post', g, rfl⟩
  · obtain ⟨rfl, hef⟩ := List.append_inj' hsplit rfl
    exact Or.inl ⟨rfl, (List.singleton_inj.mp hef).symm, rfl⟩
  · have hsplit' : h ++ [e] = (pre ++ f :: post') ++ [g] := by simpa using hsplit
    obtain ⟨rfl, heg⟩ := List.append_inj' hsplit' rfl
    obtain rfl := List.singleton_inj.mp heg
    exact Or.inr ⟨post', by simp, rfl⟩

/-- The one-step unfolding of `AtEach`. -/
theorem atEach_concat (h : List α) (e : α) : AtEach P (h ++ [e]) ↔ AtEach P h ∧ P h e := by
  constructor
  · intro hall
    refine ⟨fun pre f post hsplit => hall pre f (post ++ [e]) ?_, hall h e [] rfl⟩
    rw [hsplit, List.append_assoc, List.cons_append]
  · rintro ⟨hall, he⟩ pre f post hsplit
    rcases append_cons_eq_concat hsplit with ⟨rfl, rfl, -⟩ | ⟨post', -, rfl⟩
    · exact he
    · exact hall pre f post' rfl

/-- `ψ` held at some point of `h`, and `φ` at every point after it. -/
def Since (φ ψ : α → Prop) (h : List α) : Prop :=
  ∃ h₁ e h₂, h = h₁ ++ e :: h₂ ∧ ψ e ∧ ∀ f ∈ h₂, φ f

/-- The one-step unfolding of `Since`. -/
theorem since_concat (h : List α) (e : α) :
    Since φ ψ (h ++ [e]) ↔ ψ e ∨ (φ e ∧ Since φ ψ h) := by
  constructor
  · rintro ⟨h₁, f, h₂, hsplit, hf, hφ⟩
    rcases append_cons_eq_concat hsplit with ⟨rfl, rfl, -⟩ | ⟨h₂', rfl, rfl⟩
    · exact Or.inl hf
    · exact Or.inr ⟨hφ e (by simp), h₁, f, h₂', rfl, hf, fun k hk => hφ k (by simp [hk])⟩
  · rintro (he | ⟨he, h₁, f, h₂, rfl, hf, hφ⟩)
    · exact ⟨h, e, [], rfl, he, by simp⟩
    · refine ⟨h₁, f, h₂ ++ [e], by simp, hf, ?_⟩
      intro k hk
      rcases List.mem_append.mp hk with hk | hk
      · exact hφ k hk
      · rw [List.mem_singleton.mp hk]
        exact he

end past

end SotifPlausibility.Found
