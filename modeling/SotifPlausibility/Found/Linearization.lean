import SotifPlausibility.Found.Machine

/-!
# Linearization

A system of concurrent calls against one that serves each call at once. A step of the system is one
access of one call; it gives an answer where it ends the call, and none elsewhere.

* `answers` — the answers of a history, oldest first.
* `Linearization m served` — a relation between the states of the two machines under which each call
  takes effect at the step that answers it: any other step of `m` is invisible to `served`, and an
  answer is the one `served` gives to the call.
* **The rule** (`Linearization.run`): the answers of every run of `m` are, in order, those of
  `served` to the calls they belong to, and the two end in related states. As a call takes effect at
  a step of its own, calls that do not overlap keep their order.
* `Countdown m` — a call under way that its own steps bring nearer to its end and no other step
  holds up. `Countdown.ends`: so many own steps end it, whatever is taken between them.
-/

namespace SotifPlausibility.Found

variable {σ τ ι κ ρ : Type*}

/-- The answers of a history, oldest first. -/
def answers (h : List (Entry σ ι (Option ρ))) : List ρ := h.filterMap (·.output)

/-- No step, no answer. -/
@[simp] theorem answers_nil : answers ([] : List (Entry σ ι (Option ρ))) = [] := rfl

/-- The answers of a history by its first step. -/
theorem answers_cons (e : Entry σ ι (Option ρ)) (h : List (Entry σ ι (Option ρ))) :
    answers (e :: h) = e.output.toList ++ answers h := by
  unfold answers
  cases hout : e.output <;> simp [hout]

/-- The answers of a history in two parts. -/
theorem answers_append (h h' : List (Entry σ ι (Option ρ))) :
    answers (h ++ h') = answers h ++ answers h' :=
  List.filterMap_append

/-- The answers of a history by its last step. -/
theorem answers_concat (h : List (Entry σ ι (Option ρ))) (e : Entry σ ι (Option ρ)) :
    answers (h ++ [e]) = answers h ++ e.output.toList :=
  filterMap_concat _ h e

/-- Each call of the system `m` takes effect in `served` at the step that answers it. -/
structure Linearization (m : Machine σ ι (Option ρ)) (served : Machine τ κ ρ) where
  /-- The call an answer belongs to. -/
  call : ρ → κ
  /-- The states that belong together. -/
  Rel : τ → σ → Prop
  /-- A step without an answer is invisible. -/
  silent : ∀ {t s i}, Rel t s → (m.step s i).1 = none → Rel t (m.step s i).2
  /-- A step with an answer serves its call. -/
  answer : ∀ {t s i r}, Rel t s → (m.step s i).1 = some r →
    (served.step t (call r)).1 = r ∧ Rel (served.step t (call r)).2 (m.step s i).2

namespace Linearization

variable {m : Machine σ ι (Option ρ)} {served : Machine τ κ ρ} (L : Linearization m served)

/-- The calls answered in a history, in the order they took effect. -/
def calls (h : List (Entry σ ι (Option ρ))) : List κ := (answers h).map L.call

/-- **The linearization rule.** The answers of a run are those of the calls served one by one. -/
theorem run {t : τ} {s : σ} (h : L.Rel t s) (is : List ι) :
    (served.history t (L.calls (m.history s is))).map (·.output) = answers (m.history s is) ∧
      L.Rel (served.final t (L.calls (m.history s is))) (m.final s is) := by
  induction is generalizing t s with
  | nil => exact ⟨rfl, h⟩
  | cons i is ih =>
      unfold calls
      rw [Machine.history, answers_cons, Machine.final, Machine.entry_output]
      cases hstep : (m.step s i).1 with
      | none => exact ih (L.silent h hstep)
      | some r =>
          obtain ⟨hanswer, hrel⟩ := L.answer h hstep
          obtain ⟨hrest, hfinal⟩ := ih hrel
          refine ⟨?_, hfinal⟩
          rw [Option.toList_some, List.singleton_append, List.map_cons, Machine.history,
            List.map_cons, Machine.entry_output, hanswer]
          exact congrArg (r :: ·) hrest

end Linearization

/-! ### Calls that nobody holds up -/

/-- A call under way that its own steps count down, and that no other step holds up. -/
structure Countdown {ο : Type*} (m : Machine σ ι ο) where
  /-- The call is under way. -/
  Busy : σ → Prop
  /-- The inputs that are its own steps. -/
  own : ι → Bool
  /-- The own steps it still takes at most. -/
  left : σ → ℕ
  /-- The outputs that end it. -/
  Ends : ο → Prop
  /-- The outputs that may come before. -/
  Quiet : ο → Prop
  /-- A call under way has a step to take. -/
  left_pos : ∀ {s}, Busy s → 0 < left s
  /-- An own step ends the call or brings it nearer to its end. -/
  step_own : ∀ {s i}, Busy s → own i = true → Ends (m.step s i).1 ∨
    (Quiet (m.step s i).1 ∧ Busy (m.step s i).2 ∧ left (m.step s i).2 < left s)
  /-- Any other step leaves it where it is. -/
  step_other : ∀ {s i}, Busy s → own i = false →
    Quiet (m.step s i).1 ∧ Busy (m.step s i).2 ∧ left (m.step s i).2 = left s

namespace Countdown

variable {ο : Type*} {m : Machine σ ι ο} (c : Countdown m)

/-- **The countdown rule.** So many own steps end the call, whatever is taken between them. -/
theorem ends {s : σ} (h : c.Busy s) {is : List ι} (hcount : c.left s ≤ is.countP c.own) :
    ∃ before e after, m.history s is = before ++ e :: after ∧ c.Ends e.output ∧
      ∀ f ∈ before, c.Quiet f.output := by
  induction is generalizing s with
  | nil =>
      have hpos := c.left_pos h
      rw [List.countP_nil] at hcount
      omega
  | cons i is ih =>
      -- once the call goes on after `i`, it ends in what follows
      have hrest : c.Quiet (m.step s i).1 → c.Busy (m.step s i).2 →
          c.left (m.step s i).2 ≤ is.countP c.own →
          ∃ before e after, m.history s (i :: is) = before ++ e :: after ∧ c.Ends e.output ∧
            ∀ f ∈ before, c.Quiet f.output := by
        intro hquiet hbusy hleft
        obtain ⟨before, e, after, hsplit, hends, hbefore⟩ := ih hbusy hleft
        refine ⟨m.entry s i :: before, e, after, ?_, hends, ?_⟩
        · rw [Machine.history, hsplit, List.cons_append]
        · intro f hf
          rcases List.mem_cons.mp hf with rfl | hf
          · exact hquiet
          · exact hbefore f hf
      cases hown : c.own i with
      | false =>
          obtain ⟨hquiet, hbusy, hleft⟩ := c.step_other h hown
          rw [List.countP_cons_of_neg (by simp [hown])] at hcount
          exact hrest hquiet hbusy (by omega)
      | true =>
          rcases c.step_own h hown with hends | ⟨hquiet, hbusy, hleft⟩
          · exact ⟨[], m.entry s i, m.history (m.step s i).2 is, rfl, hends, by simp⟩
          · rw [List.countP_cons_of_pos hown] at hcount
            exact hrest hquiet hbusy (by omega)

end Countdown

end SotifPlausibility.Found
