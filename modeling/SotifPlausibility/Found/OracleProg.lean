import Mathlib.Tactic.Common

/-!
# Programs that consult an oracle

Code that calls something it has no control over: a clock, a crypto accelerator, another party.

* `OracleProg Q R α` — a program that asks queries `q : Q`, gets replies in `R q`, and ends with a
  value of `α`. It is a monad.
* `Oracle Q R σ` — who answers: any function of the query and of a state of its own, so a faulty or
  adversarial one too. `Oracle.ofFun` answers the same query always alike.
* `OracleProg.run` — the value of a program under an oracle, with the log of its calls. `run_bind`
  is its rule for one program after another.
* `OracleProg.Yields p calls a` — with the replies of `calls`, the program makes exactly these calls
  and ends with `a`. It does not mention an oracle; every run is one (`yields_run`), so a fact about
  all that a program yields is a fact about its runs under any oracle.
* `yields_bind` — what a composed program yields.
-/

namespace SotifPlausibility.Found

universe u v

/-- A program that ends with a value, or asks a query and goes on with the reply. -/
inductive OracleProg (Q : Type v) (R : Q → Type u) (α : Type u) where
  | pure (a : α)
  | ask (q : Q) (next : R q → OracleProg Q R α)

/-- A call: what was asked and what was replied. -/
structure Call (Q : Type v) (R : Q → Type u) where
  query : Q
  reply : R query

/-- What answers the queries, with a state of its own. -/
structure Oracle (Q : Type v) (R : Q → Type u) (σ : Type u) where
  answer : σ → (q : Q) → R q × σ

/-- The oracle that answers by a function of the query. -/
def Oracle.ofFun {Q : Type v} {R : Q → Type u} (f : (q : Q) → R q) : Oracle Q R PUnit where
  answer _ q := (f q, ⟨⟩)

namespace OracleProg

variable {Q : Type v} {R : Q → Type u} {α β σ : Type u}

/-- One program after another. -/
def bind : OracleProg Q R α → (α → OracleProg Q R β) → OracleProg Q R β
  | .pure a, f => f a
  | .ask q next, f => .ask q fun r => (next r).bind f

instance : Monad (OracleProg Q R) where
  pure := .pure
  bind := OracleProg.bind

/-- The program of one call. -/
def call (q : Q) : OracleProg Q R (R q) := .ask q .pure

/-- The end of a run: the value, the calls made, oldest first, and the oracle's last state. -/
structure Ran (Q : Type v) (R : Q → Type u) (α σ : Type u) where
  value : α
  calls : List (Call Q R)
  oracle : σ

/-- Runs a program under an oracle. -/
def run (o : Oracle Q R σ) (s : σ) : OracleProg Q R α → Ran Q R α σ
  | .pure a => { value := a, calls := [], oracle := s }
  | .ask q next =>
      let reply := o.answer s q
      let rest := (next reply.1).run o reply.2
      { rest with calls := ⟨q, reply.1⟩ :: rest.calls }

section run

variable (o : Oracle Q R σ) (s : σ)

/-- A program that is done asks nothing. -/
theorem run_pure (a : α) :
    (Pure.pure a : OracleProg Q R α).run o s = { value := a, calls := [], oracle := s } := rfl

/-- A call asks once. -/
theorem run_call (q : Q) :
    (call q).run o s =
      { value := (o.answer s q).1, calls := [⟨q, (o.answer s q).1⟩], oracle := (o.answer s q).2 } :=
  rfl

/-- **A run of one program after another**: the second starts where the first ended. -/
theorem run_bind (p : OracleProg Q R α) (f : α → OracleProg Q R β) :
    (p >>= f).run o s =
      let ran := p.run o s
      let rest := (f ran.value).run o ran.oracle
      { rest with calls := ran.calls ++ rest.calls } := by
  show (p.bind f).run o s = _
  induction p generalizing s with
  | pure a => rfl
  | ask q next ih =>
      simp only [bind, run]
      rw [ih]
      rfl

end run

/-- With the replies of `calls` the program makes exactly `calls` and ends with `a`. -/
def Yields : OracleProg Q R α → List (Call Q R) → α → Prop
  | .pure b, calls, a => calls = [] ∧ a = b
  | .ask q next, calls, a => ∃ r rest, calls = ⟨q, r⟩ :: rest ∧ (next r).Yields rest a

section yields

variable {p : OracleProg Q R α} {f : α → OracleProg Q R β} {calls : List (Call Q R)}

/-- What a program that is done can do. -/
@[simp] theorem yields_pure {a b : α} :
    (Pure.pure b : OracleProg Q R α).Yields calls a ↔ calls = [] ∧ a = b := Iff.rfl

/-- What a call can do. -/
@[simp] theorem yields_call {q : Q} {r : R q} :
    (call q).Yields calls r ↔ calls = [⟨q, r⟩] := by
  constructor
  · rintro ⟨r', rest, rfl, rfl, rfl⟩
    rfl
  · rintro rfl
    exact ⟨r, [], rfl, rfl, rfl⟩

/-- **What a composed program yields.** -/
@[simp] theorem yields_bind {b : β} :
    (p >>= f).Yields calls b ↔
      ∃ a calls₁ calls₂, calls = calls₁ ++ calls₂ ∧ p.Yields calls₁ a ∧
        (f a).Yields calls₂ b := by
  show (p.bind f).Yields calls b ↔ _
  induction p generalizing calls with
  | pure a =>
      constructor
      · intro h
        exact ⟨a, [], calls, rfl, ⟨rfl, rfl⟩, h⟩
      · rintro ⟨a', calls₁, calls₂, rfl, ⟨rfl, rfl⟩, h⟩
        exact h
  | ask q next ih =>
      constructor
      · rintro ⟨r, rest, rfl, h⟩
        obtain ⟨a, calls₁, calls₂, rfl, hp, hf⟩ := (ih r).mp h
        exact ⟨a, ⟨q, r⟩ :: calls₁, calls₂, rfl, ⟨r, calls₁, rfl, hp⟩, hf⟩
      · rintro ⟨a, calls₁, calls₂, rfl, ⟨r, rest, rfl, hp⟩, hf⟩
        exact ⟨r, rest ++ calls₂, rfl, (ih r).mpr ⟨a, rest, calls₂, rfl, hp, hf⟩⟩

/-- A run yields its value with its calls. -/
theorem yields_run (p : OracleProg Q R α) (o : Oracle Q R σ) (s : σ) :
    p.Yields (p.run o s).calls (p.run o s).value := by
  induction p generalizing s with
  | pure a => exact ⟨rfl, rfl⟩
  | ask q next ih => exact ⟨_, _, rfl, ih _ _⟩

/-- What an oracle always guarantees of its replies holds of every call of a run. -/
theorem run_calls_of_answer {P : (q : Q) → R q → Prop} {o : Oracle Q R σ}
    (h : ∀ s q, P q (o.answer s q).1) (p : OracleProg Q R α) (s : σ) :
    ∀ c ∈ (p.run o s).calls, P c.query c.reply := by
  induction p generalizing s with
  | pure a =>
      intro c hc
      exact absurd hc List.not_mem_nil
  | ask q next ih =>
      intro c hc
      rcases List.mem_cons.mp hc with rfl | hc
      · exact h s q
      · exact ih _ _ c hc

end yields

end OracleProg

end SotifPlausibility.Found
