import Mathlib.Data.List.Induction
import Mathlib.Tactic.Common

/-!
# Iterated hashing

A hash that reads its blocks one after the other, each into a chaining value of fixed size.

* `chain compress iv bs` — the chaining value after the blocks `bs`.
* `CollidesOn compress iv bs bs'` — two different inputs of the compression function with one
  output, met while `bs` and `bs'` are read: the collision is exhibited by the two runs, and the
  same blocks follow it in both.
* `chain_eq_iff_collidesOn` — **the reduction**: block lists of which neither is a suffix of the
  other collide exactly where the compression function does. A padding that ends in the length is
  free of suffixes.
-/

namespace SotifPlausibility.Found.MerkleDamgard

variable {σ β : Type*} (compress : σ → β → σ)

/-- The chaining value after some blocks. -/
def chain (iv : σ) (bs : List β) : σ := bs.foldl compress iv

/-- The compression function takes different inputs to one output, at blocks of the two lists that
the same blocks follow. -/
def CollidesOn (iv : σ) (bs bs' : List β) : Prop :=
  ∃ pre b pre' b' post, bs = pre ++ b :: post ∧ bs' = pre' ++ b' :: post ∧
    (chain compress iv pre, b) ≠ (chain compress iv pre', b') ∧
    compress (chain compress iv pre) b = compress (chain compress iv pre') b'

variable {compress} {iv : σ} {bs bs' : List β}

/-- One block more. -/
theorem chain_concat (bs : List β) (b : β) :
    chain compress iv (bs ++ [b]) = compress (chain compress iv bs) b := by
  rw [chain, List.foldl_append]
  rfl

/-- A collision stays one when the same block follows in both lists. -/
theorem CollidesOn.concat (h : CollidesOn compress iv bs bs') (c : β) :
    CollidesOn compress iv (bs ++ [c]) (bs' ++ [c]) := by
  obtain ⟨pre, b, pre', b', post, rfl, rfl, hne, heq⟩ := h
  exact ⟨pre, b, pre', b', post ++ [c], by simp, by simp, hne, heq⟩

/-- The same blocks after a collision keep it. -/
theorem CollidesOn.chain_eq (h : CollidesOn compress iv bs bs') :
    chain compress iv bs = chain compress iv bs' := by
  obtain ⟨pre, b, pre', b', post, rfl, rfl, -, heq⟩ := h
  have hsplit : ∀ pre b, chain compress iv (pre ++ b :: post) =
      post.foldl compress (compress (chain compress iv pre) b) := by
    intro pre b
    rw [chain, List.foldl_append, List.foldl_cons]
    rfl
  rw [hsplit, hsplit, heq]

/-- **Equal chains collide**, unless one list of blocks ends with the other. -/
theorem collidesOn_of_chain_eq (h : chain compress iv bs = chain compress iv bs')
    (hsuffix : ¬ bs <:+ bs') (hsuffix' : ¬ bs' <:+ bs) : CollidesOn compress iv bs bs' := by
  -- from the back: as long as the inputs agree, so do the outputs before them
  induction bs using List.reverseRecOn generalizing bs' with
  | nil => exact absurd List.nil_suffix hsuffix
  | append_singleton bs b ih =>
      rcases List.eq_nil_or_concat bs' with rfl | ⟨bs', b', rfl⟩
      · exact absurd List.nil_suffix hsuffix'
      rw [List.concat_eq_append] at h hsuffix hsuffix' ⊢
      rw [chain_concat, chain_concat] at h
      by_cases hinput : (chain compress iv bs, b) = (chain compress iv bs', b')
      · obtain ⟨hchain, rfl⟩ := Prod.mk.inj hinput
        apply CollidesOn.concat
        apply ih hchain
        · exact mt List.suffix_append_self_iff.mpr hsuffix
        · exact mt List.suffix_append_self_iff.mpr hsuffix'
      · exact ⟨bs, b, bs', b', [], rfl, rfl, hinput, h⟩

/-- **A collision of the hash is one of the compression function**, if neither list of blocks is a
suffix of the other. -/
theorem chain_eq_iff_collidesOn (hsuffix : ¬ bs <:+ bs') (hsuffix' : ¬ bs' <:+ bs) :
    chain compress iv bs = chain compress iv bs' ↔ CollidesOn compress iv bs bs' :=
  ⟨fun h => collidesOn_of_chain_eq h hsuffix hsuffix', CollidesOn.chain_eq⟩

end SotifPlausibility.Found.MerkleDamgard
