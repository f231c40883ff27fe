import Mathlib.Logic.Relation

/-!
# Guarded runs of a labelled transition system

A system is a relation `step : σ → ℓ → σ → Prop`: the label names what happened and carries
the choices of the environment. A guard restricts a run to the steps that meet a condition on
the state before, the label and the state after; the unguarded system is the guard `anyStep`.
Runs are the reflexive transitive closure, so Mathlib's `Relation.ReflTransGen` supplies
composition and induction.
-/

namespace TxIndexer.Lib

variable {σ ℓ : Type*} {step : σ → ℓ → σ → Prop} {guard guard' : σ → ℓ → σ → Prop}

/-- One step whose label and end states meet `guard`. -/
def GuardedStep (step guard : σ → ℓ → σ → Prop) (s s' : σ) : Prop :=
  ∃ l, step s l s' ∧ guard s l s'

/-- The guard every step meets. -/
def anyStep (_ : σ) (_ : ℓ) (_ : σ) : Prop := True

/-- `s'` is reached from `s` by a run all of whose steps meet `guard`. -/
abbrev Reaches (step guard : σ → ℓ → σ → Prop) : σ → σ → Prop :=
  Relation.ReflTransGen (GuardedStep step guard)

/-- A property that each guarded step preserves holds in every state a guarded run reaches. -/
theorem Reaches.invariant {P : σ → Prop}
    (hstep : ∀ s l s', P s → step s l s' → guard s l s' → P s')
    {s s' : σ} (h : Reaches step guard s s') (h0 : P s) : P s' := by
  induction h with
  | refl => exact h0
  | tail _ hs ih =>
      obtain ⟨l, hl, hg⟩ := hs
      exact hstep _ l _ ih hl hg

/-- A run of steps that meet a strong guard is a run of steps that meet a weaker one. -/
theorem Reaches.mono (hguard : ∀ s l s', guard s l s' → guard' s l s') {s s' : σ}
    (h : Reaches step guard s s') : Reaches step guard' s s' :=
  Relation.ReflTransGen.mono (fun _ _ ⟨l, hl, hg⟩ => ⟨l, hl, hguard _ l _ hg⟩) _ _ h

/-- Where an invariant turns one guard into another, a run under the first is one under the
second. -/
theorem Reaches.change_guard {P : σ → Prop}
    (hstep : ∀ s l s', P s → step s l s' → guard s l s' → P s' ∧ guard' s l s')
    {s s' : σ} (h : Reaches step guard s s') (h0 : P s) : Reaches step guard' s s' ∧ P s' := by
  induction h with
  | refl => exact ⟨.refl, h0⟩
  | tail _ hs ih =>
      obtain ⟨l, hl, hg⟩ := hs
      obtain ⟨hP, hg'⟩ := hstep _ l _ ih.2 hl hg
      exact ⟨ih.1.tail ⟨l, hl, hg'⟩, hP⟩

/-- Prepend one guarded step to a run. -/
theorem Reaches.cons {s s₁ s' : σ} (l : ℓ) (hl : step s l s₁) (hg : guard s l s₁)
    (h : Reaches step guard s₁ s') : Reaches step guard s s' :=
  Relation.ReflTransGen.head ⟨l, hl, hg⟩ h

end TxIndexer.Lib
