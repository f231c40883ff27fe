import Mathlib.Logic.Function.Basic

/-!
# Slots that hold at most one task

What the slots of a pool hold after one of them has changed, and that no two of them hold tasks
with one key.
-/

namespace TxIndexer.Lib

variable {ι β α κ : Type} [DecidableEq ι] [DecidableEq β] {slots : ι → Option α} {i j : ι}
  {next : Option α} {a : α} {key : α → κ}

/-- A slot holds what the changed one was given, or is another and holds what it did. -/
theorem slot_cases (h : Function.update slots i next j = some a) :
    (j = i ∧ next = some a) ∨ (j ≠ i ∧ slots j = some a) := by
  by_cases hji : j = i
  · subst hji
    rw [Function.update_self] at h
    exact .inl ⟨rfl, h⟩
  · rw [Function.update_of_ne hji] at h
    exact .inr ⟨hji, h⟩

/-- The slots of one part of the pool after one of them has changed. -/
theorem update_part (part : β → ι) (hpart : part.Injective) (b : β) (next : Option α) :
    (fun c => Function.update slots (part b) next (part c)) =
      Function.update (fun c => slots (part c)) b next :=
  Function.update_comp_eq_of_injective slots hpart b next

/-- No two slots hold tasks with one key. -/
def KeysApart (key : α → κ) (slots : ι → Option α) : Prop :=
  ∀ i j a b, slots i = some a → slots j = some b → key a = key b → i = j

/-- They stay apart when what comes in has a key that no other slot has. -/
theorem KeysApart.update (h : KeysApart key slots)
    (hnext : ∀ a, next = some a → ∀ j ≠ i, ∀ b, slots j = some b → key b ≠ key a) :
    KeysApart key (Function.update slots i next) := by
  intro j k a b ha hb hkey
  rcases slot_cases ha with ⟨hj, hnew⟩ | ⟨hj, hold⟩
  · rcases slot_cases hb with ⟨hk, -⟩ | ⟨hk, hold'⟩
    · rw [hj, hk]
    · exact absurd hkey.symm (hnext a hnew k hk b hold')
  · rcases slot_cases hb with ⟨-, hnew'⟩ | ⟨-, hold'⟩
    · exact absurd hkey (hnext b hnew' j hj a hold)
    · exact h j k a b hold hold' hkey

/-- A task may be replaced by one with its key. -/
theorem KeysApart.replace (h : KeysApart key slots) {a : α} (ha : slots i = some a)
    (hnext : ∀ b, next = some b → key b = key a) :
    KeysApart key (Function.update slots i next) := by
  apply h.update
  intro b hb j hj c hc heq
  rw [hnext b hb] at heq
  exact hj (h j i c a hc ha heq)

end TxIndexer.Lib
