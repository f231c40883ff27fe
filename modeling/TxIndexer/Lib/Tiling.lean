import Mathlib.Data.List.Range

/-!
# Tilings of an interval

A list of parts, each covering the numbers from its `first` to its `last`, tiles `[lo, hi)` when
each part begins where the one before it ended. What a tiling covers is then the interval itself,
in order and without repetition.
-/

namespace TxIndexer.Lib

variable {α : Type*} {first last : α → Nat} {lo mid hi : Nat} {xs ys : List α}

/-- `xs` tiles `[lo, hi)` with non-empty parts. -/
inductive Tiles (first last : α → Nat) : Nat → List α → Nat → Prop
  | nil (lo : Nat) : Tiles first last lo [] lo
  | cons {lo hi : Nat} {x : α} {xs : List α} (hfirst : first x = lo) (hle : lo ≤ last x)
      (htail : Tiles first last (last x + 1) xs hi) : Tiles first last lo (x :: xs) hi

namespace Tiles

theorem le (h : Tiles first last lo xs hi) : lo ≤ hi := by
  induction h with
  | nil lo => exact le_rfl
  | cons hfirst hle htail ih => omega

theorem append (h : Tiles first last lo xs mid) (h' : Tiles first last mid ys hi) :
    Tiles first last lo (xs ++ ys) hi := by
  induction h with
  | nil lo => exact h'
  | cons hfirst hle htail ih => exact .cons hfirst hle (ih h')

/-- The parts cover the interval, in order. -/
theorem flatMap_range' (h : Tiles first last lo xs hi) :
    (xs.flatMap fun x => List.range' (first x) (last x + 1 - first x)) =
      List.range' lo (hi - lo) := by
  induction h with
  | nil lo => rw [Nat.sub_self, List.flatMap_nil, List.range'_zero]
  | @cons lo hi x xs hfirst hle htail ih =>
      have hend := htail.le
      have hlast : lo + (last x + 1 - lo) = last x + 1 := by omega
      have hlength : last x + 1 - lo + (hi - (last x + 1)) = hi - lo := by omega
      rw [List.flatMap_cons, ih, hfirst, ← hlength, ← List.range'_append_1, hlast]

/-- The last part ends where the interval does. -/
theorem getLast? (h : Tiles first last lo xs hi) : ∀ x ∈ xs.getLast?, last x + 1 = hi := by
  induction h with
  | nil lo => nofun
  | @cons lo hi x xs hfirst hle htail ih =>
      cases xs with
      | nil =>
          cases htail
          rintro _ ⟨⟩
          rfl
      | cons y ys => exact ih

end Tiles

end TxIndexer.Lib
