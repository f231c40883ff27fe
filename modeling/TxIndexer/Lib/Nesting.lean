import Mathlib.Data.List.Basic

/-!
# Nested texts

A text with brackets and separators is split at the separators that stand outside of all brackets.
The depth is counted, whatever the brackets are. Where the brackets of each part match and its
separators are inside of them, splitting a joined text gives the parts back.
-/

namespace TxIndexer.Lib

variable {α : Type*}

/-- What an element does to the nesting. -/
inductive Mark where
  | opening
  | closing
  | separator
  | plain
  deriving DecidableEq, Repr

/-- The parts between the separators at depth 0, where `current` is the part so far. -/
def splitOuter (mark : α → Mark) (depth : Int) (current : List α) : List α → List (List α)
  | [] => [current]
  | x :: xs =>
      match mark x with
      | .opening => splitOuter mark (depth + 1) (current ++ [x]) xs
      | .closing => splitOuter mark (depth - 1) (current ++ [x]) xs
      | .separator =>
          if depth = 0 then current :: splitOuter mark depth [] xs
          else splitOuter mark depth (current ++ [x]) xs
      | .plain => splitOuter mark depth (current ++ [x]) xs

/-- The brackets of a text match. Outside of them, separators stand only where the text is itself
inside of brackets. -/
inductive Balanced (mark : α → Mark) : (inside : Bool) → List α → Prop
  | nil {inside : Bool} : Balanced mark inside []
  | plain {inside : Bool} {x : α} (hx : mark x = .plain) : Balanced mark inside [x]
  | separator {x : α} (hx : mark x = .separator) : Balanced mark true [x]
  | append {inside : Bool} {xs ys : List α} (hxs : Balanced mark inside xs)
      (hys : Balanced mark inside ys) : Balanced mark inside (xs ++ ys)
  | group {inside : Bool} {x y : α} {xs : List α} (hx : mark x = .opening)
      (hy : mark y = .closing) (hxs : Balanced mark true xs) :
      Balanced mark inside (x :: (xs ++ [y]))

variable {mark : α → Mark} {inside : Bool} {depth : Int} {x s : α} {xs current rest : List α}
  {parts : List (List α)}

/-! ## One element -/

theorem splitOuter_opening (hx : mark x = .opening) :
    splitOuter mark depth current (x :: xs) =
      splitOuter mark (depth + 1) (current ++ [x]) xs := by
  rw [splitOuter, hx]

theorem splitOuter_closing (hx : mark x = .closing) :
    splitOuter mark depth current (x :: xs) =
      splitOuter mark (depth - 1) (current ++ [x]) xs := by
  rw [splitOuter, hx]

theorem splitOuter_plain (hx : mark x = .plain) :
    splitOuter mark depth current (x :: xs) = splitOuter mark depth (current ++ [x]) xs := by
  rw [splitOuter, hx]

/-- A separator inside of brackets. -/
theorem splitOuter_inner (hx : mark x = .separator) (hdepth : depth ≠ 0) :
    splitOuter mark depth current (x :: xs) = splitOuter mark depth (current ++ [x]) xs := by
  rw [splitOuter, hx]
  exact if_neg hdepth

/-- A separator outside of all brackets. -/
theorem splitOuter_outer (hx : mark x = .separator) :
    splitOuter mark 0 current (x :: xs) = current :: splitOuter mark 0 [] xs := by
  rw [splitOuter, hx]
  exact if_pos rfl

/-! ## Balanced texts -/

namespace Balanced

/-- A text of plain elements. -/
theorem of_plain (h : ∀ x ∈ xs, mark x = .plain) : Balanced mark inside xs := by
  induction xs with
  | nil => exact .nil
  | cons x xs ih =>
      obtain ⟨hx, hxs⟩ := List.forall_mem_cons.mp h
      exact .append (.plain hx) (ih hxs)

/-- Inside of brackets all that is balanced outside of them is balanced. -/
theorem inner (h : Balanced mark inside xs) : Balanced mark true xs := by
  induction h with
  | nil => exact .nil
  | plain hx => exact .plain hx
  | separator hx => exact .separator hx
  | append hxs hys ihxs ihys => exact .append ihxs ihys
  | group hx hy hxs ih => exact .group hx hy hxs

/-- Balanced parts with separators between them, for the inside of brackets. -/
theorem intercalate (hs : mark s = .separator) (h : ∀ p ∈ parts, Balanced mark inside p) :
    Balanced mark true ([s].intercalate parts) := by
  induction parts with
  | nil => exact .nil
  | cons p parts ih =>
      obtain ⟨hp, hparts⟩ := List.forall_mem_cons.mp h
      cases parts with
      | nil =>
          rw [List.intercalate_singleton]
          exact hp.inner
      | cons q parts =>
          rw [List.intercalate_cons_cons]
          exact .append (.append hp.inner (.separator hs)) (ih hparts)

/-- A balanced text is passed over: the depth never falls below the one it starts at, which the
text comes back to, and a separator of it is met at a positive depth. -/
theorem splitOuter_append (h : Balanced mark inside xs) (hdepth : 0 ≤ depth)
    (hinside : inside = true → 0 < depth) (current rest : List α) :
    splitOuter mark depth current (xs ++ rest) = splitOuter mark depth (current ++ xs) rest := by
  induction h generalizing depth current rest with
  | nil => rw [List.nil_append, List.append_nil]
  | plain hx => exact splitOuter_plain hx
  | separator hx => exact splitOuter_inner hx (Int.ne_of_gt (hinside rfl))
  | append hxs hys ihxs ihys =>
      rw [List.append_assoc, ihxs hdepth hinside, ihys hdepth hinside, List.append_assoc]
  | @group inside x y xs hx hy hxs ih =>
      have hdeeper : 0 < depth + 1 := by omega
      rw [List.cons_append, splitOuter_opening hx, List.append_assoc,
        ih (Int.le_of_lt hdeeper) fun _ => hdeeper, List.singleton_append, splitOuter_closing hy,
        Int.add_sub_cancel, List.append_assoc, List.append_assoc, List.singleton_append]

end Balanced

/-- What holds of the separator and in every part holds in the joined text. -/
theorem forall_mem_intercalate {p : α → Prop} (hs : p s) (h : ∀ xs ∈ parts, ∀ x ∈ xs, p x) :
    ∀ x ∈ [s].intercalate parts, p x := by
  induction parts with
  | nil => nofun
  | cons xs parts ih =>
      obtain ⟨hxs, hparts⟩ := List.forall_mem_cons.mp h
      cases parts with
      | nil => rwa [List.intercalate_singleton]
      | cons ys parts =>
          rw [List.intercalate_cons_cons, List.forall_mem_append, List.forall_mem_append,
            List.forall_mem_singleton]
          exact ⟨⟨hxs, hs⟩, ih hparts⟩

/-- Splitting undoes joining. -/
theorem splitOuter_intercalate (hs : mark s = .separator)
    (h : ∀ p ∈ parts, Balanced mark false p) (hne : parts ≠ []) :
    splitOuter mark 0 [] ([s].intercalate parts) = parts := by
  induction parts with
  | nil => exact absurd rfl hne
  | cons p parts ih =>
      obtain ⟨hp, hparts⟩ := List.forall_mem_cons.mp h
      have hpass := hp.splitOuter_append (Int.le_refl 0) nofun []
      cases parts with
      | nil =>
          rw [List.intercalate_singleton, ← List.append_nil p, hpass, List.append_nil]
          rfl
      | cons q parts =>
          rw [List.intercalate_cons_cons, List.append_assoc, hpass, List.nil_append,
            List.singleton_append, splitOuter_outer hs, ih hparts (List.cons_ne_nil q parts)]

end TxIndexer.Lib
