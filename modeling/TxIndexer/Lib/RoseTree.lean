import Mathlib.Data.List.Nodup
import Mathlib.Data.List.Perm.Basic

/-!
# Ordered trees and their two depth-first orders

Pre-order lists a node before its children; post-order lists it after them. Read as a tree of
nested calls, pre-order is the order in which the calls start and post-order the order in which
they end. The first node with a property is the same in both orders exactly when none of the nodes
above the first one left has it.
-/

namespace TxIndexer.Lib

/-- A node with a label and an ordered list of subtrees. -/
inductive RoseTree (α : Type) where
  | node (label : α) (children : List (RoseTree α))

namespace RoseTree

variable {α : Type}

mutual

/-- Labels in the order in which the nodes are entered. -/
def preorder : RoseTree α → List α
  | .node a cs => a :: preorderForest cs

def preorderForest : List (RoseTree α) → List α
  | [] => []
  | t :: ts => preorder t ++ preorderForest ts

end

mutual

/-- Labels in the order in which the nodes are left. -/
def postorder : RoseTree α → List α
  | .node a cs => postorderForest cs ++ [a]

def postorderForest : List (RoseTree α) → List α
  | [] => []
  | t :: ts => postorder t ++ postorderForest ts

end

mutual

/-- Every node with what hangs below it, in pre-order. -/
def subtrees : RoseTree α → List (RoseTree α)
  | .node a cs => .node a cs :: subtreesForest cs

def subtreesForest : List (RoseTree α) → List (RoseTree α)
  | [] => []
  | t :: ts => subtrees t ++ subtreesForest ts

end

/-- `b` labels a node strictly below a node labelled `a`. -/
def Below (t : RoseTree α) (a b : α) : Prop :=
  ∃ cs, .node a cs ∈ t.subtrees ∧ b ∈ preorderForest cs

/-- The same in a list of trees. -/
def BelowForest (ts : List (RoseTree α)) (a b : α) : Prop :=
  ∃ cs, .node a cs ∈ subtreesForest ts ∧ b ∈ preorderForest cs

theorem below_node {r a b : α} {ds : List (RoseTree α)} :
    Below (.node r ds) a b ↔ (a = r ∧ b ∈ preorderForest ds) ∨ BelowForest ds a b := by
  simp only [Below, BelowForest, subtrees, List.mem_cons, node.injEq]
  constructor
  · rintro ⟨cs, ⟨rfl, rfl⟩ | hsub, hb⟩
    · exact .inl ⟨rfl, hb⟩
    · exact .inr ⟨cs, hsub, hb⟩
  · rintro (⟨rfl, hb⟩ | ⟨cs, hsub, hb⟩)
    · exact ⟨ds, .inl ⟨rfl, rfl⟩, hb⟩
    · exact ⟨cs, .inr hsub, hb⟩

theorem not_belowForest_nil {a b : α} : ¬ BelowForest [] a b := by
  simp [BelowForest, subtreesForest]

theorem belowForest_cons {a b : α} {t : RoseTree α} {ts : List (RoseTree α)} :
    BelowForest (t :: ts) a b ↔ Below t a b ∨ BelowForest ts a b := by
  simp only [Below, BelowForest, subtreesForest, List.mem_append, or_and_right, exists_or]

mutual

theorem Below.mem {a b : α} : ∀ {t : RoseTree α}, Below t a b → b ∈ t.preorder
  | .node r ds, h => by
      rw [preorder]
      rcases below_node.mp h with ⟨-, hb⟩ | h
      · exact List.mem_cons_of_mem r hb
      · exact List.mem_cons_of_mem r h.mem

theorem BelowForest.mem {a b : α} : ∀ {ts : List (RoseTree α)}, BelowForest ts a b →
    b ∈ preorderForest ts
  | [], h => absurd h not_belowForest_nil
  | t :: ts, h => by
      rw [preorderForest, List.mem_append]
      exact (belowForest_cons.mp h).imp Below.mem BelowForest.mem

end

mutual

/-- Pair each label with its pre-order position, counting from `n`. -/
def number (n : Nat) : RoseTree α → RoseTree (α × Nat)
  | .node a cs => .node (a, n) (numberForest (n + 1) cs)

def numberForest (n : Nat) : List (RoseTree α) → List (RoseTree (α × Nat))
  | [] => []
  | t :: ts => number n t :: numberForest (n + (preorder t).length) ts

end

mutual

theorem postorder_perm : ∀ t : RoseTree α, t.postorder.Perm t.preorder
  | .node a cs => by
      rw [postorder, preorder]
      exact (List.perm_append_singleton a _).trans ((postorderForest_perm cs).cons a)

theorem postorderForest_perm :
    ∀ ts : List (RoseTree α), (postorderForest ts).Perm (preorderForest ts)
  | [] => .refl _
  | t :: ts => by
      rw [postorderForest, preorderForest]
      exact (postorder_perm t).append (postorderForest_perm ts)

end

mutual

/-- Numbering leaves the pre-order list in place and counts it. -/
theorem preorder_number : ∀ (n : Nat) (t : RoseTree α),
    (number n t).preorder = t.preorder.zipIdx n
  | n, .node a cs => by
      rw [number, preorder, preorder, List.zipIdx_cons, preorderForest_number (n + 1) cs]

theorem preorderForest_number : ∀ (n : Nat) (ts : List (RoseTree α)),
    preorderForest (numberForest n ts) = (preorderForest ts).zipIdx n
  | _, [] => rfl
  | n, t :: ts => by
      rw [numberForest, preorderForest, preorderForest, List.zipIdx_append,
        preorder_number n t, preorderForest_number _ ts]

end

/-- Distinct positions make the labels of a numbered tree distinct. -/
theorem nodup_preorder_number (n : Nat) (t : RoseTree α) : (number n t).preorder.Nodup := by
  rw [preorder_number]
  refine List.Nodup.of_map Prod.snd ?_
  rw [List.zipIdx_map_snd]
  exact List.nodup_range'

mutual

/-- With distinct labels, the first node satisfying `p` is the same in both orders exactly when
no node above the first one left satisfies it. -/
theorem find?_preorder_eq_postorder_iff (p : α → Bool) : ∀ t : RoseTree α, t.preorder.Nodup →
    (t.preorder.find? p = t.postorder.find? p ↔
      ∀ x, t.postorder.find? p = some x → ∀ a, Below t a x → p a = false)
  | .node r ds, hnodup => by
      rw [preorder, List.nodup_cons] at hnodup
      obtain ⟨hr, hnodup⟩ := hnodup
      rw [preorder, postorder, List.find?_append]
      by_cases hp : p r
      · rw [List.find?_cons_of_pos hp]
        cases hforest : (postorderForest ds).find? p with
        | none =>
            -- the root is the only candidate, and nothing is above it
            simp only [List.find?_cons_of_pos hp, Option.none_or, true_iff, Option.some.injEq]
            rintro x rfl a hbelow
            rcases below_node.mp hbelow with ⟨-, hmem⟩ | hbelow
            · exact absurd hmem hr
            · exact absurd hbelow.mem hr
        | some c =>
            have hc := (postorderForest_perm ds).mem_iff.mp (List.mem_of_find?_eq_some hforest)
            simp only [Option.some_or, Option.some.injEq]
            constructor
            · rintro rfl
              exact absurd hc hr
            · intro habove
              have hroot := habove c rfl r (below_node.mpr (.inl ⟨rfl, hc⟩))
              rw [hp] at hroot
              cases hroot
      · have hnone : [r].find? p = none := by simp [hp]
        rw [List.find?_cons_of_neg hp, hnone, Option.or_none,
          find?_preorderForest_eq_postorderForest_iff p ds hnodup]
        refine forall₂_congr fun x _ => forall_congr' fun a => ?_
        rw [below_node, or_imp]
        refine ⟨fun h => ⟨?_, h⟩, And.right⟩
        rintro ⟨rfl, -⟩
        simpa using hp

theorem find?_preorderForest_eq_postorderForest_iff (p : α → Bool) :
    ∀ ts : List (RoseTree α), (preorderForest ts).Nodup →
      ((preorderForest ts).find? p = (postorderForest ts).find? p ↔
        ∀ x, (postorderForest ts).find? p = some x → ∀ a, BelowForest ts a x → p a = false)
  | [], _ => by simp [preorderForest, postorderForest]
  | t :: ts, hnodup => by
      rw [preorderForest, List.nodup_append] at hnodup
      obtain ⟨ht, hts, hdisjoint⟩ := hnodup
      rw [preorderForest, postorderForest, List.find?_append, List.find?_append]
      simp only [belowForest_cons]
      cases hpost : (postorder t).find? p with
      | some c =>
          have hc := (postorder_perm t).mem_iff.mp (List.mem_of_find?_eq_some hpost)
          have hsome : ((preorder t).find? p).isSome := by
            rw [List.find?_isSome]
            exact ⟨c, hc, List.find?_some hpost⟩
          obtain ⟨b, hb⟩ := Option.isSome_iff_exists.mp hsome
          have ih := find?_preorder_eq_postorder_iff p t ht
          rw [hb, hpost] at ih
          rw [hb, Option.some_or, Option.some_or, ih]
          refine forall₂_congr fun x hx => forall_congr' fun a => ?_
          cases hx
          rw [or_imp]
          exact ⟨fun h => ⟨h, fun hbelow => absurd rfl (hdisjoint c hc c hbelow.mem)⟩, And.left⟩
      | none =>
          have hnone : (preorder t).find? p = none := by
            rw [List.find?_eq_none] at hpost ⊢
            exact fun x hx => hpost x ((postorder_perm t).mem_iff.mpr hx)
          rw [hnone, Option.none_or, Option.none_or,
            find?_preorderForest_eq_postorderForest_iff p ts hts]
          refine forall₂_congr fun x hx => forall_congr' fun a => ?_
          have hmem := (postorderForest_perm ts).mem_iff.mp (List.mem_of_find?_eq_some hx)
          rw [or_imp]
          exact ⟨fun h => ⟨fun hbelow => absurd rfl (hdisjoint x hbelow.mem x hmem), h⟩, And.right⟩

end

mutual

/-- A subtree's label occurs in the tree. -/
theorem label_mem_of_mem_subtrees {a : α} {cs : List (RoseTree α)} :
    ∀ t : RoseTree α, .node a cs ∈ t.subtrees → a ∈ t.preorder
  | .node b ds, h => by
      rw [subtrees, List.mem_cons] at h
      rw [preorder, List.mem_cons]
      rcases h with h | h
      · cases h; exact .inl rfl
      · exact .inr (label_mem_of_mem_subtreesForest ds h)

theorem label_mem_of_mem_subtreesForest {a : α} {cs : List (RoseTree α)} :
    ∀ ts : List (RoseTree α), .node a cs ∈ subtreesForest ts → a ∈ preorderForest ts
  | [], h => by simp [subtreesForest] at h
  | t :: ts, h => by
      rw [subtreesForest, List.mem_append] at h
      rw [preorderForest, List.mem_append]
      exact h.imp (label_mem_of_mem_subtrees t) (label_mem_of_mem_subtreesForest ts)

end

mutual

/-- The first node left among those satisfying `p` has none of them below it. -/
theorem first_left_none_below {p : α → Bool} {a : α} {cs : List (RoseTree α)} :
    ∀ t : RoseTree α, t.preorder.Nodup → t.postorder.find? p = some a →
      .node a cs ∈ t.subtrees → ∀ b ∈ preorderForest cs, p b = false
  | .node r ds, hnodup, hfind, hsub => by
      rw [preorder, List.nodup_cons] at hnodup
      obtain ⟨hr, hnodup⟩ := hnodup
      rw [postorder, List.find?_append] at hfind
      rw [subtrees, List.mem_cons] at hsub
      cases hforest : (postorderForest ds).find? p with
      | none =>
          rcases hsub with hsub | hsub
          · cases hsub
            intro b hb
            have := List.find?_eq_none.mp hforest b ((postorderForest_perm _).mem_iff.mpr hb)
            simpa using this
          · rw [hforest, Option.none_or] at hfind
            have har : a = r := by simpa using List.mem_of_find?_eq_some hfind
            exact absurd (har ▸ label_mem_of_mem_subtreesForest ds hsub) hr
      | some c =>
          rw [hforest, Option.some_or] at hfind
          cases hfind
          rcases hsub with hsub | hsub
          · cases hsub
            have hmem := List.mem_of_find?_eq_some hforest
            exact absurd ((postorderForest_perm _).mem_iff.mp hmem) hr
          · exact first_left_none_below_forest ds hnodup hforest hsub

theorem first_left_none_below_forest {p : α → Bool} {a : α} {cs : List (RoseTree α)} :
    ∀ ts : List (RoseTree α), (preorderForest ts).Nodup → (postorderForest ts).find? p = some a →
      .node a cs ∈ subtreesForest ts → ∀ b ∈ preorderForest cs, p b = false
  | [], _, _, hsub => by simp [subtreesForest] at hsub
  | t :: ts, hnodup, hfind, hsub => by
      rw [preorderForest, List.nodup_append] at hnodup
      obtain ⟨ht, hts, hdisj⟩ := hnodup
      rw [postorderForest, List.find?_append] at hfind
      rw [subtreesForest, List.mem_append] at hsub
      cases hhead : (postorder t).find? p with
      | none =>
          rw [hhead, Option.none_or] at hfind
          rcases hsub with hsub | hsub
          · have hmem := (postorderForest_perm ts).mem_iff.mp (List.mem_of_find?_eq_some hfind)
            exact absurd rfl (hdisj a (label_mem_of_mem_subtrees t hsub) a hmem)
          · exact first_left_none_below_forest ts hts hfind hsub
      | some c =>
          rw [hhead, Option.some_or] at hfind
          cases hfind
          rcases hsub with hsub | hsub
          · exact first_left_none_below t ht hhead hsub
          · have hmem := (postorder_perm t).mem_iff.mp (List.mem_of_find?_eq_some hhead)
            exact absurd rfl (hdisj a hmem a (label_mem_of_mem_subtreesForest ts hsub))

end

end RoseTree

end TxIndexer.Lib
