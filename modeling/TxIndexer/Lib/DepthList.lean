import TxIndexer.Lib.RoseTree
import Mathlib.Data.List.TakeWhile

/-!
# Trees as lists of labels with depths

The pre-order list of a tree whose labels carry their distance from the root determines the tree:
`rebuild` reads it back, from the right, by taking the deeper trees that follow a label as its
children. Every prefix of the list holds the parent of each node it holds.
-/

namespace TxIndexer.Lib

namespace RoseTree

variable {α β : Type}

def label : RoseTree α → α
  | .node a _ => a

mutual

/-- The same tree with other labels. -/
def map (f : α → β) : RoseTree α → RoseTree β
  | .node a cs => .node (f a) (mapForest f cs)

def mapForest (f : α → β) : List (RoseTree α) → List (RoseTree β)
  | [] => []
  | t :: ts => map f t :: mapForest f ts

end

mutual

/-- Pair each label with the distance of its node from the root, which is at distance `d`. -/
def withDepth (d : Nat) : RoseTree α → RoseTree (α × Nat)
  | .node a cs => .node (a, d) (withDepthForest (d + 1) cs)

def withDepthForest (d : Nat) : List (RoseTree α) → List (RoseTree (α × Nat))
  | [] => []
  | t :: ts => withDepth d t :: withDepthForest d ts

end

mutual

/-- The tree without the subtrees whose label fails `p`, as a list of at most one tree. -/
def prune (p : α → Bool) : RoseTree α → List (RoseTree α)
  | .node a cs => if p a then [.node a (pruneForest p cs)] else []

def pruneForest (p : α → Bool) : List (RoseTree α) → List (RoseTree α)
  | [] => []
  | t :: ts => prune p t ++ pruneForest p ts

end

mutual

theorem prune_eq_self {p : α → Bool} :
    ∀ {t : RoseTree α}, (∀ a ∈ t.preorder, p a) → t.prune p = [t]
  | .node a cs, h => by
      have hself : p a := h a (by rw [preorder]; exact List.mem_cons_self)
      have hbelow : ∀ b ∈ preorderForest cs, p b := fun b hb =>
        h b (by rw [preorder]; exact List.mem_cons_of_mem _ hb)
      rw [prune, if_pos hself, pruneForest_eq_self hbelow]

theorem pruneForest_eq_self {p : α → Bool} :
    ∀ {ts : List (RoseTree α)}, (∀ a ∈ preorderForest ts, p a) → pruneForest p ts = ts
  | [], _ => rfl
  | t :: ts, h => by
      have hfirst : ∀ a ∈ t.preorder, p a := fun a ha =>
        h a (by rw [preorderForest]; exact List.mem_append_left _ ha)
      have hrest : ∀ a ∈ preorderForest ts, p a := fun a ha =>
        h a (by rw [preorderForest]; exact List.mem_append_right _ ha)
      rw [pruneForest, prune_eq_self hfirst, pruneForest_eq_self hrest, List.singleton_append]

end

theorem mapForest_append (f : α → β) (ts us : List (RoseTree α)) :
    mapForest f (ts ++ us) = mapForest f ts ++ mapForest f us := by
  induction ts with
  | nil => rfl
  | cons t ts ih => rw [List.cons_append, mapForest, mapForest, ih, List.cons_append]

theorem withDepthForest_append (d : Nat) (ts us : List (RoseTree α)) :
    withDepthForest d (ts ++ us) = withDepthForest d ts ++ withDepthForest d us := by
  induction ts with
  | nil => rfl
  | cons t ts ih => rw [List.cons_append, withDepthForest, withDepthForest, ih, List.cons_append]

mutual

theorem preorder_map (f : α → β) : ∀ t : RoseTree α, (t.map f).preorder = t.preorder.map f
  | .node a cs => by
      rw [map, preorder, preorder, List.map_cons, preorderForest_map f cs]

theorem preorderForest_map (f : α → β) :
    ∀ ts : List (RoseTree α), preorderForest (mapForest f ts) = (preorderForest ts).map f
  | [] => rfl
  | t :: ts => by
      rw [mapForest, preorderForest, preorderForest, List.map_append, preorder_map f t,
        preorderForest_map f ts]

end

mutual

/-- Depths do not change which nodes there are, nor their order. -/
theorem preorder_withDepth_fst : ∀ (d : Nat) (t : RoseTree α),
    (t.withDepth d).preorder.map Prod.fst = t.preorder
  | d, .node a cs => by
      rw [withDepth, preorder, preorder, List.map_cons, preorderForest_withDepth_fst (d + 1) cs]

theorem preorderForest_withDepth_fst : ∀ (d : Nat) (ts : List (RoseTree α)),
    (preorderForest (withDepthForest d ts)).map Prod.fst = preorderForest ts
  | _, [] => rfl
  | d, t :: ts => by
      rw [withDepthForest, preorderForest, preorderForest, List.map_append,
        preorder_withDepth_fst d t, preorderForest_withDepth_fst d ts]

end

/-! ## Rebuilding a tree from its depths -/

section Rebuild

variable (depth : α → Int)

mutual

/-- `depth` gives each label the distance of its node from a root at distance `d`. -/
def Graded (d : Int) : RoseTree α → Prop
  | .node a cs => depth a = d ∧ GradedForest (d + 1) cs

def GradedForest (d : Int) : List (RoseTree α) → Prop
  | [] => True
  | t :: ts => Graded d t ∧ GradedForest d ts

end

/-- Put a label in front of the trees rebuilt from what follows it: the deeper ones are its
children. -/
def rebuildStep (a : α) (later : List (RoseTree α)) : List (RoseTree α) :=
  .node a (later.takeWhile fun t => depth a < depth t.label) ::
    later.dropWhile fun t => depth a < depth t.label

/-- The trees whose labels in pre-order are a list. -/
def rebuild (labels : List α) : List (RoseTree α) := labels.foldr (rebuildStep depth) []

variable {depth}

theorem Graded.depth_label {d : Int} : ∀ {t : RoseTree α}, Graded depth d t → depth t.label = d
  | .node _ _, h => h.1

theorem GradedForest.depth_label {d : Int} : ∀ {ts : List (RoseTree α)},
    GradedForest depth d ts → ∀ t ∈ ts, depth t.label = d
  | [], _, _, ht => absurd ht List.not_mem_nil
  | _ :: _, h, t, ht => by
      rcases List.mem_cons.mp ht with rfl | ht
      · exact h.1.depth_label
      · exact h.2.depth_label t ht

/-- Labels that follow leave a graded forest alone when the first tree they make is not deeper. -/
theorem rebuildStep_graded {d : Int} {a : α} {cs later : List (RoseTree α)} (ha : depth a = d)
    (hcs : GradedForest depth (d + 1) cs) (hlater : ∀ t ∈ later.head?, depth t.label ≤ d) :
    rebuildStep depth a (cs ++ later) = .node a cs :: later := by
  have hdeeper : ∀ t ∈ cs, decide (depth a < depth t.label) = true := by
    intro t ht
    rw [decide_eq_true_eq, hcs.depth_label t ht, ha]
    exact Int.lt_succ d
  have hnone : later.takeWhile (fun t => decide (depth a < depth t.label)) = [] ∧
      later.dropWhile (fun t => decide (depth a < depth t.label)) = later := by
    cases later with
    | nil => exact ⟨rfl, rfl⟩
    | cons t ts =>
        have hle : ¬ depth a < depth t.label := by
          rw [ha, Int.not_lt]
          exact hlater t rfl
        exact ⟨List.takeWhile_cons_of_neg (by simpa using hle),
          List.dropWhile_cons_of_neg (by simpa using hle)⟩
  rw [rebuildStep, List.takeWhile_append_of_pos hdeeper, List.dropWhile_append_of_pos hdeeper,
    hnone.1, hnone.2, List.append_nil]

mutual

/-- Rebuilding reads one graded tree off the front of a list. -/
theorem rebuild_preorder_append {d : Int} {rest : List α}
    (hrest : ∀ t ∈ (rebuild depth rest).head?, depth t.label ≤ d) :
    ∀ t : RoseTree α, Graded depth d t →
      rebuild depth (t.preorder ++ rest) = t :: rebuild depth rest
  | .node a cs, ⟨ha, hcs⟩ => by
      have hrest' : ∀ t ∈ (rebuild depth rest).head?, depth t.label ≤ d + 1 :=
        fun t ht => Int.le_trans (hrest t ht) (Int.le_of_lt (Int.lt_succ d))
      rw [preorder, List.cons_append, rebuild, List.foldr_cons, ← rebuild,
        rebuild_preorderForest_append hrest' cs hcs]
      exact rebuildStep_graded ha hcs hrest

theorem rebuild_preorderForest_append {d : Int} {rest : List α}
    (hrest : ∀ t ∈ (rebuild depth rest).head?, depth t.label ≤ d) :
    ∀ ts : List (RoseTree α), GradedForest depth d ts →
      rebuild depth (preorderForest ts ++ rest) = ts ++ rebuild depth rest
  | [], _ => rfl
  | t :: ts, ⟨ht, hts⟩ => by
      have hforest := rebuild_preorderForest_append hrest ts hts
      have hhead : ∀ s ∈ (rebuild depth (preorderForest ts ++ rest)).head?,
          depth s.label ≤ d := by
        rw [hforest]
        cases ts with
        | nil => exact hrest
        | cons s ss =>
            rintro _ ⟨⟩
            exact Int.le_of_eq hts.1.depth_label
      rw [preorderForest, List.append_assoc, rebuild_preorder_append hhead t ht, hforest,
        List.cons_append]

end

/-- The labels of a graded tree in pre-order give the tree back. -/
theorem rebuild_preorder {d : Int} {t : RoseTree α} (h : Graded depth d t) :
    rebuild depth t.preorder = [t] := by
  have hnil : ∀ s ∈ (rebuild depth []).head?, depth s.label ≤ d := by rintro _ ⟨⟩
  have happend := rebuild_preorder_append hnil t h
  rwa [List.append_nil] at happend

mutual

/-- Labelling by depth is graded. -/
theorem graded_map_withDepth {f : β × Nat → α} (hf : ∀ b n, depth (f (b, n)) = n) :
    ∀ (d : Nat) (t : RoseTree β), Graded depth d ((t.withDepth d).map f)
  | d, .node b cs => by
      rw [withDepth, map, Graded]
      exact ⟨hf b d, gradedForest_map_withDepth hf (d + 1) cs⟩

theorem gradedForest_map_withDepth {f : β × Nat → α} (hf : ∀ b n, depth (f (b, n)) = n) :
    ∀ (d : Nat) (ts : List (RoseTree β)), GradedForest depth d (mapForest f (withDepthForest d ts))
  | _, [] => trivial
  | d, t :: ts => by
      rw [withDepthForest, mapForest, GradedForest]
      exact ⟨graded_map_withDepth hf d t, gradedForest_map_withDepth hf d ts⟩

end

end Rebuild

/-! ## Parents -/

/-- `a` labels the parent of a node labelled `b`. -/
def ParentOf (t : RoseTree α) (a b : α) : Prop :=
  ∃ cs, .node a cs ∈ t.subtrees ∧ ∃ c ∈ cs, c.label = b

theorem label_mem_preorder : ∀ t : RoseTree α, t.label ∈ t.preorder
  | .node _ _ => by rw [label, preorder]; exact List.mem_cons_self

theorem label_mem_preorderForest {c : RoseTree α} :
    ∀ {cs : List (RoseTree α)}, c ∈ cs → c.label ∈ preorderForest cs
  | [], h => absurd h List.not_mem_nil
  | t :: ts, h => by
      rw [preorderForest, List.mem_append]
      rcases List.mem_cons.mp h with rfl | h
      · exact .inl (label_mem_preorder c)
      · exact .inr (label_mem_preorderForest h)

/-- A parent is above its child. -/
theorem ParentOf.below {t : RoseTree α} {a b : α} (h : ParentOf t a b) : Below t a b := by
  obtain ⟨cs, hsub, c, hc, rfl⟩ := h
  exact ⟨cs, hsub, label_mem_preorderForest hc⟩

mutual

/-- Every node but the root has a parent. -/
theorem eq_label_or_parentOf {b : α} :
    ∀ t : RoseTree α, b ∈ t.preorder → b = t.label ∨ ∃ a, ParentOf t a b
  | .node r ds, h => by
      rw [preorder, List.mem_cons] at h
      rcases h with h | h
      · exact .inl h
      · right
        rcases mem_label_or_parentOf ds h with ⟨c, hc, rfl⟩ | ⟨a, cs, hsub, hchild⟩
        · exact ⟨r, ds, by rw [subtrees]; exact List.mem_cons_self, c, hc, rfl⟩
        · exact ⟨a, cs, by rw [subtrees]; exact List.mem_cons_of_mem _ hsub, hchild⟩

theorem mem_label_or_parentOf {b : α} : ∀ ts : List (RoseTree α), b ∈ preorderForest ts →
    (∃ c ∈ ts, c.label = b) ∨
      ∃ a cs, .node a cs ∈ subtreesForest ts ∧ ∃ c ∈ cs, c.label = b
  | [], h => absurd h List.not_mem_nil
  | t :: ts, h => by
      rw [preorderForest, List.mem_append] at h
      rw [subtreesForest]
      rcases h with h | h
      · rcases eq_label_or_parentOf t h with rfl | ⟨a, cs, hsub, hchild⟩
        · exact .inl ⟨t, List.mem_cons_self, rfl⟩
        · exact .inr ⟨a, cs, List.mem_append_left _ hsub, hchild⟩
      · rcases mem_label_or_parentOf ts h with ⟨c, hc, rfl⟩ | ⟨a, cs, hsub, hchild⟩
        · exact .inl ⟨c, List.mem_cons_of_mem _ hc, rfl⟩
        · exact .inr ⟨a, cs, List.mem_append_right _ hsub, hchild⟩

end

mutual

/-- A node comes after the nodes above it. -/
theorem number_lt_of_below {x y : α × Nat} :
    ∀ (n : Nat) (t : RoseTree α), Below (number n t) x y → x.2 < y.2
  | n, .node a cs, h => by
      rw [number, below_node] at h
      rcases h with ⟨rfl, hy⟩ | h
      · rw [preorderForest_number] at hy
        exact List.le_snd_of_mem_zipIdx hy
      · exact numberForest_lt_of_below (n + 1) cs h

theorem numberForest_lt_of_below {x y : α × Nat} :
    ∀ (n : Nat) (ts : List (RoseTree α)), BelowForest (numberForest n ts) x y → x.2 < y.2
  | _, [], h => absurd h not_belowForest_nil
  | n, t :: ts, h => by
      rw [numberForest, belowForest_cons] at h
      rcases h with h | h
      · exact number_lt_of_below n t h
      · exact numberForest_lt_of_below _ ts h

end

theorem mem_take_zipIdx {l : List α} {k : Nat} {x : α × Nat} :
    x ∈ l.zipIdx.take k ↔ x ∈ l.zipIdx ∧ x.2 < k := by
  have hindex : ∀ i, l.zipIdx[i]? = some x → x.2 = i := by
    intro i hi
    rw [List.getElem?_zipIdx, Option.map_eq_some_iff] at hi
    obtain ⟨a, -, rfl⟩ := hi
    exact Nat.zero_add i
  rw [List.mem_iff_getElem?, List.mem_iff_getElem?]
  constructor
  · rintro ⟨i, hi⟩
    rw [List.getElem?_take] at hi
    split at hi
    · next hik => exact ⟨⟨i, hi⟩, hindex i hi ▸ hik⟩
    · cases hi
  · rintro ⟨⟨i, hi⟩, hik⟩
    rw [hindex i hi] at hik
    exact ⟨i, by rw [List.getElem?_take, if_pos hik, hi]⟩

/-- Some nodes of a tree, with their positions in pre-order: with each node its parent is among
them, and only the root has none. -/
def ClosedUnderParents (t : RoseTree α) (nodes : List (α × Nat)) : Prop :=
  ∀ y ∈ nodes, (∀ x, ParentOf (t.number 0) x y → x ∈ nodes) ∧
    (y = (t.label, 0) ∨ ∃ x ∈ nodes, ParentOf (t.number 0) x y)

/-- Every prefix of the pre-order list is closed under parents. -/
theorem closedUnderParents_take (t : RoseTree α) (k : Nat) :
    ClosedUnderParents t (t.preorder.zipIdx.take k) := by
  intro y hy
  obtain ⟨hmem, hlt⟩ := mem_take_zipIdx.mp hy
  have hparents : ∀ x, ParentOf (t.number 0) x y → x ∈ t.preorder.zipIdx.take k := by
    intro x hx
    have hbefore := number_lt_of_below 0 t hx.below
    obtain ⟨cs, hsub, -⟩ := hx
    rw [mem_take_zipIdx, ← preorder_number]
    exact ⟨label_mem_of_mem_subtrees _ hsub, Nat.lt_trans hbefore hlt⟩
  refine ⟨hparents, ?_⟩
  rw [← preorder_number] at hmem
  rcases eq_label_or_parentOf _ hmem with hroot | ⟨x, hx⟩
  · left
    cases t
    exact hroot
  · exact .inr ⟨x, hparents x hx, hx⟩

end RoseTree

end TxIndexer.Lib
