import Mathlib.Data.List.Sort
import Mathlib.Data.List.Nodup

/-!
# ORDER BY with a LIMIT

An ordered, limited query returns the first rows of some ordering of the matching rows that is
consistent with its sort key. Rows with equal keys may come in any order, and in a different
one each time the query runs; `OrderByLimit` says no more than that.
-/

namespace TxIndexer.Lib

variable {α κ : Type} [LinearOrder κ]

/-- `out` is what a query over `rows` with `ORDER BY key LIMIT limit` may return. -/
def OrderByLimit (key : α → κ) (limit : Nat) (rows out : List α) : Prop :=
  ∃ sorted : List α, sorted.Perm rows ∧ sorted.Pairwise (fun a b => key a ≤ key b) ∧
    out = sorted.take limit

namespace OrderByLimit

variable {key : α → κ} {limit : Nat} {rows out : List α}

theorem subset (h : OrderByLimit key limit rows out) : out ⊆ rows := by
  obtain ⟨sorted, hperm, -, rfl⟩ := h
  exact fun a ha => hperm.subset (List.mem_of_mem_take ha)

theorem nodup (h : OrderByLimit key limit rows out) (hrows : rows.Nodup) : out.Nodup := by
  obtain ⟨sorted, hperm, -, rfl⟩ := h
  exact (hperm.nodup_iff.mpr hrows).sublist (List.take_sublist _ _)

/-- A row the limit cut off has a key at least that of every returned row. -/
theorem le_of_not_mem (h : OrderByLimit key limit rows out) {a : α} (ha : a ∈ rows)
    (hout : a ∉ out) : ∀ b ∈ out, key b ≤ key a := by
  obtain ⟨sorted, hperm, hsorted, rfl⟩ := h
  intro b hb
  have hmem : a ∈ sorted.drop limit := by
    have hsplit : a ∈ sorted.take limit ++ sorted.drop limit := by
      rw [List.take_append_drop]; exact hperm.symm.subset ha
    exact (List.mem_append.mp hsplit).resolve_left hout
  rw [← List.take_append_drop limit sorted, List.pairwise_append] at hsorted
  exact hsorted.2.2 b hb a hmem

/-- A query that cut a row off returned as many rows as its limit. -/
theorem length_of_not_mem (h : OrderByLimit key limit rows out) {a : α} (ha : a ∈ rows)
    (hout : a ∉ out) : out.length = limit := by
  obtain ⟨sorted, hperm, -, rfl⟩ := h
  by_cases hle : sorted.length ≤ limit
  · rw [List.take_of_length_le hle] at hout
    exact absurd (hperm.symm.subset ha) hout
  · rw [List.length_take]; omega

/-- Any finer sort key gives an admissible result: ties may be broken by it. -/
theorem of_refinement {κ' : Type} [LinearOrder κ'] (key' : α → κ')
    (hrefines : ∀ a b, key' a ≤ key' b → key a ≤ key b) (limit : Nat) (rows : List α) :
    OrderByLimit key limit rows
      ((rows.insertionSort fun a b => key' a ≤ key' b).take limit) := by
  have htotal : Std.Total fun a b : α => key' a ≤ key' b := ⟨fun a b => le_total _ _⟩
  have htrans : IsTrans α fun a b => key' a ≤ key' b := ⟨fun _ _ _ => le_trans⟩
  exact ⟨_, List.perm_insertionSort _ rows,
    (List.pairwise_insertionSort _ rows).imp fun h => hrefines _ _ h, rfl⟩

end OrderByLimit

end TxIndexer.Lib
