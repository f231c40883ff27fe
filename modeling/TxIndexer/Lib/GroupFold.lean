import Mathlib.Data.Finmap
import Mathlib.Data.List.Sort

/-!
# Grouping rows by a key

Rows are folded into a hash map, one entry for each key, which is then drained in whatever order
the map keeps its entries. `Finmap` is the map without that order; an iteration of it is any list
of its entries. Where the rows of one key may be folded in any order, the map does not depend on
the order of the rows, and what is sorted by a total order does not depend on the iteration.
-/

namespace TxIndexer.Lib

variable {ρ κ σ : Type}

/-- A map with values of one type. -/
abbrev GroupMap (κ σ : Type) := Finmap fun _ : κ => σ

/-! ## Iterations -/

theorem lookup_eq_some_iff [DecidableEq κ] {m : GroupMap κ σ} {k : κ} {v : σ} :
    m.lookup k = some v ↔ (⟨k, v⟩ : Sigma fun _ : κ => σ) ∈ m.entries := by
  induction m using Finmap.induction_on with
  | H a => exact AList.mem_lookup_iff

/-- An entry as Mathlib's maps hold it. -/
def entrySigma (x : κ × σ) : Sigma fun _ : κ => σ := ⟨x.1, x.2⟩

theorem entrySigma_injective : Function.Injective (entrySigma (κ := κ) (σ := σ)) := by
  rintro ⟨a, b⟩ ⟨a', b'⟩ h
  cases h
  rfl

/-- `entries` is an order in which the map may be drained. -/
def Iterates (m : GroupMap κ σ) (entries : List (κ × σ)) : Prop :=
  (entries.map entrySigma : Multiset (Sigma fun _ : κ => σ)) = m.entries

namespace Iterates

variable {m : GroupMap κ σ} {entries entries' : List (κ × σ)}

theorem exists_iteration (m : GroupMap κ σ) : ∃ entries, Iterates m entries := by
  induction m using Finmap.induction_on with
  | H a =>
      refine ⟨a.entries.map fun x => (x.1, x.2), ?_⟩
      have hback : (a.entries.map fun x => (x.1, x.2)).map entrySigma = a.entries := by
        rw [List.map_map]
        exact List.map_id' _
      rw [Iterates, hback]
      rfl

theorem perm (h : Iterates m entries) (h' : Iterates m entries') : entries'.Perm entries := by
  have hsame : (entries'.map entrySigma).Perm (entries.map entrySigma) :=
    Multiset.coe_eq_coe.mp (h'.trans h.symm)
  exact (List.map_perm_map_iff entrySigma_injective).mp hsame

theorem mem_iff [DecidableEq κ] (h : Iterates m entries) {k : κ} {v : σ} :
    (k, v) ∈ entries ↔ m.lookup k = some v := by
  have hmem : (k, v) ∈ entries ↔ entrySigma (k, v) ∈ m.entries := by
    rw [← h, Multiset.mem_coe, List.mem_map_of_injective entrySigma_injective]
  rw [hmem, lookup_eq_some_iff]
  rfl

theorem keys_nodup (h : Iterates m entries) : (entries.map Prod.fst).Nodup := by
  have hkeys : (entries.map entrySigma).NodupKeys := by
    have hm := m.nodupKeys
    rw [← h] at hm
    exact Multiset.coe_nodupKeys.mp hm
  have hfst : (entries.map entrySigma).keys = entries.map Prod.fst := by
    rw [List.keys, List.map_map]
    rfl
  exact hfst ▸ hkeys

end Iterates

/-! ## Folding -/

variable [DecidableEq κ]

/-- One row is folded into the entry of its key, which begins as `init`. -/
def groupRow (key : ρ → κ) (init : σ) (step : σ → ρ → σ) (m : GroupMap κ σ) (r : ρ) :
    GroupMap κ σ :=
  m.insert (key r) (step ((m.lookup (key r)).getD init) r)

/-- All rows, in their order. -/
def groupFold (key : ρ → κ) (init : σ) (step : σ → ρ → σ) (rows : List ρ) : GroupMap κ σ :=
  rows.foldl (groupRow key init step) ∅

/-- The rows of a key. -/
def rowsOf (key : ρ → κ) (k : κ) (rows : List ρ) : List ρ := rows.filter fun r => key r = k

variable {key : ρ → κ} {init : σ} {step : σ → ρ → σ} {rows rows' : List ρ} {k : κ}

theorem mem_rowsOf {r : ρ} : r ∈ rowsOf key k rows ↔ r ∈ rows ∧ key r = k := by
  rw [rowsOf, List.mem_filter, decide_eq_true_eq]

/-- The entry of a key is the fold of its rows. -/
theorem lookup_groupFold (key : ρ → κ) (init : σ) (step : σ → ρ → σ) (rows : List ρ) (k : κ) :
    (groupFold key init step rows).lookup k =
      if rowsOf key k rows = [] then none else some ((rowsOf key k rows).foldl step init) := by
  induction rows using List.reverseRecOn with
  | nil => rfl
  | append_singleton rows r ih =>
      have hrows : rowsOf key k (rows ++ [r]) = rowsOf key k rows ++ rowsOf key k [r] :=
        List.filter_append ..
      rw [groupFold, List.foldl_append, List.foldl_cons, List.foldl_nil, ← groupFold, groupRow,
        hrows]
      by_cases hk : key r = k
      · subst hk
        have hlast : rowsOf key (key r) [r] = [r] := by simp [rowsOf]
        have hne : rowsOf key (key r) rows ++ [r] ≠ [] :=
          List.append_ne_nil_of_right_ne_nil _ (List.cons_ne_nil _ _)
        rw [Finmap.lookup_insert, ih, hlast, if_neg hne, List.foldl_append]
        by_cases hnone : rowsOf key (key r) rows = []
        · simp [hnone]
        · simp [hnone]
      · have hlast : rowsOf key k [r] = [] := by simp [rowsOf, hk]
        rw [Finmap.lookup_insert_of_ne _ (Ne.symm hk), ih, hlast, List.append_nil]

/-- A key has an entry exactly if some row has it. -/
theorem lookup_groupFold_isSome (key : ρ → κ) (init : σ) (step : σ → ρ → σ) (rows : List ρ)
    (k : κ) : ((groupFold key init step rows).lookup k).isSome = true ↔ ∃ r ∈ rows, key r = k := by
  rw [lookup_groupFold]
  by_cases hnone : rowsOf key k rows = []
  · rw [if_pos hnone]
    refine iff_of_false (by simp) ?_
    rintro ⟨r, hr, hkey⟩
    have hmem := mem_rowsOf.mpr ⟨hr, hkey⟩
    rw [hnone] at hmem
    cases hmem
  · rw [if_neg hnone]
    refine iff_of_true rfl ?_
    obtain ⟨r, hr⟩ := List.exists_mem_of_ne_nil _ hnone
    exact ⟨r, mem_rowsOf.mp hr⟩

/-- Rows that may be folded in any order give one map in any order. -/
theorem groupFold_perm (hperm : rows'.Perm rows)
    (hcomm : ∀ a ∈ rows, ∀ b ∈ rows, key a = key b → ∀ s, step (step s a) b = step (step s b) a) :
    groupFold key init step rows' = groupFold key init step rows := by
  apply Finmap.ext_lookup
  intro k
  have hrows : (rowsOf key k rows').Perm (rowsOf key k rows) := hperm.filter _
  have hfold : (rowsOf key k rows').foldl step init = (rowsOf key k rows).foldl step init := by
    refine (hrows.symm.foldl_eq' ?_ init).symm
    intro a ha b hb s
    obtain ⟨ha, hka⟩ := mem_rowsOf.mp ha
    obtain ⟨hb, hkb⟩ := mem_rowsOf.mp hb
    exact hcomm a ha b hb (hka.trans hkb.symm) s
  have hnil : rowsOf key k rows' = [] ↔ rowsOf key k rows = [] :=
    ⟨fun h => by rw [h] at hrows; exact hrows.symm.eq_nil,
      fun h => by rw [h] at hrows; exact hrows.eq_nil⟩
  rw [lookup_groupFold, lookup_groupFold, hfold]
  simp only [hnil]

end TxIndexer.Lib
