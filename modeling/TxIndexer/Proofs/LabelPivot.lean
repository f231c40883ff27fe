import TxIndexer.Db.LabelQueries
import Mathlib.Algebra.BigOperators.Group.Multiset.Basic
import Mathlib.Algebra.Order.Ring.Int

/-!
# The pivot by label does not depend on any order

Neither the order in which the database returns the rows nor the one in which the hash map is
drained shows in the result: it is the list of the contracts' points in a total order, cut at the
limit, and no count is lost or invented.
-/

namespace TxIndexer.Proofs

open Db Lib

variable {raw raw' rows : List RawRow} {limit : Int} {out out' : List FailedTxByLabelPoint}

/-- The entry of a row in the map of its contract. -/
def categoryEntry (r : RawRow) : Sigma fun _ : String => Int := ⟨r.errorCategory, r.cnt⟩

/-- Rows of distinct categories add up to their sum, and to a map with an entry for each. -/
theorem foldl_addRow (hnodup : (rows.map RawRow.errorCategory).Nodup) :
    (rows.foldl addRow (0, ∅)).1 = (rows.map RawRow.cnt).sum ∧
      (rows.foldl addRow (0, ∅)).2.entries = (rows.map categoryEntry : List _) := by
  induction rows using List.reverseRecOn with
  | nil => exact ⟨rfl, rfl⟩
  | append_singleton rows r ih =>
      rw [List.map_append, List.map_singleton, List.nodup_append] at hnodup
      obtain ⟨hrows, -, hfresh⟩ := hnodup
      obtain ⟨htotal, hentries⟩ := ih hrows
      have hnot : r.errorCategory ∉ (rows.foldl addRow (0, ∅)).2 := by
        rw [Finmap.mem_def, hentries, Multiset.coe_keys, Multiset.mem_coe, List.mem_keys]
        rintro ⟨n, hn⟩
        obtain ⟨r', hr', heq⟩ := List.mem_map.mp hn
        exact hfresh _ (List.mem_map_of_mem hr') _ (List.mem_singleton_self _)
          (congrArg Sigma.fst heq)
      rw [List.foldl_append, List.foldl_cons, List.foldl_nil]
      constructor
      · simp only [addRow, htotal, List.map_append, List.map_singleton, List.sum_append,
          List.sum_singleton]
      · rw [addRow, Finmap.entries_insert_of_notMem hnot, hentries]
        rw [Multiset.cons_coe, Multiset.coe_eq_coe, List.map_append, List.map_singleton]
        exact (List.perm_append_singleton _ _).symm

/-- The rows of one contract have distinct categories. -/
theorem categories_nodup (hkeys : (raw.map RawRow.key).Nodup) (contract : String × String) :
    ((rowsOf RawRow.contract contract raw).map RawRow.errorCategory).Nodup := by
  have hraw : raw.Nodup := hkeys.of_map
  refine (hraw.filter _).map_on ?_
  intro a ha b hb hcategory
  obtain ⟨ha, hca⟩ := mem_rowsOf.mp ha
  obtain ⟨hb, hcb⟩ := mem_rowsOf.mp hb
  have hcontract : a.contract = b.contract := hca.trans hcb.symm
  simp only [RawRow.contract, Prod.mk.injEq] at hcontract
  refine List.inj_on_of_nodup_map hkeys ha hb ?_
  rw [RawRow.key, RawRow.key, hcontract.1, hcontract.2, hcategory]

/-- The hash map does not depend on the order of the rows. -/
theorem labelGroups_perm (hkeys : (raw.map RawRow.key).Nodup) (hperm : raw'.Perm raw) :
    labelGroups raw' = labelGroups raw := by
  apply groupFold_perm hperm
  intro a ha b hb hcontract entry
  by_cases hab : a = b
  · rw [hab]
  · have hcategory : a.errorCategory ≠ b.errorCategory := by
      intro hcategory
      refine hab (List.inj_on_of_nodup_map hkeys ha hb ?_)
      simp only [RawRow.contract, Prod.mk.injEq] at hcontract
      rw [RawRow.key, RawRow.key, hcontract.1, hcontract.2, hcategory]
    simp only [addRow, Finmap.insert_insert_of_ne _ hcategory, add_right_comm]

/-! ## The points -/

/-- The point of a contract: its counts by category, and their sum, which is that of its rows. -/
structure PointOf (raw : List RawRow) (p : FailedTxByLabelPoint) : Prop where
  counts : ∀ category n, p.byCategory.lookup category = some n ↔
    ⟨p.label, p.address, category, n⟩ ∈ raw
  total : p.totalFailures = ((rowsOf RawRow.contract p.contract raw).map RawRow.cnt).sum
  sum : p.totalFailures = (p.byCategory.entries.map Sigma.snd).sum

/-- An entry of the hash map gives the point of its contract. -/
theorem pointOf_entry (hkeys : (raw.map RawRow.key).Nodup) {contract : String × String}
    {group : LabelGroup} (h : (labelGroups raw).lookup contract = some group) :
    PointOf raw (pointOf (contract, group)) := by
  obtain ⟨htotal, hentries⟩ := foldl_addRow (categories_nodup hkeys contract)
  rw [labelGroups, lookup_groupFold] at h
  split at h
  · cases h
  · have hgroup := Option.some.inj h
    rw [← hgroup]
    refine ⟨?_, htotal, ?_⟩
    · intro category n
      rw [pointOf, lookup_eq_some_iff, hentries, Multiset.mem_coe, List.mem_map]
      constructor
      · rintro ⟨⟨label, address, errorCategory, cnt⟩, hr, heq⟩
        obtain ⟨hmem, rfl⟩ := mem_rowsOf.mp hr
        cases heq
        exact hmem
      · intro hmem
        exact ⟨_, mem_rowsOf.mpr ⟨hmem, rfl⟩, rfl⟩
    · rw [pointOf, hentries, Multiset.map_coe, Multiset.sum_coe, List.map_map]
      exact htotal

/-! ## The sorted list -/

/-- The points of all contracts with rows, once each, in their order. -/
structure SortedPoints (raw : List RawRow) (points : List FailedTxByLabelPoint) : Prop where
  sorted : points.Pairwise FailedTxByLabelPoint.Before
  nodup : (points.map FailedTxByLabelPoint.contract).Nodup
  contracts : ∀ contract, contract ∈ points.map FailedTxByLabelPoint.contract ↔
    ∃ r ∈ raw, r.contract = contract
  points : ∀ p ∈ points, PointOf raw p

/-- The points of the entries, sorted. -/
def sortedPoints (entries : List ((String × String) × LabelGroup)) : List FailedTxByLabelPoint :=
  (entries.map pointOf).mergeSort fun a b => (a.cmp b).isLE

variable {entries entries' : List ((String × String) × LabelGroup)}

theorem pairwise_sortedPoints (entries : List ((String × String) × LabelGroup)) :
    (sortedPoints entries).Pairwise FailedTxByLabelPoint.Before := by
  refine (List.pairwise_mergeSort ?_ ?_ _).imp FailedTxByLabelPoint.cmp_isLE.mp
  · intro a b c hab hbc
    rw [FailedTxByLabelPoint.cmp_isLE] at hab hbc ⊢
    exact hab.trans hbc
  · intro a b
    rw [Bool.or_eq_true, FailedTxByLabelPoint.cmp_isLE, FailedTxByLabelPoint.cmp_isLE]
    exact FailedTxByLabelPoint.Before.total a b

/-- The contracts of the points are the keys of the entries. -/
theorem contracts_perm (entries : List ((String × String) × LabelGroup)) :
    ((sortedPoints entries).map FailedTxByLabelPoint.contract).Perm (entries.map Prod.fst) := by
  have hsame : (entries.map pointOf).map FailedTxByLabelPoint.contract = entries.map Prod.fst := by
    rw [List.map_map]
    rfl
  rw [← hsame]
  exact (List.mergeSort_perm _ _).map _

theorem sortedPoints_spec (hkeys : (raw.map RawRow.key).Nodup)
    (h : Iterates (labelGroups raw) entries) : SortedPoints raw (sortedPoints entries) where
  sorted := pairwise_sortedPoints entries
  nodup := (contracts_perm entries).nodup_iff.mpr h.keys_nodup
  contracts := by
    intro contract
    rw [(contracts_perm entries).mem_iff, ← lookup_groupFold_isSome RawRow.contract (0, ∅) addRow,
      Option.isSome_iff_exists, List.mem_map]
    constructor
    · rintro ⟨⟨k, group⟩, hmem, rfl⟩
      exact ⟨group, h.mem_iff.mp hmem⟩
    · rintro ⟨group, hgroup⟩
      exact ⟨(contract, group), h.mem_iff.mpr hgroup, rfl⟩
  points := by
    intro p hp
    rw [sortedPoints, List.mem_mergeSort] at hp
    obtain ⟨⟨contract, group⟩, hmem, rfl⟩ := List.mem_map.mp hp
    exact pointOf_entry hkeys (h.mem_iff.mp hmem)

/-- Two iterations of one map give one sorted list. -/
theorem sortedPoints_unique {m : GroupMap (String × String) LabelGroup} (h : Iterates m entries)
    (h' : Iterates m entries') : sortedPoints entries' = sortedPoints entries := by
  have hperm : (sortedPoints entries').Perm (sortedPoints entries) :=
    ((List.mergeSort_perm _ _).trans ((h.perm h').map pointOf)).trans (List.mergeSort_perm _ _).symm
  refine hperm.eq_of_pairwise ?_ (pairwise_sortedPoints _) (pairwise_sortedPoints _)
  intro a b ha hb hab hba
  have hnodup := (contracts_perm entries).nodup_iff.mpr h.keys_nodup
  exact List.inj_on_of_nodup_map hnodup (hperm.subset ha) hb (hab.contract_eq hba)

/-- Whatever the order of the rows and that of the hash map, the pivot returns one list: the first
`limit` of the contracts' points, by total, label and address. -/
theorem pivot_order_independent (hkeys : (raw.map RawRow.key).Nodup) (hperm : raw'.Perm raw)
    (hlimit : 0 < limit) (h : FailedTxByLabelAggregate raw limit out)
    (h' : FailedTxByLabelAggregate raw' limit out') :
    out' = out ∧ ∃ points, SortedPoints raw points ∧ out = points.take limit.toNat := by
  obtain ⟨entries, hiterates, rfl⟩ := h
  obtain ⟨entries', hiterates', rfl⟩ := h'
  rw [labelGroups_perm hkeys hperm] at hiterates'
  have hcut : ∀ entries, pivotEntries entries limit = (sortedPoints entries).take limit.toNat :=
    fun entries => if_pos hlimit
  rw [hcut, hcut, sortedPoints_unique hiterates hiterates']
  exact ⟨rfl, _, sortedPoints_spec hkeys hiterates, rfl⟩

/-- Two contracts with one failure each and a third with three, in two categories. -/
def threeContracts : List RawRow := [
  ⟨"Router", "0x02", "UNKNOWN", 1⟩, ⟨"Pool", "0x03", "SLIPPAGE_EXCEEDED", 2⟩,
  ⟨"Router", "0x01", "UNKNOWN", 1⟩, ⟨"Pool", "0x03", "UNKNOWN", 1⟩]

/-- Its pivot with the rows in the other order. -/
theorem pivot_order_independent_reversed : ∃ out out',
    FailedTxByLabelAggregate threeContracts 2 out ∧
    FailedTxByLabelAggregate threeContracts.reverse 2 out' ∧ out' = out ∧
    ∃ points, SortedPoints threeContracts points ∧ out = points.take 2 := by
  obtain ⟨entries, hiterates⟩ := Iterates.exists_iteration (labelGroups threeContracts)
  obtain ⟨entries', hiterates'⟩ :=
    Iterates.exists_iteration (labelGroups threeContracts.reverse)
  obtain ⟨hsame, hpoints⟩ := pivot_order_independent (by decide) (List.reverse_perm threeContracts)
    (show (0 : Int) < 2 by decide) ⟨entries, hiterates, rfl⟩ ⟨entries', hiterates', rfl⟩
  exact ⟨_, _, ⟨entries, hiterates, rfl⟩, ⟨entries', hiterates', rfl⟩, hsame, hpoints⟩

end TxIndexer.Proofs
