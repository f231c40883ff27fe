import TxIndexer.Api.FailedTx

/-!
# Paging through failed transactions

`list_failed_transactions` orders by the timestamp alone, which all failures of a block share, so
each page may order them differently. The pages are the matching rows, each once, exactly when no
page boundary falls between rows with one timestamp.
-/

namespace TxIndexer.Proofs

open Db Lib

/-- Whatever order each query settles on, the pages of a listing up to the number of matching rows
are those rows, each once. -/
def PagesComplete (db : Database) (q : FailedTxFilter) (limit : Nat) : Prop :=
  ∀ page : Nat → List FailedTransaction,
    (∀ i < pageCount limit (countFailedTransactions db q),
      ListFailedTransactions db q limit (i * limit) (page i)) →
    (concatPages limit (countFailedTransactions db q) page).Perm (matchingFailedTxs db q)

/-- Matching rows with timestamp `ts` lie on both sides of the boundary before row `m`, counting
from the newest: fewer than `m` are newer, and more than `m` are at least as new. -/
def TieAcross (db : Database) (q : FailedTxFilter) (m : Nat) (ts : Int) : Prop :=
  ((matchingFailedTxs db q).countP fun f => ts < f.timestamp) < m ∧
    m < (matchingFailedTxs db q).countP fun f => ts ≤ f.timestamp

/-- Pages lose and repeat nothing exactly when no rows with one timestamp are on two pages that
meet. -/
theorem pages_complete_iff (db : Database) (q : FailedTxFilter) {limit : Nat} (hlimit : 0 < limit) :
    PagesComplete db q limit ↔ ∀ i ts, ¬ TieAcross db q (i * limit) ts :=
  concatPages_perm_iff hlimit (matchingFailedTxs_nodup db q)

/-! ## Two failures of one block -/

/-- A failure of the block at second 12. -/
def failureAt12 (hash : B256) : FailedTransaction where
  txHash := hashHex hash
  errorCategory := .unknown
  revertReason := none
  failingFunction := none
  gasUsed := 0
  timestamp := 12

/-- Two of them. -/
def sameBlockFailures : Database :=
  { Database.empty with
    failedTransaction := KeyedTable.insertNew ∅ [failureAt12 1, failureAt12 2] }

theorem matching_sameBlockFailures :
    matchingFailedTxs sameBlockFailures ⟨none, none, none⟩ = [failureAt12 1, failureAt12 2] := by
  have hkeys : ([failureAt12 1, failureAt12 2].map FailedTransaction.txHash).Nodup := by
    simp [failureAt12]
  rw [matchingFailedTxs, sameBlockFailures, KeyedTable.rows_insertNew_empty hkeys]
  rfl

/-- With one row a page, the second query may order the two the other way round and list the
first one again. -/
theorem tie_repeats_row : ¬ PagesComplete sameBlockFailures ⟨none, none, none⟩ 1 := by
  intro hcomplete
  have hpages : ∀ i < pageCount 1 (countFailedTransactions sameBlockFailures ⟨none, none, none⟩),
      ListFailedTransactions sameBlockFailures ⟨none, none, none⟩ 1 (i * 1) [failureAt12 1] := by
    intro i hi
    have hi : i < 2 := by
      rwa [countFailedTransactions, matching_sameBlockFailures] at hi
    rw [ListFailedTransactions, matching_sameBlockFailures]
    obtain rfl | rfl : i = 0 ∨ i = 1 := by omega
    · exact ⟨[failureAt12 1, failureAt12 2], ⟨.refl _, by simp [failureAt12]⟩, rfl⟩
    · exact ⟨[failureAt12 2, failureAt12 1], ⟨.swap _ _ _, by simp [failureAt12]⟩, rfl⟩
  have hperm := hcomplete (fun _ => [failureAt12 1]) hpages
  rw [countFailedTransactions, matching_sameBlockFailures] at hperm
  have hmem : failureAt12 2 ∈ [failureAt12 1, failureAt12 1] :=
    hperm.symm.subset (List.mem_cons_of_mem _ List.mem_cons_self)
  simp [failureAt12] at hmem

/-- Both fit on one page of two. -/
theorem two_on_one_page : PagesComplete sameBlockFailures ⟨none, none, none⟩ 2 := by
  refine (pages_complete_iff sameBlockFailures ⟨none, none, none⟩ (by decide : 0 < 2)).mpr ?_
  rintro i ts ⟨hnewer, hnew⟩
  have hle := hnew.trans_le List.countP_le_length
  rw [matching_sameBlockFailures] at hle
  have hi : i = 0 := by
    simp only [List.length_cons, List.length_nil] at hle
    omega
  rw [hi] at hnewer
  exact Nat.not_lt_zero _ hnewer

end TxIndexer.Proofs
