import TxIndexer.Db.Inserts
import Mathlib.Data.Set.Basic

/-!
# The rows of some blocks and transactions

A statement whose rows are of some blocks and transactions reads the tables at their keys only,
and leaves the rows of all other blocks and transactions alone.
-/

namespace TxIndexer.Db

open Lib

/-- Some blocks and some transactions. -/
structure Scope where
  blocks : Set Int
  hashes : Set String

/-- Two scopes share nothing. -/
def Scope.Disjoint (sc sc' : Scope) : Prop :=
  (∀ n ∈ sc.blocks, n ∉ sc'.blocks) ∧ ∀ h ∈ sc.hashes, h ∉ sc'.hashes

/-- All rows of a statement are of the scope. -/
def Insert.Within (sc : Scope) : Insert → Prop
  | .blocks rows => ∀ r ∈ rows, r.blockNumber ∈ sc.blocks
  | .transactions rows => ∀ r ∈ rows, r.txHash ∈ sc.hashes ∧ r.blockNumber ∈ sc.blocks
  | .swapEvents rows => ∀ r ∈ rows, r.txHash ∈ sc.hashes
  | .liquidityEvents rows => ∀ r ∈ rows, r.txHash ∈ sc.hashes
  | .tokenTransfers rows => ∀ r ∈ rows, r.txHash ∈ sc.hashes
  | .traceLogs rows => ∀ r ∈ rows, r.txHash ∈ sc.hashes
  | .failedTransactions rows => ∀ r ∈ rows, r.txHash ∈ sc.hashes

/-- The rows of the scope are the same, and the traces of each transaction also in their order. -/
structure Scope.Agree (sc : Scope) (db db' : Database) : Prop where
  block : KeyedTable.AgreeOn (· ∈ sc.blocks) db.block db'.block
  transaction : KeyedTable.AgreeOn (· ∈ sc.hashes) db.transaction db'.transaction
  swapEvent : KeyedTable.AgreeOn (fun k => k.1 ∈ sc.hashes) db.swapEvent db'.swapEvent
  liquidityEvent : KeyedTable.AgreeOn (fun k => k.1 ∈ sc.hashes) db.liquidityEvent db'.liquidityEvent
  tokenTransfer : KeyedTable.AgreeOn (fun k => k.1 ∈ sc.hashes) db.tokenTransfer db'.tokenTransfer
  traces : ∀ h ∈ sc.hashes, tracesOf db h = tracesOf db' h
  failedTransaction :
    KeyedTable.AgreeOn (· ∈ sc.hashes) db.failedTransaction db'.failedTransaction

variable {sc sc' : Scope} {triggers : Triggers} {db db' db'' : Database} {i : Insert}

theorem Scope.Agree.refl (sc : Scope) (db : Database) : sc.Agree db db :=
  ⟨.refl _, .refl _, .refl _, .refl _, .refl _, fun _ _ => rfl, .refl _⟩

theorem Scope.Agree.symm (h : sc.Agree db db') : sc.Agree db' db where
  block := h.block.symm
  transaction := h.transaction.symm
  swapEvent := h.swapEvent.symm
  liquidityEvent := h.liquidityEvent.symm
  tokenTransfer := h.tokenTransfer.symm
  traces := fun k hk => (h.traces k hk).symm
  failedTransaction := h.failedTransaction.symm

theorem Scope.Agree.trans (h : sc.Agree db db') (h' : sc.Agree db' db'') : sc.Agree db db'' where
  block := h.block.trans h'.block
  transaction := h.transaction.trans h'.transaction
  swapEvent := h.swapEvent.trans h'.swapEvent
  liquidityEvent := h.liquidityEvent.trans h'.liquidityEvent
  tokenTransfer := h.tokenTransfer.trans h'.tokenTransfer
  traces := fun k hk => (h.traces k hk).trans (h'.traces k hk)
  failedTransaction := h.failedTransaction.trans h'.failedTransaction

/-! ## A statement and its scope -/

section InsertRows

variable {α κ : Type} [DecidableEq κ] {key : α → κ} {table : Table} {storable parent : α → Prop}
  [DecidablePred storable] [DecidablePred parent] {t : KeyedTable key} {rows : List α}
  {update : KeyedTable key → Database}

theorem insertRows_bind_of_not_storable (h : ¬ ∀ r ∈ rows, storable r) :
    (insertRows table storable parent t rows >>= fun t' => pure (update t')) =
      .error (.notStorable table) := by
  rw [insertRows, if_neg h]
  rfl

theorem insertRows_bind_of_not_parent (h : ∀ r ∈ rows, storable r)
    (h' : ¬ ∀ r ∈ t.newRows rows, parent r) :
    (insertRows table storable parent t rows >>= fun t' => pure (update t')) =
      .error (.foreignKey table) := by
  rw [insertRows, if_pos h, if_neg h']
  rfl

end InsertRows

/-- A statement whose rows cannot all be stored fails on that. -/
theorem Insert.exec_of_not_rowsStorable (h : ¬ i.RowsStorable) :
    i.exec triggers db = .error (.notStorable i.table) := by
  cases i with
  | traceLogs rows => exact if_neg h
  | _ => exact insertRows_bind_of_not_storable h

/-- A statement whose rows refer to rows that are not there fails on that. -/
theorem Insert.exec_of_not_parentsStored (h : i.RowsStorable) (h' : ¬ i.ParentsStored db) :
    i.exec triggers db = .error (.foreignKey i.table) := by
  cases i with
  | blocks rows => exact absurd trivial h'
  | traceLogs rows => exact (if_pos h).trans (if_neg h')
  | _ => exact insertRows_bind_of_not_parent h h'

/-- The rows a statement adds refer to rows of its scope. -/
theorem Insert.parentsStored_congr (hwithin : i.Within sc) (h : sc.Agree db db') :
    i.ParentsStored db ↔ i.ParentsStored db' := by
  have hparents : ∀ {α : Type} (hash : α → String) (rows : List α),
      (∀ r ∈ rows, hash r ∈ sc.hashes) →
      ((∀ r ∈ rows, hash r ∈ db.transaction.keys) ↔
        ∀ r ∈ rows, hash r ∈ db'.transaction.keys) := by
    intro α hash rows hrows
    exact forall₂_congr fun r hr => h.transaction.mem_keys (hrows r hr)
  cases i with
  | blocks rows => exact Iff.rfl
  | transactions rows =>
      rw [ParentsStored, ParentsStored, h.transaction.newRows fun r hr => (hwithin r hr).1]
      exact forall₂_congr fun r hr =>
        h.block.mem_keys (hwithin r (freshRows_subset _ _ _ hr)).2
  | swapEvents rows =>
      rw [ParentsStored, ParentsStored, h.swapEvent.newRows fun r hr => hwithin r hr]
      exact hparents _ _ fun r hr => hwithin r (freshRows_subset _ _ _ hr)
  | liquidityEvents rows =>
      rw [ParentsStored, ParentsStored, h.liquidityEvent.newRows fun r hr => hwithin r hr]
      exact hparents _ _ fun r hr => hwithin r (freshRows_subset _ _ _ hr)
  | tokenTransfers rows =>
      rw [ParentsStored, ParentsStored, h.tokenTransfer.newRows fun r hr => hwithin r hr]
      exact hparents _ _ fun r hr => hwithin r (freshRows_subset _ _ _ hr)
  | traceLogs rows => exact hparents _ _ hwithin
  | failedTransactions rows =>
      rw [ParentsStored, ParentsStored, h.failedTransaction.newRows fun r hr => hwithin r hr]
      exact hparents _ _ fun r hr => hwithin r (freshRows_subset _ _ _ hr)

/-- The stubs of a batch of transactions are made from the rows of its blocks. -/
theorem stubsOf_congr {rows : List Transaction} (hwithin : (Insert.transactions rows).Within sc)
    (h : sc.Agree db db') : stubsOf triggers db rows = stubsOf triggers db' rows := by
  rw [stubsOf, stubsOf, h.transaction.newRows fun r hr => (hwithin r hr).1]
  split
  · apply List.filterMap_congr
    intro r hr
    rw [failedTransactionStub, failedTransactionStub,
      h.block r.blockNumber (hwithin r (freshRows_subset _ _ _ hr)).2]
  · rfl

theorem tracesOf_insert (t : SerialTable TraceLog) (rows : List TraceLog) (txHash : String) :
    tracesOf { db with traceLog := t.insert rows } txHash =
      tracesOf { db with traceLog := t } txHash ++ rows.filter fun r => r.txHash = txHash := by
  rw [tracesOf, tracesOf, SerialTable.values_insert, List.filter_append]

/-- A statement of the scope does the same to databases that agree on it. -/
theorem Insert.applied_agree (hwithin : i.Within sc) (h : sc.Agree db db') :
    sc.Agree (i.applied triggers db) (i.applied triggers db') := by
  cases i with
  | blocks rows => exact { h with block := h.block.insertNew rows }
  | transactions rows =>
      refine { h with
        transaction := h.transaction.insertNew rows
        failedTransaction := ?_ }
      show KeyedTable.AgreeOn _ (db.failedTransaction.insertNew (stubsOf triggers db rows))
        (db'.failedTransaction.insertNew (stubsOf triggers db' rows))
      rw [stubsOf_congr hwithin h]
      exact h.failedTransaction.insertNew _
  | swapEvents rows => exact { h with swapEvent := h.swapEvent.insertNew rows }
  | liquidityEvents rows => exact { h with liquidityEvent := h.liquidityEvent.insertNew rows }
  | tokenTransfers rows => exact { h with tokenTransfer := h.tokenTransfer.insertNew rows }
  | traceLogs rows =>
      refine { h with traces := fun k hk => ?_ }
      exact (tracesOf_insert db.traceLog rows k).trans
        ((congrArg (· ++ _) (h.traces k hk)).trans (tracesOf_insert db'.traceLog rows k).symm)
  | failedTransactions rows =>
      exact { h with failedTransaction := h.failedTransaction.insertNew rows }

/-- A statement ends alike on databases that agree on its scope. -/
theorem Insert.exec_agree (hwithin : i.Within sc) (h : sc.Agree db db') :
    (∀ out, i.exec triggers db = .ok out →
      ∃ out', i.exec triggers db' = .ok out' ∧ sc.Agree out out') ∧
    ∀ e, i.exec triggers db = .error e → i.exec triggers db' = .error e := by
  have hparents := parentsStored_congr hwithin h
  constructor
  · intro out hout
    obtain ⟨hstorable, hstored, rfl⟩ := exec_eq_ok.mp hout
    exact ⟨_, exec_eq_ok.mpr ⟨hstorable, hparents.mp hstored, rfl⟩, applied_agree hwithin h⟩
  · intro e he
    by_cases hstorable : i.RowsStorable
    · by_cases hstored : i.ParentsStored db
      · rw [exec_eq_ok.mpr ⟨hstorable, hstored, rfl⟩] at he
        cases he
      · rw [exec_of_not_parentsStored hstorable hstored] at he
        rw [exec_of_not_parentsStored hstorable (mt hparents.mpr hstored), ← he]
    · rw [exec_of_not_rowsStorable hstorable] at he
      rw [exec_of_not_rowsStorable hstorable, ← he]

/-- The stubs of a batch of transactions are theirs. -/
theorem txHash_of_mem_stubsOf {rows : List Transaction} {f : FailedTransaction}
    (hf : f ∈ stubsOf triggers db rows) : ∃ r ∈ rows, f.txHash = r.txHash := by
  unfold stubsOf at hf
  split at hf
  · obtain ⟨r, hr, hstub⟩ := List.mem_filterMap.mp hf
    refine ⟨r, freshRows_subset _ _ _ hr, ?_⟩
    unfold failedTransactionStub at hstub
    split at hstub
    · obtain ⟨b, -, rfl⟩ := Option.map_eq_some_iff.mp hstub
      rfl
    · cases hstub
  · cases hf

/-- A statement leaves all rows alone that share nothing with its scope. -/
theorem Insert.exec_elsewhere {out : Database} (hwithin : i.Within sc)
    (hdisjoint : sc.Disjoint sc') (h : i.exec triggers db = .ok out) : sc'.Agree out db := by
  obtain ⟨-, -, rfl⟩ := exec_eq_ok.mp h
  obtain ⟨hblocks, hhashes⟩ := hdisjoint
  have hsame := Scope.Agree.refl sc' db
  cases i with
  | blocks rows =>
      exact { hsame with
        block := KeyedTable.agreeOn_insertNew fun r hr => hblocks _ (hwithin r hr) }
  | transactions rows =>
      refine { hsame with
        transaction := KeyedTable.agreeOn_insertNew fun r hr => hhashes _ (hwithin r hr).1
        failedTransaction := KeyedTable.agreeOn_insertNew fun f hf => ?_ }
      obtain ⟨r, hr, heq⟩ := txHash_of_mem_stubsOf hf
      rw [heq]
      exact hhashes _ (hwithin r hr).1
  | swapEvents rows =>
      exact { hsame with
        swapEvent := KeyedTable.agreeOn_insertNew fun r hr => hhashes _ (hwithin r hr) }
  | liquidityEvents rows =>
      exact { hsame with
        liquidityEvent := KeyedTable.agreeOn_insertNew fun r hr => hhashes _ (hwithin r hr) }
  | tokenTransfers rows =>
      exact { hsame with
        tokenTransfer := KeyedTable.agreeOn_insertNew fun r hr => hhashes _ (hwithin r hr) }
  | traceLogs rows =>
      refine { hsame with traces := fun k hk => ?_ }
      have hnone : rows.filter (fun r => r.txHash = k) = [] := by
        rw [List.filter_eq_nil_iff]
        intro r hr heq
        exact hhashes _ (hwithin r hr) (of_decide_eq_true heq ▸ hk)
      refine (tracesOf_insert db.traceLog rows k).trans ?_
      rw [hnone, List.append_nil]
  | failedTransactions rows =>
      exact { hsame with
        failedTransaction := KeyedTable.agreeOn_insertNew fun r hr => hhashes _ (hwithin r hr) }

end TxIndexer.Db
