import TxIndexer.Db.Queries

/-!
# Rolling back

`rollback_from_block` of `crates/db/src/queries.rs`: one database transaction of eight
statements. The foreign keys are `RESTRICT`, so the deletes of `transaction` and `block` fail
while a row still refers to what they delete; the order of the statements is what makes them
succeed.
-/

namespace TxIndexer.Db

/-- `tx_hash IN (SELECT tx_hash FROM transaction WHERE block_number >= from_block)`. -/
def inRolledBackTransaction (db : Database) (fromBlock : Int) (txHash : String) : Bool :=
  db.transaction.rows.any fun t => t.txHash = txHash && decide (fromBlock ≤ t.blockNumber)

/-- Some row of a dependent table refers to the transaction. -/
def transactionReferenced (db : Database) (txHash : String) : Bool :=
  db.swapEvent.rows.any (·.txHash = txHash) || db.liquidityEvent.rows.any (·.txHash = txHash) ||
  db.tokenTransfer.rows.any (·.txHash = txHash) || db.traceLog.values.any (·.txHash = txHash) ||
  db.failedTransaction.rows.any (·.txHash = txHash)

def deleteSwapEvents (fromBlock : Int) (db : Database) : Database :=
  { db with swapEvent :=
      db.swapEvent.deleteWhere fun e => inRolledBackTransaction db fromBlock e.txHash }

def deleteLiquidityEvents (fromBlock : Int) (db : Database) : Database :=
  { db with liquidityEvent :=
      db.liquidityEvent.deleteWhere fun e => inRolledBackTransaction db fromBlock e.txHash }

def deleteTokenTransfers (fromBlock : Int) (db : Database) : Database :=
  { db with tokenTransfer :=
      db.tokenTransfer.deleteWhere fun t => inRolledBackTransaction db fromBlock t.txHash }

def deleteTraceLogs (fromBlock : Int) (db : Database) : Database :=
  { db with traceLog :=
      db.traceLog.deleteWhere fun t => inRolledBackTransaction db fromBlock t.txHash }

def deleteFailedTransactions (fromBlock : Int) (db : Database) : Database :=
  { db with failedTransaction :=
      db.failedTransaction.deleteWhere fun f => inRolledBackTransaction db fromBlock f.txHash }

/-- The deletes of the dependent tables, in the order the source runs them. -/
def deleteDependents (fromBlock : Int) (db : Database) : Database :=
  let db := deleteSwapEvents fromBlock db
  let db := deleteLiquidityEvents fromBlock db
  let db := deleteTokenTransfers fromBlock db
  let db := deleteTraceLogs fromBlock db
  deleteFailedTransactions fromBlock db

/-- `DELETE FROM transaction WHERE block_number >= from_block`. -/
def deleteTransactions (fromBlock : Int) (db : Database) : Except DbError Database :=
  if ∃ t ∈ db.transaction.rows, fromBlock ≤ t.blockNumber ∧ transactionReferenced db t.txHash then
    .error (.foreignKey .transaction)
  else .ok { db with transaction := db.transaction.deleteWhere fun t => fromBlock ≤ t.blockNumber }

/-- `DELETE FROM block WHERE block_number >= from_block`, with the number of rows it deletes. -/
def deleteBlocks (fromBlock : Int) (db : Database) : Except DbError (Database × Nat) :=
  if ∃ b ∈ db.block.rows, fromBlock ≤ b.blockNumber ∧
      db.transaction.rows.any (·.blockNumber = b.blockNumber) then
    .error (.foreignKey .block)
  else .ok (
    { db with block := db.block.deleteWhere fun b => fromBlock ≤ b.blockNumber },
    (db.block.rows.filter fun b => fromBlock ≤ b.blockNumber).length)

/-- `rollback_from_block` (`queries.rs:847-918`). The checkpoint row is updated where there is
one. -/
def rollbackFromBlock (db : Database) (fromBlock : Int) : Except DbError (Database × Nat) := do
  let resume := max (fromBlock - 1) 0
  let db := deleteDependents fromBlock db
  let db ← deleteTransactions fromBlock db
  let (db, blocks) ← deleteBlocks fromBlock db
  return ({ db with indexerCheckpoint := db.indexerCheckpoint.map fun _ => resume }, blocks)

/-- What a rollback leaves. -/
def rolledBack (db : Database) (fromBlock : Int) : Database where
  block := db.block.deleteWhere fun b => fromBlock ≤ b.blockNumber
  transaction := db.transaction.deleteWhere fun t => fromBlock ≤ t.blockNumber
  swapEvent := db.swapEvent.deleteWhere fun e => inRolledBackTransaction db fromBlock e.txHash
  liquidityEvent :=
    db.liquidityEvent.deleteWhere fun e => inRolledBackTransaction db fromBlock e.txHash
  tokenTransfer :=
    db.tokenTransfer.deleteWhere fun t => inRolledBackTransaction db fromBlock t.txHash
  traceLog := db.traceLog.deleteWhere fun t => inRolledBackTransaction db fromBlock t.txHash
  failedTransaction :=
    db.failedTransaction.deleteWhere fun f => inRolledBackTransaction db fromBlock f.txHash
  indexerCheckpoint := db.indexerCheckpoint.map fun _ => max (fromBlock - 1) 0

/-- The rows of a transaction that is rolled back are gone from a dependent table. -/
theorem any_filter_txHash {α : Type} (txHash : α → String) (doomed : String → Bool) (rows : List α)
    {hash : String} (h : doomed hash = true) :
    ((rows.filter fun r => !doomed (txHash r)).any fun r => txHash r = hash) = false := by
  rw [List.any_eq_false]
  intro r hr
  have hkept := (List.mem_filter.mp hr).2
  intro heq
  rw [decide_eq_true_eq] at heq
  simp [heq, h] at hkept

/-- Once the dependent rows are deleted, nothing refers to a transaction to be rolled back. -/
theorem transactionReferenced_deleteDependents {db : Database} {fromBlock : Int} {t : Transaction}
    (ht : t ∈ db.transaction) (hge : fromBlock ≤ t.blockNumber) :
    transactionReferenced (deleteDependents fromBlock db) t.txHash = false := by
  have hin : inRolledBackTransaction db fromBlock t.txHash = true := by
    rw [inRolledBackTransaction, List.any_eq_true]
    exact ⟨t, ht, by simpa using hge⟩
  simp only [transactionReferenced, Bool.or_eq_false_iff]
  refine ⟨⟨⟨⟨?_, ?_⟩, ?_⟩, ?_⟩, ?_⟩
  · exact any_filter_txHash SwapEvent.txHash _ _ hin
  · exact any_filter_txHash LiquidityEvent.txHash _ _ hin
  · exact any_filter_txHash TokenTransfer.txHash _ _ hin
  · have hvalues : (deleteDependents fromBlock db).traceLog.values = _ :=
      Lib.SerialTable.values_deleteWhere _ _
    rw [hvalues]
    exact any_filter_txHash TraceLog.txHash _ _ hin
  · exact any_filter_txHash FailedTransaction.txHash _ _ hin

theorem deleteTransactions_eq_ok {db : Database} {fromBlock : Int}
    (h : ∀ t ∈ db.transaction, fromBlock ≤ t.blockNumber →
      transactionReferenced db t.txHash = false) :
    deleteTransactions fromBlock db = .ok { db with
      transaction := db.transaction.deleteWhere fun t => fromBlock ≤ t.blockNumber } := by
  refine if_neg ?_
  rintro ⟨t, ht, hge, href⟩
  rw [h t ht hge] at href
  cases href

theorem deleteBlocks_eq_ok {db : Database} {fromBlock : Int}
    (h : ∀ t ∈ db.transaction, t.blockNumber < fromBlock) :
    deleteBlocks fromBlock db = .ok (
      { db with block := db.block.deleteWhere fun b => fromBlock ≤ b.blockNumber },
      (db.block.rows.filter fun b => fromBlock ≤ b.blockNumber).length) := by
  refine if_neg ?_
  rintro ⟨b, -, hge, hany⟩
  obtain ⟨t, ht, hnumber⟩ := List.any_eq_true.mp hany
  have hlt := h t ht
  simp only [decide_eq_true_eq] at hnumber
  omega

/-- A rollback succeeds from any state: the dependent rows go before the rows they refer to. -/
theorem rollbackFromBlock_eq (db : Database) (fromBlock : Int) :
    rollbackFromBlock db fromBlock =
      .ok (rolledBack db fromBlock,
        (db.block.rows.filter fun b => fromBlock ≤ b.blockNumber).length) := by
  have htransactions : deleteTransactions fromBlock (deleteDependents fromBlock db) = _ :=
    deleteTransactions_eq_ok fun t ht hge => transactionReferenced_deleteDependents ht hge
  rw [rollbackFromBlock, htransactions]
  simp only [bind, Except.bind]
  rw [deleteBlocks_eq_ok]
  · rfl
  · intro t ht
    have hkept := (Lib.KeyedTable.mem_deleteWhere.mp ht).2
    simpa using hkept

end TxIndexer.Db
