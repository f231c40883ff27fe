import TxIndexer.Db.Schema
import Mathlib.Data.List.Sort

/-!
# The indexer's queries

The statements of `crates/db/src/queries.rs` that the indexer runs. PostgreSQL checks the
column types and `CHECK`s of every row of an `INSERT ... ON CONFLICT DO NOTHING`, skips the rows
whose key is taken, and checks the foreign keys of the rows it adds; one failure undoes the
whole statement.
-/

namespace TxIndexer.Db

/-- Which triggers of `sql/triggers/001_triggers.sql` are installed, of those that write to the
indexer's tables. The migrations install none. -/
structure Triggers where
  transactionCheckFailed : Bool
  deriving DecidableEq, Repr

section InsertRows

variable {α κ : Type} [DecidableEq κ] {key : α → κ}

/-- `INSERT INTO table SELECT * FROM UNNEST(..) ON CONFLICT (key) DO NOTHING`, where `parent`
holds of a row whose foreign keys resolve. -/
def insertRows (table : Table) (storable parent : α → Prop) [DecidablePred storable]
    [DecidablePred parent] (t : Lib.KeyedTable key) (rows : List α) :
    Except DbError (Lib.KeyedTable key) :=
  if ∀ r ∈ rows, storable r then
    if ∀ r ∈ t.newRows rows, parent r then .ok (t.insertNew rows) else .error (.foreignKey table)
  else .error (.notStorable table)

variable {table : Table} {storable parent : α → Prop} [DecidablePred storable]
  [DecidablePred parent] {t t' : Lib.KeyedTable key} {rows : List α}

/-- An insert succeeds exactly when every row is storable and every added row has its parent. -/
theorem insertRows_eq_ok : insertRows table storable parent t rows = .ok t' ↔
    (∀ r ∈ rows, storable r) ∧ (∀ r ∈ t.newRows rows, parent r) ∧ t' = t.insertNew rows := by
  unfold insertRows
  by_cases hstorable : ∀ r ∈ rows, storable r
  · by_cases hparent : ∀ r ∈ t.newRows rows, parent r
    · rw [if_pos hstorable, if_pos hparent, Except.ok.injEq]
      exact ⟨fun h => ⟨hstorable, hparent, h.symm⟩, fun h => h.2.2.symm⟩
    · rw [if_pos hstorable, if_neg hparent]
      exact ⟨nofun, fun h => absurd h.2.1 hparent⟩
  · rw [if_neg hstorable]
    exact ⟨nofun, fun h => absurd h.1 hstorable⟩

/-- The same for a statement that writes the table back into the database. -/
theorem insertRows_bind_eq_ok {update : Lib.KeyedTable key → Database} {db' : Database} :
    (insertRows table storable parent t rows >>= fun t' => pure (update t')) = .ok db' ↔
      (∀ r ∈ rows, storable r) ∧ (∀ r ∈ t.newRows rows, parent r) ∧
      db' = update (t.insertNew rows) := by
  cases h : insertRows table storable parent t rows with
  | error e =>
      refine ⟨nofun, fun ⟨hstorable, hparent, _⟩ => ?_⟩
      rw [insertRows_eq_ok.mpr ⟨hstorable, hparent, rfl⟩] at h
      cases h
  | ok t' =>
      obtain ⟨hstorable, hparent, rfl⟩ := insertRows_eq_ok.mp h
      simp only [bind, Except.bind, pure, Except.pure, Except.ok.injEq]
      exact ⟨fun h => ⟨hstorable, hparent, h.symm⟩, fun h => h.2.2.symm⟩

/-- An insert that fails on a column or a `CHECK` has a row that is not storable. -/
theorem insertRows_bind_notStorable {update : Lib.KeyedTable key → Database} {table' : Table}
    (h : (insertRows table storable parent t rows >>= fun t' => pure (update t')) =
      .error (.notStorable table')) :
    table' = table ∧ ¬ ∀ r ∈ rows, storable r := by
  unfold insertRows at h
  by_cases hstorable : ∀ r ∈ rows, storable r
  · rw [if_pos hstorable] at h
    split at h <;> cases h
  · rw [if_neg hstorable] at h
    cases h
    exact ⟨rfl, hstorable⟩

end InsertRows

/-- The row that `fn_trg_transaction_check_failed` inserts for a new transaction
(`001_triggers.sql:60-73`): one for a failed transaction, at the time of its block. -/
def failedTransactionStub (db : Database) (t : Transaction) : Option FailedTransaction :=
  if t.status = 0 then
    (db.block.lookup t.blockNumber).map fun b => {
      txHash := t.txHash
      errorCategory := .unknown
      revertReason := none
      failingFunction := none
      gasUsed := t.gasUsed
      timestamp := b.timestamp }
  else none

/-- `insert_blocks` (`queries.rs:50-78`). -/
def insertBlocks (db : Database) (blocks : List Block) : Except DbError Database := do
  let block ← insertRows .block Block.Storable (fun _ => True) db.block blocks
  return { db with block }

/-- `insert_transactions` (`queries.rs:80-123`), with the trigger that follows each row it
adds. -/
def insertTransactions (triggers : Triggers) (db : Database) (transactions : List Transaction) :
    Except DbError Database := do
  let transaction ← insertRows .transaction Transaction.Storable
    (fun t => t.blockNumber ∈ db.block.keys) db.transaction transactions
  let stubs :=
    if triggers.transactionCheckFailed then
      (db.transaction.newRows transactions).filterMap (failedTransactionStub db)
    else []
  return { db with transaction, failedTransaction := db.failedTransaction.insertNew stubs }

/-- `insert_swap_events` (`queries.rs:182-226`). -/
def insertSwapEvents (db : Database) (events : List SwapEvent) : Except DbError Database := do
  let swapEvent ← insertRows .swapEvent SwapEvent.Storable
    (fun e => e.txHash ∈ db.transaction.keys) db.swapEvent events
  return { db with swapEvent }

/-- `insert_liquidity_events` (`queries.rs:228-278`). -/
def insertLiquidityEvents (db : Database) (events : List LiquidityEvent) :
    Except DbError Database := do
  let liquidityEvent ← insertRows .liquidityEvent LiquidityEvent.Storable
    (fun e => e.txHash ∈ db.transaction.keys) db.liquidityEvent events
  return { db with liquidityEvent }

/-- `insert_token_transfers` (`queries.rs:280-313`). -/
def insertTokenTransfers (db : Database) (transfers : List TokenTransfer) :
    Except DbError Database := do
  let tokenTransfer ← insertRows .tokenTransfer TokenTransfer.Storable
    (fun t => t.txHash ∈ db.transaction.keys) db.tokenTransfer transfers
  return { db with tokenTransfer }

/-- `insert_failed_transactions` (`queries.rs:315-356`). -/
def insertFailedTransactions (db : Database) (failed : List FailedTransaction) :
    Except DbError Database := do
  let failedTransaction ← insertRows .failedTransaction FailedTransaction.Storable
    (fun f => f.txHash ∈ db.transaction.keys) db.failedTransaction failed
  return { db with failedTransaction }

/-- `insert_trace_logs` (`queries.rs:433-469`). The only key of `trace_log` is generated, so
there is no conflict to skip a row on. -/
def insertTraceLogs (db : Database) (traces : List TraceLog) : Except DbError Database :=
  if ∀ r ∈ traces, r.Storable then
    if ∀ r ∈ traces, r.txHash ∈ db.transaction.keys then
      .ok { db with traceLog := db.traceLog.insert traces }
    else .error (.foreignKey .traceLog)
  else .error (.notStorable .traceLog)

/-- One `INSERT` of the indexer. -/
inductive Insert where
  | blocks (rows : List Block)
  | transactions (rows : List Transaction)
  | swapEvents (rows : List SwapEvent)
  | liquidityEvents (rows : List LiquidityEvent)
  | tokenTransfers (rows : List TokenTransfer)
  | traceLogs (rows : List TraceLog)
  | failedTransactions (rows : List FailedTransaction)
  deriving DecidableEq, Repr

/-- Run one `INSERT`. -/
def Insert.exec (triggers : Triggers) (db : Database) : Insert → Except DbError Database
  | .blocks rows => insertBlocks db rows
  | .transactions rows => insertTransactions triggers db rows
  | .swapEvents rows => insertSwapEvents db rows
  | .liquidityEvents rows => insertLiquidityEvents db rows
  | .tokenTransfers rows => insertTokenTransfers db rows
  | .traceLogs rows => insertTraceLogs db rows
  | .failedTransactions rows => insertFailedTransactions db rows

/-- Run `INSERT`s one after another, each committed on its own, up to the first that fails. -/
def execInserts (triggers : Triggers) : Database → List Insert → Database × Except DbError Unit
  | db, [] => (db, .ok ())
  | db, i :: is =>
      match i.exec triggers db with
      | .ok db' => execInserts triggers db' is
      | .error e => (db, .error e)

/-! ## Reads -/

/-- The rows of a call trace in the order of their identifiers. -/
def tracesOf (db : Database) (txHash : String) : List TraceLog :=
  db.traceLog.values.filter fun r => r.txHash = txHash

/-- `list_trace_logs_by_tx` (`queries.rs:623-640`). -/
def listTraceLogsByTx (db : Database) (txHash : String) (limit : Nat) : List TraceLog :=
  (tracesOf db txHash).take limit

/-- `get_first_error_frame` (`queries.rs:648-665`): the row with the lowest `trace_id`, and that
identifier. -/
def getFirstErrorFrame (db : Database) (txHash : String) : Option (Nat × TraceLog) :=
  (db.traceLog.rows.filter fun r => r.2.txHash = txHash ∧ r.2.error.isSome).head?

/-- `get_last_checkpoint` (`queries.rs:779-786`). -/
def getLastCheckpoint (db : Database) : Option Int := db.indexerCheckpoint

/-- `update_checkpoint` (`queries.rs:789-806`). -/
def updateCheckpoint (db : Database) (lastProcessedBlock : Int) : Database :=
  { db with indexerCheckpoint := some lastProcessedBlock }

/-- `recent_block_hashes` (`queries.rs:828-846`): number and hash of the rows that have a hash,
highest first. -/
def recentBlockHashes (db : Database) (limit : Nat) : List (Int × String) :=
  ((db.block.rows.filterMap fun b => b.blockHash.map fun hash => (b.blockNumber, hash)).insertionSort
    fun a b => b.1 ≤ a.1).take limit

end TxIndexer.Db
