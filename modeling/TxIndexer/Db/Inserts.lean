import TxIndexer.Db.Queries

/-!
# What an INSERT does

An `INSERT` of the indexer succeeds only if all its rows are storable, adds rows and nothing
else, and does nothing when it runs again, except that `insert_trace_logs` has no key to skip a
row on and adds its rows each time.
-/

namespace TxIndexer.Db

variable {triggers : Triggers} {db db' db₁ db₂ : Database}

/-! ## One statement -/

/-- The rows that the trigger adds for a batch of transactions. -/
def stubsOf (triggers : Triggers) (db : Database) (rows : List Transaction) :
    List FailedTransaction :=
  if triggers.transactionCheckFailed then
    (db.transaction.newRows rows).filterMap (failedTransactionStub db)
  else []

theorem insertBlocks_eq_ok {rows : List Block} : insertBlocks db rows = .ok db' ↔
    (∀ r ∈ rows, r.Storable) ∧ (∀ r ∈ db.block.newRows rows, True) ∧
    db' = { db with block := db.block.insertNew rows } := insertRows_bind_eq_ok

theorem insertTransactions_eq_ok {rows : List Transaction} :
    insertTransactions triggers db rows = .ok db' ↔
      (∀ r ∈ rows, r.Storable) ∧
      (∀ r ∈ db.transaction.newRows rows, r.blockNumber ∈ db.block.keys) ∧
      db' = { db with
        transaction := db.transaction.insertNew rows
        failedTransaction := db.failedTransaction.insertNew (stubsOf triggers db rows) } :=
  insertRows_bind_eq_ok

theorem insertSwapEvents_eq_ok {rows : List SwapEvent} : insertSwapEvents db rows = .ok db' ↔
    (∀ r ∈ rows, r.Storable) ∧ (∀ r ∈ db.swapEvent.newRows rows, r.txHash ∈ db.transaction.keys) ∧
    db' = { db with swapEvent := db.swapEvent.insertNew rows } := insertRows_bind_eq_ok

theorem insertLiquidityEvents_eq_ok {rows : List LiquidityEvent} :
    insertLiquidityEvents db rows = .ok db' ↔
      (∀ r ∈ rows, r.Storable) ∧
      (∀ r ∈ db.liquidityEvent.newRows rows, r.txHash ∈ db.transaction.keys) ∧
      db' = { db with liquidityEvent := db.liquidityEvent.insertNew rows } := insertRows_bind_eq_ok

theorem insertTokenTransfers_eq_ok {rows : List TokenTransfer} :
    insertTokenTransfers db rows = .ok db' ↔
      (∀ r ∈ rows, r.Storable) ∧
      (∀ r ∈ db.tokenTransfer.newRows rows, r.txHash ∈ db.transaction.keys) ∧
      db' = { db with tokenTransfer := db.tokenTransfer.insertNew rows } := insertRows_bind_eq_ok

theorem insertFailedTransactions_eq_ok {rows : List FailedTransaction} :
    insertFailedTransactions db rows = .ok db' ↔
      (∀ r ∈ rows, r.Storable) ∧
      (∀ r ∈ db.failedTransaction.newRows rows, r.txHash ∈ db.transaction.keys) ∧
      db' = { db with failedTransaction := db.failedTransaction.insertNew rows } :=
  insertRows_bind_eq_ok

theorem insertTraceLogs_eq_ok {rows : List TraceLog} : insertTraceLogs db rows = .ok db' ↔
    (∀ r ∈ rows, r.Storable) ∧ (∀ r ∈ rows, r.txHash ∈ db.transaction.keys) ∧
    db' = { db with traceLog := db.traceLog.insert rows } := by
  unfold insertTraceLogs
  by_cases hstorable : ∀ r ∈ rows, r.Storable
  · by_cases hparent : ∀ r ∈ rows, r.txHash ∈ db.transaction.keys
    · rw [if_pos hstorable, if_pos hparent, Except.ok.injEq]
      exact ⟨fun h => ⟨hstorable, hparent, h.symm⟩, fun h => h.2.2.symm⟩
    · rw [if_pos hstorable, if_neg hparent]
      exact ⟨nofun, fun h => absurd h.2.1 hparent⟩
  · rw [if_neg hstorable]
    exact ⟨nofun, fun h => absurd h.1 hstorable⟩

/-- The table of a statement. -/
def Insert.table : Insert → Table
  | .blocks _ => .block
  | .transactions _ => .transaction
  | .swapEvents _ => .swapEvent
  | .liquidityEvents _ => .liquidityEvent
  | .tokenTransfers _ => .tokenTransfer
  | .traceLogs _ => .traceLog
  | .failedTransactions _ => .failedTransaction

/-- The rows of a statement can all be stored. -/
def Insert.RowsStorable : Insert → Prop
  | .blocks rows => ∀ r ∈ rows, r.Storable
  | .transactions rows => ∀ r ∈ rows, r.Storable
  | .swapEvents rows => ∀ r ∈ rows, r.Storable
  | .liquidityEvents rows => ∀ r ∈ rows, r.Storable
  | .tokenTransfers rows => ∀ r ∈ rows, r.Storable
  | .traceLogs rows => ∀ r ∈ rows, r.Storable
  | .failedTransactions rows => ∀ r ∈ rows, r.Storable

/-- What the rows that a statement adds refer to is stored. -/
def Insert.ParentsStored (db : Database) : Insert → Prop
  | .blocks _ => True
  | .transactions rows => ∀ r ∈ db.transaction.newRows rows, r.blockNumber ∈ db.block.keys
  | .swapEvents rows => ∀ r ∈ db.swapEvent.newRows rows, r.txHash ∈ db.transaction.keys
  | .liquidityEvents rows => ∀ r ∈ db.liquidityEvent.newRows rows, r.txHash ∈ db.transaction.keys
  | .tokenTransfers rows => ∀ r ∈ db.tokenTransfer.newRows rows, r.txHash ∈ db.transaction.keys
  | .traceLogs rows => ∀ r ∈ rows, r.txHash ∈ db.transaction.keys
  | .failedTransactions rows =>
      ∀ r ∈ db.failedTransaction.newRows rows, r.txHash ∈ db.transaction.keys

/-- The database with the rows of a statement in it. -/
def Insert.applied (triggers : Triggers) (db : Database) : Insert → Database
  | .blocks rows => { db with block := db.block.insertNew rows }
  | .transactions rows => { db with
      transaction := db.transaction.insertNew rows
      failedTransaction := db.failedTransaction.insertNew (stubsOf triggers db rows) }
  | .swapEvents rows => { db with swapEvent := db.swapEvent.insertNew rows }
  | .liquidityEvents rows => { db with liquidityEvent := db.liquidityEvent.insertNew rows }
  | .tokenTransfers rows => { db with tokenTransfer := db.tokenTransfer.insertNew rows }
  | .traceLogs rows => { db with traceLog := db.traceLog.insert rows }
  | .failedTransactions rows =>
      { db with failedTransaction := db.failedTransaction.insertNew rows }

/-- A statement succeeds exactly when its rows can be stored and refer to stored rows, and then
its rows are in. -/
theorem Insert.exec_eq_ok {i : Insert} : i.exec triggers db = .ok db' ↔
    i.RowsStorable ∧ i.ParentsStored db ∧ db' = i.applied triggers db := by
  cases i with
  | blocks rows =>
      rw [exec, insertBlocks_eq_ok]
      simp [RowsStorable, ParentsStored, applied]
  | transactions rows => exact insertTransactions_eq_ok
  | swapEvents rows => exact insertSwapEvents_eq_ok
  | liquidityEvents rows => exact insertLiquidityEvents_eq_ok
  | tokenTransfers rows => exact insertTokenTransfers_eq_ok
  | traceLogs rows => exact insertTraceLogs_eq_ok
  | failedTransactions rows => exact insertFailedTransactions_eq_ok

/-- A statement that fails on a column or a `CHECK` has a row that cannot be stored. -/
theorem Insert.exec_notStorable {i : Insert} {table : Table}
    (h : i.exec triggers db = .error (.notStorable table)) :
    table = i.table ∧ ¬ i.RowsStorable := by
  cases i with
  | traceLogs rows =>
      simp only [exec, insertTraceLogs] at h
      by_cases hstorable : ∀ r ∈ rows, r.Storable
      · rw [if_pos hstorable] at h
        split at h <;> cases h
      · rw [if_neg hstorable] at h
        cases h
        exact ⟨rfl, hstorable⟩
  | _ => exact insertRows_bind_notStorable h

/-- No key of `db` is missing from `db'`. -/
structure Grows (db db' : Database) : Prop where
  block : db.block.keys ⊆ db'.block.keys
  transaction : db.transaction.keys ⊆ db'.transaction.keys
  swapEvent : db.swapEvent.keys ⊆ db'.swapEvent.keys
  liquidityEvent : db.liquidityEvent.keys ⊆ db'.liquidityEvent.keys
  tokenTransfer : db.tokenTransfer.keys ⊆ db'.tokenTransfer.keys
  failedTransaction : db.failedTransaction.keys ⊆ db'.failedTransaction.keys

theorem Grows.refl (db : Database) : Grows db db := ⟨fun _ => id, fun _ => id, fun _ => id,
  fun _ => id, fun _ => id, fun _ => id⟩

theorem Grows.trans (h : Grows db db₁) (h' : Grows db₁ db₂) : Grows db db₂ where
  block := List.Subset.trans h.block h'.block
  transaction := List.Subset.trans h.transaction h'.transaction
  swapEvent := List.Subset.trans h.swapEvent h'.swapEvent
  liquidityEvent := List.Subset.trans h.liquidityEvent h'.liquidityEvent
  tokenTransfer := List.Subset.trans h.tokenTransfer h'.tokenTransfer
  failedTransaction := List.Subset.trans h.failedTransaction h'.failedTransaction

theorem Insert.exec_grows {i : Insert} (h : i.exec triggers db = .ok db') : Grows db db' := by
  obtain ⟨-, -, rfl⟩ := exec_eq_ok.mp h
  cases i with
  | blocks rows => exact { Grows.refl db with block := db.block.keys_subset_insertNew rows }
  | transactions rows =>
      exact { Grows.refl db with
        transaction := db.transaction.keys_subset_insertNew rows
        failedTransaction := db.failedTransaction.keys_subset_insertNew _ }
  | swapEvents rows =>
      exact { Grows.refl db with swapEvent := db.swapEvent.keys_subset_insertNew rows }
  | liquidityEvents rows =>
      exact { Grows.refl db with liquidityEvent := db.liquidityEvent.keys_subset_insertNew rows }
  | tokenTransfers rows =>
      exact { Grows.refl db with tokenTransfer := db.tokenTransfer.keys_subset_insertNew rows }
  | traceLogs rows => exact { Grows.refl db with }
  | failedTransactions rows =>
      exact { Grows.refl db with
        failedTransaction := db.failedTransaction.keys_subset_insertNew rows }

/-- The `block` rows of a statement. -/
def Insert.blockRows : Insert → List Block
  | .blocks rows => rows
  | _ => []

theorem Insert.exec_block {i : Insert} (h : i.exec triggers db = .ok db') :
    db'.block = db.block.insertNew i.blockRows := by
  obtain ⟨-, -, rfl⟩ := exec_eq_ok.mp h
  cases i <;> simp [applied, blockRows]

/-- The `transaction` rows of a statement. -/
def Insert.transactionRows : Insert → List Transaction
  | .transactions rows => rows
  | _ => []

/-- No statement moves the checkpoint. -/
theorem Insert.exec_checkpoint {i : Insert} (h : i.exec triggers db = .ok db') :
    db'.indexerCheckpoint = db.indexerCheckpoint := by
  obtain ⟨-, -, rfl⟩ := exec_eq_ok.mp h
  cases i <;> rfl

/-- The `trace_log` rows of a statement. -/
def Insert.traces : Insert → List TraceLog
  | .traceLogs rows => rows
  | _ => []

/-- The same database with another `trace_log`. -/
def Database.withTraces (db : Database) (t : Lib.SerialTable TraceLog) : Database :=
  { db with traceLog := t }

@[simp] theorem Database.withTraces_self (db : Database) : db.withTraces db.traceLog = db := rfl

@[simp] theorem Database.withTraces_withTraces (db : Database) (t u : Lib.SerialTable TraceLog) :
    (db.withTraces t).withTraces u = db.withTraces u := rfl

theorem Insert.parentsStored_withTraces {i : Insert} (t : Lib.SerialTable TraceLog) :
    i.ParentsStored (db.withTraces t) ↔ i.ParentsStored db := by
  cases i <;> exact Iff.rfl

theorem Insert.applied_withTraces (i : Insert) (t : Lib.SerialTable TraceLog) :
    i.applied triggers (db.withTraces t) =
      (i.applied triggers db).withTraces (t.insert i.traces) := by
  cases i with
  | transactions rows => simp [applied, Database.withTraces, traces, stubsOf]; rfl
  | _ => simp [applied, Database.withTraces, traces]

/-- No statement reads `trace_log`, and each appends its own traces to it. -/
theorem Insert.exec_withTraces {i : Insert} (h : i.exec triggers db = .ok db')
    (t : Lib.SerialTable TraceLog) :
    i.exec triggers (db.withTraces t) = .ok (db'.withTraces (t.insert i.traces)) := by
  obtain ⟨hstorable, hparents, rfl⟩ := exec_eq_ok.mp h
  exact exec_eq_ok.mpr
    ⟨hstorable, (parentsStored_withTraces t).mpr hparents, (i.applied_withTraces t).symm⟩

/-- The rows of a statement that have a key of their own have one that is taken, and the others
refer to stored rows. -/
def Insert.KeysTaken (db : Database) : Insert → Prop
  | .blocks rows => ∀ r ∈ rows, r.blockNumber ∈ db.block.keys
  | .transactions rows => ∀ r ∈ rows, r.txHash ∈ db.transaction.keys
  | .swapEvents rows => ∀ r ∈ rows, r.key ∈ db.swapEvent.keys
  | .liquidityEvents rows => ∀ r ∈ rows, r.key ∈ db.liquidityEvent.keys
  | .tokenTransfers rows => ∀ r ∈ rows, r.key ∈ db.tokenTransfer.keys
  | .traceLogs rows => ∀ r ∈ rows, r.txHash ∈ db.transaction.keys
  | .failedTransactions rows => ∀ r ∈ rows, r.txHash ∈ db.failedTransaction.keys

/-- The keys of a statement stay taken once it ran. -/
theorem Insert.keysTaken_of_exec {i : Insert} (h : i.exec triggers db = .ok db₁)
    (hgrows : Grows db₁ db₂) : i.KeysTaken db₂ := by
  obtain ⟨-, hparents, rfl⟩ := exec_eq_ok.mp h
  cases i with
  | blocks rows =>
      exact fun r hr => hgrows.block (db.block.mem_keys_insertNew rows r hr)
  | transactions rows =>
      exact fun r hr => hgrows.transaction (db.transaction.mem_keys_insertNew rows r hr)
  | swapEvents rows =>
      exact fun r hr => hgrows.swapEvent (db.swapEvent.mem_keys_insertNew rows r hr)
  | liquidityEvents rows =>
      exact fun r hr => hgrows.liquidityEvent (db.liquidityEvent.mem_keys_insertNew rows r hr)
  | tokenTransfers rows =>
      exact fun r hr => hgrows.tokenTransfer (db.tokenTransfer.mem_keys_insertNew rows r hr)
  | traceLogs rows => exact fun r hr => hgrows.transaction (hparents r hr)
  | failedTransactions rows =>
      exact fun r hr => hgrows.failedTransaction
        (db.failedTransaction.mem_keys_insertNew rows r hr)

theorem Insert.parentsStored_of_keysTaken {i : Insert} (h : i.KeysTaken db) :
    i.ParentsStored db := by
  cases i with
  | blocks rows => trivial
  | traceLogs rows => exact h
  | _ => simp [ParentsStored, Lib.KeyedTable.newRows_eq_nil h]

/-- A statement whose keys are taken only adds its traces. -/
theorem Insert.applied_of_keysTaken {i : Insert} (h : i.KeysTaken db) :
    i.applied triggers db = db.withTraces (db.traceLog.insert i.traces) := by
  cases i with
  | transactions rows =>
      simp [applied, Database.withTraces, traces, stubsOf, Lib.KeyedTable.newRows_eq_nil h,
        Lib.KeyedTable.insertNew_eq_self h]
  | traceLogs rows => rfl
  | _ => simp [applied, Database.withTraces, traces, Lib.KeyedTable.insertNew_eq_self h]

/-- A statement that ran runs again after any others, and then only repeats its traces. -/
theorem Insert.exec_again {i : Insert} (h : i.exec triggers db = .ok db₁) (hgrows : Grows db₁ db₂) :
    i.exec triggers db₂ = .ok (db₂.withTraces (db₂.traceLog.insert i.traces)) := by
  have htaken := keysTaken_of_exec h hgrows
  exact exec_eq_ok.mpr ⟨(exec_eq_ok.mp h).1, parentsStored_of_keysTaken htaken,
    (applied_of_keysTaken htaken).symm⟩

/-! ## A list of statements -/

/-- The statements all succeed and take `db` to `db'`. -/
def ExecOk (triggers : Triggers) (db : Database) (is : List Insert) (db' : Database) : Prop :=
  execInserts triggers db is = (db', .ok ())

@[simp] theorem execOk_nil : ExecOk triggers db [] db' ↔ db' = db := by
  simp [ExecOk, execInserts, eq_comm]

@[simp] theorem execOk_cons {i : Insert} {is : List Insert} : ExecOk triggers db (i :: is) db' ↔
    ∃ mid, i.exec triggers db = .ok mid ∧ ExecOk triggers mid is db' := by
  unfold ExecOk
  rw [execInserts]
  cases i.exec triggers db with
  | error e => simp
  | ok mid => simp

@[simp] theorem execOk_append {is js : List Insert} : ExecOk triggers db (is ++ js) db' ↔
    ∃ mid, ExecOk triggers db is mid ∧ ExecOk triggers mid js db' := by
  induction is generalizing db with
  | nil => simp
  | cons i is ih =>
      rw [List.cons_append, execOk_cons]
      constructor
      · rintro ⟨mid, hi, hrest⟩
        obtain ⟨mid', his, hjs⟩ := ih.mp hrest
        exact ⟨mid', execOk_cons.mpr ⟨mid, hi, his⟩, hjs⟩
      · rintro ⟨mid', his, hjs⟩
        obtain ⟨mid, hi, his⟩ := execOk_cons.mp his
        exact ⟨mid, hi, ih.mpr ⟨mid', his, hjs⟩⟩

theorem ExecOk.deterministic {is : List Insert} (h : ExecOk triggers db is db₁)
    (h' : ExecOk triggers db is db₂) : db₁ = db₂ := by
  unfold ExecOk at h h'
  rw [h, Prod.mk.injEq] at h'
  exact h'.1

/-- A run that a failing statement ends is a run of the statements before it. -/
theorem execInserts_error {e : DbError} : ∀ {is : List Insert} {db : Database},
    execInserts triggers db is = (db', .error e) → ∃ k, ExecOk triggers db (is.take k) db'
  | [], db, h => by simp [execInserts] at h
  | i :: is, db, h => by
      rw [execInserts] at h
      cases hi : i.exec triggers db with
      | error e' =>
          rw [hi] at h
          refine ⟨0, ?_⟩
          simp only [Prod.mk.injEq] at h
          simp [h.1]
      | ok mid =>
          rw [hi] at h
          obtain ⟨k, hk⟩ := execInserts_error h
          exact ⟨k + 1, execOk_cons.mpr ⟨mid, hi, hk⟩⟩

/-- A run that fails has a statement that fails. -/
theorem execInserts_failed {e : DbError} : ∀ {is : List Insert} {db : Database},
    execInserts triggers db is = (db', .error e) → ∃ i ∈ is, ∃ mid, i.exec triggers mid = .error e
  | [], db, h => by simp [execInserts] at h
  | i :: is, db, h => by
      rw [execInserts] at h
      cases hi : i.exec triggers db with
      | error e' =>
          rw [hi] at h
          cases h
          exact ⟨i, List.mem_cons_self, _, hi⟩
      | ok mid =>
          rw [hi] at h
          obtain ⟨j, hj, hfail⟩ := execInserts_failed h
          exact ⟨j, List.mem_cons_of_mem i hj, hfail⟩

/-- The `trace_log` rows of some statements. -/
def tracesIn (is : List Insert) : List TraceLog := is.flatMap Insert.traces

theorem ExecOk.grows {is : List Insert} (h : ExecOk triggers db is db') : Grows db db' := by
  induction is generalizing db with
  | nil => rw [execOk_nil.mp h]; exact .refl db
  | cons i is ih =>
      obtain ⟨mid, hi, his⟩ := execOk_cons.mp h
      exact (Insert.exec_grows hi).trans (ih his)

theorem ExecOk.withTraces {is : List Insert} (h : ExecOk triggers db is db')
    (t : Lib.SerialTable TraceLog) :
    ExecOk triggers (db.withTraces t) is (db'.withTraces (t.insert (tracesIn is))) := by
  induction is generalizing db t with
  | nil => rw [execOk_nil.mp h]; simp [tracesIn]
  | cons i is ih =>
      obtain ⟨mid, hi, his⟩ := execOk_cons.mp h
      refine execOk_cons.mpr ⟨_, i.exec_withTraces hi t, ?_⟩
      have hrest := ih his (t.insert i.traces)
      rwa [Lib.SerialTable.insert_insert] at hrest

theorem ExecOk.traceLog {is : List Insert} (h : ExecOk triggers db is db') :
    db'.traceLog = db.traceLog.insert (tracesIn is) := by
  have hself := h.withTraces db.traceLog
  rw [Database.withTraces_self] at hself
  rw [h.deterministic hself]
  rfl

/-- Statements that ran run again after any others, and then only repeat their traces. -/
theorem ExecOk.again {is : List Insert} (h : ExecOk triggers db is db₁) (hgrows : Grows db₁ db₂) :
    ExecOk triggers db₂ is (db₂.withTraces (db₂.traceLog.insert (tracesIn is))) := by
  induction is generalizing db db₂ with
  | nil => simp [tracesIn]
  | cons i is ih =>
      obtain ⟨mid, hi, his⟩ := execOk_cons.mp h
      refine execOk_cons.mpr ⟨_, Insert.exec_again hi (his.grows.trans hgrows), ?_⟩
      have hrest := ih his hgrows
      have htraces := hrest.withTraces (db₂.traceLog.insert i.traces)
      rwa [Database.withTraces_withTraces, Lib.SerialTable.insert_insert] at htraces

end TxIndexer.Db
