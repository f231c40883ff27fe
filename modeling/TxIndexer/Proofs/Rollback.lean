import TxIndexer.Db.Rollback

/-!
# What a rollback deletes

A row of the seven tables belongs to the block it names, or to that of the transaction it names.
`rollback_from_block` deletes the rows of the blocks from the given one on, and no other.
-/

namespace TxIndexer.Proofs

open Db

/-- A row of the seven tables; a `trace_log` row comes with its identifier. -/
inductive Row where
  | block (b : Block)
  | transaction (t : Transaction)
  | swapEvent (e : SwapEvent)
  | liquidityEvent (e : LiquidityEvent)
  | tokenTransfer (t : TokenTransfer)
  | traceLog (traceId : Nat) (t : TraceLog)
  | failedTransaction (f : FailedTransaction)

/-- The row is stored. -/
def Stored (db : Database) : Row → Prop
  | .block b => b ∈ db.block
  | .transaction t => t ∈ db.transaction
  | .swapEvent e => e ∈ db.swapEvent
  | .liquidityEvent e => e ∈ db.liquidityEvent
  | .tokenTransfer t => t ∈ db.tokenTransfer
  | .traceLog traceId t => (traceId, t) ∈ db.traceLog.rows
  | .failedTransaction f => f ∈ db.failedTransaction

/-- A stored transaction with this hash is in block `n`. -/
def HashInBlock (db : Database) (txHash : String) (n : Int) : Prop :=
  ∃ t ∈ db.transaction, t.txHash = txHash ∧ t.blockNumber = n

/-- The row belongs to block `n`. -/
def BelongsTo (db : Database) : Row → Int → Prop
  | .block b, n => b.blockNumber = n
  | .transaction t, n => t.blockNumber = n
  | .swapEvent e, n => HashInBlock db e.txHash n
  | .liquidityEvent e, n => HashInBlock db e.txHash n
  | .tokenTransfer t, n => HashInBlock db t.txHash n
  | .traceLog _ t, n => HashInBlock db t.txHash n
  | .failedTransaction f, n => HashInBlock db f.txHash n

/-- What the row refers to is stored. -/
def ReferenceHolds (db : Database) : Row → Prop
  | .block _ => True
  | .transaction t => ∃ b ∈ db.block, b.blockNumber = t.blockNumber
  | .swapEvent e => ∃ t ∈ db.transaction, t.txHash = e.txHash
  | .liquidityEvent e => ∃ t ∈ db.transaction, t.txHash = e.txHash
  | .tokenTransfer t' => ∃ t ∈ db.transaction, t.txHash = t'.txHash
  | .traceLog _ t' => ∃ t ∈ db.transaction, t.txHash = t'.txHash
  | .failedTransaction f => ∃ t ∈ db.transaction, t.txHash = f.txHash

/-- The foreign keys of the schema. -/
def ForeignKeys (db : Database) : Prop := ∀ row, Stored db row → ReferenceHolds db row

theorem inRolledBackTransaction_iff {db : Database} {fromBlock : Int} {txHash : String} :
    inRolledBackTransaction db fromBlock txHash = true ↔
      ∃ n, HashInBlock db txHash n ∧ fromBlock ≤ n := by
  simp only [inRolledBackTransaction, List.any_eq_true, Bool.and_eq_true, decide_eq_true_eq,
    HashInBlock]
  constructor
  · rintro ⟨t, ht, hhash, hge⟩
    exact ⟨t.blockNumber, ⟨t, ht, hhash, rfl⟩, hge⟩
  · rintro ⟨n, ⟨t, ht, hhash, rfl⟩, hge⟩
    exact ⟨t, ht, hhash, hge⟩

/-- A rollback keeps a row exactly when it belongs to no block from `fromBlock` on. -/
theorem stored_rolledBack_iff {db : Database} {fromBlock : Int} {row : Row} :
    Stored (rolledBack db fromBlock) row ↔
      Stored db row ∧ ∀ n, BelongsTo db row n → n < fromBlock := by
  have hdependent : ∀ txHash, (!inRolledBackTransaction db fromBlock txHash) = true ↔
      ∀ n, HashInBlock db txHash n → n < fromBlock := by
    intro txHash
    rw [Bool.not_eq_true', ← Bool.not_eq_true, inRolledBackTransaction_iff]
    simp only [not_exists, not_and, not_le]
  cases row with
  | block b => simp [Stored, BelongsTo, rolledBack, Lib.KeyedTable.mem_deleteWhere]
  | transaction t => simp [Stored, BelongsTo, rolledBack, Lib.KeyedTable.mem_deleteWhere]
  | swapEvent e =>
      simp only [Stored, BelongsTo, rolledBack, Lib.KeyedTable.mem_deleteWhere, ← hdependent]
      simp
  | liquidityEvent e =>
      simp only [Stored, BelongsTo, rolledBack, Lib.KeyedTable.mem_deleteWhere, ← hdependent]
      simp
  | tokenTransfer t =>
      simp only [Stored, BelongsTo, rolledBack, Lib.KeyedTable.mem_deleteWhere, ← hdependent]
      simp
  | traceLog traceId t =>
      simp only [Stored, BelongsTo, rolledBack, Lib.SerialTable.deleteWhere, List.mem_filter,
        ← hdependent]
  | failedTransaction f =>
      simp only [Stored, BelongsTo, rolledBack, Lib.KeyedTable.mem_deleteWhere, ← hdependent]
      simp

/-- A row belongs to one block at most. -/
theorem BelongsTo.unique {db : Database} {row : Row} {n m : Int} (hn : BelongsTo db row n)
    (hm : BelongsTo db row m) : n = m := by
  have hhash : ∀ txHash, HashInBlock db txHash n → HashInBlock db txHash m → n = m := by
    rintro txHash ⟨t, ht, rfl, rfl⟩ ⟨t', ht', hkey, rfl⟩
    rw [List.inj_on_of_nodup_map db.transaction.nodup ht' ht hkey]
  cases row with
  | block b => exact hn.symm.trans hm
  | transaction t => exact hn.symm.trans hm
  | swapEvent e => exact hhash _ hn hm
  | liquidityEvent e => exact hhash _ hn hm
  | tokenTransfer t => exact hhash _ hn hm
  | traceLog traceId t => exact hhash _ hn hm
  | failedTransaction f => exact hhash _ hn hm

/-- What a transaction left is left in its block. -/
theorem HashInBlock.of_rolledBack {db : Database} {fromBlock : Int} {txHash : String} {n : Int}
    (h : HashInBlock (rolledBack db fromBlock) txHash n) : HashInBlock db txHash n := by
  obtain ⟨t, ht, hhash, hnumber⟩ := h
  have hstored : Stored (rolledBack db fromBlock) (.transaction t) := ht
  exact ⟨t, (stored_rolledBack_iff.mp hstored).1, hhash, hnumber⟩

theorem BelongsTo.of_rolledBack {db : Database} {fromBlock : Int} {row : Row} {n : Int}
    (h : BelongsTo (rolledBack db fromBlock) row n) : BelongsTo db row n := by
  cases row with
  | block b => exact h
  | transaction t => exact h
  | swapEvent e => exact HashInBlock.of_rolledBack h
  | liquidityEvent e => exact HashInBlock.of_rolledBack h
  | tokenTransfer t => exact HashInBlock.of_rolledBack h
  | traceLog traceId t => exact HashInBlock.of_rolledBack h
  | failedTransaction f => exact HashInBlock.of_rolledBack h

/-- A rollback breaks no foreign key. -/
theorem foreignKeys_rolledBack {db : Database} (hkeys : ForeignKeys db) (fromBlock : Int) :
    ForeignKeys (rolledBack db fromBlock) := by
  have hhash : ∀ txHash, (∃ t ∈ db.transaction, t.txHash = txHash) →
      (∀ n, HashInBlock db txHash n → n < fromBlock) →
      ∃ t ∈ (rolledBack db fromBlock).transaction, t.txHash = txHash := by
    rintro txHash ⟨t, ht, rfl⟩ hlower
    have hkept : Stored (rolledBack db fromBlock) (.transaction t) := by
      refine stored_rolledBack_iff.mpr ⟨ht, ?_⟩
      rintro n rfl
      exact hlower _ ⟨t, ht, rfl, rfl⟩
    exact ⟨t, hkept, rfl⟩
  intro row hstored
  obtain ⟨hbefore, hlower⟩ := stored_rolledBack_iff.mp hstored
  have hreference := hkeys row hbefore
  cases row with
  | block b => trivial
  | transaction t =>
      obtain ⟨b, hb, hnumber⟩ := hreference
      have hkept : Stored (rolledBack db fromBlock) (.block b) := by
        refine stored_rolledBack_iff.mpr ⟨hb, ?_⟩
        rintro n rfl
        exact hlower _ hnumber.symm
      exact ⟨b, hkept, hnumber⟩
  | swapEvent e => exact hhash _ hreference hlower
  | liquidityEvent e => exact hhash _ hreference hlower
  | tokenTransfer t => exact hhash _ hreference hlower
  | traceLog traceId t => exact hhash _ hreference hlower
  | failedTransaction f => exact hhash _ hreference hlower

/-- A rollback changes nothing where no row belongs to a block from `fromBlock` on and the
checkpoint is already wound back. -/
theorem rolledBack_eq_self {db : Database} {fromBlock : Int}
    (hlower : ∀ row, Stored db row → ∀ n, BelongsTo db row n → n < fromBlock)
    (hcheckpoint : ∀ c ∈ db.indexerCheckpoint, c = max (fromBlock - 1) 0) :
    rolledBack db fromBlock = db := by
  have hnone : ∀ txHash, inRolledBackTransaction db fromBlock txHash = false := by
    intro txHash
    rw [Bool.eq_false_iff]
    intro h
    obtain ⟨n, ⟨t, ht, -, rfl⟩, hge⟩ := inRolledBackTransaction_iff.mp h
    have hlt := hlower (.transaction t) ht _ rfl
    omega
  unfold rolledBack
  obtain ⟨block, transaction, swapEvent, liquidityEvent, tokenTransfer, traceLog,
    failedTransaction, checkpoint⟩ := db
  simp only [Database.mk.injEq]
  refine ⟨Lib.KeyedTable.deleteWhere_eq_self ?_, Lib.KeyedTable.deleteWhere_eq_self ?_,
    Lib.KeyedTable.deleteWhere_eq_self fun e _ => hnone e.txHash,
    Lib.KeyedTable.deleteWhere_eq_self fun e _ => hnone e.txHash,
    Lib.KeyedTable.deleteWhere_eq_self fun t _ => hnone t.txHash,
    Lib.SerialTable.deleteWhere_eq_self fun r _ => hnone r.2.txHash,
    Lib.KeyedTable.deleteWhere_eq_self fun f _ => hnone f.txHash, ?_⟩
  · intro b hb
    simpa using hlower (.block b) hb _ rfl
  · intro t ht
    simpa using hlower (.transaction t) ht _ rfl
  · cases checkpoint with
    | none => rfl
    | some c => rw [hcheckpoint c rfl]; rfl

theorem lower_of_stored_rolledBack {db : Database} {fromBlock : Int} {row : Row} {n : Int}
    (hstored : Stored (rolledBack db fromBlock) row)
    (hrow : BelongsTo db row n ∨ BelongsTo (rolledBack db fromBlock) row n) : n < fromBlock := by
  have hlower := (stored_rolledBack_iff.mp hstored).2
  rcases hrow with hrow | hrow
  · exact hlower n hrow
  · exact hlower n hrow.of_rolledBack

/-- From any state that satisfies the foreign keys a rollback succeeds. It leaves no row of the
blocks from `fromBlock` on and every row of the lower ones, adds none, breaks no foreign key and
returns how many blocks it deleted; a second one changes nothing. -/
theorem rollback_exact {db : Database} (hkeys : ForeignKeys db) (fromBlock : Int) :
    ∃ db' count, rollbackFromBlock db fromBlock = .ok (db', count) ∧
      (∀ row n, Stored db' row → BelongsTo db row n ∨ BelongsTo db' row n → n < fromBlock) ∧
      (∀ row n, Stored db row → BelongsTo db row n → n < fromBlock → Stored db' row) ∧
      (∀ row, Stored db' row → Stored db row) ∧
      ForeignKeys db' ∧
      count + db'.block.rows.length = db.block.rows.length ∧
      rollbackFromBlock db' fromBlock = .ok (db', 0) := by
  refine ⟨_, _, rollbackFromBlock_eq db fromBlock, ?_, ?_, ?_, foreignKeys_rolledBack hkeys _, ?_,
    ?_⟩
  · exact fun row n hstored hrow => lower_of_stored_rolledBack hstored hrow
  · intro row n hstored hrow hlt
    refine stored_rolledBack_iff.mpr ⟨hstored, ?_⟩
    intro m hm
    rw [hm.unique hrow]
    exact hlt
  · exact fun row hstored => (stored_rolledBack_iff.mp hstored).1
  · exact (List.length_eq_length_filter_add _).symm
  · have hagain : rolledBack (rolledBack db fromBlock) fromBlock = rolledBack db fromBlock := by
      apply rolledBack_eq_self
      · exact fun row hstored n hrow => lower_of_stored_rolledBack hstored (.inr hrow)
      · intro c hc
        obtain ⟨c', -, rfl⟩ := Option.map_eq_some_iff.mp hc
        rfl
    have hnone : (rolledBack db fromBlock).block.rows.filter (fun b => fromBlock ≤ b.blockNumber) =
        [] := by
      rw [List.filter_eq_nil_iff]
      intro b hb
      have hstored : Stored (rolledBack db fromBlock) (.block b) := hb
      have hlt : b.blockNumber < fromBlock := lower_of_stored_rolledBack hstored (.inl rfl)
      simpa using hlt
    rw [rollbackFromBlock_eq, hagain, hnone]
    rfl

/-- Two blocks of one transaction each, the first of which moved a token and the second of which
failed. -/
def twoBlocks : Database where
  block := ⟨[⟨1, 1700000000, 21000, none, none⟩, ⟨2, 1700000012, 21000, none, none⟩], by decide⟩
  transaction := ⟨[⟨"0x01", "0x0a", some "0x0b", 1, 21000, 1, 0, 1, none⟩,
    ⟨"0x02", "0x0a", some "0x0b", 2, 21000, 1, 0, 0, none⟩], by decide⟩
  swapEvent := ∅
  liquidityEvent := ∅
  tokenTransfer := ⟨[⟨"0x01", "0x0c", "0x0a", "0x0b", 5, 0, 1700000000⟩], by decide⟩
  traceLog := Lib.SerialTable.insert ∅
    [⟨"0x02", 0, "CALL", "0x0a", some "0x0b", 0, 21000, none, none, some "reverted"⟩]
  failedTransaction := ⟨[⟨"0x02", .unknown, none, none, 21000, 1700000012⟩], by decide⟩
  indexerCheckpoint := some 2

theorem foreignKeys_twoBlocks : ForeignKeys twoBlocks := by
  have hblock : ∀ t ∈ twoBlocks.transaction.rows, ∃ b ∈ twoBlocks.block.rows,
      b.blockNumber = t.blockNumber := by decide
  have hhash : ∀ txHash ∈ ["0x01", "0x02"],
      ∃ t ∈ twoBlocks.transaction.rows, t.txHash = txHash := by decide
  intro row hstored
  cases row with
  | block b => trivial
  | transaction t => exact hblock t hstored
  | swapEvent e => cases hstored
  | liquidityEvent e => cases hstored
  | tokenTransfer t =>
      have hin : ∀ t ∈ twoBlocks.tokenTransfer.rows, t.txHash ∈ ["0x01", "0x02"] := by decide
      exact hhash _ (hin t hstored)
  | traceLog traceId t =>
      have hin : ∀ r ∈ twoBlocks.traceLog.rows, r.2.txHash ∈ ["0x01", "0x02"] := by decide
      exact hhash _ (hin (traceId, t) hstored)
  | failedTransaction f =>
      have hin : ∀ f ∈ twoBlocks.failedTransaction.rows, f.txHash ∈ ["0x01", "0x02"] := by decide
      exact hhash _ (hin f hstored)

/-- Rolling back the second block deletes one block. -/
theorem rollback_exact_twoBlocks : ∃ db' count,
    rollbackFromBlock twoBlocks 2 = .ok (db', count) ∧ ForeignKeys db' ∧
      count + db'.block.rows.length = 2 := by
  obtain ⟨db', count, hrollback, -, -, -, hkeys, hcount, -⟩ :=
    rollback_exact foreignKeys_twoBlocks 2
  exact ⟨db', count, hrollback, hkeys, hcount⟩

end TxIndexer.Proofs
