import TxIndexer.Indexer.ProcessBlock
import TxIndexer.Db.Inserts

/-!
# The statements of a block

A run of `process_block` succeeds exactly when its fetches do, its traces decode without a
panic, and its seven statements succeed one after another, a statement without rows counting as
one that does nothing.
-/

namespace TxIndexer.Indexer

open Decoder Db

variable {triggers : Triggers} {dec : Decoders} {blockNumber : Nat} {answers : BlockAnswers}
  {db db' : Database}

theorem mem_unlessEmpty {α : Type} {insert : List α → Insert} {rows : List α} {i : Insert} :
    i ∈ unlessEmpty insert rows ↔ rows ≠ [] ∧ i = insert rows := by
  cases rows <;> simp [unlessEmpty]

/-- Leaving a statement out when it has no rows makes no difference. -/
theorem execOk_unlessEmpty {α : Type} (insert : List α → Insert) {rows : List α}
    (hnil : (insert []).exec triggers db = .ok db) :
    ExecOk triggers db (unlessEmpty insert rows) db' ↔
      (insert rows).exec triggers db = .ok db' := by
  cases rows with
  | nil => simp [unlessEmpty, hnil, eq_comm]
  | cons r rs => simp [unlessEmpty]

theorem insertTransactions_nil : insertTransactions triggers db [] = .ok db :=
  insertTransactions_eq_ok.mpr ⟨by simp, by simp, by simp [stubsOf]⟩

theorem insertSwapEvents_nil : insertSwapEvents db [] = .ok db :=
  insertSwapEvents_eq_ok.mpr ⟨by simp, by simp, by simp⟩

theorem insertLiquidityEvents_nil : insertLiquidityEvents db [] = .ok db :=
  insertLiquidityEvents_eq_ok.mpr ⟨by simp, by simp, by simp⟩

theorem insertTokenTransfers_nil : insertTokenTransfers db [] = .ok db :=
  insertTokenTransfers_eq_ok.mpr ⟨by simp, by simp, by simp⟩

theorem insertTraceLogs_nil : insertTraceLogs db [] = .ok db :=
  insertTraceLogs_eq_ok.mpr ⟨by simp, by simp, by simp⟩

theorem insertFailedTransactions_nil : insertFailedTransactions db [] = .ok db :=
  insertFailedTransactions_eq_ok.mpr ⟨by simp, by simp, by simp⟩

/-- A run of `process_block` that succeeds, and what holds of the database it leaves. -/
theorem exists_processBlock_ok (P : Database → Prop)
    (hok : (processBlock triggers dec blockNumber answers db).2 = .ok ())
    (hleft : P (processBlock triggers dec blockNumber answers db).1) :
    ∃ db', processBlock triggers dec blockNumber answers db = (db', .ok ()) ∧ P db' :=
  ⟨_, Prod.ext rfl hok, hleft⟩

/-- The block of `failedBlockAnswers` is stored. -/
theorem failedBlock_stored : ∃ once, processBlock ⟨false⟩ sampleDecoders 5
    (failedBlockAnswers revertedFrame) .empty = (once, .ok ()) := by
  have hok : (processBlock ⟨false⟩ sampleDecoders 5
    (failedBlockAnswers revertedFrame) .empty).2 = .ok () := by decide +kernel
  obtain ⟨once, honce, -⟩ := exists_processBlock_ok (fun _ => True) hok trivial
  exact ⟨once, honce⟩

/-- A run of `process_block` that succeeds is the run of all its statements. -/
theorem processBlock_ok_iff :
    processBlock triggers dec blockNumber answers db = (db', .ok ()) ↔
      ∃ plan, blockPlan dec blockNumber answers = some plan ∧ plan.panic = none ∧
        ExecOk triggers db plan.inserts db' := by
  unfold processBlock ExecOk
  cases hplan : blockPlan dec blockNumber answers with
  | none => simp
  | some plan =>
      rcases hexec : execInserts triggers db plan.inserts with ⟨mid, _ | _⟩
      · simp [hexec]
      · cases hpanic : plan.panic <;> simp [hexec, hpanic]

theorem blockPlan_eq_some {plan : BlockPlan} : blockPlan dec blockNumber answers = some plan ↔
    ∃ block receipts, answers.block = some block ∧ answers.receipts = some receipts ∧
      plan = planOf dec blockNumber block (receipts.getD []) answers.trace := by
  simp only [blockPlan, Option.bind_eq_some_iff, Option.map_eq_some_iff]
  constructor
  · rintro ⟨block, hblock, receipts, hreceipts, rfl⟩
    exact ⟨block, receipts, hblock, hreceipts, rfl⟩
  · rintro ⟨block, receipts, hblock, hreceipts, rfl⟩
    exact ⟨block, hblock, receipts, hreceipts, rfl⟩

/-- The statements that do not depend on a trace, one after another. -/
theorem execOk_eventInserts {block : RpcBlock} {receipts : List Receipt} :
    ExecOk triggers db (eventInserts dec blockNumber block receipts) db' ↔
      ∃ db₁ db₂ db₃ db₄, insertBlocks db [blockRow blockNumber block.header] = .ok db₁ ∧
        insertTransactions triggers db₁
          (transactionRows blockNumber block.transactions receipts) = .ok db₂ ∧
        insertSwapEvents db₂ (swapRows
          (decodedEvents dec.abi (timestampOf block.header.timestamp) receipts)) = .ok db₃ ∧
        insertLiquidityEvents db₃ (liquidityRows
          (decodedEvents dec.abi (timestampOf block.header.timestamp) receipts)) = .ok db₄ ∧
        insertTokenTransfers db₄ (transferRows
          (decodedEvents dec.abi (timestampOf block.header.timestamp) receipts)) = .ok db' := by
  simp only [eventInserts, execOk_append, execOk_unlessEmpty .transactions
    insertTransactions_nil, execOk_unlessEmpty .swapEvents insertSwapEvents_nil,
    execOk_unlessEmpty .liquidityEvents insertLiquidityEvents_nil,
    execOk_unlessEmpty .tokenTransfers insertTokenTransfers_nil, execOk_cons,
    execOk_nil]
  constructor
  · rintro ⟨db₄, ⟨db₃, ⟨db₂, ⟨_, ⟨db₁, h₁, rfl⟩, h₂⟩, h₃⟩, h₄⟩, h₅⟩
    exact ⟨_, db₂, db₃, db₄, h₁, h₂, h₃, h₄, h₅⟩
  · rintro ⟨db₁, db₂, db₃, db₄, h₁, h₂, h₃, h₄, h₅⟩
    exact ⟨db₄, ⟨db₃, ⟨db₂, ⟨db₁, ⟨db₁, h₁, rfl⟩, h₂⟩, h₃⟩, h₄⟩, h₅⟩

/-- The statements before the traces store the transactions and, through the trigger, their
stubs, and leave the other rows of these two tables alone. -/
theorem eventInserts_transaction {block : RpcBlock} {receipts : List Receipt}
    (h : ExecOk triggers db (eventInserts dec blockNumber block receipts) db') :
    ∃ db₁, db₁.transaction = db.transaction ∧
      (∀ t ∈ db.transaction.newRows (transactionRows blockNumber block.transactions receipts),
        t.blockNumber ∈ db₁.block.keys) ∧
      db'.transaction =
        db.transaction.insertNew (transactionRows blockNumber block.transactions receipts) ∧
      db'.failedTransaction = db.failedTransaction.insertNew
        (stubsOf triggers db₁ (transactionRows blockNumber block.transactions receipts)) := by
  obtain ⟨db₁, db₂, db₃, db₄, h₁, h₂, h₃, h₄, h₅⟩ := execOk_eventInserts.mp h
  obtain ⟨-, -, hblocks⟩ := insertBlocks_eq_ok.mp h₁
  obtain ⟨-, hparent, rfl⟩ := insertTransactions_eq_ok.mp h₂
  obtain ⟨-, -, rfl⟩ := insertSwapEvents_eq_ok.mp h₃
  obtain ⟨-, -, rfl⟩ := insertLiquidityEvents_eq_ok.mp h₄
  obtain ⟨-, -, rfl⟩ := insertTokenTransfers_eq_ok.mp h₅
  have htransaction : db₁.transaction = db.transaction := by rw [hblocks]
  have hfailed : db₁.failedTransaction = db.failedTransaction := by rw [hblocks]
  rw [← htransaction, ← hfailed]
  exact ⟨db₁, rfl, hparent, rfl, rfl⟩

/-- A run that succeeds has fetched the block and its receipts. -/
theorem processBlock_answers
    (h : processBlock triggers dec blockNumber answers db = (db', .ok ())) :
    ∃ block receipts, answers.block = some block ∧ answers.receipts = some receipts := by
  obtain ⟨plan, hplan, -, -⟩ := processBlock_ok_iff.mp h
  obtain ⟨block, receipts, hblock, hreceipts, -⟩ := blockPlan_eq_some.mp hplan
  exact ⟨block, receipts, hblock, hreceipts⟩

/-- A run that succeeds, statement by statement. -/
theorem processBlock_statements {block : RpcBlock} {receipts : Option (List Receipt)}
    (hblock : answers.block = some block) (hreceipts : answers.receipts = some receipts)
    (h : processBlock triggers dec blockNumber answers db = (db', .ok ())) :
    ∃ traceLogs failedTxs mid mid',
      failureRows dec block (receipts.getD []) answers.trace = .ok (traceLogs, failedTxs) ∧
      ExecOk triggers db (eventInserts dec blockNumber block (receipts.getD [])) mid ∧
      insertTraceLogs mid traceLogs = .ok mid' ∧
      insertFailedTransactions mid' failedTxs = .ok db' := by
  obtain ⟨plan, hplan, hpanic, hexec⟩ := processBlock_ok_iff.mp h
  obtain rfl : planOf dec blockNumber block (receipts.getD []) answers.trace = plan := by
    rw [blockPlan, hblock, hreceipts] at hplan
    exact Option.some.inj hplan
  unfold planOf at hpanic hexec
  cases hrows : failureRows dec block (receipts.getD []) answers.trace with
  | error p => rw [hrows] at hpanic; cases hpanic
  | ok rows =>
      obtain ⟨traceLogs, failedTxs⟩ := rows
      rw [hrows] at hexec
      obtain ⟨mid', hfirst, hfailed⟩ := execOk_append.mp hexec
      obtain ⟨mid, hevents, htraces⟩ := execOk_append.mp hfirst
      rw [execOk_unlessEmpty .traceLogs insertTraceLogs_nil] at htraces
      rw [execOk_unlessEmpty .failedTransactions insertFailedTransactions_nil]
        at hfailed
      exact ⟨traceLogs, failedTxs, mid, mid', rfl, hevents, htraces, hfailed⟩

/-! ## Transactions and receipts -/

/-- Receipts and transactions are paired by position. -/
theorem transactionRows_eq_zipWith (txs : List RpcTransaction) (receipts : List Receipt) :
    transactionRows blockNumber txs receipts =
      List.zipWith (transactionRow blockNumber) receipts txs := by
  have hfrom : ∀ (receipts : List Receipt) (k : Nat),
      ((receipts.zipIdx k).filterMap fun p => txs[p.2]?.map (transactionRow blockNumber p.1)) =
      List.zipWith (transactionRow blockNumber) receipts (txs.drop k) := by
    intro receipts
    induction receipts with
    | nil => intro k; rfl
    | cons receipt receipts ih =>
        intro k
        rw [List.zipIdx_cons, List.filterMap_cons, ih (k + 1)]
        cases hk : txs[k]? with
        | none =>
            have hlen := List.getElem?_eq_none_iff.mp hk
            simp [List.drop_of_length_le hlen, List.drop_of_length_le (Nat.le_succ_of_le hlen)]
        | some tx =>
            obtain ⟨hlt, rfl⟩ := List.getElem?_eq_some_iff.mp hk
            rw [List.drop_eq_getElem_cons hlt, List.zipWith_cons_cons]
            simp only [Option.map_some]
  have hall := hfrom receipts 0
  rwa [List.drop_zero] at hall

/-- The first transaction row with a hash comes from the first receipt with it, among those that
have a transaction at their position. -/
theorem find?_transactionRows (blockNumber : Nat) (hash : B256) (txs : List RpcTransaction)
    (receipts : List Receipt) :
    ((transactionRows blockNumber txs receipts).find? fun t => t.txHash = hashHex hash).map
        (·.status) =
      ((receipts.take txs.length).find? fun r => r.transactionHash = hash).map
        fun r => if r.status then 1 else 0 := by
  rw [transactionRows_eq_zipWith]
  induction receipts generalizing txs with
  | nil => simp
  | cons receipt receipts ih =>
      cases txs with
      | nil => simp
      | cons tx txs =>
          rw [List.zipWith_cons_cons, List.length_cons, List.take_succ_cons]
          by_cases heq : receipt.transactionHash = hash
          · simp [heq, transactionRow]
          · have hne : hashHex receipt.transactionHash ≠ hashHex hash := fun h => heq (hashHex_inj h)
            simp [heq, hne, transactionRow, ih txs]

end TxIndexer.Indexer
