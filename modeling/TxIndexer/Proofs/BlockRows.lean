import TxIndexer.Indexer.BlockPlan

/-!
# What a processed block leaves out

Transactions and receipts come from two calls and are joined by position, and a `null` answer
counts as no receipts; a failed transaction whose trace is not fetched, has another shape or does
not parse is skipped. Neither makes the run fail, so the checkpoint moves past the block.
-/

namespace TxIndexer.Proofs

open Decoder Db Indexer Lib

variable {triggers : Triggers} {dec : Decoders} {blockNumber : Nat} {answers : BlockAnswers}
  {db db' : Database}

/-! ## Transactions -/

/-- The rows that a run gives to `insert_transactions`. -/
def writtenTransactions (dec : Decoders) (blockNumber : Nat) (answers : BlockAnswers) :
    List Transaction :=
  ((blockPlan dec blockNumber answers).map fun plan =>
    plan.inserts.flatMap Insert.transactionRows).getD []

/-- A row carries the hash and the data of a transaction. -/
structure RowOf (row : Transaction) (tx : RpcTransaction) : Prop where
  txHash : row.txHash = hashHex tx.hash
  fromAddr : row.fromAddr = addressHex tx.fromAddr
  toAddr : row.toAddr = tx.toAddr.map addressHex
  value : row.value = tx.value.toNat
  gasPrice : row.gasPrice = tx.effectiveGasPrice.getD 0
  inputData : row.inputData = if tx.input = [] then none else some (bytesHex tx.input)

/-- The rows are one for each transaction, each with the hash and the data of its own. -/
def OneRowEach (rows : List Transaction) (txs : List RpcTransaction) : Prop :=
  ∃ txs' : List RpcTransaction, txs'.Perm txs ∧ List.Forall₂ RowOf rows txs'

/-- Two transactions of which a row stores the same, their hashes apart. -/
structure SameData (tx tx' : RpcTransaction) : Prop where
  fromAddr : tx.fromAddr = tx'.fromAddr
  toAddr : tx.toAddr = tx'.toAddr
  value : tx.value = tx'.value
  gasPrice : tx.effectiveGasPrice.getD 0 = tx'.effectiveGasPrice.getD 0
  input : tx.input = tx'.input

/-- The receipts start with one for each transaction, in the order of the block up to an exchange
of transactions with the same data. -/
def ReceiptsInOrder (txs : List RpcTransaction) (receipts : List Receipt) : Prop :=
  ∃ txs' : List RpcTransaction, txs'.Perm txs ∧ List.Forall₂ SameData txs' txs ∧
    txs'.map (·.hash) <+: receipts.map (·.transactionHash)

/-- The stored input determines the input. -/
theorem inputData_inj {input input' : Bytes}
    (h : (if input = [] then none else some (bytesHex input)) =
      if input' = [] then none else some (bytesHex input')) : input = input' := by
  by_cases hinput : input = []
  · by_cases hinput' : input' = []
    · rw [hinput, hinput']
    · rw [if_pos hinput, if_neg hinput'] at h
      cases h
  · by_cases hinput' : input' = []
    · rw [if_neg hinput, if_pos hinput'] at h
      cases h
    · rw [if_neg hinput, if_neg hinput', Option.some.injEq] at h
      exact bytesHex_inj h

/-- A row is that of a transaction exactly when the transaction at its position has the same data
and the receipt at its position the same hash. -/
theorem RowOf.iff {row : Transaction} {tx : RpcTransaction} {receipt : Receipt}
    (hrow : row = transactionRow blockNumber receipt tx) {tx' : RpcTransaction} :
    RowOf row tx' ↔ SameData tx' tx ∧ tx'.hash = receipt.transactionHash := by
  subst hrow
  constructor
  · intro h
    have hvalue : (tx.value.toNat : Int) = tx'.value.toNat := h.value
    have hgasPrice : ((tx.effectiveGasPrice.getD 0 : Nat) : Int) =
        (tx'.effectiveGasPrice.getD 0 : Nat) := h.gasPrice
    refine ⟨⟨?_, ?_, ?_, ?_, ?_⟩, (hashHex_inj h.txHash).symm⟩
    · exact (addressHex_inj h.fromAddr).symm
    · exact (Option.map_injective (fun _ _ => addressHex_inj) h.toAddr).symm
    · exact BitVec.eq_of_toNat_eq (Int.ofNat_inj.mp hvalue).symm
    · exact (Int.ofNat_inj.mp hgasPrice).symm
    · exact inputData_inj h.inputData.symm
  · rintro ⟨hdata, hhash⟩
    constructor
    · rw [hhash]; rfl
    · rw [hdata.fromAddr]; rfl
    · rw [hdata.toAddr]; rfl
    · rw [hdata.value]; rfl
    · rw [hdata.gasPrice]; rfl
    · rw [hdata.input]; rfl

/-- The rows are in turn those of `txs'` exactly when the transactions have the data of `txs'` and
the receipts start with its hashes. -/
theorem forall₂_rowOf_zipWith (receipts : List Receipt) {txs txs' : List RpcTransaction}
    (hlength : txs'.length = txs.length) :
    List.Forall₂ RowOf (List.zipWith (transactionRow blockNumber) receipts txs) txs' ↔
      List.Forall₂ SameData txs' txs ∧
        txs'.map (·.hash) <+: receipts.map (·.transactionHash) := by
  induction txs generalizing receipts txs' with
  | nil =>
      obtain rfl := List.eq_nil_of_length_eq_zero hlength
      simp
  | cons tx txs ih =>
      obtain ⟨tx', txs', rfl⟩ := List.exists_cons_of_length_eq_add_one hlength
      cases receipts with
      | nil => simp
      | cons receipt receipts =>
          have htail := ih receipts (Nat.succ.inj hlength)
          rw [List.zipWith_cons_cons, List.forall₂_cons, RowOf.iff rfl, htail, List.forall₂_cons,
            List.map_cons, List.map_cons, List.cons_prefix_cons]
          exact and_and_and_comm

/-- Joining by position gives each transaction its row exactly when the receipts are in order. -/
theorem oneRowEach_iff {txs : List RpcTransaction} {receipts : List Receipt} :
    OneRowEach (transactionRows blockNumber txs receipts) txs ↔ ReceiptsInOrder txs receipts := by
  rw [transactionRows_eq_zipWith]
  apply exists_congr
  intro txs'
  apply and_congr_right
  intro hperm
  exact forall₂_rowOf_zipWith receipts hperm.length_eq

theorem flatMap_unlessEmpty {α : Type} (insert : List α → Insert)
    (hnil : (insert []).transactionRows = []) (rows : List α) :
    (unlessEmpty insert rows).flatMap Insert.transactionRows = (insert rows).transactionRows := by
  cases rows with
  | nil => rw [unlessEmpty, List.isEmpty_nil, if_pos rfl, hnil, List.flatMap_nil]
  | cons r rows => simp [unlessEmpty]

theorem flatMap_eventInserts {block : RpcBlock} {receipts : List Receipt} :
    (eventInserts dec blockNumber block receipts).flatMap Insert.transactionRows =
      transactionRows blockNumber block.transactions receipts := by
  simp only [eventInserts, List.flatMap_append, flatMap_unlessEmpty .transactions rfl,
    flatMap_unlessEmpty .swapEvents rfl,
    flatMap_unlessEmpty .liquidityEvents rfl,
    flatMap_unlessEmpty .tokenTransfers rfl]
  simp [Insert.transactionRows]

/-- The rows given to `insert_transactions`, once the fetches succeeded. -/
theorem writtenTransactions_eq {block : RpcBlock} {receipts : Option (List Receipt)}
    (hblock : answers.block = some block) (hreceipts : answers.receipts = some receipts) :
    writtenTransactions dec blockNumber answers =
      transactionRows blockNumber block.transactions (receipts.getD []) := by
  have hplan : blockPlan dec blockNumber answers =
      some (planOf dec blockNumber block (receipts.getD []) answers.trace) :=
    blockPlan_eq_some.mpr ⟨block, receipts, hblock, hreceipts, rfl⟩
  rw [writtenTransactions, hplan, Option.map_some, Option.getD_some]
  unfold planOf
  cases hrows : failureRows dec block (receipts.getD []) answers.trace with
  | error p => exact flatMap_eventInserts
  | ok rows =>
      simp only [List.flatMap_append, flatMap_eventInserts, flatMap_unlessEmpty .traceLogs rfl,
        flatMap_unlessEmpty .failedTransactions rfl]
      simp [Insert.transactionRows]

/-- In a run that succeeds, the rows given to `insert_transactions` are inserted, and they are one
for each transaction of the block, with its own hash and data, exactly when the receipts are in
the order of the block. -/
theorem transactions_complete_iff {block : RpcBlock} {receipts : Option (List Receipt)}
    (hblock : answers.block = some block) (hreceipts : answers.receipts = some receipts)
    (hrun : processBlock triggers dec blockNumber answers db = (db', .ok ())) :
    db'.transaction = db.transaction.insertNew (writtenTransactions dec blockNumber answers) ∧
      (OneRowEach (writtenTransactions dec blockNumber answers) block.transactions ↔
        ReceiptsInOrder block.transactions (receipts.getD [])) := by
  obtain ⟨traceLogs, failedTxs, mid, mid', -, hevents, htraces, hfailed⟩ :=
    processBlock_statements hblock hreceipts hrun
  obtain ⟨db₁, -, -, hmid, -⟩ := eventInserts_transaction hevents
  obtain ⟨-, -, rfl⟩ := insertTraceLogs_eq_ok.mp htraces
  obtain ⟨-, -, rfl⟩ := insertFailedTransactions_eq_ok.mp hfailed
  rw [writtenTransactions_eq hblock hreceipts]
  exact ⟨hmid, oneRowEach_iff⟩

theorem transactions_complete_iff_reverted : ∃ db' block receipts,
    (failedBlockAnswers revertedFrame).block = some block ∧
    (failedBlockAnswers revertedFrame).receipts = some receipts ∧
    processBlock ⟨false⟩ sampleDecoders 5 (failedBlockAnswers revertedFrame) .empty =
      (db', .ok ()) ∧
    db'.transaction = Database.empty.transaction.insertNew
      (writtenTransactions sampleDecoders 5 (failedBlockAnswers revertedFrame)) ∧
    (OneRowEach (writtenTransactions sampleDecoders 5 (failedBlockAnswers revertedFrame))
      block.transactions ↔ ReceiptsInOrder block.transactions (receipts.getD [])) := by
  obtain ⟨db', hrun⟩ := failedBlock_stored
  exact ⟨db', _, _, rfl, rfl, hrun, transactions_complete_iff rfl rfl hrun⟩

/-- The answers for a block that holds one transaction, and a node that does not know its
receipts. -/
def noReceiptsAnswers : BlockAnswers :=
  { failedBlockAnswers revertedFrame with receipts := some none }

/-- Without receipts the block is processed all the same, and its transaction gets no row. -/
theorem noReceipts_transaction_lost : ∃ db' block,
    noReceiptsAnswers.block = some block ∧ block.transactions.length = 1 ∧
    processBlock ⟨false⟩ sampleDecoders 5 noReceiptsAnswers .empty = (db', .ok ()) ∧
    db'.transaction.rows = [] ∧
    ¬ OneRowEach (writtenTransactions sampleDecoders 5 noReceiptsAnswers) block.transactions := by
  have hboth : (processBlock ⟨false⟩ sampleDecoders 5 noReceiptsAnswers .empty).2 = .ok () ∧
      (processBlock ⟨false⟩ sampleDecoders 5 noReceiptsAnswers .empty).1.transaction.rows = [] := by
    decide +kernel
  obtain ⟨db', hrun, hrows⟩ :=
    exists_processBlock_ok (fun db' => db'.transaction.rows = []) hboth.1 hboth.2
  refine ⟨db', _, rfl, rfl, hrun, hrows, ?_⟩
  rintro ⟨txs', hperm, hall⟩
  have hreceipts : noReceiptsAnswers.receipts = some none := rfl
  have hwritten : writtenTransactions sampleDecoders 5 noReceiptsAnswers = [] :=
    writtenTransactions_eq rfl hreceipts
  have hlength := hall.length_eq
  rw [hwritten, hperm.length_eq] at hlength
  cases hlength

/-! ## Failed transactions -/

/-- Every receipt with a failed status has a `failed_transaction` row. -/
def FailuresRecorded (receipts : List Receipt) (db : Database) : Prop :=
  ∀ r ∈ receipts, r.status = false → hashHex r.transactionHash ∈ db.failedTransaction.keys

/-- The trace of a transaction is a call frame that parses. -/
def Traced (dec : Decoders) (answers : BlockAnswers) (txHash : String) : Prop :=
  ∃ frame flattened, answers.trace txHash = .callTracer frame ∧
    parseTrace dec.toLowercase txHash frame = .ok flattened

theorem mem_failedTxHashes {receipts : List Receipt} {r : Receipt} (hr : r ∈ receipts)
    (hfailed : r.status = false) : hashHex r.transactionHash ∈ failedTxHashes receipts := by
  refine List.mem_map_of_mem (List.mem_filter.mpr ⟨hr, ?_⟩)
  rw [hfailed]
  rfl

/-- Without the trigger, a run adds the rows of the failed transactions that are traced. -/
theorem mem_failedTransaction_keys {receipts : Option (List Receipt)} {txHash : String}
    (hreceipts : answers.receipts = some receipts)
    (hrun : processBlock ⟨false⟩ dec blockNumber answers db = (db', .ok ())) :
    txHash ∈ db'.failedTransaction.keys ↔ txHash ∈ db.failedTransaction.keys ∨
      (txHash ∈ failedTxHashes (receipts.getD []) ∧ Traced dec answers txHash) := by
  obtain ⟨block, -, hblock, -⟩ := processBlock_answers hrun
  obtain ⟨traceLogs, failedTxs, mid, mid', hrows, hevents, htraces, hfailed⟩ :=
    processBlock_statements hblock hreceipts hrun
  obtain ⟨db₁, -, -, -, hmid⟩ := eventInserts_transaction hevents
  obtain ⟨-, -, rfl⟩ := insertTraceLogs_eq_ok.mp htraces
  obtain ⟨-, -, rfl⟩ := insertFailedTransactions_eq_ok.mp hfailed
  have hstubs : stubsOf ⟨false⟩ db₁
      (transactionRows blockNumber block.transactions (receipts.getD [])) = [] := rfl
  rw [hstubs, KeyedTable.insertNew_nil] at hmid
  have htxHashes := processFailedTxs_txHashes hrows
  rw [KeyedTable.mem_keys_insertNew_iff, htxHashes, List.mem_filter, fetchTrace_isSome]
  change txHash ∈ mid.failedTransaction.keys ∨ _ ↔ _
  rw [hmid]
  exact Iff.rfl

/-- In a run that succeeds, without the trigger, every failed receipt has its row exactly when
every one of them is traced or had a row before. -/
theorem failures_recorded_iff {receipts : Option (List Receipt)}
    (hreceipts : answers.receipts = some receipts)
    (hrun : processBlock ⟨false⟩ dec blockNumber answers db = (db', .ok ())) :
    FailuresRecorded (receipts.getD []) db' ↔
      ∀ r ∈ receipts.getD [], r.status = false →
        Traced dec answers (hashHex r.transactionHash) ∨
        hashHex r.transactionHash ∈ db.failedTransaction.keys := by
  constructor
  · intro hrecorded r hr hfailed
    rcases (mem_failedTransaction_keys hreceipts hrun).mp (hrecorded r hr hfailed) with h | h
    · exact .inr h
    · exact .inl h.2
  · intro htraced r hr hfailed
    rw [mem_failedTransaction_keys hreceipts hrun]
    rcases htraced r hr hfailed with h | h
    · exact .inr ⟨mem_failedTxHashes hr hfailed, h⟩
    · exact .inl h

theorem failures_recorded_iff_reverted : ∃ db' receipts,
    (failedBlockAnswers revertedFrame).receipts = some receipts ∧
    processBlock ⟨false⟩ sampleDecoders 5 (failedBlockAnswers revertedFrame) .empty =
      (db', .ok ()) ∧
    (FailuresRecorded (receipts.getD []) db' ↔ ∀ r ∈ receipts.getD [], r.status = false →
      Traced sampleDecoders (failedBlockAnswers revertedFrame) (hashHex r.transactionHash) ∨
      hashHex r.transactionHash ∈ Database.empty.failedTransaction.keys) := by
  obtain ⟨db', hrun⟩ := failedBlock_stored
  exact ⟨db', _, rfl, hrun, failures_recorded_iff rfl hrun⟩

/-- The answers for a block that holds one failed transaction, whose trace is not answered. -/
def traceErrorAnswers : BlockAnswers :=
  { failedBlockAnswers revertedFrame with trace := fun _ => .rpcError }

/-- One error of the trace call, and the block is processed without a row for its failure. -/
theorem traceError_failure_lost : ∃ db' receipts,
    traceErrorAnswers.receipts = some receipts ∧
    processBlock ⟨false⟩ sampleDecoders 5 traceErrorAnswers .empty = (db', .ok ()) ∧
    db'.failedTransaction.keys = [] ∧ ¬ FailuresRecorded (receipts.getD []) db' := by
  have hboth : (processBlock ⟨false⟩ sampleDecoders 5 traceErrorAnswers .empty).2 = .ok () ∧
      (processBlock ⟨false⟩ sampleDecoders 5 traceErrorAnswers .empty).1.failedTransaction.keys =
        [] := by
    decide +kernel
  obtain ⟨db', hrun, hkeys⟩ :=
    exists_processBlock_ok (fun db' => db'.failedTransaction.keys = []) hboth.1 hboth.2
  refine ⟨db', _, rfl, hrun, hkeys, fun hrecorded => ?_⟩
  have hmem := hrecorded _ List.mem_cons_self rfl
  rw [hkeys] at hmem
  cases hmem

end TxIndexer.Proofs
