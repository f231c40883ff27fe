import TxIndexer.Indexer.BlockPlan

/-!
# Two writers of a diagnosis

`insert_transactions` runs before `insert_failed_transactions`, and where the trigger on
`transaction` is installed it inserts a stub for each failed transaction. The row of the later
statement then meets a taken key and is skipped, so the stub stays.
-/

namespace TxIndexer.Proofs

open Decoder Db Indexer

variable {triggers : Triggers} {dec : Decoders} {blockNumber : Nat} {answers : BlockAnswers}
  {db db' : Database}

/-! ## Frames that have nothing to diagnose -/

/-- The output of a frame decodes to no revert reason: it is missing, not hexadecimal, or a
malformed `Error(string)`. -/
def NoReason (output : Option String) : Prop :=
  ∀ bytes ∈ output.bind fun o => hexDecode (stripHexPrefix o.toList), MalformedErrorString bytes

/-- The input of a frame holds no selector: it is missing or shorter than 8 digits. -/
def NoSelector (input : Option String) : Prop :=
  ∀ i ∈ input, utf8Len (stripHexPrefix i.toList) < 8

theorem revertReasonOf_eq_none_iff {root : FlatFrame} {reason : Option String}
    (h : revertReasonOf root = .ok reason) : reason = none ↔ NoReason root.output := by
  unfold revertReasonOf at h
  unfold NoReason
  rw [show (root.output.bind fun o => hexDecode (stripHexPrefix o.toList)) = revertPayload root
    from rfl]
  cases hpayload : revertPayload root with
  | none => rw [hpayload] at h; cases h; simp
  | some bytes =>
      rw [hpayload] at h
      simp only [Option.mem_def, Option.some.injEq, forall_eq', ← decodeRevertReason_eq_error_iff]
      cases hdecode : decodeRevertReason bytes with
      | error p => simp only [hdecode] at h; cases h
      | ok result =>
          simp only [hdecode] at h
          cases h
          cases result <;> simp [Except.toOption]

theorem failingFunctionOf_eq_none_iff {input : String} {failingFunction : Option String}
    (h : failingFunctionOf input = .ok failingFunction) :
    failingFunction = none ↔ utf8Len (stripHexPrefix input.toList) < 8 := by
  unfold failingFunctionOf at h
  simp only at h
  split at h
  · rename_i hlen
    split at h
    · cases h; simpa using hlen
    · cases h
  · rename_i hlen
    cases h
    simpa using hlen

/-- The computed diagnosis is that of the stub exactly when there is nothing to diagnose. -/
theorem diagnose_eq_stub_iff {toLowercase : String → String} {root : FlatFrame} {d : Diagnosis}
    (h : diagnose toLowercase root = .ok d) :
    d = .stub ↔ NoReason root.output ∧ NoSelector root.input := by
  obtain ⟨hreason, hcategory, hfunction⟩ := diagnose_cases h
  have hnone := revertReasonOf_eq_none_iff hreason
  have hunknown : d.revertReason = none → d.errorCategory = .unknown := by
    intro hr
    rw [hcategory, hr]
    change storedCategory "UNKNOWN" = .unknown
    decide
  have hselector : d.failingFunction = none ↔ NoSelector root.input := by
    rcases hfunction with ⟨hinput, hfunction⟩ | ⟨input, hinput, hfunction⟩
    · rw [hinput]
      exact iff_of_true hfunction nofun
    · rw [failingFunctionOf_eq_none_iff hfunction, hinput]
      simp [NoSelector]
  rw [← hnone, ← hselector]
  constructor
  · intro hstub
    rw [hstub]
    exact ⟨rfl, rfl⟩
  · intro ⟨hr, hf⟩
    have hfields : d = ⟨d.errorCategory, d.revertReason, d.failingFunction⟩ := rfl
    rw [hfields, hunknown hr, hr, hf]
    rfl

/-! ## Who writes the row first -/

theorem failedTransactionStub_eq_some {t : Transaction} {stub : FailedTransaction}
    (h : failedTransactionStub db t = some stub) :
    t.status = 0 ∧ stub.txHash = t.txHash ∧ diagnosisOf stub = .stub := by
  unfold failedTransactionStub at h
  split at h
  · rename_i hstatus
    obtain ⟨b, -, rfl⟩ := Option.map_eq_some_iff.mp h
    exact ⟨hstatus, rfl, rfl⟩
  · cases h

/-- A new failed transaction gets a stub, if its block is stored. -/
theorem failedTransactionStub_isSome {t : Transaction} (hstatus : t.status = 0)
    (hblock : t.blockNumber ∈ db.block.keys) : ∃ stub, failedTransactionStub db t = some stub := by
  cases hlookup : db.block.lookup t.blockNumber with
  | none => exact absurd hblock (Lib.KeyedTable.lookup_eq_none.mp hlookup)
  | some b => simp [failedTransactionStub, hstatus, hlookup]

/-- The stub with a hash that is new belongs to the first transaction with that hash, and there
is one exactly when that transaction failed. -/
theorem find?_stubsOf {txs : List Transaction} {hash : String}
    (htrigger : triggers.transactionCheckFailed = true)
    (hblocks : ∀ t ∈ db.transaction.newRows txs, t.blockNumber ∈ db.block.keys)
    (hnew : db.transaction.lookup hash = none) :
    ((stubsOf triggers db txs).find? (·.txHash = hash)).map diagnosisOf =
      ((txs.find? (·.txHash = hash)).filter (·.status = 0)).map fun _ => .stub := by
  have hfind := Lib.freshRows_find? Transaction.txHash hash txs db.transaction.keys
  rw [if_neg (Lib.KeyedTable.lookup_eq_none.mp hnew)] at hfind
  change (db.transaction.newRows txs).find? _ = _ at hfind
  have hnodup := (Lib.freshRows_keys Transaction.txHash txs db.transaction.keys).1
  change ((db.transaction.newRows txs).map _).Nodup at hnodup
  rw [stubsOf, if_pos htrigger]
  generalize db.transaction.newRows txs = fresh at hblocks hfind hnodup
  -- a stub with this hash comes from a fresh failed row with this hash
  have horigin : ∀ stub ∈ fresh.filterMap (failedTransactionStub db), stub.txHash = hash →
      ∃ t ∈ fresh, t.txHash = hash ∧ t.status = 0 ∧ diagnosisOf stub = .stub := by
    intro stub hstub hhash
    obtain ⟨t, ht, hsome⟩ := List.mem_filterMap.mp hstub
    obtain ⟨hstatus, htx, hdiag⟩ := failedTransactionStub_eq_some hsome
    exact ⟨t, ht, htx.symm.trans hhash, hstatus, hdiag⟩
  rw [← hfind]
  cases hfresh : fresh.find? (·.txHash = hash) with
  | none =>
      have hnone : (fresh.filterMap (failedTransactionStub db)).find? (·.txHash = hash) = none := by
        rw [List.find?_eq_none]
        intro stub hstub hhash
        obtain ⟨t, ht, htx, -, -⟩ := horigin stub hstub (by simpa using hhash)
        exact List.find?_eq_none.mp hfresh t ht (by simpa using htx)
      rw [hnone]; rfl
  | some t₀ =>
      have ht₀ := List.mem_of_find?_eq_some hfresh
      have hhash₀ : t₀.txHash = hash := by simpa using List.find?_some hfresh
      by_cases hstatus : t₀.status = 0
      · obtain ⟨stub, hstub⟩ := failedTransactionStub_isSome hstatus (hblocks t₀ ht₀)
        have hmem : stub ∈ fresh.filterMap (failedTransactionStub db) :=
          List.mem_filterMap.mpr ⟨t₀, ht₀, hstub⟩
        have hhash : stub.txHash = hash :=
          (failedTransactionStub_eq_some hstub).2.1.trans hhash₀
        cases hresult : (fresh.filterMap (failedTransactionStub db)).find? (·.txHash = hash) with
        | none => exact absurd hhash (by simpa using List.find?_eq_none.mp hresult stub hmem)
        | some stub' =>
            obtain ⟨-, -, -, -, hdiag⟩ := horigin stub' (List.mem_of_find?_eq_some hresult)
              (by simpa using List.find?_some hresult)
            simp [Option.filter, hstatus, hdiag]
      · have hnone : (fresh.filterMap (failedTransactionStub db)).find? (·.txHash = hash) =
            none := by
          rw [List.find?_eq_none]
          intro stub hstub hhash
          obtain ⟨t, ht, htx, hzero, -⟩ := horigin stub hstub (by simpa using hhash)
          have heq := List.inj_on_of_nodup_map hnodup ht ht₀ (htx.trans hhash₀.symm)
          exact hstatus (heq ▸ hzero)
        simp [hnone, Option.filter, hstatus]

/-- The row of a failed transaction after a run: the stub where the trigger wrote one, and
otherwise the first row that `process_failed_txs` built. -/
theorem lookup_failedTransaction {block : RpcBlock} {receipts : List Receipt} {hash : String}
    {traceLogs : List TraceLog} {failedTxs : List FailedTransaction} {mid mid' : Database}
    (htrigger : triggers.transactionCheckFailed = true)
    (hevents : ExecOk triggers db (eventInserts dec blockNumber block receipts) mid)
    (htraces : insertTraceLogs mid traceLogs = .ok mid')
    (hfailed : insertFailedTransactions mid' failedTxs = .ok db')
    (hnotx : db.transaction.lookup hash = none)
    (hnofailed : db.failedTransaction.lookup hash = none)
    (hrow : ∃ f ∈ failedTxs, f.txHash = hash) :
    ∃ t, (transactionRows blockNumber block.transactions receipts).find? (·.txHash = hash) = some t ∧
      (db'.failedTransaction.lookup hash).map diagnosisOf =
        if t.status = 0 then some .stub
        else (failedTxs.find? (·.txHash = hash)).map diagnosisOf := by
  obtain ⟨db₁, htransaction, hblocks, hmidTx, hmidFailed⟩ := eventInserts_transaction hevents
  obtain ⟨-, -, rfl⟩ := insertTraceLogs_eq_ok.mp htraces
  obtain ⟨-, hparent, rfl⟩ := insertFailedTransactions_eq_ok.mp hfailed
  rw [← htransaction] at hblocks hnotx
  have hstubs := find?_stubsOf htrigger hblocks hnotx
  have hmid : mid.failedTransaction.lookup hash =
      (stubsOf triggers db₁ (transactionRows blockNumber block.transactions receipts)).find?
        (·.txHash = hash) := by
    rw [hmidFailed, Lib.KeyedTable.lookup_insertNew, hnofailed, Option.none_or]
  have hlookup : (mid.failedTransaction.insertNew failedTxs).lookup hash =
      (mid.failedTransaction.lookup hash).or (failedTxs.find? (·.txHash = hash)) :=
    Lib.KeyedTable.lookup_insertNew _ _ _
  cases hfirst : (transactionRows blockNumber block.transactions receipts).find?
      (·.txHash = hash) with
  | none =>
      -- without a transaction row the foreign key of the failed row would not resolve
      rw [hfirst, Option.filter_none, Option.map_none, Option.map_eq_none_iff, ← hmid] at hstubs
      obtain ⟨f, hf, hhash⟩ := hrow
      have hmem : hash ∈ (mid.failedTransaction.insertNew failedTxs).keys :=
        hhash ▸ mid.failedTransaction.mem_keys_insertNew failedTxs f hf
      obtain ⟨f', hf', hhash'⟩ := List.mem_map.mp hmem
      rcases Lib.KeyedTable.mem_insertNew.mp hf' with hold | hnew
      · have hsome := Lib.KeyedTable.lookup_eq_some.mpr ⟨hold, hhash'⟩
        rw [hstubs] at hsome
        cases hsome
      · have hkey := hparent f' hnew
        change f'.txHash ∈ mid.transaction.keys at hkey
        rw [hhash', hmidTx] at hkey
        obtain ⟨t, ht, htx⟩ := List.mem_map.mp hkey
        rcases Lib.KeyedTable.mem_of_mem_insertNew ht with hold | hnew'
        · have hsome := Lib.KeyedTable.lookup_eq_some.mpr ⟨hold, htx⟩
          rw [← htransaction, hnotx] at hsome
          cases hsome
        · exact absurd (by simpa using htx) (List.find?_eq_none.mp hfirst t hnew')
  | some t =>
      refine ⟨t, rfl, ?_⟩
      rw [hfirst, ← hmid] at hstubs
      change ((mid.failedTransaction.insertNew failedTxs).lookup hash).map diagnosisOf = _
      rw [hlookup]
      by_cases hstatus : t.status = 0
      · rw [if_pos hstatus]
        simp only [Option.filter, hstatus, decide_true, if_true, Option.map_some] at hstubs
        obtain ⟨stub, hstub, hdiag⟩ := Option.map_eq_some_iff.mp hstubs
        rw [hstub, Option.some_or, Option.map_some, hdiag]
      · rw [if_neg hstatus]
        simp only [Option.filter, hstatus, decide_false, Bool.false_eq_true, if_false,
          Option.map_none, Option.map_eq_none_iff] at hstubs
        rw [hstubs, Option.none_or]

/-- With the trigger installed, a successful run leaves the diagnosis that `process_failed_txs`
computed for a failed transaction exactly when the first receipt with its hash that has a
transaction at its position succeeded, or there was nothing to diagnose. -/
theorem stored_diagnosis_iff {block : RpcBlock} {receipts : Option (List Receipt)}
    {receipt : Receipt} {json : Json} {root : CallFrame}
    (htrigger : triggers.transactionCheckFailed = true)
    (hrun : processBlock triggers dec blockNumber answers db = (db', .ok ()))
    (hblock : answers.block = some block) (hreceipts : answers.receipts = some receipts)
    (hreceipt : receipt ∈ receipts.getD []) (hfailed : receipt.status = false)
    (htrace : answers.trace (hashHex receipt.transactionHash) = .callTracer json)
    (hroot : parseCallFrame dec.toLowercase json = .ok root)
    (hnotx : db.transaction.lookup (hashHex receipt.transactionHash) = none)
    (hnofailed : db.failedTransaction.lookup (hashHex receipt.transactionHash) = none) :
    ∃ traceLogs failedTxs f,
      failureRows dec block (receipts.getD []) answers.trace = .ok (traceLogs, failedTxs) ∧
      f ∈ failedTxs ∧ f.txHash = hashHex receipt.transactionHash ∧
      ((∃ row, db'.failedTransaction.lookup (hashHex receipt.transactionHash) = some row ∧
          diagnosisOf row = diagnosisOf f) ↔
        (∃ r, ((receipts.getD []).take block.transactions.length).find?
            (·.transactionHash = receipt.transactionHash) = some r ∧ r.status = true) ∨
        (NoReason root.output ∧ NoSelector root.input)) := by
  obtain ⟨traceLogs, failedTxs, mid, mid', hrows, hevents, htraces, hinsert⟩ :=
    processBlock_statements hblock hreceipts hrun
  obtain ⟨hexists, hall⟩ := processFailedTxs_diagnosis htrace hroot hrows
  have hmem : hashHex receipt.transactionHash ∈ failedTxHashes (receipts.getD []) :=
    List.mem_map_of_mem (List.mem_filter.mpr ⟨hreceipt, by simp [hfailed]⟩)
  obtain ⟨f, hf, hhash⟩ := hexists hmem
  refine ⟨traceLogs, failedTxs, f, hrows, hf, hhash, ?_⟩
  obtain ⟨t, hfirst, hstored⟩ :=
    lookup_failedTransaction htrigger hevents htraces hinsert hnotx hnofailed ⟨f, hf, hhash⟩
  have hstatus := find?_transactionRows blockNumber receipt.transactionHash
    block.transactions (receipts.getD [])
  rw [hfirst, Option.map_some] at hstatus
  obtain ⟨r, hr, hrt⟩ := Option.map_eq_some_iff.mp hstatus.symm
  have hstub := diagnose_eq_stub_iff (hall f hf hhash)
  have hlookup : (∃ row, db'.failedTransaction.lookup (hashHex receipt.transactionHash) = some row ∧
      diagnosisOf row = diagnosisOf f) ↔ (db'.failedTransaction.lookup
        (hashHex receipt.transactionHash)).map diagnosisOf = some (diagnosisOf f) :=
    Option.map_eq_some_iff.symm
  rw [hlookup, hstored, hr]
  cases hsuccess : r.status with
  | true =>
      rw [hsuccess, if_pos rfl] at hrt
      rw [if_neg (by omega)]
      cases hfind : failedTxs.find? (·.txHash = hashHex receipt.transactionHash) with
      | none => exact absurd (by simpa using hhash) (List.find?_eq_none.mp hfind f hf)
      | some f' =>
          have hdiag := hall f' (List.mem_of_find?_eq_some hfind)
            (by simpa using List.find?_some hfind)
          rw [hall f hf hhash, Except.ok.injEq] at hdiag
          simp [hdiag, hsuccess]
  | false =>
      rw [hsuccess, if_neg (by simp)] at hrt
      rw [if_pos hrt.symm, Option.some.injEq, eq_comm, hstub]
      simp [hsuccess, CallFrame.toFlatFrame]

/-! ## A transfer that failed for lack of funds -/

/-- A call that reverted with `Error("STF")`. -/
def stfFrame : Json := .object [
  ("type", .string "CALL"), ("from", .string "0x0000000000000000000000000000000000000005"),
  ("to", .string "0x0000000000000000000000000000000000000006"), ("value", .string "0x0"),
  ("gasUsed", .string "0x64"), ("input", .string "0xa9059cbb"),
  ("output", .string ("0x08c379a0" ++
    "0000000000000000000000000000000000000000000000000000000000000020" ++
    "0000000000000000000000000000000000000000000000000000000000000003" ++
    "5354460000000000000000000000000000000000000000000000000000000000")),
  ("error", .string "execution reverted")]

/-- The block is stored, and the row of its failed transaction is the stub. -/
theorem stfBlock_stored : ∃ db', processBlock ⟨true⟩ sampleDecoders 5
    (failedBlockAnswers stfFrame) .empty = (db', .ok ()) ∧
    (db'.failedTransaction.lookup (hashHex 7)).map diagnosisOf = some .stub := by
  have hboth : (processBlock ⟨true⟩ sampleDecoders 5 (failedBlockAnswers stfFrame) .empty).2 =
        .ok () ∧
      ((processBlock ⟨true⟩ sampleDecoders 5 (failedBlockAnswers stfFrame)
        .empty).1.failedTransaction.lookup (hashHex 7)).map diagnosisOf = some .stub := by
    decide +kernel
  exact exists_processBlock_ok
    (fun db' => (db'.failedTransaction.lookup (hashHex 7)).map diagnosisOf = some .stub)
    hboth.1 hboth.2

theorem stored_diagnosis_iff_stf : ∃ db' root traceLogs failedTxs f,
    processBlock ⟨true⟩ sampleDecoders 5 (failedBlockAnswers stfFrame) .empty = (db', .ok ()) ∧
    parseCallFrame sampleDecoders.toLowercase stfFrame = .ok root ∧
    (processFailedTxs sampleDecoders.toLowercase (fun _ => .callTracer stfFrame) 1700000000
      [hashHex 7] = .ok (traceLogs, failedTxs)) ∧ f ∈ failedTxs ∧
    ((∃ row, db'.failedTransaction.lookup (hashHex 7) = some row ∧
        diagnosisOf row = diagnosisOf f) ↔
      (∃ r, ([⟨7, false, 100, []⟩] : List Receipt).find? (·.transactionHash = 7) = some r ∧
        r.status = true) ∨
      (NoReason root.output ∧ NoSelector root.input)) := by
  obtain ⟨db', hrun, -⟩ := stfBlock_stored
  have hreceipt : ⟨7, false, 100, []⟩ ∈ ([⟨7, false, 100, []⟩] : List Receipt) :=
    List.mem_cons_self
  obtain ⟨root, hroot⟩ : ∃ root, parseCallFrame sampleDecoders.toLowercase stfFrame = .ok root :=
    ⟨_, rfl⟩
  obtain ⟨traceLogs, failedTxs, f, hrows, hf, -, hiff⟩ :=
    stored_diagnosis_iff rfl hrun rfl rfl hreceipt rfl rfl hroot rfl rfl
  exact ⟨db', root, traceLogs, failedTxs, f, hrun, hroot, hrows, hf, hiff⟩

/-- A transfer that failed with `STF`: the row says nothing of it. -/
theorem stored_diagnosis_lost : ∃ db',
    processBlock ⟨true⟩ sampleDecoders 5 (failedBlockAnswers stfFrame) .empty = (db', .ok ()) ∧
    (processFailedTxs sampleDecoders.toLowercase (fun _ => .callTracer stfFrame) 1700000000
      [hashHex 7]).map (fun rows => rows.2.map diagnosisOf) =
        .ok [⟨.insufficientBalance, some "STF", some "0xa9059cbb"⟩] ∧
    (db'.failedTransaction.lookup (hashHex 7)).map diagnosisOf = some ⟨.unknown, none, none⟩ := by
  obtain ⟨db', hrun, hstub⟩ := stfBlock_stored
  exact ⟨db', hrun, by decide +kernel, hstub⟩

end TxIndexer.Proofs
