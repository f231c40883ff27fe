import TxIndexer.Api.FailedTxDetail
import TxIndexer.Indexer.BlockPlan
import TxIndexer.Std.SqlText

/-!
# From a trace to what the API tells of it

`process_block` stores a failed transaction and its call tree; `get_failed_tx` reads them back and
names the function that failed and the one of the frame that failed first. Both names, and the
arguments with them, are one function of a frame's call data.
-/

namespace TxIndexer.Proofs

open Decoder Db Indexer Api Lib

/-! ## The selector of call data -/

/-- The first four bytes of call data. -/
def calldataSelector (calldata : Bytes) : Option String :=
  if 4 ≤ calldata.length then some (bytesHex (calldata.take 4)) else none

/-- A lower-case mapping leaves ASCII text without upper-case letters as it is. -/
def FixesLowerAscii (toLowercase : String → String) : Prop :=
  ∀ s : String, (∀ c ∈ s.toList, c.toNat < 128 ∧ ¬ ('A' ≤ c ∧ c ≤ 'Z')) → toLowercase s = s

theorem lowerAscii_of_mem_bytesToHex {bytes : Bytes} {c : Char} (hc : c ∈ bytesToHex bytes) :
    c.toNat < 128 ∧ ¬ ('A' ≤ c ∧ c ≤ 'Z') := by
  have hall : (hexDigits.all fun c => decide (c.toNat < 128 ∧ ¬ ('A' ≤ c ∧ c ≤ 'Z'))) = true := by
    decide
  obtain ⟨b, -, hc⟩ := List.mem_flatMap.mp hc
  exact of_decide_eq_true (List.all_eq_true.mp hall c (mem_hexDigits_of_mem_hexFixed hc))

theorem lowerAscii_of_mem_bytesHex {bytes : Bytes} {c : Char} (hc : c ∈ (bytesHex bytes).toList) :
    c.toNat < 128 ∧ ¬ ('A' ≤ c ∧ c ≤ 'Z') := by
  rw [bytesHex, String.toList_ofList] at hc
  rcases List.mem_cons.mp hc with rfl | hc
  · decide
  · rcases List.mem_cons.mp hc with rfl | hc
    · decide
    · exact lowerAscii_of_mem_bytesToHex hc

/-- Characters of one byte are counted and taken one by one. -/
theorem utf8Len_of_ascii {cs : List Char} (h : ∀ c ∈ cs, c.utf8Size = 1) : utf8Len cs = cs.length := by
  induction cs with
  | nil => rfl
  | cons c cs ih =>
      have hrest := ih fun c' hc' => h c' (List.mem_cons_of_mem c hc')
      rw [utf8Len, List.map_cons, List.sum_cons, ← utf8Len, hrest, h c List.mem_cons_self,
        List.length_cons, Nat.add_comm]

theorem takeUtf8_of_ascii {cs : List Char} (h : ∀ c ∈ cs, c.utf8Size = 1) {n : Nat}
    (hn : n ≤ cs.length) : takeUtf8 n cs = some (cs.take n) := by
  induction n generalizing cs with
  | zero => cases cs <;> rfl
  | succ n ih =>
      cases cs with
      | nil => cases hn
      | cons c cs =>
          have hone : c.utf8Size = 1 := h c List.mem_cons_self
          have hrest := ih (fun c' hc' => h c' (List.mem_cons_of_mem c hc'))
            (Nat.le_of_succ_le_succ hn)
          rw [takeUtf8, hone, if_pos (Nat.le_add_left 1 n), Nat.add_sub_cancel, hrest,
            List.take_succ_cons]
          rfl

theorem utf8Size_of_mem_bytesToHex {bytes : Bytes} {c : Char} (hc : c ∈ bytesToHex bytes) :
    c.utf8Size = 1 := by
  have hall : (hexDigits.all fun c => c.utf8Size == 1) = true := by decide
  obtain ⟨b, -, hc⟩ := List.mem_flatMap.mp hc
  exact beq_iff_eq.mp (List.all_eq_true.mp hall c (mem_hexDigits_of_mem_hexFixed hc))

theorem stripHexPrefix_bytesHex (bytes : Bytes) :
    stripHexPrefix (bytesHex bytes).toList = bytesToHex bytes := by
  rw [bytesHex, String.toList_ofList, stripHexPrefix]

theorem utf8Len_bytesToHex (bytes : Bytes) : utf8Len (bytesToHex bytes) = 2 * bytes.length := by
  rw [utf8Len_of_ascii fun c hc => utf8Size_of_mem_bytesToHex hc, length_bytesToHex]

theorem takeUtf8_bytesToHex {bytes : Bytes} (h : 4 ≤ bytes.length) :
    takeUtf8 8 (bytesToHex bytes) = some (bytesToHex (bytes.take 4)) := by
  rw [takeUtf8_of_ascii fun c hc => utf8Size_of_mem_bytesToHex hc, ← take_bytesToHex]
  rw [length_bytesToHex]
  omega

/-- The selector the indexer stores. -/
theorem failingFunctionOf_bytesHex (calldata : Bytes) :
    failingFunctionOf (bytesHex calldata) = .ok (calldataSelector calldata) := by
  simp only [failingFunctionOf, stripHexPrefix_bytesHex, utf8Len_bytesToHex, calldataSelector]
  by_cases hlong : 4 ≤ calldata.length
  · have hlen : 8 ≤ 2 * calldata.length := by omega
    simp only [if_pos hlong, if_pos hlen, takeUtf8_bytesToHex hlong]
    rfl
  · have hlen : ¬ 8 ≤ 2 * calldata.length := by omega
    rw [if_neg hlong, if_neg hlen]

/-- The selector the API looks up for a frame. -/
theorem extractSelector_bytesHex {toLowercase : String → String} (hlower : FixesLowerAscii toLowercase)
    (calldata : Bytes) :
    Detail.extractSelector toLowercase (bytesHex calldata) = .ok (calldataSelector calldata) := by
  simp only [Detail.extractSelector, stripHexPrefix_bytesHex, utf8Len_bytesToHex, calldataSelector]
  by_cases hlong : 4 ≤ calldata.length
  · have hlen : ¬ 2 * calldata.length < 8 := by omega
    have hsame : toLowercase (String.ofList (bytesToHex (calldata.take 4))) =
        String.ofList (bytesToHex (calldata.take 4)) := by
      refine hlower _ fun c hc => ?_
      rw [String.toList_ofList] at hc
      exact lowerAscii_of_mem_bytesToHex hc
    have hjoin : String.ofList (['0', 'x'] ++ bytesToHex (calldata.take 4)) =
        String.ofList ['0', 'x'] ++ String.ofList (bytesToHex (calldata.take 4)) :=
      String.ofList_append
    simp only [if_pos hlong, if_neg hlen, takeUtf8_bytesToHex hlong, hsame]
    exact congrArg (fun s => Except.ok (some s)) hjoin.symm
  · have hlen : 2 * calldata.length < 8 := by omega
    rw [if_neg hlong, if_pos hlen]

/-- What the lookup tables say of call data: the function of its selector, with the arguments. -/
def calledFunction (env : Detail.DetailEnv) (input : String) : Option Detail.DecodedFunction :=
  (hexDecode (stripHexPrefix input.toList)).bind fun calldata =>
    (calldataSelector calldata).bind fun selector =>
      (env.lookups.functionSignature.lookup selector).map (.of env (some input))

/-! ## The stored trace -/

section Stored

variable {triggers : Triggers} {dec : Decoders} {blockNumber : Nat} {answers : BlockAnswers}
  {db db' : Database} {answer : String → TraceAnswer} {timestamp : Int} {txHash : String}
  {json : Json} {root : CallFrame} {txHashes : List String}

/-- Every frame is stored for one of the transactions. -/
theorem traceLogs_txHash {toLowercase : String → String} :
    ∀ {rows : List TraceLog × List FailedTransaction},
      processFailedTxs toLowercase answer timestamp txHashes = .ok rows →
      ∀ r ∈ rows.1, r.txHash ∈ txHashes := by
  induction txHashes with
  | nil =>
      intro rows h
      cases h
      exact fun r hr => absurd hr List.not_mem_nil
  | cons txHash txHashes ih =>
      intro rows h r hr
      obtain ⟨first, rest, hfirst, hrest, rfl⟩ := processFailedTxs_cons.mp h
      rcases List.mem_append.mp hr with hr | hr
      · rcases processFailedTx_cases hfirst with ⟨-, rfl⟩ | ⟨flattened, root, d, -, -, -, rfl⟩
        · cases hr
        · obtain ⟨frame, -, rfl⟩ := List.mem_map.mp hr
          exact List.mem_cons_self
      · exact List.mem_cons_of_mem _ (ih hrest r hr)

/-- The frames of a transaction are those of its call tree, in pre-order. -/
theorem filter_traceLogs {toLowercase : String → String} (hanswer : answer txHash = .callTracer json)
    (hroot : parseCallFrame toLowercase json = .ok root) (hnodup : txHashes.Nodup)
    (hmem : txHash ∈ txHashes) :
    ∀ {rows : List TraceLog × List FailedTransaction},
      processFailedTxs toLowercase answer timestamp txHashes = .ok rows →
      rows.1.filter (fun r => r.txHash = txHash) =
        ((root.toTree 0).preorder).map (traceRow txHash) := by
  induction txHashes with
  | nil => cases hmem
  | cons txHash' txHashes ih =>
      intro rows h
      obtain ⟨hfresh, hrestNodup⟩ := List.nodup_cons.mp hnodup
      obtain ⟨first, rest, hfirst, hrest, rfl⟩ := processFailedTxs_cons.mp h
      rw [List.filter_append]
      by_cases heq : txHash' = txHash
      · subst heq
        have hnone : rest.1.filter (fun r => r.txHash = txHash') = [] := by
          rw [List.filter_eq_nil_iff]
          intro r hr hhash
          exact hfresh (of_decide_eq_true hhash ▸ traceLogs_txHash hrest r hr)
        obtain ⟨flattened, hfetch, -⟩ := fetchTrace_callTracer txHash' hroot
        rw [← hanswer] at hfetch
        have hframes : flattened.frames = (root.toTree 0).preorder := by
          rw [hanswer] at hfetch
          simp only [fetchTrace, parseTrace, hroot, Except.toOption, Option.some.injEq] at hfetch
          rw [← hfetch, flattenCallFrame_eq_preorder, List.nil_append]
        rcases processFailedTx_cases hfirst with ⟨hskip, -⟩ | ⟨flattened', root', d, hfetch', -, -, rfl⟩
        · rw [hfetch] at hskip
          cases hskip
        · obtain rfl : flattened = flattened' := Option.some.inj (hfetch.symm.trans hfetch')
          rw [hnone, List.append_nil, hframes, List.filter_eq_self]
          intro r hr
          obtain ⟨frame, -, rfl⟩ := List.mem_map.mp hr
          exact decide_eq_true rfl
      · have hnone : first.1.filter (fun r => r.txHash = txHash) = [] := by
          rw [List.filter_eq_nil_iff]
          intro r hr hhash
          rcases processFailedTx_cases hfirst with ⟨-, rfl⟩ | ⟨flattened, root', d, -, -, -, rfl⟩
          · cases hr
          · obtain ⟨frame, -, rfl⟩ := List.mem_map.mp hr
            exact heq (of_decide_eq_true hhash)
        rw [hnone, List.nil_append]
        exact ih hrestNodup ((List.mem_cons.mp hmem).resolve_left (Ne.symm heq)) hrest

/-- The statements of a block before the traces leave the stored traces alone. -/
theorem eventInserts_traceLog {block : RpcBlock} {receipts : List Receipt}
    (h : ExecOk triggers db (eventInserts dec blockNumber block receipts) db') :
    db'.traceLog = db.traceLog := by
  obtain ⟨db₁, db₂, db₃, db₄, h₁, h₂, h₃, h₄, h₅⟩ := execOk_eventInserts.mp h
  obtain ⟨-, -, rfl⟩ := insertBlocks_eq_ok.mp h₁
  obtain ⟨-, -, rfl⟩ := insertTransactions_eq_ok.mp h₂
  obtain ⟨-, -, rfl⟩ := insertSwapEvents_eq_ok.mp h₃
  obtain ⟨-, -, rfl⟩ := insertLiquidityEvents_eq_ok.mp h₄
  obtain ⟨-, -, rfl⟩ := insertTokenTransfers_eq_ok.mp h₅
  rfl

/-- After a block its failed transaction has the frames of its call tree and the diagnosis of the
root frame, where no trigger writes that row first. -/
theorem stored_failure {block : RpcBlock} {receipts : Option (List Receipt)} {receipt : Receipt}
    (hrun : processBlock ⟨false⟩ dec blockNumber answers db = (db', .ok ()))
    (hblock : answers.block = some block) (hreceipts : answers.receipts = some receipts)
    (hreceipt : receipt ∈ receipts.getD []) (hfailed : receipt.status = false)
    (hdistinct : (failedTxHashes (receipts.getD [])).Nodup)
    (htrace : answers.trace (hashHex receipt.transactionHash) = .callTracer json)
    (hroot : parseCallFrame dec.toLowercase json = .ok root)
    (hnofailed : db.failedTransaction.lookup (hashHex receipt.transactionHash) = none)
    (hnew : tracesOf db (hashHex receipt.transactionHash) = []) :
    (∃ f, db'.failedTransaction.lookup (hashHex receipt.transactionHash) = some f ∧
        diagnose dec.toLowercase (root.toFlatFrame 0) = .ok (diagnosisOf f)) ∧
      tracesOf db' (hashHex receipt.transactionHash) =
        ((root.toTree 0).preorder).map (traceRow (hashHex receipt.transactionHash)) := by
  obtain ⟨traceLogs, failedTxs, mid, mid', hrows, hevents, htraces, hinsert⟩ :=
    processBlock_statements hblock hreceipts hrun
  have hmem : hashHex receipt.transactionHash ∈ failedTxHashes (receipts.getD []) :=
    List.mem_map_of_mem (List.mem_filter.mpr ⟨hreceipt, by simp [hfailed]⟩)
  obtain ⟨hexists, hall⟩ := processFailedTxs_diagnosis htrace hroot hrows
  obtain ⟨db₁, -, -, -, hmidFailed⟩ := eventInserts_transaction hevents
  have hmidTraces := eventInserts_traceLog hevents
  obtain ⟨-, -, rfl⟩ := insertTraceLogs_eq_ok.mp htraces
  obtain ⟨-, -, rfl⟩ := insertFailedTransactions_eq_ok.mp hinsert
  constructor
  · obtain ⟨f, hf, hhash⟩ := hexists hmem
    have hstub : stubsOf ⟨false⟩ db₁
        (transactionRows blockNumber block.transactions (receipts.getD [])) = [] := rfl
    have hmid : mid.failedTransaction = db.failedTransaction := by
      rw [hmidFailed, hstub, KeyedTable.insertNew_nil]
    have hlookup : (mid.failedTransaction.insertNew failedTxs).lookup
        (hashHex receipt.transactionHash) =
          failedTxs.find? fun f => f.txHash = hashHex receipt.transactionHash := by
      rw [hmid, KeyedTable.lookup_insertNew, hnofailed, Option.none_or]
    cases hfind : failedTxs.find? (fun f => f.txHash = hashHex receipt.transactionHash) with
    | none => exact absurd (decide_eq_true hhash) (List.find?_eq_none.mp hfind f hf)
    | some f' =>
        have hhash' := List.find?_some hfind
        exact ⟨f', hlookup.trans hfind, hall f' (List.mem_of_find?_eq_some hfind)
          (of_decide_eq_true hhash')⟩
  · have hvalues : tracesOf mid (hashHex receipt.transactionHash) = [] := by
      rw [tracesOf, hmidTraces]
      exact hnew
    have hstored := filter_traceLogs htrace hroot hdistinct hmem hrows
    rw [tracesOf] at hvalues
    rw [tracesOf, SerialTable.values_insert, List.filter_append, hvalues, List.nil_append]
    exact hstored

end Stored

/-! ## The answer -/

/-- The frame of the root cause is the first stored one with an error. -/
theorem map_getFirstErrorFrame (db : Database) (txHash : String) :
    (getFirstErrorFrame db txHash).map Prod.snd =
      (tracesOf db txHash).find? fun r => r.error.isSome := by
  rw [getFirstErrorFrame, tracesOf, SerialTable.values, List.filter_map, ← List.head?_filter,
    List.filter_map, List.head?_map, List.filter_filter]
  refine congrArg (fun l => Option.map Prod.snd (List.head? l)) (List.filter_congr fun r _ => ?_)
  rw [Bool.decide_and, Bool.and_comm]
  simp only [Function.comp_apply, Bool.decide_eq_true]

/-- The inputs of a call tree are call data, as the tracer renders it. -/
def InputsRendered (root : CallFrame) : Prop :=
  ∀ f ∈ (root.toTree 0).preorder, ∀ i ∈ f.input, ∃ calldata, i = bytesHex calldata

variable {env : Detail.DetailEnv} {root : CallFrame} {txHash : String}

theorem calledFunction_bytesHex (calldata : Bytes) :
    calledFunction env (bytesHex calldata) = (calldataSelector calldata).bind fun selector =>
      (env.lookups.functionSignature.lookup selector).map
        (.of env (some (bytesHex calldata))) := by
  rw [calledFunction, stripHexPrefix_bytesHex, hexDecode_bytesToHex, Option.bind_some]

/-- `LOWER` leaves a selector as it is. -/
theorem getFunctionSignature_selector {calldata : Bytes} {selector : String}
    (h : calldataSelector calldata = some selector) :
    getFunctionSignature env.sql env.lookups selector =
      env.lookups.functionSignature.lookup selector := by
  have hfixed : env.sql.lower selector = selector := by
    apply env.sql.fixed
    unfold calldataSelector at h
    split at h
    · cases h
      exact fun c hc => lowerAscii_of_mem_bytesHex hc
    · cases h
  rw [getFunctionSignature, hfixed]

theorem preorder_toTree (root : CallFrame) :
    ∃ rest, (root.toTree 0).preorder = root.toFlatFrame 0 :: rest := by
  cases root
  exact ⟨_, rfl⟩

/-- The function of the frame that failed first. -/
theorem rootCauseDecoded_eq {rootCause : Option (Nat × TraceLog)}
    (hlower : FixesLowerAscii env.toLowercase) (hinputs : InputsRendered root)
    (hcause : rootCause.map Prod.snd =
      ((root.toTree 0).preorder.find? fun f => f.error.isSome).map (traceRow txHash)) :
    Detail.rootCauseDecoded env rootCause =
      .ok (((root.toTree 0).preorder.find? fun f => f.error.isSome).bind fun f =>
        f.input.bind (calledFunction env)) := by
  have hinput : rootCause.bind (·.2.input) =
      ((root.toTree 0).preorder.find? fun f => f.error.isSome).bind (·.input) := by
    have hbind : rootCause.bind (·.2.input) = (rootCause.map Prod.snd).bind TraceLog.input := by
      rw [Option.bind_map]
      rfl
    rw [hbind, hcause, Option.bind_map]
    rfl
  unfold Detail.rootCauseDecoded
  rw [hinput]
  cases hfind : (root.toTree 0).preorder.find? fun f => f.error.isSome with
  | none => rfl
  | some f =>
      cases hi : f.input with
      | none => simp only [Option.bind_some, hi, Option.bind_none]
      | some i =>
          obtain ⟨calldata, rfl⟩ := hinputs f (List.mem_of_find?_eq_some hfind) i hi
          simp only [Option.bind_some, hi, extractSelector_bytesHex hlower, calledFunction_bytesHex]
          cases hselector : calldataSelector calldata with
          | none => rfl
          | some selector =>
              rw [Option.bind_some, ← getFunctionSignature_selector hselector]
              rfl

/-- The function of the root frame. -/
theorem failingFunctionDecoded_eq {toLowercase : String → String} {failed : FailedTransaction}
    {callTree : List (Nat × TraceLog)} {rest : List TraceLog} (hinputs : InputsRendered root)
    (hdiagnosis : diagnose toLowercase (root.toFlatFrame 0) = .ok (diagnosisOf failed))
    (hcalls : callTree.map Prod.snd = traceRow txHash (root.toFlatFrame 0) :: rest) :
    Detail.failingFunctionDecoded env failed callTree =
      (root.toFlatFrame 0).input.bind (calledFunction env) := by
  obtain ⟨frames, hframes⟩ := preorder_toTree root
  have hroot : (callTree.find? fun f => f.2.callDepth = 0).bind (·.2.input) =
      (root.toFlatFrame 0).input := by
    cases callTree with
    | nil => cases hcalls
    | cons f callTree =>
        have hf : f.2 = traceRow txHash (root.toFlatFrame 0) := (List.cons.inj hcalls).1
        have hdepth : decide (f.2.callDepth = 0) = true := by
          rw [hf]
          rfl
        rw [List.find?_cons, hdepth, Option.bind_some, hf]
        rfl
  unfold Detail.failingFunctionDecoded
  rw [hroot]
  obtain ⟨-, -, hfunction⟩ := diagnose_cases hdiagnosis
  rcases hfunction with ⟨hnone, hfunction⟩ | ⟨input, hinput, hfunction⟩
  · change failed.failingFunction = none at hfunction
    rw [hnone, hfunction]
    rfl
  · have hmem : root.toFlatFrame 0 ∈ (root.toTree 0).preorder := hframes ▸ List.mem_cons_self
    obtain ⟨calldata, rfl⟩ := hinputs _ hmem input hinput
    rw [failingFunctionOf_bytesHex, Except.ok.injEq] at hfunction
    change calldataSelector calldata = failed.failingFunction at hfunction
    rw [hinput, ← hfunction, Option.bind_some, calledFunction_bytesHex]
    cases hselector : calldataSelector calldata with
    | none => rfl
    | some selector =>
        rw [Option.bind_some, Option.bind_some, getFunctionSignature_selector hselector]

/-- An answer tells what a call tree says: the diagnosis of the root frame, the first frames in
pre-order and whether there are more, the first frame with an error, the functions of these two
frames, and what is known of the category. -/
structure TellsTrace (env : Detail.DetailEnv) (toLowercase : String → String) (root : CallFrame)
    (txHash : String) (detail : Detail.FailedTxDetail) : Prop where
  diagnosed : diagnose toLowercase (root.toFlatFrame 0) = .ok (diagnosisOf detail.failed)
  callTree : detail.callTree.map Prod.snd =
    ((root.toTree 0).preorder.take maxCallTreeFrames).map (traceRow txHash)
  truncated : detail.callTreeTruncated = true ↔ maxCallTreeFrames < (root.toTree 0).preorder.length
  rootCause : detail.rootCause.map Prod.snd =
    ((root.toTree 0).preorder.find? fun f => f.error.isSome).map (traceRow txHash)
  failingFunction : detail.failingFunctionDecoded =
    (root.toFlatFrame 0).input.bind (calledFunction env)
  rootCauseFunction : detail.rootCauseDecoded =
    ((root.toTree 0).preorder.find? fun f => f.error.isSome).bind fun f =>
      f.input.bind (calledFunction env)
  explained : ∃ cd, getCategoryDiagnosis env.lookups detail.failed.errorCategory.asWire = some cd ∧
    cd.errorCategory = detail.failed.errorCategory.asWire ∧ detail.diagnosis = some (.of cd)

/-- The two functions are one when the root frame has an error: it is the first frame. -/
theorem TellsTrace.same_function {toLowercase : String → String} {detail : Detail.FailedTxDetail}
    (h : TellsTrace env toLowercase root txHash detail)
    (herror : (root.toFlatFrame 0).error.isSome) :
    detail.rootCauseDecoded = detail.failingFunctionDecoded := by
  obtain ⟨rest, hframes⟩ := preorder_toTree root
  rw [h.rootCauseFunction, h.failingFunction, hframes, List.find?_cons, herror]
  rfl

/-- What the API tells of a failed transaction is what its trace says, from the block that holds
it to the answer. In particular the functions named for the transaction and for its root cause are
the same whenever the root frame has an error. -/
theorem detail_of_processBlock {dec : Decoders} {blockNumber : Nat} {answers : BlockAnswers}
    {db db' : Database} {block : RpcBlock} {receipts : Option (List Receipt)} {receipt : Receipt}
    {json : Json} (hlower : FixesLowerAscii env.toLowercase) (hinputs : InputsRendered root)
    (hseeded : ∃ lookups now now' now'', env.lookups = Lookups.migrate lookups now now' now'')
    (hrun : processBlock ⟨false⟩ dec blockNumber answers db = (db', .ok ()))
    (hblock : answers.block = some block) (hreceipts : answers.receipts = some receipts)
    (hreceipt : receipt ∈ receipts.getD []) (hfailed : receipt.status = false)
    (hdistinct : (failedTxHashes (receipts.getD [])).Nodup)
    (htrace : answers.trace (hashHex receipt.transactionHash) = .callTracer json)
    (hroot : parseCallFrame dec.toLowercase json = .ok root)
    (hnofailed : db.failedTransaction.lookup (hashHex receipt.transactionHash) = none)
    (hnew : tracesOf db (hashHex receipt.transactionHash) = []) :
    ∃ detail, Detail.getFailedTx env db' (hashHex receipt.transactionHash) = .ok (.ok detail) ∧
      TellsTrace env dec.toLowercase root (hashHex receipt.transactionHash) detail ∧
      ((root.toFlatFrame 0).error.isSome →
        detail.rootCauseDecoded = detail.failingFunctionDecoded) := by
  obtain ⟨⟨f, hlookup, hdiagnosis⟩, hstored⟩ := stored_failure hrun hblock hreceipts hreceipt hfailed
    hdistinct htrace hroot hnofailed hnew
  have hcause : (getFirstErrorFrame db' (hashHex receipt.transactionHash)).map Prod.snd =
      ((root.toTree 0).preorder.find? fun f => f.error.isSome).map
        (traceRow (hashHex receipt.transactionHash)) := by
    rw [map_getFirstErrorFrame, hstored, List.find?_map]
    rfl
  have hrows : (Detail.listTraceRows db' (hashHex receipt.transactionHash)
      (maxCallTreeFrames + 1)).map Prod.snd =
        ((root.toTree 0).preorder.take (maxCallTreeFrames + 1)).map
          (traceRow (hashHex receipt.transactionHash)) := by
    rw [Detail.map_listTraceRows, listTraceLogsByTx, hstored, List.map_take]
  have hcalls : ((Detail.listTraceRows db' (hashHex receipt.transactionHash)
      (maxCallTreeFrames + 1)).take maxCallTreeFrames).map Prod.snd =
        ((root.toTree 0).preorder.take maxCallTreeFrames).map
          (traceRow (hashHex receipt.transactionHash)) := by
    rw [List.map_take, hrows, ← List.map_take, List.take_take, Nat.min_eq_left (Nat.le_succ _)]
  have hlength : maxCallTreeFrames < (Detail.listTraceRows db' (hashHex receipt.transactionHash)
      (maxCallTreeFrames + 1)).length ↔ maxCallTreeFrames < (root.toTree 0).preorder.length := by
    rw [← List.length_map Prod.snd, hrows, List.length_map, List.length_take]
    omega
  have hfunction : Detail.failingFunctionDecoded env f ((Detail.listTraceRows db'
      (hashHex receipt.transactionHash) (maxCallTreeFrames + 1)).take maxCallTreeFrames) =
        (root.toFlatFrame 0).input.bind (calledFunction env) := by
    obtain ⟨rest, hframes⟩ := preorder_toTree root
    rw [hframes] at hcalls
    exact failingFunctionDecoded_eq hinputs hdiagnosis hcalls
  have hexplained : ∃ cd, getCategoryDiagnosis env.lookups f.errorCategory.asWire = some cd ∧
      cd.errorCategory = f.errorCategory.asWire := by
    obtain ⟨lookups, now, now', now'', hlookups⟩ := hseeded
    rw [hlookups]
    exact getCategoryDiagnosis_migrate lookups now now' now'' f.errorCategory
  obtain ⟨cd, hcd, hkey⟩ := hexplained
  have htells : TellsTrace env dec.toLowercase root (hashHex receipt.transactionHash) {
      failed := f
      callTree := (Detail.listTraceRows db' (hashHex receipt.transactionHash)
        (maxCallTreeFrames + 1)).take maxCallTreeFrames
      callTreeTruncated := decide (maxCallTreeFrames < (Detail.listTraceRows db'
        (hashHex receipt.transactionHash) (maxCallTreeFrames + 1)).length)
      rootCause := getFirstErrorFrame db' (hashHex receipt.transactionHash)
      failingFunctionDecoded := Detail.failingFunctionDecoded env f ((Detail.listTraceRows db'
        (hashHex receipt.transactionHash) (maxCallTreeFrames + 1)).take maxCallTreeFrames)
      rootCauseDecoded := ((root.toTree 0).preorder.find? fun f => f.error.isSome).bind fun f =>
        f.input.bind (calledFunction env)
      diagnosis := (getCategoryDiagnosis env.lookups f.errorCategory.asWire).map .of } :=
    ⟨hdiagnosis, hcalls, by rw [decide_eq_true_eq, hlength], hcause, hfunction, rfl,
      cd, hcd, hkey, congrArg (Option.map Detail.Diagnosis.of) hcd⟩
  exact ⟨_, Detail.getFailedTx_of_found (isTxHash_hashHex _) hlookup
    (rootCauseDecoded_eq hlower hinputs hcause), htells, htells.same_function⟩

/-- The tables of the migrations, and nothing that decodes arguments. -/
def seededEnv : Detail.DetailEnv where
  lookups := Lookups.migrate ⟨∅, ∅⟩ 0 0 0
  sql := asciiLower
  toLowercase := asciiLower.lower
  alloy := ⟨fun _ => .error "", fun _ _ => .error "", fun _ => ""⟩

/-- A call of `transfer` that reverted. -/
theorem detail_of_processBlock_reverted : ∃ db' detail,
    Detail.getFailedTx seededEnv db' (hashHex 7) = .ok (.ok detail) ∧
      detail.rootCauseDecoded = detail.failingFunctionDecoded ∧
      detail.failingFunctionDecoded.map (·.name) = some "transfer" := by
  obtain ⟨db', hrun⟩ := failedBlock_stored
  obtain ⟨root, hroot, herror, hname, hall⟩ : ∃ root,
      parseCallFrame sampleDecoders.toLowercase revertedFrame = .ok root ∧
      (root.toFlatFrame 0).error.isSome ∧
      ((root.toFlatFrame 0).input.bind (calledFunction seededEnv)).map (·.name) = some "transfer" ∧
      ∀ f ∈ (root.toTree 0).preorder, f.input = some (bytesHex [0xa9, 0x05, 0x9c, 0xbb]) :=
    ⟨_, rfl, by decide +kernel, by decide +kernel, by decide +kernel⟩
  have hinputs : InputsRendered root := by
    intro f hf i hi
    rw [hall f hf] at hi
    exact ⟨_, (Option.mem_some_iff.mp hi).symm⟩
  have hlower : FixesLowerAscii seededEnv.toLowercase := asciiLower.fixed
  obtain ⟨detail, hanswer, htells, hsame⟩ := detail_of_processBlock hlower hinputs
    ⟨⟨∅, ∅⟩, 0, 0, 0, rfl⟩ hrun rfl rfl List.mem_cons_self rfl (List.nodup_singleton _) rfl hroot
    rfl rfl
  exact ⟨db', detail, hanswer, hsame herror, by rw [htells.failingFunction]; exact hname⟩

end TxIndexer.Proofs
