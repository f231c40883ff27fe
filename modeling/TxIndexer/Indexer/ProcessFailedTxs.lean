import TxIndexer.Decoder.RevertReason
import TxIndexer.Decoder.Classifier
import TxIndexer.Decoder.Events
import TxIndexer.Db.Models

/-!
# Tracing failed transactions

`process_failed_txs` of `crates/indexer/src/worker.rs`: each failed transaction is traced, its
call frames become `trace_log` rows, and its root frame yields the diagnosis that becomes its
`failed_transaction` row. A transaction whose trace cannot be fetched, has another shape or does
not parse is skipped.
-/

namespace TxIndexer.Indexer

open Decoder Db

/-- Code of other crates that the decoders call: the generated event ABI and
`str::to_lowercase`. -/
structure Decoders where
  abi : EventAbi
  toLowercase : String → String

/-- What `debug_traceTransaction` answers: an error, a trace of another kind than `callTracer`'s
(or one that does not serialise), or a call frame as JSON. -/
inductive TraceAnswer where
  | rpcError
  | otherKind
  | callTracer (frame : Json)

/-- The bytes of a text in UTF-8. -/
def utf8Len (cs : List Char) : Nat := (cs.map Char.utf8Size).sum

/-- The leading characters that take exactly `n` bytes; none when `n` is inside a character or
past the end. -/
def takeUtf8 : Nat → List Char → Option (List Char)
  | 0, _ => some []
  | _ + 1, [] => none
  | n + 1, c :: cs =>
      if c.utf8Size ≤ n + 1 then (takeUtf8 (n + 1 - c.utf8Size) cs).map (c :: ·) else none

/-- The `trace_log` row of a frame (`worker.rs:549-564`). -/
def traceRow (txHash : String) (frame : FlatFrame) : TraceLog where
  txHash
  callDepth := frame.depth
  callType := frame.callType
  fromAddr := frame.fromAddr
  toAddr := frame.toAddr
  value := (parseInt frame.value).getD 0
  gasUsed := frame.gasUsed
  input := frame.input
  output := frame.output
  error := frame.error

/-- The bytes of the root frame's output, when it has one that is hexadecimal. -/
def revertPayload (root : FlatFrame) : Option Bytes :=
  root.output.bind fun o => hexDecode (stripHexPrefix o.toList)

/-- The revert reason of the root frame (`worker.rs:568-575`). -/
def revertReasonOf (root : FlatFrame) : Checked (Option String) :=
  match revertPayload root with
  | none => .ok none
  | some bytes => (decodeRevertReason bytes).map Except.toOption

/-- The category a classified text is stored as (`worker.rs:587-594`). -/
def storedCategory (errorCategory : String) : ErrorCategory :=
  if errorCategory = "INSUFFICIENT_BALANCE" then .insufficientBalance
  else if errorCategory = "SLIPPAGE_EXCEEDED" then .slippageExceeded
  else if errorCategory = "DEADLINE_EXPIRED" then .deadlineExpired
  else if errorCategory = "UNAUTHORIZED" then .unauthorized
  else if errorCategory = "TRANSFER_FAILED" then .transferFailed
  else .unknown

/-- The selector at the start of an input, `&hex[..8]` being a slice by bytes
(`worker.rs:596-608`). -/
def failingFunctionOf (input : String) : Checked (Option String) :=
  let hex := stripHexPrefix input.toList
  if 8 ≤ utf8Len hex then
    match takeUtf8 8 hex with
    | some selector => .ok (some (String.ofList ('0' :: 'x' :: selector)))
    | none => .error .charBoundary
  else .ok none

/-- What the root frame says about a failure. -/
structure Diagnosis where
  errorCategory : ErrorCategory
  revertReason : Option String
  failingFunction : Option String
  deriving DecidableEq, Repr

/-- The diagnosis the trigger's stub stands for. -/
def Diagnosis.stub : Diagnosis := ⟨.unknown, none, none⟩

/-- The diagnosis a row stores. -/
def diagnosisOf (row : FailedTransaction) : Diagnosis :=
  ⟨row.errorCategory, row.revertReason, row.failingFunction⟩

/-- The diagnosis of a root frame (`worker.rs:566-608`). -/
def diagnose (toLowercase : String → String) (root : FlatFrame) : Checked Diagnosis := do
  let revertReason ← revertReasonOf root
  let category := (revertReason.map (classifyError toLowercase)).getD "UNKNOWN"
  let failingFunction ← match root.input with
    | none => .ok none
    | some input => failingFunctionOf input
  return { errorCategory := storedCategory category, revertReason, failingFunction }

/-- The trace of a transaction, when it is fetched and parses. -/
def fetchTrace (toLowercase : String → String) (txHash : String) :
    TraceAnswer → Option FlattenedTrace
  | .callTracer frame => (parseTrace toLowercase txHash frame).toOption
  | _ => none

/-- The `failed_transaction` row (`worker.rs:610-617`). -/
def failedRow (txHash : String) (timestamp : Int) (flattened : FlattenedTrace)
    (diagnosis : Diagnosis) : FailedTransaction where
  txHash
  errorCategory := diagnosis.errorCategory
  revertReason := diagnosis.revertReason
  failingFunction := diagnosis.failingFunction
  gasUsed := (flattened.frames.head?.map (·.gasUsed)).getD 0
  timestamp

/-- One iteration of the loop: the rows of one failed transaction. -/
def processFailedTx (toLowercase : String → String) (txHash : String) (timestamp : Int)
    (answer : TraceAnswer) : Checked (List TraceLog × List FailedTransaction) :=
  match fetchTrace toLowercase txHash answer with
  | none => .ok ([], [])
  | some flattened => do
      let diagnosis ← match flattened.frames.head? with
        | some root => diagnose toLowercase root
        | none => .ok .stub
      return (flattened.frames.map (traceRow txHash),
        [failedRow txHash timestamp flattened diagnosis])

/-- `process_failed_txs` (`worker.rs:503-621`). Parsing the rendering of a hash back does not
fail, so the answers are given by the rendering. -/
def processFailedTxs (toLowercase : String → String) (answer : String → TraceAnswer)
    (timestamp : Int) : List String → Checked (List TraceLog × List FailedTransaction)
  | [] => .ok ([], [])
  | txHash :: txHashes => do
      let (traceLogs, failedTxs) ← processFailedTx toLowercase txHash timestamp (answer txHash)
      let (restLogs, restTxs) ← processFailedTxs toLowercase answer timestamp txHashes
      return (traceLogs ++ restLogs, failedTxs ++ restTxs)

/-! ## What it computes -/

variable {toLowercase : String → String} {answer : String → TraceAnswer} {timestamp : Int}

/-- A parsed trace starts with the row of its root frame. -/
theorem fetchTrace_callTracer (txHash : String) {json : Json} {root : CallFrame}
    (hroot : parseCallFrame toLowercase json = .ok root) :
    ∃ flattened, fetchTrace toLowercase txHash (.callTracer json) = some flattened ∧
      flattened.frames.head? = some (root.toFlatFrame 0) := by
  refine ⟨⟨txHash, flattenCallFrame 0 [] root⟩, ?_, ?_⟩
  · simp [fetchTrace, parseTrace, hroot, Except.toOption]
  · rw [flattenCallFrame_eq_preorder, List.nil_append]
    cases root
    rw [CallFrame.toTree, Lib.RoseTree.preorder, List.head?_cons]

/-- A parsed trace has a root frame. -/
theorem fetchTrace_head {txHash : String} {a : TraceAnswer} {flattened : FlattenedTrace}
    (h : fetchTrace toLowercase txHash a = some flattened) :
    ∃ root, flattened.frames.head? = some root := by
  cases a with
  | callTracer json =>
      cases hroot : parseCallFrame toLowercase json with
      | error e => simp [fetchTrace, parseTrace, hroot, Except.toOption] at h
      | ok root =>
          obtain ⟨flattened', hfetch, hhead⟩ := fetchTrace_callTracer txHash hroot
          rw [h, Option.some.injEq] at hfetch
          exact ⟨_, hfetch ▸ hhead⟩
  | _ => cases h

/-- One iteration, in terms of the root frame: it fails as the diagnosis does, and otherwise
stores it. -/
theorem processFailedTx_eq {txHash : String} {a : TraceAnswer} {flattened : FlattenedTrace}
    {root : FlatFrame} (hfetch : fetchTrace toLowercase txHash a = some flattened)
    (hhead : flattened.frames.head? = some root) :
    processFailedTx toLowercase txHash timestamp a =
      (diagnose toLowercase root).map fun d =>
        (flattened.frames.map (traceRow txHash), [failedRow txHash timestamp flattened d]) := by
  simp only [processFailedTx, hfetch, hhead]
  cases diagnose toLowercase root <;> rfl

/-- What one iteration builds: nothing for a transaction that is skipped, and otherwise the rows of
its frames and the diagnosis of its root frame. -/
theorem processFailedTx_cases {txHash : String} {a : TraceAnswer}
    {rows : List TraceLog × List FailedTransaction}
    (h : processFailedTx toLowercase txHash timestamp a = .ok rows) :
    (fetchTrace toLowercase txHash a = none ∧ rows = ([], [])) ∨
    ∃ flattened root d, fetchTrace toLowercase txHash a = some flattened ∧
      flattened.frames.head? = some root ∧ diagnose toLowercase root = .ok d ∧
      rows = (flattened.frames.map (traceRow txHash), [failedRow txHash timestamp flattened d]) := by
  cases hfetch : fetchTrace toLowercase txHash a with
  | none =>
      rw [processFailedTx, hfetch] at h
      cases h
      exact .inl ⟨rfl, rfl⟩
  | some flattened =>
      obtain ⟨root, hhead⟩ := fetchTrace_head hfetch
      rw [processFailedTx_eq hfetch hhead] at h
      cases hdiag : diagnose toLowercase root with
      | error p => rw [hdiag] at h; cases h
      | ok d =>
          rw [hdiag] at h
          cases h
          exact .inr ⟨flattened, root, d, rfl, hhead, hdiag, rfl⟩

/-- The rows of a transaction whose trace parses: its diagnosis is that of the root frame. -/
theorem processFailedTx_callTracer {txHash : String} {json : Json} {root : CallFrame}
    (hroot : parseCallFrame toLowercase json = .ok root)
    {rows : List TraceLog × List FailedTransaction}
    (h : processFailedTx toLowercase txHash timestamp (.callTracer json) = .ok rows) :
    ∃ f, rows.2 = [f] ∧ f.txHash = txHash ∧
      diagnose toLowercase (root.toFlatFrame 0) = .ok (diagnosisOf f) := by
  obtain ⟨flattened, hfetch, hhead⟩ := fetchTrace_callTracer txHash hroot
  rcases processFailedTx_cases h with ⟨hnone, -⟩ | ⟨flattened', root', d, hfetch', hhead', hdiag, rfl⟩
  · rw [hfetch] at hnone
    cases hnone
  · obtain rfl : flattened = flattened' := Option.some.inj (hfetch.symm.trans hfetch')
    obtain rfl : root.toFlatFrame 0 = root' := Option.some.inj (hhead.symm.trans hhead')
    exact ⟨_, rfl, rfl, hdiag⟩

/-- The rows of one iteration are about its transaction. -/
theorem processFailedTx_txHash {txHash : String} {a : TraceAnswer}
    {rows : List TraceLog × List FailedTransaction}
    (h : processFailedTx toLowercase txHash timestamp a = .ok rows) :
    ∀ f ∈ rows.2, f.txHash = txHash := by
  rcases processFailedTx_cases h with ⟨-, rfl⟩ | ⟨flattened, root, d, -, -, -, rfl⟩
  · nofun
  · intro f hf
    rw [List.mem_singleton.mp hf, failedRow]

theorem processFailedTxs_cons {txHash : String} {txHashes : List String}
    {rows : List TraceLog × List FailedTransaction} :
    processFailedTxs toLowercase answer timestamp (txHash :: txHashes) = .ok rows ↔
      ∃ first rest, processFailedTx toLowercase txHash timestamp (answer txHash) = .ok first ∧
        processFailedTxs toLowercase answer timestamp txHashes = .ok rest ∧
        rows = (first.1 ++ rest.1, first.2 ++ rest.2) := by
  rw [processFailedTxs]
  cases processFailedTx toLowercase txHash timestamp (answer txHash) with
  | error p => simp [bind, Except.bind]
  | ok first =>
      cases processFailedTxs toLowercase answer timestamp txHashes with
      | error p => simp [bind, Except.bind]
      | ok rest => simp [bind, Except.bind, pure, Except.pure, eq_comm]

/-- A transaction whose trace parses gets a row, and every row it gets holds the diagnosis of
its root frame. -/
theorem processFailedTxs_diagnosis {txHash : String} {json : Json} {root : CallFrame}
    (hanswer : answer txHash = .callTracer json)
    (hroot : parseCallFrame toLowercase json = .ok root) {txHashes : List String} :
    ∀ {rows : List TraceLog × List FailedTransaction},
      processFailedTxs toLowercase answer timestamp txHashes = .ok rows →
      (txHash ∈ txHashes → ∃ f ∈ rows.2, f.txHash = txHash) ∧
      ∀ f ∈ rows.2, f.txHash = txHash →
        diagnose toLowercase (root.toFlatFrame 0) = .ok (diagnosisOf f) := by
  induction txHashes with
  | nil => intro rows h; cases h; simp
  | cons txHash' txHashes ih =>
      intro rows h
      obtain ⟨first, rest, hfirst, hrest, rfl⟩ := processFailedTxs_cons.mp h
      obtain ⟨hexists, hall⟩ := ih hrest
      by_cases heq : txHash' = txHash
      · subst heq
        rw [hanswer] at hfirst
        obtain ⟨f, hrows, hhash, hdiag⟩ := processFailedTx_callTracer hroot hfirst
        rw [hrows]
        refine ⟨fun _ => ⟨f, by simp, hhash⟩, fun f' hf' hhash' => ?_⟩
        rcases List.mem_append.mp hf' with hf' | hf'
        · rw [List.mem_singleton.mp hf']
          exact hdiag
        · exact hall f' hf' hhash'
      · refine ⟨fun hmem => ?_, fun f hf hhash => ?_⟩
        · obtain ⟨f, hf, hhash⟩ :=
            hexists ((List.mem_cons.mp hmem).resolve_left (Ne.symm heq))
          exact ⟨f, List.mem_append_right _ hf, hhash⟩
        · rcases List.mem_append.mp hf with hf | hf
          · exact absurd ((processFailedTx_txHash hfirst f hf).symm.trans hhash) heq
          · exact hall f hf hhash

/-- Every row comes from a traced transaction and holds the diagnosis of its root frame. -/
theorem processFailedTxs_mem {txHashes : List String} :
    ∀ {rows : List TraceLog × List FailedTransaction},
      processFailedTxs toLowercase answer timestamp txHashes = .ok rows →
      ∀ f ∈ rows.2, ∃ txHash ∈ txHashes, ∃ flattened root,
        fetchTrace toLowercase txHash (answer txHash) = some flattened ∧
        flattened.frames.head? = some root ∧ diagnose toLowercase root = .ok (diagnosisOf f) := by
  induction txHashes with
  | nil => intro rows h; cases h; simp
  | cons txHash txHashes ih =>
      intro rows h f hf
      obtain ⟨first, rest, hfirst, hrest, rfl⟩ := processFailedTxs_cons.mp h
      rcases List.mem_append.mp hf with hf | hf
      · rcases processFailedTx_cases hfirst with
          ⟨-, rfl⟩ | ⟨flattened, root, d, hfetch, hhead, hdiag, rfl⟩
        · cases hf
        · obtain rfl := List.mem_singleton.mp hf
          exact ⟨txHash, List.mem_cons_self, flattened, root, hfetch, hhead, hdiag⟩
      · obtain ⟨txHash', hmem, hrow⟩ := ih hrest f hf
        exact ⟨txHash', List.mem_cons_of_mem _ hmem, hrow⟩

/-- The rows of failed transactions are one for each hash whose trace is fetched and parses, in
their order. -/
theorem processFailedTxs_txHashes {txHashes : List String} :
    ∀ {rows : List TraceLog × List FailedTransaction},
      processFailedTxs toLowercase answer timestamp txHashes = .ok rows →
      rows.2.map (·.txHash) = txHashes.filter fun txHash =>
        (fetchTrace toLowercase txHash (answer txHash)).isSome := by
  induction txHashes with
  | nil => intro rows h; cases h; rfl
  | cons txHash txHashes ih =>
      intro rows h
      obtain ⟨first, rest, hfirst, hrest, rfl⟩ := processFailedTxs_cons.mp h
      rw [List.map_append, ih hrest]
      rcases processFailedTx_cases hfirst with
        ⟨hfetch, rfl⟩ | ⟨flattened, root, d, hfetch, -, -, rfl⟩
      · simp [hfetch]
      · simp [hfetch, failedRow]

/-- A trace is fetched when it is a call frame that parses. -/
theorem fetchTrace_isSome {txHash : String} {a : TraceAnswer} :
    (fetchTrace toLowercase txHash a).isSome ↔
      ∃ frame flattened, a = .callTracer frame ∧
        parseTrace toLowercase txHash frame = .ok flattened := by
  cases a with
  | callTracer frame =>
      cases hparse : parseTrace toLowercase txHash frame with
      | error e => simp [fetchTrace, hparse, Except.toOption]
      | ok flattened => simp [fetchTrace, hparse, Except.toOption]
  | _ => simp [fetchTrace]

/-- A panic comes from the diagnosis of a traced transaction. -/
theorem processFailedTxs_panic {txHashes : List String} {p : Panic}
    (h : processFailedTxs toLowercase answer timestamp txHashes = .error p) :
    ∃ txHash ∈ txHashes, ∃ flattened root,
      fetchTrace toLowercase txHash (answer txHash) = some flattened ∧
      flattened.frames.head? = some root ∧ diagnose toLowercase root = .error p := by
  induction txHashes with
  | nil => cases h
  | cons txHash txHashes ih =>
      rw [processFailedTxs] at h
      cases hfetch : fetchTrace toLowercase txHash (answer txHash) with
      | none =>
          rw [processFailedTx, hfetch] at h
          cases hrest : processFailedTxs toLowercase answer timestamp txHashes with
          | error p' =>
              rw [hrest] at h
              cases h
              obtain ⟨txHash', hmem, hrow⟩ := ih hrest
              exact ⟨txHash', List.mem_cons_of_mem _ hmem, hrow⟩
          | ok rest => rw [hrest] at h; cases h
      | some flattened =>
          obtain ⟨root, hhead⟩ := fetchTrace_head hfetch
          rw [processFailedTx_eq hfetch hhead] at h
          cases hdiag : diagnose toLowercase root with
          | error p' =>
              rw [hdiag] at h
              cases h
              exact ⟨txHash, List.mem_cons_self, flattened, root, hfetch, hhead, hdiag⟩
          | ok d =>
              rw [hdiag] at h
              cases hrest : processFailedTxs toLowercase answer timestamp txHashes with
              | error p' =>
                  rw [hrest] at h
                  cases h
                  obtain ⟨txHash', hmem, hrow⟩ := ih hrest
                  exact ⟨txHash', List.mem_cons_of_mem _ hmem, hrow⟩
              | ok rest => rw [hrest] at h; cases h

/-- What a diagnosis holds: the revert reason of its frame, the category of that reason (`UNKNOWN`
without one) and the selector of the input. -/
theorem diagnose_cases {root : FlatFrame} {d : Diagnosis} (h : diagnose toLowercase root = .ok d) :
    revertReasonOf root = .ok d.revertReason ∧
    d.errorCategory =
      storedCategory ((d.revertReason.map (classifyError toLowercase)).getD "UNKNOWN") ∧
    ((root.input = none ∧ d.failingFunction = none) ∨
      ∃ input, root.input = some input ∧ failingFunctionOf input = .ok d.failingFunction) := by
  unfold diagnose at h
  cases hreason : revertReasonOf root with
  | error p => rw [hreason] at h; cases h
  | ok reason =>
      rw [hreason] at h
      cases hinput : root.input with
      | none =>
          rw [hinput] at h
          cases h
          exact ⟨rfl, rfl, .inl ⟨rfl, rfl⟩⟩
      | some input =>
          rw [hinput] at h
          simp only [bind, Except.bind] at h
          cases hfunction : failingFunctionOf input with
          | error p => rw [hfunction] at h; cases h
          | ok failingFunction =>
              rw [hfunction] at h
              cases h
              exact ⟨rfl, rfl, .inr ⟨input, rfl, hfunction⟩⟩

/-- A diagnosis panics where decoding the payload does, or where the input is cut inside a
character. -/
theorem diagnose_panic {root : FlatFrame} {p : Panic} (h : diagnose toLowercase root = .error p) :
    revertReasonOf root = .error p ∨ p = .charBoundary := by
  unfold diagnose at h
  cases hreason : revertReasonOf root with
  | error p' => rw [hreason] at h; cases h; exact .inl rfl
  | ok reason =>
      rw [hreason] at h
      cases hinput : root.input with
      | none => rw [hinput] at h; cases h
      | some input =>
          rw [hinput] at h
          simp only [bind, Except.bind] at h
          cases hfunction : failingFunctionOf input with
          | ok failingFunction => rw [hfunction] at h; cases h
          | error p' =>
              rw [hfunction] at h
              cases h
              unfold failingFunctionOf at hfunction
              simp only at hfunction
              split at hfunction
              · split at hfunction <;> cases hfunction
                exact .inr rfl
              · cases hfunction

end TxIndexer.Indexer
