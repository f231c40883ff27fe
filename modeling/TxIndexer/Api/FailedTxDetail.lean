import TxIndexer.Api.FailedTx
import TxIndexer.Db.Lookups
import TxIndexer.Decoder.Abi
import TxIndexer.Indexer.ProcessFailedTxs

/-!
# The diagnosis of one failed transaction

`get_failed_tx` of `crates/api/src/routes/failed_tx.rs` in full: the stored row and its call tree,
and what the lookup tables say of the function that failed, of the frame that failed first and of
the category.
-/

namespace TxIndexer.Api.Detail

open Db Decoder Indexer

/-- `DecodedFunction` (`models.rs:712-721`). -/
structure DecodedFunction where
  selector : String
  name : String
  signature : String
  source : Option String
  args : Option (List DecodedArg)

/-- `Diagnosis` (`models.rs:761-765`). -/
structure Diagnosis where
  message : String
  recommendedAction : Option String
  source : Option String
  deriving DecidableEq, Repr

/-- `FailedTxDetail` (`models.rs:496-525`). A frame comes with its `trace_id`. -/
structure FailedTxDetail where
  failed : FailedTransaction
  callTree : List (Nat × TraceLog)
  callTreeTruncated : Bool
  rootCause : Option (Nat × TraceLog)
  failingFunctionDecoded : Option DecodedFunction
  rootCauseDecoded : Option DecodedFunction
  diagnosis : Option Diagnosis

/-- The lookup tables, `LOWER` of the database, `str::to_lowercase` and the ABI decoder. -/
structure DetailEnv where
  lookups : Lookups
  sql : SqlLower
  toLowercase : String → String
  alloy : Alloy

/-- `DecodedFunction::from` and the arguments, when there is an input and it decodes. -/
def DecodedFunction.of (env : DetailEnv) (input : Option String) (fs : FunctionSignature) :
    DecodedFunction where
  selector := fs.selector
  name := fs.name
  signature := fs.signature
  source := fs.source
  args := input.bind fun i => (decodeArgs env.alloy fs.signature i).toOption

/-- `Diagnosis::from`. -/
def Diagnosis.of (cd : CategoryDiagnosis) : Diagnosis :=
  ⟨cd.message, cd.recommendedAction, cd.source⟩

/-- `extract_selector` (`failed_tx.rs:121-127`), whose slice is by bytes. -/
def extractSelector (toLowercase : String → String) (inputHex : String) : Checked (Option String) :=
  let stripped := stripHexPrefix inputHex.toList
  if utf8Len stripped < 8 then .ok none
  else
    match takeUtf8 8 stripped with
    | some selector => .ok (some ("0x" ++ toLowercase (String.ofList selector)))
    | none => .error .charBoundary

/-- `list_trace_logs_by_tx` with the identifiers of the rows. -/
def listTraceRows (db : Database) (txHash : String) (limit : Nat) : List (Nat × TraceLog) :=
  (db.traceLog.rows.filter fun r => r.2.txHash = txHash).take limit

variable (env : DetailEnv)

/-- The function of a selector with the arguments of an input (`failed_tx.rs:48-72`). -/
def failingFunctionDecoded (failed : FailedTransaction) (callTree : List (Nat × TraceLog)) :
    Option DecodedFunction :=
  failed.failingFunction.bind fun selector =>
    (getFunctionSignature env.sql env.lookups selector).map
      (.of env ((callTree.find? fun f => f.2.callDepth = 0).bind (·.2.input)))

/-- The function a frame called, with its arguments (`failed_tx.rs:77-97`). -/
def rootCauseDecoded (rootCause : Option (Nat × TraceLog)) : Checked (Option DecodedFunction) :=
  match rootCause.bind (·.2.input) with
  | none => .ok none
  | some inputHex => do
      let selector ← extractSelector env.toLowercase inputHex
      return selector.bind fun selector =>
        (getFunctionSignature env.sql env.lookups selector).map (.of env (some inputHex))

/-- `get_failed_tx` (`failed_tx.rs:25-117`). -/
def getFailedTx (db : Database) (txHash : String) : Checked (Except ApiError FailedTxDetail) :=
  if isTxHash txHash then
    match getFailedTransaction db txHash with
    | .error message => .ok (.error (.notFound message))
    | .ok failed => do
        let rows := listTraceRows db txHash (maxCallTreeFrames + 1)
        let callTreeTruncated := decide (maxCallTreeFrames < rows.length)
        let callTree := if callTreeTruncated then rows.take maxCallTreeFrames else rows
        let rootCause := getFirstErrorFrame db txHash
        let rootCauseDecoded ← rootCauseDecoded env rootCause
        return .ok {
          failed
          callTree
          callTreeTruncated
          rootCause
          failingFunctionDecoded := failingFunctionDecoded env failed callTree
          rootCauseDecoded
          diagnosis := (getCategoryDiagnosis env.lookups failed.errorCategory.asWire).map .of }
  else .ok (.error (.badRequest s!"invalid tx_hash (expected 0x + 64 hex): {txHash}"))

/-! ## The stored part -/

theorem map_listTraceRows (db : Database) (txHash : String) (limit : Nat) :
    (listTraceRows db txHash limit).map Prod.snd = listTraceLogsByTx db txHash limit := by
  rw [listTraceRows, listTraceLogsByTx, tracesOf, Lib.SerialTable.values, List.filter_map,
    List.map_take]
  rfl

/-- The frames of an answer are the first of the stored ones. -/
theorem cut_eq_take {α : Type} (n : Nat) (rows : List α) :
    (if decide (n < rows.length) then rows.take n else rows) = rows.take n := by
  split
  · rfl
  · next hshort =>
      rw [decide_eq_true_eq, Nat.not_lt] at hshort
      exact (List.take_of_length_le hshort).symm

variable {env} {db : Database} {txHash : String}

/-- The answer for a stored transaction. -/
theorem getFailedTx_of_found {failed : FailedTransaction} {decoded : Option DecodedFunction}
    (hhash : isTxHash txHash = true) (hfailed : db.failedTransaction.lookup txHash = some failed)
    (hdecoded : rootCauseDecoded env (getFirstErrorFrame db txHash) = .ok decoded) :
    getFailedTx env db txHash = .ok (.ok {
      failed
      callTree := (listTraceRows db txHash (maxCallTreeFrames + 1)).take maxCallTreeFrames
      callTreeTruncated :=
        decide (maxCallTreeFrames < (listTraceRows db txHash (maxCallTreeFrames + 1)).length)
      rootCause := getFirstErrorFrame db txHash
      failingFunctionDecoded := failingFunctionDecoded env failed
        ((listTraceRows db txHash (maxCallTreeFrames + 1)).take maxCallTreeFrames)
      rootCauseDecoded := decoded
      diagnosis := (getCategoryDiagnosis env.lookups failed.errorCategory.asWire).map .of }) := by
  have hfound : getFailedTransaction db txHash = .ok failed := by
    rw [getFailedTransaction, hfailed]
  simp only [getFailedTx, if_pos hhash, hfound, cut_eq_take, hdecoded]
  rfl

/-- The rows of an answer. -/
def FailedTxDetail.rows (d : FailedTxDetail) : Api.FailedTxDetail :=
  ⟨d.failed, d.callTree.map Prod.snd, d.callTreeTruncated, d.rootCause.map Prod.snd⟩

/-- The rows of an answer are those `Api.getFailedTx` gives. -/
theorem getFailedTx_rows {d : FailedTxDetail} (h : getFailedTx env db txHash = .ok (.ok d)) :
    Api.getFailedTx db txHash = .ok d.rows := by
  unfold getFailedTx at h
  split at h
  · next hhash =>
      cases hfailed : getFailedTransaction db txHash with
      | error message => rw [hfailed] at h; cases h
      | ok failed =>
          rw [hfailed] at h
          cases hdecoded : rootCauseDecoded env (getFirstErrorFrame db txHash) with
          | error p => simp only [hdecoded] at h; cases h
          | ok decoded =>
              simp only [hdecoded] at h
              cases h
              have hlength : (listTraceRows db txHash (maxCallTreeFrames + 1)).length =
                  (listTraceLogsByTx db txHash (maxCallTreeFrames + 1)).length := by
                rw [← map_listTraceRows, List.length_map]
              simp only [Api.getFailedTx, if_pos hhash, hfailed, FailedTxDetail.rows, cut_eq_take]
              rw [List.map_take, map_listTraceRows, hlength]
  · cases h

end TxIndexer.Api.Detail
