import TxIndexer.Api.Analytics
import TxIndexer.Api.FailedTxDetail
import TxIndexer.Api.Serialize
import TxIndexer.Std.JsonNumber

/-!
# Bodies of the failed-transaction endpoints

How `serde` renders what the handlers of `crates/api/src/routes/failed_tx.rs` answer
(`crates/db/src/models.rs`, `crates/api/src/response.rs`). A `BigDecimal` is rendered by its crate,
as a string, which comes in as `renderDecimal`.
-/

namespace TxIndexer.Api

open Db Decoder

/-- An array. -/
def jsonArray {α : Type} (toJson : α → Json) (items : List α) : Json := .array (items.map toJson)

/-- `TotalPaginatedResponse` (`response.rs:47-52`). -/
def totalPaginatedResponse (data : Json) (p : PaginationMeta) : Json :=
  .object [
    ("data", data),
    ("pagination", .object [
      ("limit", jsonInt p.limit),
      ("offset", jsonInt p.offset),
      ("count", jsonInt p.count),
      ("total", jsonInt p.total)])]

/-- `DecodedArg` (`abi.rs:86-93`). -/
def decodedArgJson (a : DecodedArg) : Json := .object [("type", .string a.ty), ("value", a.value)]

/-- `DecodedFunction` (`models.rs:712-721`). -/
def decodedFunctionJson (f : Detail.DecodedFunction) : Json :=
  .object [
    ("selector", .string f.selector),
    ("name", .string f.name),
    ("signature", .string f.signature),
    ("source", jsonOption .string f.source),
    ("args", jsonOption (jsonArray decodedArgJson) f.args)]

/-- `Diagnosis` (`models.rs:761-765`). -/
def diagnosisJson (d : Detail.Diagnosis) : Json :=
  .object [
    ("message", .string d.message),
    ("recommended_action", jsonOption .string d.recommendedAction),
    ("source", jsonOption .string d.source)]

section Rows

variable (renderTime renderDecimal : Int → String)

/-- `FailedTransaction` (`models.rs:295-308`). -/
def failedTransactionJson (f : FailedTransaction) : Json :=
  .object [
    ("tx_hash", .string f.txHash),
    ("error_category", .string (errorCategoryName f.errorCategory)),
    ("revert_reason", jsonOption .string f.revertReason),
    ("failing_function", jsonOption .string f.failingFunction),
    ("gas_used", jsonInt f.gasUsed),
    ("timestamp", .string (renderTime f.timestamp))]

/-- `TraceLog` (`models.rs:361-384`). -/
def traceLogJson (t : Nat × TraceLog) : Json :=
  .object [
    ("tx_hash", .string t.2.txHash),
    ("call_depth", jsonInt t.2.callDepth),
    ("call_type", .string t.2.callType),
    ("from_addr", .string t.2.fromAddr),
    ("to_addr", jsonOption .string t.2.toAddr),
    ("value", .string (renderDecimal t.2.value)),
    ("gas_used", jsonInt t.2.gasUsed),
    ("input", jsonOption .string t.2.input),
    ("output", jsonOption .string t.2.output),
    ("error", jsonOption .string t.2.error),
    ("trace_id", jsonInt t.1)]

/-- `FailedTxDetail` (`models.rs:496-525`). -/
def failedTxDetailJson (d : Detail.FailedTxDetail) : Json :=
  .object [
    ("failed", failedTransactionJson renderTime d.failed),
    ("call_tree", jsonArray (traceLogJson renderDecimal) d.callTree),
    ("call_tree_truncated", .bool d.callTreeTruncated),
    ("root_cause", jsonOption (traceLogJson renderDecimal) d.rootCause),
    ("failing_function_decoded", jsonOption decodedFunctionJson d.failingFunctionDecoded),
    ("root_cause_decoded", jsonOption decodedFunctionJson d.rootCauseDecoded),
    ("diagnosis", jsonOption diagnosisJson d.diagnosis)]

/-- `FailedTxTrendPoint` (`models.rs:529-536`). -/
def failedTxTrendPointJson (p : FailedTxTrendPoint) : Json :=
  .object [
    ("bucket", .string (renderTime p.bucket)),
    ("error_category", .string (errorCategoryName p.errorCategory)),
    ("failure_count", jsonInt p.failureCount)]

end Rows

/-- `FailedTxByLabelPoint` (`models.rs:675-680`), whose map is rendered in the order it iterates
in. -/
def FailedTxByLabelPointJson (p : FailedTxByLabelPoint) (json : Json) : Prop :=
  ∃ entries, Lib.Iterates p.byCategory entries ∧
    json = .object [
      ("label", .string p.label),
      ("address", .string p.address),
      ("total_failures", jsonInt p.totalFailures),
      ("by_category", .object (entries.map fun e => (e.1, jsonInt e.2)))]

/-! ## What the types of the rows promise -/

/-- The integers of a frame: an `i32` and two `i64`s. -/
structure TraceLogFits (t : Nat × TraceLog) : Prop where
  callDepth : -2 ^ 31 ≤ t.2.callDepth ∧ t.2.callDepth < 2 ^ 31
  gasUsed : FitsI64 t.2.gasUsed
  traceId : FitsI64 t.1

/-- The integers of a diagnosis. -/
structure FailedTxDetailFits (d : Detail.FailedTxDetail) : Prop where
  failed : FitsI64 d.failed.gasUsed
  callTree : ∀ t ∈ d.callTree, TraceLogFits t
  rootCause : ∀ t ∈ d.rootCause, TraceLogFits t

/-- The integers of a page. -/
structure PaginationFits (p : PaginationMeta) : Prop where
  limit : FitsI64 p.limit
  offset : FitsI64 p.offset
  count : FitsI64 p.count
  total : FitsI64 p.total

theorem fitsI64_of_i32 {n : Int} (h : -2 ^ 31 ≤ n ∧ n < 2 ^ 31) : FitsI64 n := by
  unfold FitsI64
  omega

/-- The rendering of one date. -/
def sampleRender (t : Int) : String :=
  if t = 1693569600 then "2023-09-01T12:00:00Z" else toString t

/-- A failed call of a contract that named no reason. -/
def sampleDetail : Detail.FailedTxDetail where
  failed := ⟨"0xdead", .slippageAmountOut, none, some "0x414bf389", 45000, 1693569600⟩
  callTree := [(16, ⟨"0xdead", 0, "CALL", "0xabc", some "0xdef", 0, 45000, some "0x414bf389", none,
    some "Too little received"⟩)]
  callTreeTruncated := false
  rootCause := some (16, ⟨"0xdead", 0, "CALL", "0xabc", some "0xdef", 0, 45000, some "0x414bf389",
    none, some "Too little received"⟩)
  failingFunctionDecoded := none
  rootCauseDecoded := some ⟨"0x414bf389", "exactInputSingle", "exactInputSingle((address))",
    some "uniswap-v3-router", some [⟨"(address)", .array [.string "0xabc"]⟩]⟩
  diagnosis := none

theorem sampleDetail_fits : FailedTxDetailFits sampleDetail where
  failed := by decide
  callTree := by
    intro t ht
    cases List.mem_singleton.mp ht
    exact ⟨by decide, by decide, by decide⟩
  rootCause := by
    intro t ht
    cases ht
    exact ⟨by decide, by decide, by decide⟩

end TxIndexer.Api
