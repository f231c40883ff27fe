import TxIndexer.Std.Serde

/-!
# What the terminal UI reads of a response

The `Deserialize` types of `crates/tui/src/dto.rs` for the endpoints of failed transactions, as
`serde_json` fills them.
-/

namespace TxIndexer.Tui.Dto

open Lib Serde

/-- `FailedTransaction` (`dto.rs:59-72`). -/
structure FailedTransaction where
  txHash : String
  errorCategory : String
  revertReason : Option String
  failingFunction : Option String
  gasUsed : Int
  timestamp : String
  deriving DecidableEq, Repr

/-- `TraceLog` (`dto.rs:80-106`). -/
structure TraceLog where
  txHash : String
  callDepth : Int
  callType : String
  fromAddr : String
  toAddr : Option String
  value : String
  gasUsed : Int
  input : Option String
  output : Option String
  error : Option String
  traceId : Int
  deriving DecidableEq, Repr

/-- `DecodedArg` (`dto.rs:110-116`). -/
structure DecodedArg where
  ty : String
  value : Json

/-- `DecodedFunction` (`dto.rs:120-131`). -/
structure DecodedFunction where
  selector : String
  name : String
  signature : String
  source : Option String
  args : Option (List DecodedArg)

/-- `Diagnosis` (`dto.rs:135-142`). -/
structure Diagnosis where
  message : String
  recommendedAction : Option String
  source : Option String
  deriving DecidableEq, Repr

/-- `FailedTxDetail` (`dto.rs:146-161`). -/
structure FailedTxDetail where
  failed : FailedTransaction
  callTree : List TraceLog
  callTreeTruncated : Bool
  rootCause : Option TraceLog
  failingFunctionDecoded : Option DecodedFunction
  rootCauseDecoded : Option DecodedFunction
  diagnosis : Option Diagnosis

/-- `PaginationMeta` (`dto.rs:30-39`). -/
structure PaginationMeta where
  limit : Int
  offset : Int
  count : Int
  total : Int
  deriving DecidableEq, Repr

/-- `TotalPaginated` (`dto.rs:43-48`). -/
structure TotalPaginated (α : Type) where
  data : List α
  pagination : PaginationMeta

@[inherit_doc FailedTransaction]
def failedTransaction : Deserializer FailedTransaction := fun v p => do
  let m ← members
    ["tx_hash", "error_category", "revert_reason", "failing_function", "gas_used", "timestamp"] v
  let txHash ← string (m "tx_hash") p
  let errorCategory ← string (m "error_category") p
  let revertReason ← option string (m "revert_reason") p
  let failingFunction ← option string (m "failing_function") p
  let gasUsed ← i64 (m "gas_used") p
  let timestamp ← string (m "timestamp") p
  return ⟨txHash, errorCategory, revertReason, failingFunction, gasUsed, timestamp⟩

@[inherit_doc TraceLog]
def traceLog : Deserializer TraceLog := fun v p => do
  let m ← members
    ["tx_hash", "call_depth", "call_type", "from_addr", "to_addr", "value", "gas_used", "input",
      "output", "error", "trace_id"] v
  let txHash ← string (m "tx_hash") p
  let callDepth ← i32 (m "call_depth") p
  let callType ← string (m "call_type") p
  let fromAddr ← string (m "from_addr") p
  let toAddr ← option string (m "to_addr") p
  let value ← string (m "value") p
  let gasUsed ← i64 (m "gas_used") p
  let input ← option string (m "input") p
  let output ← option string (m "output") p
  let error ← option string (m "error") p
  let traceId ← i64 (m "trace_id") p
  return ⟨txHash, callDepth, callType, fromAddr, toAddr, value, gasUsed, input, output, error, traceId⟩

@[inherit_doc DecodedArg]
def decodedArg : Deserializer DecodedArg := fun v p => do
  let m ← members ["type", "value"] v
  let ty ← string (m "type") p
  let value ← anyValue (m "value") p
  return ⟨ty, value⟩

@[inherit_doc DecodedFunction]
def decodedFunction : Deserializer DecodedFunction := fun v p => do
  let m ← members ["selector", "name", "signature", "source", "args"] v
  let selector ← string (m "selector") p
  let name ← string (m "name") p
  let signature ← string (m "signature") p
  let source ← option string (m "source") p
  let args ← option (vec decodedArg) (m "args") p
  return ⟨selector, name, signature, source, args⟩

@[inherit_doc Diagnosis]
def diagnosis : Deserializer Diagnosis := fun v p => do
  let m ← members ["message", "recommended_action", "source"] v
  let message ← string (m "message") p
  let recommendedAction ← option string (m "recommended_action") p
  let source ← option string (m "source") p
  return ⟨message, recommendedAction, source⟩

@[inherit_doc FailedTxDetail]
def failedTxDetail : Deserializer FailedTxDetail := fun v p => do
  let m ← members
    ["failed", "call_tree", "call_tree_truncated", "root_cause", "failing_function_decoded",
      "root_cause_decoded", "diagnosis"] v
  let failed ← failedTransaction (m "failed") p
  let callTree ← vec traceLog (m "call_tree") p
  let callTreeTruncated ← bool (m "call_tree_truncated") p
  let rootCause ← option traceLog (m "root_cause") p
  let failingFunctionDecoded ← option decodedFunction (m "failing_function_decoded") p
  let rootCauseDecoded ← option decodedFunction (m "root_cause_decoded") p
  let diagnosis ← option diagnosis (m "diagnosis") p
  return ⟨failed, callTree, callTreeTruncated, rootCause, failingFunctionDecoded, rootCauseDecoded,
    diagnosis⟩

@[inherit_doc PaginationMeta]
def paginationMeta : Deserializer PaginationMeta := fun v p => do
  let m ← members ["limit", "offset", "count", "total"] v
  let limit ← i64 (m "limit") p
  let offset ← i64 (m "offset") p
  let count ← i64 (m "count") p
  let total ← i64 (m "total") p
  return ⟨limit, offset, count, total⟩

/-- `ApiResponse` (`dto.rs:23-26`), of which the client passes on the data. -/
def apiResponse {α : Type} (data : Deserializer α) : Deserializer α := fun v p => do
  let m ← members ["data"] v
  data (m "data") p

@[inherit_doc TotalPaginated]
def totalPaginated {α : Type} (item : Deserializer α) : Deserializer (TotalPaginated α) :=
  fun v p => do
    let m ← members ["data", "pagination"] v
    let data ← vec item (m "data") p
    let pagination ← paginationMeta (m "pagination") p
    return ⟨data, pagination⟩

/-- The body of `failed_tx_detail` (`client.rs:100-104`). -/
def detailBody (body : Json) : Except DecodeError FailedTxDetail :=
  apiResponse failedTxDetail (some body) ()

/-- The body of `list_failed_tx` (`client.rs:92-97`). -/
def listBody (body : Json) : Except DecodeError (TotalPaginated FailedTransaction) :=
  totalPaginated failedTransaction (some body) ()

/-- `normalize_category` (`format.rs:27-40`). -/
def normalizeCategory (raw : String) : String :=
  if raw ∈ ["InsufficientBalance", "INSUFFICIENT_BALANCE"] then "INSUFFICIENT_BALANCE"
  else if raw ∈ ["InsufficientAllowance", "INSUFFICIENT_ALLOWANCE"] then "INSUFFICIENT_ALLOWANCE"
  else if raw ∈ ["SlippageExceeded", "SLIPPAGE_EXCEEDED"] then "SLIPPAGE_EXCEEDED"
  else if raw ∈ ["SlippageAmountOut", "SLIPPAGE_AMOUNT_OUT"] then "SLIPPAGE_AMOUNT_OUT"
  else if raw ∈ ["SlippageAmountIn", "SLIPPAGE_AMOUNT_IN"] then "SLIPPAGE_AMOUNT_IN"
  else if raw ∈ ["SlippagePriceImpact", "SLIPPAGE_PRICE_IMPACT"] then "SLIPPAGE_PRICE_IMPACT"
  else if raw ∈ ["DeadlineExpired", "DEADLINE_EXPIRED"] then "DEADLINE_EXPIRED"
  else if raw ∈ ["Unauthorized", "UNAUTHORIZED"] then "UNAUTHORIZED"
  else if raw ∈ ["TransferFailed", "TRANSFER_FAILED"] then "TRANSFER_FAILED"
  else "UNKNOWN"

end TxIndexer.Tui.Dto
