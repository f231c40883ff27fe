import TxIndexer.Web.Contract

/-!
# Failed transactions in the web client

The parsers of `web/src/api/contract.ts` for the endpoints of failed transactions. A field that
must be there, be it `null`, is checked for first.
-/

namespace TxIndexer.Web

open Db Lib

/-- `FailedTransaction`. -/
structure FailedTransaction where
  txHash : String
  errorCategory : ErrorCategory
  revertReason : Option String
  failingFunction : Option String
  gasUsed : Int
  timestamp : String

/-- `TraceLog`. -/
structure TraceLog where
  txHash : String
  callDepth : Int
  callType : String
  fromAddr : String
  toAddr : Option String
  value : String
  gasUsed : Int
  input : Option String
  output : Option String
  error : Option String
  traceId : Int

/-- `DecodedArg`, whose value is not looked into. -/
structure DecodedArg where
  ty : String
  value : Json

/-- `DecodedFunction`. -/
structure DecodedFunction where
  selector : String
  name : String
  signature : String
  source : Option String
  args : Option (List DecodedArg)

/-- `Diagnosis`. -/
structure Diagnosis where
  message : String
  recommendedAction : Option String
  source : Option String

/-- `FailedTxDetail`. -/
structure FailedTxDetail where
  failed : FailedTransaction
  callTree : List TraceLog
  callTreeTruncated : Bool
  rootCause : Option TraceLog
  failingFunctionDecoded : Option DecodedFunction
  rootCauseDecoded : Option DecodedFunction
  diagnosis : Option Diagnosis

/-- `FailedTxTrendPoint`. -/
structure FailedTxTrendPoint where
  bucket : String
  errorCategory : ErrorCategory
  failureCount : Int

/-- `FailedTxByLabelPoint`; the record is kept as its entries. -/
structure FailedTxByLabelPoint where
  label : String
  address : String
  totalFailures : Int
  byCategory : List (String × Int)

/-- A property that must be there. -/
def presentProperty (obj : List (String × Json)) (key path expected : String) :
    Except String Json :=
  match property obj key with
  | none => .error s!"Invalid contract at {path}.{key}: missing{expected}."
  | some v => .ok v

variable (env : JsEnv)

/-- `parseFailedTransaction` (`contract.ts:363-379`). -/
def parseFailedTransaction : Parser FailedTransaction := fun value path => do
  let obj ← readRecord value path
  let txHash ← readString (property obj "tx_hash") s!"{path}.tx_hash"
  let errorCategory ←
    normalizeErrorCategory (property obj "error_category") s!"{path}.error_category"
  let revertReason ← readOptionalString (property obj "revert_reason") s!"{path}.revert_reason"
  let failingFunction ←
    readOptionalString (property obj "failing_function") s!"{path}.failing_function"
  let gasUsed ← readInteger (property obj "gas_used") s!"{path}.gas_used"
  let timestamp ← readIsoDateTime env (property obj "timestamp") s!"{path}.timestamp"
  return ⟨txHash, errorCategory, revertReason, failingFunction, gasUsed, timestamp⟩

/-- `parseTraceLog` (`contract.ts:381-396`). -/
def parseTraceLog : Parser TraceLog := fun value path => do
  let obj ← readRecord value path
  let txHash ← readString (property obj "tx_hash") s!"{path}.tx_hash"
  let callDepth ← readInteger (property obj "call_depth") s!"{path}.call_depth"
  let callType ← readString (property obj "call_type") s!"{path}.call_type"
  let fromAddr ← readString (property obj "from_addr") s!"{path}.from_addr"
  let toAddr ← readOptionalString (property obj "to_addr") s!"{path}.to_addr"
  let value ← readDecimal env (property obj "value") s!"{path}.value"
  let gasUsed ← readInteger (property obj "gas_used") s!"{path}.gas_used"
  let input ← readOptionalString (property obj "input") s!"{path}.input"
  let output ← readOptionalString (property obj "output") s!"{path}.output"
  let error ← readOptionalString (property obj "error") s!"{path}.error"
  let traceId ← readInteger (property obj "trace_id") s!"{path}.trace_id"
  return ⟨txHash, callDepth, callType, fromAddr, toAddr, value, gasUsed, input, output, error, traceId⟩

/-- `parseDecodedArg` (`contract.ts:398-411`). -/
def parseDecodedArg : Parser DecodedArg := fun value path => do
  let obj ← readRecord value path
  let value ← presentProperty obj "value" path ""
  let ty ← readString (property obj "type") s!"{path}.type"
  return ⟨ty, value⟩

/-- `typeof`. -/
def typeOf : Json → String
  | .bool _ => "boolean"
  | .number _ => "number"
  | .string _ => "string"
  | _ => "object"

/-- The arguments of a function: `null` or an array. -/
def parseArgs (value : Json) (path : String) : Except String (Option (List DecodedArg)) :=
  match value with
  | .null => .ok none
  | .array items => (readItems itemPath parseDecodedArg path 0 (items.map some)).map some
  | _ => .error s!"Invalid contract at {path}: expected null or array, got {typeOf value}."

/-- `parseDecodedFunction` (`contract.ts:413-440`). -/
def parseDecodedFunction : Parser DecodedFunction := fun value path => do
  let obj ← readRecord value path
  let rawArgs ← presentProperty obj "args" path " (expected null or array)"
  let args ← parseArgs rawArgs s!"{path}.args"
  let selector ← readString (property obj "selector") s!"{path}.selector"
  let name ← readString (property obj "name") s!"{path}.name"
  let signature ← readString (property obj "signature") s!"{path}.signature"
  let source ← readOptionalString (property obj "source") s!"{path}.source"
  return ⟨selector, name, signature, source, args⟩

/-- `parseDiagnosis` (`contract.ts:442-452`). -/
def parseDiagnosis : Parser Diagnosis := fun value path => do
  let obj ← readRecord value path
  let message ← readString (property obj "message") s!"{path}.message"
  let recommendedAction ←
    readOptionalString (property obj "recommended_action") s!"{path}.recommended_action"
  let source ← readOptionalString (property obj "source") s!"{path}.source"
  return ⟨message, recommendedAction, source⟩

/-- A property that must be there, `null` or what `parse` reads. -/
def parseExplicit {α : Type} (parse : Parser α) (obj : List (String × Json)) (key path : String) :
    Except String (Option α) := do
  let value ← presentProperty obj key path " (expected null or object)"
  readOptional isNull parse (some value) s!"{path}.{key}"

/-- `parseFailedTxDetail` (`contract.ts:454-524`). -/
def parseFailedTxDetail : Parser FailedTxDetail := fun value path => do
  let obj ← readRecord value path
  let items ← readArray (property obj "call_tree") s!"{path}.call_tree"
  let callTreeTruncated ←
    readBoolean (property obj "call_tree_truncated") s!"{path}.call_tree_truncated"
  let rootCause ← parseExplicit (parseTraceLog env) obj "root_cause" path
  let failingFunctionDecoded ← parseExplicit parseDecodedFunction obj "failing_function_decoded" path
  let rootCauseDecoded ← parseExplicit parseDecodedFunction obj "root_cause_decoded" path
  let diagnosis ← parseExplicit parseDiagnosis obj "diagnosis" path
  let failed ← parseFailedTransaction env (property obj "failed") s!"{path}.failed"
  let callTree ← readItems itemPath (parseTraceLog env) s!"{path}.call_tree" 0 (items.map some)
  return ⟨failed, callTree, callTreeTruncated, rootCause, failingFunctionDecoded, rootCauseDecoded,
    diagnosis⟩

/-- `parseFailedTxTrendPoint` (`contract.ts:526-536`). -/
def parseFailedTxTrendPoint : Parser FailedTxTrendPoint := fun value path => do
  let obj ← readRecord value path
  let bucket ← readIsoDateTime env (property obj "bucket") s!"{path}.bucket"
  let errorCategory ←
    normalizeErrorCategory (property obj "error_category") s!"{path}.error_category"
  let failureCount ← readInteger (property obj "failure_count") s!"{path}.failure_count"
  return ⟨bucket, errorCategory, failureCount⟩

/-- The entries of `by_category`, read one after another. -/
def readCounts (path : String) : List (String × Json) → Except String (List (String × Int))
  | [] => .ok []
  | (k, v) :: entries => do
      let count ← readInteger (some v) s!"{path}.{k}"
      let counts ← readCounts path entries
      return (k, count) :: counts

/-- `parseFailedTxByLabelPoint` (`contract.ts:563-584`). -/
def parseFailedTxByLabelPoint : Parser FailedTxByLabelPoint := fun value path => do
  let obj ← readRecord value path
  let bcRaw ← readRecord (property obj "by_category") s!"{path}.by_category"
  let byCategory ← readCounts s!"{path}.by_category" (objectEntries bcRaw)
  let label ← readString (property obj "label") s!"{path}.label"
  let address ← readString (property obj "address") s!"{path}.address"
  let totalFailures ← readInteger (property obj "total_failures") s!"{path}.total_failures"
  return ⟨label, address, totalFailures, byCategory⟩

/-- `parseFailedTxDetailEnvelope`. -/
def parseFailedTxDetailEnvelope : Option Json → Except String (ApiResponse FailedTxDetail) :=
  parseApiResponse (parseFailedTxDetail env)

/-- `parseFailedTxListEnvelope`. -/
def parseFailedTxListEnvelope :
    Option Json → Except String (TotalPaginatedResponse FailedTransaction) :=
  parseTotalPaginatedResponse (parseFailedTransaction env)

/-- `parseFailedTxTimeseriesEnvelope`. -/
def parseFailedTxTimeseriesEnvelope :
    Option Json → Except String (ApiResponse (List FailedTxTrendPoint)) :=
  parseApiResponse (parseArray (parseFailedTxTrendPoint env))

/-- `parseFailedTxByLabelEnvelope`. -/
def parseFailedTxByLabelEnvelope :
    Option Json → Except String (ApiResponse (List FailedTxByLabelPoint)) :=
  parseApiResponse (parseArray parseFailedTxByLabelPoint)

end TxIndexer.Web
