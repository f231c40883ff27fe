import Mathlib.Data.List.Infix

/-!
# Error categories

`crates/decoder/src/classifier.rs`: a revert reason is classified by the keywords it contains.
The categories are texts here; the indexer maps them to the enum of the database.
-/

namespace TxIndexer.Decoder

/-- `str::contains`. -/
def textContains (s keyword : String) : Bool := decide (keyword.toList <:+: s.toList)

/-- `classify_error` (`classifier.rs:16-95`). -/
def classifyError (toLowercase : String → String) (revertReason : String) : String :=
  let lower := toLowercase revertReason
  if textContains lower "allowance" then "INSUFFICIENT_ALLOWANCE"
  -- these come before the generic "not enough", which would swallow the first
  else if textContains lower "return amount is not enough" || textContains lower "min return" then
    "SLIPPAGE_AMOUNT_OUT"
  else if textContains lower "stf" || textContains lower "insufficient"
      || textContains lower "balance" || textContains lower "exceeds balance"
      || textContains lower "not enough" then
    "INSUFFICIENT_BALANCE"
  else if textContains lower "too little received" then "SLIPPAGE_AMOUNT_OUT"
  else if textContains lower "too much requested" then "SLIPPAGE_AMOUNT_IN"
  else if textContains lower "price slipped" || textContains lower "amount out" then
    "SLIPPAGE_PRICE_IMPACT"
  else if textContains lower "slippage" then "SLIPPAGE_EXCEEDED"
  else if textContains lower "deadline" || textContains lower "too old"
      || textContains lower "expired" || textContains lower "transaction too old" then
    "DEADLINE_EXPIRED"
  else if textContains lower "unauthorized" || textContains lower "ownable"
      || textContains lower "not owner" || textContains lower "forbidden"
      || textContains lower "access denied" then
    "UNAUTHORIZED"
  else if textContains lower "transfer failed" || textContains lower "transfer_failed"
      || textContains lower "transfer_from_failed" || textContains lower "transfer from failed"
      || textContains lower "safe transfer" || textContains lower "safetransferfrom" then
    "TRANSFER_FAILED"
  else "UNKNOWN"

/-- `str::to_lowercase` on ASCII text. -/
def asciiLowercase (s : String) : String := String.ofList (s.toList.map Char.toLower)

end TxIndexer.Decoder
