import Mathlib.Algebra.Order.Ring.Int

/-!
# Rows

The row types of `crates/db/src/models.rs`, without the identity columns PostgreSQL generates
for the event tables (nothing reads them). Timestamps are seconds since the epoch in the block
tables and microseconds in the delivery ledger, whose clock is `NOW()`. A `BigDecimal` of the
program always holds an integer.
-/

namespace TxIndexer.Db

/-- `error_category` (`models.rs:12-29`). -/
inductive ErrorCategory where
  | insufficientBalance
  | insufficientAllowance
  | slippageExceeded
  | slippageAmountOut
  | slippageAmountIn
  | slippagePriceImpact
  | deadlineExpired
  | unauthorized
  | transferFailed
  | unknown
  deriving DecidableEq, Repr

/-- `ErrorCategory::as_wire` (`models.rs:60-73`). -/
def ErrorCategory.asWire : ErrorCategory → String
  | .insufficientBalance => "INSUFFICIENT_BALANCE"
  | .insufficientAllowance => "INSUFFICIENT_ALLOWANCE"
  | .slippageExceeded => "SLIPPAGE_EXCEEDED"
  | .slippageAmountOut => "SLIPPAGE_AMOUNT_OUT"
  | .slippageAmountIn => "SLIPPAGE_AMOUNT_IN"
  | .slippagePriceImpact => "SLIPPAGE_PRICE_IMPACT"
  | .deadlineExpired => "DEADLINE_EXPIRED"
  | .unauthorized => "UNAUTHORIZED"
  | .transferFailed => "TRANSFER_FAILED"
  | .unknown => "UNKNOWN"

/-- `ErrorCategory::from_str` (`models.rs:31-52`). -/
def ErrorCategory.fromStr (s : String) : Option ErrorCategory :=
  match s with
  | "INSUFFICIENT_BALANCE" => some .insufficientBalance
  | "INSUFFICIENT_ALLOWANCE" => some .insufficientAllowance
  | "SLIPPAGE_EXCEEDED" => some .slippageExceeded
  | "SLIPPAGE_AMOUNT_OUT" => some .slippageAmountOut
  | "SLIPPAGE_AMOUNT_IN" => some .slippageAmountIn
  | "SLIPPAGE_PRICE_IMPACT" => some .slippagePriceImpact
  | "DEADLINE_EXPIRED" => some .deadlineExpired
  | "UNAUTHORIZED" => some .unauthorized
  | "TRANSFER_FAILED" => some .transferFailed
  | "UNKNOWN" => some .unknown
  | _ => none

@[simp] theorem ErrorCategory.fromStr_asWire (c : ErrorCategory) : fromStr c.asWire = some c := by
  cases c <;> rfl

/-- `liquidity_event_type`. -/
inductive LiquidityEventType where
  | mint
  | burn
  deriving DecidableEq, Repr

/-- A row of `block`. -/
structure Block where
  blockNumber : Int
  timestamp : Int
  gasUsed : Int
  blockHash : Option String
  parentHash : Option String
  deriving DecidableEq, Repr

/-- A row of `transaction`. -/
structure Transaction where
  txHash : String
  fromAddr : String
  toAddr : Option String
  blockNumber : Int
  gasUsed : Int
  gasPrice : Int
  value : Int
  status : Int
  inputData : Option String
  deriving DecidableEq, Repr

/-- A row of `swap_event`. -/
structure SwapEvent where
  poolAddress : String
  txHash : String
  sender : String
  recipient : String
  amount0 : Int
  amount1 : Int
  amountIn : Int
  amountOut : Int
  sqrtPriceX96 : Int
  liquidity : Int
  tick : Int
  logIndex : Int
  timestamp : Int
  deriving DecidableEq, Repr

/-- A row of `liquidity_event`. -/
structure LiquidityEvent where
  eventType : LiquidityEventType
  poolAddress : String
  txHash : String
  provider : String
  token0Amount : Int
  token1Amount : Int
  tickLower : Int
  tickUpper : Int
  liquidity : Int
  logIndex : Int
  timestamp : Int
  deriving DecidableEq, Repr

/-- A row of `token_transfer`. -/
structure TokenTransfer where
  txHash : String
  tokenAddress : String
  fromAddr : String
  toAddr : String
  amount : Int
  logIndex : Int
  timestamp : Int
  deriving DecidableEq, Repr

/-- A row of `failed_transaction`. -/
structure FailedTransaction where
  txHash : String
  errorCategory : ErrorCategory
  revertReason : Option String
  failingFunction : Option String
  gasUsed : Int
  timestamp : Int
  deriving DecidableEq, Repr

/-- A row of `trace_log`, without its generated `trace_id`. -/
structure TraceLog where
  txHash : String
  callDepth : Int
  callType : String
  fromAddr : String
  toAddr : Option String
  value : Int
  gasUsed : Int
  input : Option String
  output : Option String
  error : Option String
  deriving DecidableEq, Repr

/-- `alert_subscription.sub_type`. -/
inductive SubType where
  | perEvent
  | rateThreshold
  deriving DecidableEq, Repr

/-- A row of `alert_subscription`, as far as per-event alerts read it. -/
structure AlertSubscription where
  subscriptionId : Int
  errorCategory : Option ErrorCategory
  toAddr : Option String
  webhookUrl : String
  signingSecret : String
  active : Bool
  subType : SubType
  deriving DecidableEq, Repr

/-- `alert_delivery.status`. -/
inductive DeliveryStatus where
  | claimed
  | delivered
  | failed
  deriving DecidableEq, Repr

/-- The primary key of `alert_delivery`: `(subscription_id, tx_hash)`. -/
abbrev DeliveryKey := Int × String

/-- The other columns of a row of `alert_delivery`. -/
structure AlertDelivery where
  status : DeliveryStatus
  attempts : Int
  lastError : Option String
  deliveredAt : Option Int
  createdAt : Int
  deriving DecidableEq, Repr

/-- One pending (subscription, failed transaction) pair, as the dispatcher reads it. -/
structure AlertMatch where
  subscriptionId : Int
  txHash : String
  webhookUrl : String
  signingSecret : String
  deriving DecidableEq, Repr

/-- The key its delivery is recorded under. -/
def AlertMatch.key (m : AlertMatch) : DeliveryKey := (m.subscriptionId, m.txHash)

end TxIndexer.Db
