import TxIndexer.Indexer.ProcessFailedTxs
import TxIndexer.Db.Queries

/-!
# Processing a block

`process_block` of `crates/indexer/src/worker.rs`: a block and its receipts are fetched, its
transactions and logs become rows, and the rows are stored by up to seven `INSERT`s, each
committed on its own. Everything the run stores is determined by what the RPC node answers, so
a run is the list of its `INSERT`s, computed from the answers, and their execution in order.
-/

namespace TxIndexer.Indexer

open Decoder Db

/-- The fields of a block header that are read. -/
structure RpcHeader where
  hash : B256
  parentHash : B256
  timestamp : Nat
  gasUsed : Nat

/-- A transaction of a full block. `hash` is its own hash; `process_block` takes the one of the
receipt. -/
structure RpcTransaction where
  hash : B256
  fromAddr : Address
  toAddr : Option Address
  effectiveGasPrice : Option Nat
  value : BitVec 256
  input : Bytes

/-- A log of a receipt. -/
structure RpcLog where
  address : Address
  topics : List B256
  data : Bytes
  logIndex : Option Nat

/-- A transaction receipt. -/
structure Receipt where
  transactionHash : B256
  status : Bool
  gasUsed : Nat
  logs : List RpcLog

/-- A block with its transactions. -/
structure RpcBlock where
  header : RpcHeader
  transactions : List RpcTransaction

/-- What the RPC node answers while a block is processed, after the retries: the block, unless
the call fails or there is no such block; the receipts, unless the call fails, `some none` being
a `null` answer; and the trace of each transaction. -/
structure BlockAnswers where
  block : Option RpcBlock
  receipts : Option (Option (List Receipt))
  trace : String → TraceAnswer

/-- The first and the last second that `DateTime::from_timestamp` accepts. -/
def minTimestamp : Int := -8334601228800
def maxTimestamp : Int := 8210266876799

/-- `DateTime::from_timestamp(secs as i64, 0).unwrap_or_default()`. -/
def timestampOf (secs : Nat) : Int :=
  if minTimestamp ≤ asI64 secs ∧ asI64 secs ≤ maxTimestamp then asI64 secs else 0

/-- The `block` row (`worker.rs:373-379`). -/
def blockRow (blockNumber : Nat) (header : RpcHeader) : Block where
  blockNumber := asI64 blockNumber
  timestamp := timestampOf header.timestamp
  gasUsed := asI64 header.gasUsed
  blockHash := some (hashHex header.hash)
  parentHash := some (hashHex header.parentHash)

/-- The `transaction` row (`worker.rs:394-411`). -/
def transactionRow (blockNumber : Nat) (receipt : Receipt) (tx : RpcTransaction) :
    Transaction where
  txHash := hashHex receipt.transactionHash
  fromAddr := addressHex tx.fromAddr
  toAddr := tx.toAddr.map addressHex
  blockNumber := asI64 blockNumber
  gasUsed := asI64 receipt.gasUsed
  gasPrice := tx.effectiveGasPrice.getD 0
  value := tx.value.toNat
  status := if receipt.status then 1 else 0
  inputData := if tx.input = [] then none else some (bytesHex tx.input)

/-- The `transaction` rows: each receipt paired with the transaction at its position, if the
block has one there (`worker.rs:389-413`). -/
def transactionRows (blockNumber : Nat) (txs : List RpcTransaction) (receipts : List Receipt) :
    List Transaction :=
  receipts.zipIdx.filterMap fun (receipt, idx) => txs[idx]?.map (transactionRow blockNumber receipt)

/-- `to_swap_model` (`worker.rs:625-643`). -/
def toSwapModel (s : DecodedSwap) : SwapEvent where
  poolAddress := s.poolAddress
  txHash := s.txHash
  sender := s.sender
  recipient := s.recipient
  amount0 := s.amount0
  amount1 := s.amount1
  amountIn := s.amountIn
  amountOut := s.amountOut
  sqrtPriceX96 := s.sqrtPriceX96
  liquidity := s.liquidity
  tick := s.tick
  logIndex := s.logIndex
  timestamp := s.timestamp

/-- `to_liquidity_model` (`worker.rs:646-665`). -/
def toLiquidityModel (l : DecodedLiquidity) : LiquidityEvent where
  eventType := if l.eventType = "BURN" then .burn else .mint
  poolAddress := l.poolAddress
  txHash := l.txHash
  provider := l.provider
  token0Amount := l.token0Amount
  token1Amount := l.token1Amount
  tickLower := l.tickLower
  tickUpper := l.tickUpper
  liquidity := l.liquidity
  logIndex := l.logIndex
  timestamp := l.timestamp

/-- `to_transfer_model` (`worker.rs:668-679`). -/
def toTransferModel (t : DecodedTransfer) : TokenTransfer where
  txHash := t.txHash
  tokenAddress := t.tokenAddress
  fromAddr := t.fromAddr
  toAddr := t.toAddr
  amount := t.amount
  logIndex := t.logIndex
  timestamp := t.timestamp

/-- What a log of a receipt is decoded with (`worker.rs:423-434`). -/
def logContext (timestamp : Int) (receipt : Receipt) (log : RpcLog) : LogContext where
  address := addressHex log.address
  txHash := hashHex receipt.transactionHash
  logIndex := asI32 (log.logIndex.getD 0)
  timestamp

/-- The decoded logs of a block in the order of its receipts; a log without topics or one that
does not decode is left out (`worker.rs:416-447`). -/
def decodedEvents (abi : EventAbi) (timestamp : Int) (receipts : List Receipt) :
    List DecodedEvent :=
  receipts.flatMap fun receipt => receipt.logs.filterMap fun log =>
    if log.topics = [] then none
    else (decodeLog abi log.topics log.data (logContext timestamp receipt log)).toOption

def swapRows (events : List DecodedEvent) : List SwapEvent :=
  events.filterMap fun | .swap s => some (toSwapModel s) | _ => none

def liquidityRows (events : List DecodedEvent) : List LiquidityEvent :=
  events.filterMap fun | .liquidity l => some (toLiquidityModel l) | _ => none

def transferRows (events : List DecodedEvent) : List TokenTransfer :=
  events.filterMap fun | .transfer t => some (toTransferModel t) | _ => none

/-- The hashes of the failed receipts (`worker.rs:465-469`). -/
def failedTxHashes (receipts : List Receipt) : List String :=
  (receipts.filter fun r => !r.status).map fun r => hashHex r.transactionHash

/-- `if !rows.is_empty() { insert(rows) }`. -/
def unlessEmpty {α : Type} (insert : List α → Insert) (rows : List α) : List Insert :=
  if rows.isEmpty then [] else [insert rows]

/-- The `INSERT`s of a run and, when decoding a trace panics after them, the panic. -/
structure BlockPlan where
  inserts : List Insert
  panic : Option Panic

section Plan

variable (dec : Decoders) (blockNumber : Nat) (block : RpcBlock) (receipts : List Receipt)

/-- The `INSERT`s that do not depend on a trace. -/
def eventInserts : List Insert :=
  let events := decodedEvents dec.abi (timestampOf block.header.timestamp) receipts
  [.blocks [blockRow blockNumber block.header]] ++
  unlessEmpty .transactions (transactionRows blockNumber block.transactions receipts) ++
  unlessEmpty .swapEvents (swapRows events) ++
  unlessEmpty .liquidityEvents (liquidityRows events) ++
  unlessEmpty .tokenTransfers (transferRows events)

/-- The rows of the failed transactions. -/
def failureRows (trace : String → TraceAnswer) :
    Checked (List TraceLog × List FailedTransaction) :=
  processFailedTxs dec.toLowercase trace (timestampOf block.header.timestamp)
    (failedTxHashes receipts)

/-- The `INSERT`s of a run that fetched the block and its receipts. -/
def planOf (trace : String → TraceAnswer) : BlockPlan :=
  match failureRows dec block receipts trace with
  | .error p => ⟨eventInserts dec blockNumber block receipts, some p⟩
  | .ok (traceLogs, failedTxs) =>
      ⟨eventInserts dec blockNumber block receipts ++
        unlessEmpty .traceLogs traceLogs ++ unlessEmpty .failedTransactions failedTxs, none⟩

end Plan

/-- The `INSERT`s a run makes on given answers; none when a fetch fails. -/
def blockPlan (dec : Decoders) (blockNumber : Nat) (answers : BlockAnswers) : Option BlockPlan :=
  answers.block.bind fun block => answers.receipts.map fun receipts =>
    planOf dec blockNumber block (receipts.getD []) answers.trace

/-- Why a run does not succeed: a fetch failed, an `INSERT` failed, or the task panicked. -/
inductive BlockError where
  | rpc
  | db (e : DbError)
  | panicked (p : Panic)
  deriving DecidableEq, Repr

/-- `process_block` (`worker.rs:341-500`): what it leaves in the database and how it ends. -/
def processBlock (triggers : Triggers) (dec : Decoders) (blockNumber : Nat)
    (answers : BlockAnswers) (db : Database) : Database × Except BlockError Unit :=
  match blockPlan dec blockNumber answers with
  | none => (db, .error .rpc)
  | some plan =>
      match execInserts triggers db plan.inserts with
      | (db, .error e) => (db, .error (.db e))
      | (db, .ok ()) =>
          match plan.panic with
          | none => (db, .ok ())
          | some p => (db, .error (.panicked p))

/-! ## A block with one failed transaction -/

/-- The decoders on ASCII text and logs of the right shape. -/
def sampleDecoders : Decoders := ⟨uniswapAbi, asciiLowercase⟩

/-- A call that reverted without a reason. -/
def revertedFrame : Json := .object [
  ("type", .string "CALL"), ("from", .string "0x0000000000000000000000000000000000000005"),
  ("to", .string "0x0000000000000000000000000000000000000006"), ("value", .string "0x0"),
  ("gasUsed", .string "0x64"), ("input", .string "0xa9059cbb"), ("output", .string "0x"),
  ("error", .string "execution reverted")]

/-- The answers for a block that holds one transaction, which failed and whose trace is
`frame`. -/
def failedBlockAnswers (frame : Json) : BlockAnswers where
  block := some {
    header := { hash := 9, parentHash := 8, timestamp := 1700000000, gasUsed := 100 }
    transactions := [{
      hash := 7, fromAddr := 5, toAddr := some 6, effectiveGasPrice := some 1, value := 0
      input := [0xa9, 0x05, 0x9c, 0xbb] }] }
  receipts := some (some [{ transactionHash := 7, status := false, gasUsed := 100, logs := [] }])
  trace := fun _ => .callTracer frame

end TxIndexer.Indexer
