import TxIndexer.Std.Decimal
import TxIndexer.Std.Hex
import TxIndexer.Db.Models
import TxIndexer.Decoder.Trace

/-!
# Event logs

`crates/decoder/src/events.rs`: a log is dispatched on its first topic to the decoder of one of
four event types. The ABI decoders and the signature hashes that the `sol!` macro generates are
the parameter `EventAbi`; a field they return has the width its Solidity type has.
-/

namespace TxIndexer.Decoder

/-- The fields of a Uniswap V3 `Swap`. -/
structure SwapFields where
  sender : Address
  recipient : Address
  amount0 : BitVec 256
  amount1 : BitVec 256
  sqrtPriceX96 : BitVec 160
  liquidity : BitVec 128
  tick : BitVec 24

/-- The fields of a Uniswap V3 `Mint` or `Burn` that are read. -/
structure LiquidityFields where
  owner : Address
  tickLower : BitVec 24
  tickUpper : BitVec 24
  amount : BitVec 128
  amount0 : BitVec 256
  amount1 : BitVec 256

/-- The fields of an ERC-20 `Transfer`. -/
structure TransferFields where
  fromAddr : Address
  toAddr : Address
  value : BitVec 256

/-- What `sol!` generates: `SIGNATURE_HASH` and `decode_raw_log` of each event. -/
structure EventAbi where
  swapSignatureHash : B256
  mintSignatureHash : B256
  burnSignatureHash : B256
  transferSignatureHash : B256
  swapDecodeRawLog : List B256 → Bytes → Except String SwapFields
  mintDecodeRawLog : List B256 → Bytes → Except String LiquidityFields
  burnDecodeRawLog : List B256 → Bytes → Except String LiquidityFields
  transferDecodeRawLog : List B256 → Bytes → Except String TransferFields

/-- `DecodedSwap` (`events.rs:57-86`). -/
structure DecodedSwap where
  poolAddress : String
  txHash : String
  sender : String
  recipient : String
  amount0 : Int
  amount1 : Int
  amountIn : Int
  amountOut : Int
  sqrtPriceX96 : Int
  liquidity : Int
  tick : Int
  logIndex : Int
  timestamp : Int
  deriving DecidableEq, Repr

/-- `DecodedLiquidity` (`events.rs:88-113`). -/
structure DecodedLiquidity where
  eventType : String
  poolAddress : String
  txHash : String
  provider : String
  token0Amount : Int
  token1Amount : Int
  tickLower : Int
  tickUpper : Int
  liquidity : Int
  logIndex : Int
  timestamp : Int
  deriving DecidableEq, Repr

/-- `DecodedTransfer` (`events.rs:115-132`). -/
structure DecodedTransfer where
  txHash : String
  tokenAddress : String
  fromAddr : String
  toAddr : String
  amount : Int
  logIndex : Int
  timestamp : Int
  deriving DecidableEq, Repr

/-- `DecodedEvent` (`events.rs:134-143`). -/
inductive DecodedEvent where
  | swap (s : DecodedSwap)
  | liquidity (l : DecodedLiquidity)
  | transfer (t : DecodedTransfer)
  deriving DecidableEq, Repr

/-- `bd_from_str` (`events.rs:318-320`), on the integer literals it is given. -/
def bdFromStr (s : String) : Except DecodeError Int :=
  match parseInt s with
  | some n => .ok n
  | none => .error (.abiDecode "invalid decimal")

/-- `i32_from_str` (`events.rs:323-326`). -/
def i32FromStr (s : String) : Except DecodeError Int :=
  match parseInt s with
  | some n => if -2 ^ 31 ≤ n ∧ n < 2 ^ 31 then .ok n else .error (.abiDecode "number out of range")
  | none => .error (.abiDecode "invalid digit found in string")

@[simp] theorem bdFromStr_repr (n : Int) : bdFromStr n.repr = .ok n := by
  simp [bdFromStr, parseInt_repr]

theorem i32FromStr_repr {n : Int} (h : -2 ^ 31 ≤ n ∧ n < 2 ^ 31) : i32FromStr n.repr = .ok n := by
  simp only [i32FromStr, parseInt_repr, if_pos h]

/-- An `int24` is an `i32`. -/
@[simp] theorem i32FromStr_int24 (tick : BitVec 24) : i32FromStr tick.toInt.repr = .ok tick.toInt := by
  have hlow := BitVec.le_toInt tick
  have hhigh := BitVec.toInt_lt (x := tick)
  exact i32FromStr_repr ⟨by omega, by omega⟩

/-- `map_err(|e| DecodeError::AbiDecode(e.to_string()))`. -/
def abiDecodeError {α : Type} : Except String α → Except DecodeError α
  | .ok a => .ok a
  | .error e => .error (.abiDecode e)

/-- The position of a log: the address that emitted it, its transaction and its index, with the
time of its block. -/
structure LogContext where
  address : String
  txHash : String
  logIndex : Int
  timestamp : Int

variable (abi : EventAbi) (topics : List B256) (data : Bytes) (ctx : LogContext)

/-- `decode_swap` (`events.rs:201-238`). -/
def decodeSwap : Except DecodeError DecodedEvent := do
  let decoded ← abiDecodeError (abi.swapDecodeRawLog topics data)
  let amount0 ← bdFromStr decoded.amount0.toInt.repr
  let amount1 ← bdFromStr decoded.amount1.toInt.repr
  let (amountIn, amountOut) :=
    if 0 ≤ amount0 then (amount0, (amount1.natAbs : Int)) else (amount1, (amount0.natAbs : Int))
  let sqrtPriceX96 ← bdFromStr (decoded.sqrtPriceX96.toNat : Int).repr
  let liquidity ← bdFromStr (decoded.liquidity.toNat : Int).repr
  let tick ← i32FromStr decoded.tick.toInt.repr
  return .swap {
    poolAddress := ctx.address, txHash := ctx.txHash
    sender := addressHex decoded.sender, recipient := addressHex decoded.recipient
    amount0, amount1, amountIn, amountOut, sqrtPriceX96, liquidity, tick
    logIndex := ctx.logIndex, timestamp := ctx.timestamp }

/-- The event both `decode_mint` and `decode_burn` build from their fields. -/
def liquidityEventOf (eventType : String) (decoded : LiquidityFields) :
    Except DecodeError DecodedEvent := do
  let token0Amount ← bdFromStr (decoded.amount0.toNat : Int).repr
  let token1Amount ← bdFromStr (decoded.amount1.toNat : Int).repr
  let tickLower ← i32FromStr decoded.tickLower.toInt.repr
  let tickUpper ← i32FromStr decoded.tickUpper.toInt.repr
  let liquidity ← bdFromStr (decoded.amount.toNat : Int).repr
  return .liquidity {
    eventType, poolAddress := ctx.address, txHash := ctx.txHash
    provider := addressHex decoded.owner
    token0Amount, token1Amount, tickLower, tickUpper, liquidity
    logIndex := ctx.logIndex, timestamp := ctx.timestamp }

/-- `decode_mint` (`events.rs:240-265`). -/
def decodeMint : Except DecodeError DecodedEvent := do
  let decoded ← abiDecodeError (abi.mintDecodeRawLog topics data)
  liquidityEventOf ctx "MINT" decoded

/-- `decode_burn` (`events.rs:267-292`). -/
def decodeBurn : Except DecodeError DecodedEvent := do
  let decoded ← abiDecodeError (abi.burnDecodeRawLog topics data)
  liquidityEventOf ctx "BURN" decoded

/-- `decode_transfer` (`events.rs:294-315`). -/
def decodeTransfer : Except DecodeError DecodedEvent := do
  let decoded ← abiDecodeError (abi.transferDecodeRawLog topics data)
  let amount ← bdFromStr (decoded.value.toNat : Int).repr
  return .transfer {
    txHash := ctx.txHash, tokenAddress := ctx.address
    fromAddr := addressHex decoded.fromAddr, toAddr := addressHex decoded.toAddr
    amount, logIndex := ctx.logIndex, timestamp := ctx.timestamp }

/-- `decode_log` (`events.rs:144-199`). -/
def decodeLog : Except DecodeError DecodedEvent :=
  match topics.head? with
  | none => .error (.missingField "topic0")
  | some topic0 =>
      if topic0 = abi.swapSignatureHash then decodeSwap abi topics data ctx
      else if topic0 = abi.mintSignatureHash then decodeMint abi topics data ctx
      else if topic0 = abi.burnSignatureHash then decodeBurn abi topics data ctx
      else if topic0 = abi.transferSignatureHash then decodeTransfer abi topics data ctx
      else .error (.unknownTopic (hashHex topic0))

/-! ## What an accepted log decodes to -/

/-- The row a decoded `Swap` becomes. -/
def swapOf (fields : SwapFields) : DecodedSwap where
  poolAddress := ctx.address
  txHash := ctx.txHash
  sender := addressHex fields.sender
  recipient := addressHex fields.recipient
  amount0 := fields.amount0.toInt
  amount1 := fields.amount1.toInt
  amountIn := if 0 ≤ fields.amount0.toInt then fields.amount0.toInt else fields.amount1.toInt
  amountOut :=
    if 0 ≤ fields.amount0.toInt then fields.amount1.toInt.natAbs else fields.amount0.toInt.natAbs
  sqrtPriceX96 := fields.sqrtPriceX96.toNat
  liquidity := fields.liquidity.toNat
  tick := fields.tick.toInt
  logIndex := ctx.logIndex
  timestamp := ctx.timestamp

/-- The row a decoded `Mint` or `Burn` becomes. -/
def liquidityOf (eventType : String) (fields : LiquidityFields) : DecodedLiquidity where
  eventType
  poolAddress := ctx.address
  txHash := ctx.txHash
  provider := addressHex fields.owner
  token0Amount := fields.amount0.toNat
  token1Amount := fields.amount1.toNat
  tickLower := fields.tickLower.toInt
  tickUpper := fields.tickUpper.toInt
  liquidity := fields.amount.toNat
  logIndex := ctx.logIndex
  timestamp := ctx.timestamp

/-- The row a decoded `Transfer` becomes. -/
def transferOf (fields : TransferFields) : DecodedTransfer where
  txHash := ctx.txHash
  tokenAddress := ctx.address
  fromAddr := addressHex fields.fromAddr
  toAddr := addressHex fields.toAddr
  amount := fields.value.toNat
  logIndex := ctx.logIndex
  timestamp := ctx.timestamp

theorem decodeSwap_eq : decodeSwap abi topics data ctx =
    (abiDecodeError (abi.swapDecodeRawLog topics data)).map fun f => .swap (swapOf ctx f) := by
  unfold decodeSwap
  cases abi.swapDecodeRawLog topics data with
  | error e => rfl
  | ok fields =>
      simp only [abiDecodeError, bdFromStr_repr, i32FromStr_int24, swapOf, Except.map]
      by_cases hsign : 0 ≤ fields.amount0.toInt <;> simp [hsign, bind, Except.bind, pure, Except.pure]

theorem liquidityEventOf_eq (eventType : String) (fields : LiquidityFields) :
    liquidityEventOf ctx eventType fields = .ok (.liquidity (liquidityOf ctx eventType fields)) := by
  simp only [liquidityEventOf, bdFromStr_repr, i32FromStr_int24, liquidityOf]
  rfl

theorem decodeMint_eq : decodeMint abi topics data ctx =
    (abiDecodeError (abi.mintDecodeRawLog topics data)).map
      fun f => .liquidity (liquidityOf ctx "MINT" f) := by
  unfold decodeMint
  cases abi.mintDecodeRawLog topics data with
  | error e => rfl
  | ok fields => exact liquidityEventOf_eq ctx "MINT" fields

theorem decodeBurn_eq : decodeBurn abi topics data ctx =
    (abiDecodeError (abi.burnDecodeRawLog topics data)).map
      fun f => .liquidity (liquidityOf ctx "BURN" f) := by
  unfold decodeBurn
  cases abi.burnDecodeRawLog topics data with
  | error e => rfl
  | ok fields => exact liquidityEventOf_eq ctx "BURN" fields

theorem decodeTransfer_eq : decodeTransfer abi topics data ctx =
    (abiDecodeError (abi.transferDecodeRawLog topics data)).map
      fun f => .transfer (transferOf ctx f) := by
  unfold decodeTransfer
  cases abi.transferDecodeRawLog topics data with
  | error e => rfl
  | ok fields =>
      simp only [abiDecodeError, bdFromStr_repr, transferOf]
      rfl

/-! ## The decoders of these four events

All their fields are static, so a log is its signature hash, one topic for each indexed field and
one data word for each other field; what follows the last word is not looked at. -/

/-- The `i`-th 32-byte word of `data`. -/
def dataWord (data : Bytes) (i : Nat) : Nat := beNat ((data.drop (32 * i)).take 32)

/-- What `sol!` generates for the four events, on logs of the right shape. -/
def uniswapAbi : EventAbi where
  swapSignatureHash := 0xc42079f94a6350d7e6235f29174924f928cc2ac818eb64fed8004e115fbcca67
  mintSignatureHash := 0x7a53080ba414158be7ec69b987b5fb7d07dee101fe85488f0853ae16239d0bde
  burnSignatureHash := 0x0c396cd989a39f4459b5fa1aed6a9a8dcdbc45908acfd67e028cd568da98982c
  transferSignatureHash := 0xddf252ad1be2c89b69c2b068fc378daa952ba7f163c4a11628f55a4df523b3ef
  swapDecodeRawLog
    | [_, sender, recipient], data =>
        if 160 ≤ data.length then .ok {
          sender := .ofNat 160 sender.toNat, recipient := .ofNat 160 recipient.toNat
          amount0 := .ofNat 256 (dataWord data 0), amount1 := .ofNat 256 (dataWord data 1)
          sqrtPriceX96 := .ofNat 160 (dataWord data 2), liquidity := .ofNat 128 (dataWord data 3)
          tick := .ofNat 24 (dataWord data 4) }
        else .error "ABI decoding failed"
    | _, _ => .error "invalid number of topics"
  mintDecodeRawLog
    | [_, owner, tickLower, tickUpper], data =>
        if 128 ≤ data.length then .ok {
          owner := .ofNat 160 owner.toNat, tickLower := .ofNat 24 tickLower.toNat
          tickUpper := .ofNat 24 tickUpper.toNat, amount := .ofNat 128 (dataWord data 1)
          amount0 := .ofNat 256 (dataWord data 2), amount1 := .ofNat 256 (dataWord data 3) }
        else .error "ABI decoding failed"
    | _, _ => .error "invalid number of topics"
  burnDecodeRawLog
    | [_, owner, tickLower, tickUpper], data =>
        if 96 ≤ data.length then .ok {
          owner := .ofNat 160 owner.toNat, tickLower := .ofNat 24 tickLower.toNat
          tickUpper := .ofNat 24 tickUpper.toNat, amount := .ofNat 128 (dataWord data 0)
          amount0 := .ofNat 256 (dataWord data 1), amount1 := .ofNat 256 (dataWord data 2) }
        else .error "ABI decoding failed"
    | _, _ => .error "invalid number of topics"
  transferDecodeRawLog
    | [_, sender, recipient], data =>
        if 32 ≤ data.length then .ok {
          fromAddr := .ofNat 160 sender.toNat, toAddr := .ofNat 160 recipient.toNat
          value := .ofNat 256 (dataWord data 0) }
        else .error "ABI decoding failed"
    | _, _ => .error "invalid number of topics"

end TxIndexer.Decoder
