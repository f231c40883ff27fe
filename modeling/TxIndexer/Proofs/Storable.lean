import TxIndexer.Indexer.BlockPlan

/-!
# Which decoded rows can be stored

The columns are narrower than the types they are filled from: `NUMERIC(38,0)` for 256-bit and
128-bit amounts, `TEXT` without NUL for an arbitrary string, and a `CHECK` on ticks that any
contract can break. One row that cannot be stored fails its whole statement, and with it the
block.
-/

namespace TxIndexer.Proofs

open Decoder Db Indexer

theorem uint160_lt (x : BitVec 160) : x.toNat < 10 ^ 60 := by
  have hlt := x.isLt
  omega

/-! ## Logs -/

/-- The fields of a `Swap` fit their columns. -/
def SwapFits (f : SwapFields) : Prop :=
  f.amount0.toInt.natAbs < 10 ^ 38 ∧ f.amount1.toInt.natAbs < 10 ^ 38 ∧
    f.liquidity.toNat < 10 ^ 38

/-- The fields of a `Mint` or `Burn` fit their columns, and its ticks are in order. -/
def LiquidityFits (f : LiquidityFields) : Prop :=
  f.amount0.toNat < 10 ^ 38 ∧ f.amount1.toNat < 10 ^ 38 ∧ f.amount.toNat < 10 ^ 38 ∧
    f.tickLower.toInt < f.tickUpper.toInt

/-- The value of a `Transfer` fits its column. -/
def TransferFits (f : TransferFields) : Prop := f.value.toNat < 10 ^ 38

/-- The fields the ABI decodes a log to, if it does, fit their columns. -/
def LogFits (abi : EventAbi) (topics : List B256) (data : Bytes) : Prop :=
  match topics.head? with
  | none => True
  | some topic0 =>
      if topic0 = abi.swapSignatureHash then
        ∀ f, abi.swapDecodeRawLog topics data = .ok f → SwapFits f
      else if topic0 = abi.mintSignatureHash then
        ∀ f, abi.mintDecodeRawLog topics data = .ok f → LiquidityFits f
      else if topic0 = abi.burnSignatureHash then
        ∀ f, abi.burnDecodeRawLog topics data = .ok f → LiquidityFits f
      else if topic0 = abi.transferSignatureHash then
        ∀ f, abi.transferDecodeRawLog topics data = .ok f → TransferFits f
      else True

/-- The row of a decoded event can be stored. -/
def EventStorable : DecodedEvent → Prop
  | .swap s => (toSwapModel s).Storable
  | .liquidity l => (toLiquidityModel l).Storable
  | .transfer t => (toTransferModel t).Storable

section Rows

variable {ctx : LogContext} (haddress : VarcharFits 42 ctx.address)
  (htxHash : VarcharFits 66 ctx.txHash)

include haddress htxHash

theorem swapOf_storable_iff (f : SwapFields) :
    (toSwapModel (swapOf ctx f)).Storable ↔ SwapFits f := by
  have hin : ∀ b : Prop, [Decidable b] → f.amount0.toInt.natAbs < 10 ^ 38 →
      f.amount1.toInt.natAbs < 10 ^ 38 →
      (if b then f.amount0.toInt else f.amount1.toInt).natAbs < 10 ^ 38 := by
    intro b _ h0 h1
    split <;> assumption
  have hout : ∀ b : Prop, [Decidable b] → f.amount0.toInt.natAbs < 10 ^ 38 →
      f.amount1.toInt.natAbs < 10 ^ 38 →
      (if b then (f.amount1.toInt.natAbs : Int) else f.amount0.toInt.natAbs).natAbs <
        10 ^ 38 := by
    intro b _ h0 h1
    split <;> rwa [Int.natAbs_natCast]
  simp only [SwapEvent.Storable, toSwapModel, swapOf, haddress, htxHash, addressHex_fits,
    uint160_lt, true_and, NumericFits, Int.natAbs_natCast, SwapFits]
  constructor
  · rintro ⟨h0, h1, -, -, hliquidity⟩
    exact ⟨h0, h1, hliquidity⟩
  · rintro ⟨h0, h1, hliquidity⟩
    exact ⟨h0, h1, hin _ h0 h1, hout _ h0 h1, hliquidity⟩

theorem liquidityOf_storable_iff (eventType : String) (f : LiquidityFields) :
    (toLiquidityModel (liquidityOf ctx eventType f)).Storable ↔ LiquidityFits f := by
  simp only [LiquidityEvent.Storable, toLiquidityModel, liquidityOf, haddress, htxHash,
    addressHex_fits, true_and, NumericFits, Int.natAbs_natCast, LiquidityFits]

theorem transferOf_storable_iff (f : TransferFields) :
    (toTransferModel (transferOf ctx f)).Storable ↔ TransferFits f := by
  simp [TokenTransfer.Storable, toTransferModel, transferOf, haddress, htxHash,
    addressHex_fits, NumericFits, TransferFits]

/-- A row per accepted log: it can be stored exactly when the fields of the log fit. -/
theorem forall_eventStorable_iff (abi : EventAbi) (topics : List B256) (data : Bytes) :
    (∀ event, decodeLog abi topics data ctx = .ok event → EventStorable event) ↔
      LogFits abi topics data := by
  have hmap : ∀ {α : Type} (decoded : Except String α) (row : α → DecodedEvent)
      (fits : α → Prop), (∀ f, EventStorable (row f) ↔ fits f) →
      ((∀ event, (abiDecodeError decoded).map row = .ok event → EventStorable event) ↔
        ∀ f, decoded = .ok f → fits f) := by
    intro α decoded row fits hrow
    cases decoded with
    | error e => simp [abiDecodeError, Except.map]
    | ok f => simp [abiDecodeError, Except.map, hrow]
  unfold decodeLog LogFits
  cases topics.head? with
  | none => simp
  | some topic0 =>
      simp only
      split
      · rw [decodeSwap_eq]
        exact hmap _ _ _ (swapOf_storable_iff haddress htxHash)
      · split
        · rw [decodeMint_eq]
          exact hmap _ _ _ (liquidityOf_storable_iff haddress htxHash "MINT")
        · split
          · rw [decodeBurn_eq]
            exact hmap _ _ _ (liquidityOf_storable_iff haddress htxHash "BURN")
          · split
            · rw [decodeTransfer_eq]
              exact hmap _ _ _ (transferOf_storable_iff haddress htxHash)
            · simp

end Rows

/-! ## Blocks -/

variable {dec : Decoders} {blockNumber : Nat} {block : RpcBlock} {receipts : List Receipt}
  {trace : String → TraceAnswer}

theorem logContext_fits (timestamp : Int) (receipt : Receipt) (log : RpcLog) :
    VarcharFits 42 (logContext timestamp receipt log).address ∧
      VarcharFits 66 (logContext timestamp receipt log).txHash :=
  ⟨addressHex_fits log.address, hashHex_fits receipt.transactionHash⟩

/-- The event rows of a block. -/
def EventRowsStorable (events : List DecodedEvent) : Prop :=
  (∀ e ∈ swapRows events, e.Storable) ∧ (∀ e ∈ liquidityRows events, e.Storable) ∧
    ∀ t ∈ transferRows events, t.Storable

theorem eventRowsStorable_iff (events : List DecodedEvent) :
    EventRowsStorable events ↔ ∀ event ∈ events, EventStorable event := by
  simp only [EventRowsStorable, swapRows, liquidityRows, transferRows, List.mem_filterMap]
  constructor
  · rintro ⟨hswap, hliquidity, htransfer⟩ event hevent
    cases event with
    | swap s => exact hswap _ ⟨_, hevent, rfl⟩
    | liquidity l => exact hliquidity _ ⟨_, hevent, rfl⟩
    | transfer t => exact htransfer _ ⟨_, hevent, rfl⟩
  · intro hall
    refine ⟨?_, ?_, ?_⟩
    · rintro e ⟨event, hevent, hsome⟩
      cases event <;> simp only [Option.some.injEq, reduceCtorEq] at hsome
      exact hsome ▸ hall _ hevent
    · rintro e ⟨event, hevent, hsome⟩
      cases event <;> simp only [Option.some.injEq, reduceCtorEq] at hsome
      exact hsome ▸ hall _ hevent
    · rintro e ⟨event, hevent, hsome⟩
      cases event <;> simp only [Option.some.injEq, reduceCtorEq] at hsome
      exact hsome ▸ hall _ hevent

/-- The event rows of a block can be stored exactly when the fields of its logs fit. -/
theorem decodedEvents_storable_iff (abi : EventAbi) (timestamp : Int) :
    EventRowsStorable (decodedEvents abi timestamp receipts) ↔
      ∀ receipt ∈ receipts, ∀ log ∈ receipt.logs, LogFits abi log.topics log.data := by
  simp only [eventRowsStorable_iff, decodedEvents, List.mem_flatMap, List.mem_filterMap]
  constructor
  · intro hall receipt hreceipt log hlog
    obtain ⟨haddress, htxHash⟩ := logContext_fits timestamp receipt log
    rw [← forall_eventStorable_iff haddress htxHash]
    intro event hevent
    refine hall event ⟨receipt, hreceipt, log, hlog, ?_⟩
    have htopics : log.topics ≠ [] := by
      intro hnil
      rw [hnil] at hevent
      cases hevent
    rw [if_neg htopics, hevent]
    rfl
  · rintro hfits event ⟨receipt, hreceipt, log, hlog, hsome⟩
    obtain ⟨haddress, htxHash⟩ := logContext_fits timestamp receipt log
    split at hsome
    · cases hsome
    · refine (forall_eventStorable_iff haddress htxHash abi log.topics log.data).mpr
        (hfits receipt hreceipt log hlog) event ?_
      generalize decodeLog _ _ _ _ = decoded at hsome ⊢
      cases decoded with
      | error e => cases hsome
      | ok event' => cases hsome; rfl

/-- The revert payload of a failed transaction: the output of the root frame of its trace. -/
def payloadOf (dec : Decoders) (trace : String → TraceAnswer) (receipt : Receipt) :
    Option Bytes :=
  (fetchTrace dec.toLowercase (hashHex receipt.transactionHash)
    (trace (hashHex receipt.transactionHash))).bind
      fun flattened => flattened.frames.head?.bind revertPayload

/-- A run ends because of a decoded event row, or because decoding a payload overflows. -/
def FailsOnDecoding (e : BlockError) : Prop :=
  e = .db (.notStorable .swapEvent) ∨ e = .db (.notStorable .liquidityEvent) ∨
    e = .db (.notStorable .tokenTransfer) ∨ e = .panicked .arithmeticOverflow

/-- Nothing a contract emits or reverts with keeps a block from being stored: its event rows are
storable, its revert payloads give storable reasons, and no run fails on decoding them. -/
structure ChainDataStorable (dec : Decoders) (blockNumber : Nat) (block : RpcBlock)
    (receipts : List Receipt) (trace : String → TraceAnswer) : Prop where
  events : EventRowsStorable
    (decodedEvents dec.abi (timestampOf block.header.timestamp) receipts)
  payloads : ∀ receipt ∈ receipts, receipt.status = false →
    ∀ payload ∈ payloadOf dec trace receipt, ReasonStorable payload
  reasons : ∀ traceLogs failedTxs, failureRows dec block receipts trace =
    .ok (traceLogs, failedTxs) → ∀ f ∈ failedTxs, Nullable TextFits f.revertReason
  runs : ∀ triggers db db' e, processBlock triggers dec blockNumber
    ⟨some block, some (some receipts), trace⟩ db = (db', .error e) → ¬ FailsOnDecoding e

/-- A revert reason comes from the payload of its frame. -/
theorem revertReasonOf_storable {root : FlatFrame}
    (hstorable : ∀ payload ∈ revertPayload root, ReasonStorable payload) :
    ∃ reason, revertReasonOf root = .ok reason ∧ Nullable TextFits reason := by
  unfold revertReasonOf
  cases hpayload : revertPayload root with
  | none => exact ⟨none, rfl, by simp [Nullable]⟩
  | some payload =>
      have hreason := hstorable payload (by simp [hpayload])
      unfold ReasonStorable at hreason
      cases hdecode : decodeRevertReason payload with
      | error p => rw [hdecode] at hreason; exact hreason.elim
      | ok decoded =>
          rw [hdecode] at hreason
          cases decoded with
          | error e => exact ⟨none, by simp [hdecode, Except.map, Except.toOption], by simp [Nullable]⟩
          | ok reason =>
              refine ⟨some reason, by simp [hdecode, Except.map, Except.toOption], ?_⟩
              simpa [Nullable, TextFits] using hreason

/-- The root frame of a traced failed transaction of the block holds the payload of its
receipt. -/
theorem payloadOf_failed {txHash : String} {flattened : FlattenedTrace} {root : FlatFrame}
    (hmem : txHash ∈ failedTxHashes receipts)
    (hfetch : fetchTrace dec.toLowercase txHash (trace txHash) = some flattened)
    (hhead : flattened.frames.head? = some root) :
    ∃ receipt ∈ receipts, receipt.status = false ∧
      payloadOf dec trace receipt = revertPayload root := by
  simp only [failedTxHashes, List.mem_map, List.mem_filter, Bool.not_eq_true'] at hmem
  obtain ⟨receipt, ⟨hreceipt, hstatus⟩, rfl⟩ := hmem
  refine ⟨receipt, hreceipt, hstatus, ?_⟩
  simp [payloadOf, hfetch, hhead]

/-- A statement of the block on one of the event tables inserts its event rows. -/
theorem event_insert_mem {i : Insert}
    (hi : i ∈ (planOf dec blockNumber block receipts trace).inserts)
    (htable : i.table = .swapEvent ∨ i.table = .liquidityEvent ∨ i.table = .tokenTransfer)
    (hevents : EventRowsStorable
      (decodedEvents dec.abi (timestampOf block.header.timestamp) receipts)) :
    i.RowsStorable := by
  have hmem : i ∈ eventInserts dec blockNumber block receipts ∨ (∃ rows, i = .traceLogs rows) ∨
      ∃ rows, i = .failedTransactions rows := by
    unfold planOf at hi
    split at hi
    · exact .inl hi
    · simp only [List.mem_append, mem_unlessEmpty] at hi
      rcases hi with (hi | ⟨-, rfl⟩) | ⟨-, rfl⟩
      · exact .inl hi
      · exact .inr (.inl ⟨_, rfl⟩)
      · exact .inr (.inr ⟨_, rfl⟩)
  rcases hmem with hi | ⟨rows, rfl⟩ | ⟨rows, rfl⟩
  · simp only [eventInserts, List.mem_append, mem_unlessEmpty, List.mem_singleton] at hi
    obtain ⟨hswaps, hliquidity, htransfers⟩ := hevents
    rcases hi with (((rfl | ⟨-, rfl⟩) | ⟨-, rfl⟩) | ⟨-, rfl⟩) | ⟨-, rfl⟩
    · simp [Insert.table] at htable
    · simp [Insert.table] at htable
    · exact hswaps
    · exact hliquidity
    · exact htransfers
  · simp [Insert.table] at htable
  · simp [Insert.table] at htable

/-- A block is safe from what it decodes exactly when the fields of its logs fit their columns
and none of its revert payloads is poisonous. -/
theorem chainDataStorable_iff (dec : Decoders) (blockNumber : Nat) (block : RpcBlock)
    (receipts : List Receipt) (trace : String → TraceAnswer) :
    ChainDataStorable dec blockNumber block receipts trace ↔
      (∀ receipt ∈ receipts, ∀ log ∈ receipt.logs, LogFits dec.abi log.topics log.data) ∧
      ∀ receipt ∈ receipts, receipt.status = false →
        ∀ payload ∈ payloadOf dec trace receipt, ¬ PoisonPayload payload := by
  rw [← decodedEvents_storable_iff dec.abi (timestampOf block.header.timestamp)]
  simp only [← reasonStorable_iff]
  refine ⟨fun h => ⟨h.events, h.payloads⟩, fun ⟨hevents, hpayloads⟩ => ?_⟩
  -- every traced failure has a reason, and it can be stored
  have hroot : ∀ txHash ∈ failedTxHashes receipts, ∀ flattened root,
      fetchTrace dec.toLowercase txHash (trace txHash) = some flattened →
      flattened.frames.head? = some root →
      ∃ reason, revertReasonOf root = .ok reason ∧ Nullable TextFits reason := by
    intro txHash hmem flattened root hfetch hhead
    obtain ⟨receipt, hreceipt, hstatus, hpayload⟩ := payloadOf_failed hmem hfetch hhead
    exact revertReasonOf_storable (hpayload ▸ hpayloads receipt hreceipt hstatus)
  refine ⟨hevents, hpayloads, ?_, ?_⟩
  · intro traceLogs failedTxs hrows f hf
    obtain ⟨txHash, hmem, flattened, root, hfetch, hhead, hdiag⟩ :=
      processFailedTxs_mem hrows f hf
    obtain ⟨reason, hreason, hfits⟩ := hroot txHash hmem flattened root hfetch hhead
    rw [(diagnose_cases hdiag).1, Except.ok.injEq] at hreason
    subst hreason
    exact hfits
  · intro triggers db db' e hrun
    simp only [processBlock, blockPlan, Option.bind_some, Option.map_some, Option.getD_some]
      at hrun
    rcases hexec : execInserts triggers db (planOf dec blockNumber block receipts trace).inserts
      with ⟨mid, dbError | ⟨⟩⟩
    · rw [hexec] at hrun
      cases hrun
      -- the failing statement would be one on an event table
      obtain ⟨i, hi, mid, hfail⟩ := execInserts_failed hexec
      have hnot : ∀ table, (table = .swapEvent ∨ table = .liquidityEvent ∨
          table = .tokenTransfer) → dbError ≠ .notStorable table := by
        rintro table htable rfl
        obtain ⟨rfl, hrows⟩ := Insert.exec_notStorable hfail
        exact hrows (event_insert_mem hi htable hevents)
      rintro (heq | heq | heq | heq)
      · exact hnot .swapEvent (.inl rfl) (BlockError.db.inj heq)
      · exact hnot .liquidityEvent (.inr (.inl rfl)) (BlockError.db.inj heq)
      · exact hnot .tokenTransfer (.inr (.inr rfl)) (BlockError.db.inj heq)
      · cases heq
    · rw [hexec] at hrun
      unfold planOf at hrun
      cases hrows : failureRows dec block receipts trace with
      | ok rows => rw [hrows] at hrun; cases hrun
      | error p =>
          rw [hrows] at hrun
          cases hrun
          rintro (heq | heq | heq | heq)
          · cases heq
          · cases heq
          · cases heq
          · cases heq
            obtain ⟨txHash, hmem, flattened, root, hfetch, hhead, hdiag⟩ :=
              processFailedTxs_panic hrows
            obtain ⟨reason, hreason, -⟩ := hroot txHash hmem flattened root hfetch hhead
            rcases diagnose_panic hdiag with hpanic | hpanic
            · rw [hpanic] at hreason
              cases hreason
            · cases hpanic

/-- The answers for a block whose only transaction emitted a `Transfer` of `10 ^ 38`. -/
def hugeTransferReceipt : Receipt where
  transactionHash := 7
  status := true
  gasUsed := 100
  logs := [{
    address := 6, topics := [uniswapAbi.transferSignatureHash, 5, 6]
    data := List.replicate 16 0 ++ [0x4b, 0x3b, 0x4c, 0xa8, 0x5a, 0x86, 0xc4, 0x7a, 0x09, 0x8a,
      0x22, 0x40, 0, 0, 0, 0]
    logIndex := some 0 }]

/-- The block of that transaction. -/
def hugeTransferBlock : RpcBlock where
  header := { hash := 9, parentHash := 8, timestamp := 1700000000, gasUsed := 100 }
  transactions := [{
    hash := 7, fromAddr := 5, toAddr := some 6, effectiveGasPrice := some 1, value := 0
    input := [0xa9, 0x05, 0x9c, 0xbb] }]

/-- One `Transfer` of `10 ^ 38` keeps its block from being stored. -/
theorem hugeTransfer_poisons :
    (processBlock ⟨false⟩ sampleDecoders 1
      ⟨some hugeTransferBlock, some (some [hugeTransferReceipt]), fun _ => .rpcError⟩
      .empty).2 = .error (.db (.notStorable .tokenTransfer)) ∧
    ¬ ChainDataStorable sampleDecoders 1 hugeTransferBlock [hugeTransferReceipt]
      fun _ => .rpcError := by
  have hrun : (processBlock ⟨false⟩ sampleDecoders 1
      ⟨some hugeTransferBlock, some (some [hugeTransferReceipt]), fun _ => .rpcError⟩
      .empty).2 = .error (.db (.notStorable .tokenTransfer)) := by decide +kernel
  exact ⟨hrun, fun h => h.runs _ _ _ _ (Prod.ext rfl hrun) (.inr (.inr (.inl rfl)))⟩

end TxIndexer.Proofs
