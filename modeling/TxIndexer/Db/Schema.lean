import TxIndexer.Db.Models
import TxIndexer.Std.Hex
import TxIndexer.Lib.KeyedTable
import TxIndexer.Lib.SerialTable

/-!
# The schema

The tables the indexer writes, as the migrations leave them: their keys, the constraints a row
must meet to be stored, and the database state. A `VARCHAR(n)` column takes at most `n`
characters, a `NUMERIC(p,0)` column at most `p` digits, and no text column takes a NUL
character. A `BIGINT` or `INTEGER` column takes what an `i64` or `i32` of the program holds.
-/

namespace TxIndexer.Db

/-- `TEXT`. -/
def TextFits (s : String) : Prop := '\x00' ∉ s.toList

/-- `VARCHAR(n)`. -/
def VarcharFits (n : Nat) (s : String) : Prop := s.toList.length ≤ n ∧ TextFits s

/-- `NUMERIC(p,0)`. -/
def NumericFits (p : Nat) (x : Int) : Prop := x.natAbs < 10 ^ p

/-- A nullable column. -/
def Nullable {α : Type} (fits : α → Prop) (x : Option α) : Prop := ∀ a ∈ x, fits a

instance (s : String) : Decidable (TextFits s) := inferInstanceAs (Decidable (_ ∉ _))
instance (n : Nat) (s : String) : Decidable (VarcharFits n s) := inferInstanceAs (Decidable (_ ∧ _))
instance (p : Nat) (x : Int) : Decidable (NumericFits p x) := inferInstanceAs (Decidable (_ < _))
instance {α : Type} (fits : α → Prop) [DecidablePred fits] (x : Option α) :
    Decidable (Nullable fits x) :=
  match x with
  | none => .isTrue (by simp [Nullable])
  | some a => decidable_of_iff (fits a) (by simp [Nullable])

@[simp] theorem nullable_none {α : Type} (fits : α → Prop) : Nullable fits none := nofun

@[simp] theorem nullable_some {α : Type} (fits : α → Prop) (a : α) :
    Nullable fits (some a) ↔ fits a := by
  simp [Nullable]

/-- A rendered hash fits its column. -/
theorem hashHex_fits (h : B256) : VarcharFits 66 (hashHex h) := by
  refine ⟨by simp [hashHex], ?_⟩
  simp only [TextFits, hashHex, String.toList_ofList, List.mem_cons, not_or]
  exact ⟨by decide, by decide, nul_not_mem_hexFixed 64 h.toNat⟩

/-- A rendered address fits its column. -/
theorem addressHex_fits (a : Address) : VarcharFits 42 (addressHex a) := by
  refine ⟨by simp [addressHex], ?_⟩
  simp only [TextFits, addressHex, String.toList_ofList, List.mem_cons, not_or]
  exact ⟨by decide, by decide, nul_not_mem_hexFixed 40 a.toNat⟩

/-- `block` (`20240101000001_initial_schema.sql:51-58`, `20240103000001_add_block_hashes.sql`). -/
def Block.Storable (b : Block) : Prop :=
  0 ≤ b.gasUsed ∧ Nullable TextFits b.blockHash ∧ Nullable TextFits b.parentHash

/-- `transaction` (`20240101000001_initial_schema.sql:71-87`). -/
def Transaction.Storable (t : Transaction) : Prop :=
  VarcharFits 66 t.txHash ∧ VarcharFits 42 t.fromAddr ∧ Nullable (VarcharFits 42) t.toAddr ∧
  NumericFits 30 t.gasPrice ∧ NumericFits 38 t.value ∧ Nullable TextFits t.inputData ∧
  (t.status = 0 ∨ t.status = 1) ∧ 0 ≤ t.gasUsed

/-- `swap_event` (`20240101000001_initial_schema.sql:106-127`). -/
def SwapEvent.Storable (e : SwapEvent) : Prop :=
  VarcharFits 42 e.poolAddress ∧ VarcharFits 66 e.txHash ∧ VarcharFits 42 e.sender ∧
  VarcharFits 42 e.recipient ∧ NumericFits 38 e.amount0 ∧ NumericFits 38 e.amount1 ∧
  NumericFits 38 e.amountIn ∧ NumericFits 38 e.amountOut ∧ NumericFits 60 e.sqrtPriceX96 ∧
  NumericFits 38 e.liquidity

/-- `liquidity_event` (`20240101000001_initial_schema.sql:130-151`). -/
def LiquidityEvent.Storable (e : LiquidityEvent) : Prop :=
  VarcharFits 42 e.poolAddress ∧ VarcharFits 66 e.txHash ∧ VarcharFits 42 e.provider ∧
  NumericFits 38 e.token0Amount ∧ NumericFits 38 e.token1Amount ∧ NumericFits 38 e.liquidity ∧
  e.tickLower < e.tickUpper

/-- `token_transfer` (`20240101000001_initial_schema.sql:153-170`). -/
def TokenTransfer.Storable (t : TokenTransfer) : Prop :=
  VarcharFits 66 t.txHash ∧ VarcharFits 42 t.tokenAddress ∧ VarcharFits 42 t.fromAddr ∧
  VarcharFits 42 t.toAddr ∧ NumericFits 38 t.amount ∧ 0 ≤ t.amount

/-- `failed_transaction` (`20240101000001_initial_schema.sql:172-184`). -/
def FailedTransaction.Storable (f : FailedTransaction) : Prop :=
  VarcharFits 66 f.txHash ∧ Nullable TextFits f.revertReason ∧
  Nullable (VarcharFits 100) f.failingFunction ∧ 0 ≤ f.gasUsed

/-- `trace_log` (`20240101000001_initial_schema.sql:216-233`). -/
def TraceLog.Storable (t : TraceLog) : Prop :=
  VarcharFits 66 t.txHash ∧ VarcharFits 20 t.callType ∧ VarcharFits 42 t.fromAddr ∧
  Nullable (VarcharFits 42) t.toAddr ∧ NumericFits 38 t.value ∧ Nullable TextFits t.input ∧
  Nullable TextFits t.output ∧ Nullable TextFits t.error ∧ 0 ≤ t.callDepth

instance : DecidablePred Block.Storable := fun _ => inferInstanceAs (Decidable (_ ∧ _))
instance : DecidablePred Transaction.Storable := fun _ => inferInstanceAs (Decidable (_ ∧ _))
instance : DecidablePred SwapEvent.Storable := fun _ => inferInstanceAs (Decidable (_ ∧ _))
instance : DecidablePred LiquidityEvent.Storable := fun _ => inferInstanceAs (Decidable (_ ∧ _))
instance : DecidablePred TokenTransfer.Storable := fun _ => inferInstanceAs (Decidable (_ ∧ _))
instance : DecidablePred FailedTransaction.Storable := fun _ => inferInstanceAs (Decidable (_ ∧ _))
instance : DecidablePred TraceLog.Storable := fun _ => inferInstanceAs (Decidable (_ ∧ _))

/-- The key of `swap_event`. -/
def SwapEvent.key (e : SwapEvent) : String × Int := (e.txHash, e.logIndex)

/-- The key of `liquidity_event`. -/
def LiquidityEvent.key (e : LiquidityEvent) : String × Int := (e.txHash, e.logIndex)

/-- The key of `token_transfer`. -/
def TokenTransfer.key (t : TokenTransfer) : String × Int := (t.txHash, t.logIndex)

/-- The tables the indexer writes. `indexerCheckpoint` is the row of chain 1, if there is one. -/
structure Database where
  block : Lib.KeyedTable Block.blockNumber
  transaction : Lib.KeyedTable Transaction.txHash
  swapEvent : Lib.KeyedTable SwapEvent.key
  liquidityEvent : Lib.KeyedTable LiquidityEvent.key
  tokenTransfer : Lib.KeyedTable TokenTransfer.key
  traceLog : Lib.SerialTable TraceLog
  failedTransaction : Lib.KeyedTable FailedTransaction.txHash
  indexerCheckpoint : Option Int

/-- The tables as the migrations leave them. -/
def Database.empty : Database := ⟨∅, ∅, ∅, ∅, ∅, ∅, ∅, none⟩

/-- The name of a table in an error. -/
inductive Table where
  | block
  | transaction
  | swapEvent
  | liquidityEvent
  | tokenTransfer
  | traceLog
  | failedTransaction
  deriving DecidableEq, Repr

/-- Why an `INSERT` fails: a row breaks a column type or a `CHECK`, or a new row refers to a
row that does not exist. -/
inductive DbError where
  | notStorable (table : Table)
  | foreignKey (table : Table)
  deriving DecidableEq, Repr

end TxIndexer.Db
