import TxIndexer.Db.AdminQueries
import TxIndexer.Db.FailedTxQueries

/-!
# Lookup tables

`function_signature` and `category_diagnosis`, as their migrations seed them
(`migrations/20240106000001_add_function_signature.sql`,
`migrations/20240107000001_add_category_diagnosis.sql`,
`migrations/20240109000001_subdivide_categories.sql`), and the two queries that read them. A seed
is inserted `ON CONFLICT DO NOTHING`.
-/

namespace TxIndexer.Db

open Lib

/-- `FunctionSignature` (`models.rs:689-700`). -/
structure FunctionSignature where
  selector : String
  name : String
  signature : String
  source : Option String
  createdAt : Int
  deriving DecidableEq, Repr

/-- `CategoryDiagnosis` (`models.rs:742-753`). -/
structure CategoryDiagnosis where
  errorCategory : String
  message : String
  recommendedAction : Option String
  source : Option String
  createdAt : Int
  deriving DecidableEq, Repr

/-- The two tables. -/
structure Lookups where
  functionSignature : KeyedTable FunctionSignature.selector
  categoryDiagnosis : KeyedTable CategoryDiagnosis.errorCategory

/-- `get_function_signature` (`queries.rs:1434-1449`). -/
def getFunctionSignature (sql : SqlLower) (t : Lookups) (selector : String) :
    Option FunctionSignature :=
  t.functionSignature.lookup (sql.lower selector)

/-- `get_category_diagnosis` (`queries.rs:1409-1424`). -/
def getCategoryDiagnosis (t : Lookups) (errorCategoryWire : String) : Option CategoryDiagnosis :=
  t.categoryDiagnosis.lookup errorCategoryWire

/-! ## Seeds -/

/-- The signatures of `20240106000001_add_function_signature.sql`, at the time of the migration. -/
def functionSignatureSeed (now : Int) : List FunctionSignature :=
  let row selector name signature source := ⟨selector, name, signature, some source, now⟩
  [ row "0xa9059cbb" "transfer" "transfer(address,uint256)" "erc20",
    row "0x095ea7b3" "approve" "approve(address,uint256)" "erc20",
    row "0x23b872dd" "transferFrom" "transferFrom(address,address,uint256)" "erc20",
    row "0x70a08231" "balanceOf" "balanceOf(address)" "erc20",
    row "0xdd62ed3e" "allowance" "allowance(address,address)" "erc20",
    row "0x414bf389" "exactInputSingle"
      "exactInputSingle((address,address,uint24,address,uint256,uint256,uint256,uint160))"
      "uniswap-v3-router",
    row "0xdb3e2198" "exactOutputSingle"
      "exactOutputSingle((address,address,uint24,address,uint256,uint256,uint256,uint160))"
      "uniswap-v3-router",
    row "0xc04b8d59" "exactInput" "exactInput((bytes,address,uint256,uint256,uint256))"
      "uniswap-v3-router",
    row "0xf28c0498" "exactOutput" "exactOutput((bytes,address,uint256,uint256,uint256))"
      "uniswap-v3-router",
    row "0xac9650d8" "multicall" "multicall(bytes[])" "uniswap-v3-router",
    row "0x5ae401dc" "multicall" "multicall(uint256,bytes[])" "uniswap-v3-router",
    row "0xa1671295" "createPool" "createPool(address,address,uint24)" "uniswap-v3-factory",
    row "0x3c8a7d8d" "mint" "mint(address,int24,int24,uint128,bytes)" "uniswap-v3-pool",
    row "0xa34123a7" "burn" "burn(int24,int24,uint128)" "uniswap-v3-pool",
    row "0x4f1eb3d8" "collect" "collect(address,int24,int24,uint128,uint128)" "uniswap-v3-pool",
    row "0xd0e30db0" "deposit" "deposit()" "weth9",
    row "0x2e1a7d4d" "withdraw" "withdraw(uint256)" "weth9" ]

/-- The diagnoses of `20240107000001_add_category_diagnosis.sql`. -/
def categoryDiagnosisSeed (now : Int) : List CategoryDiagnosis :=
  let row category message action := ⟨category, message, some action, some "builtin", now⟩
  [ row "UNKNOWN"
      "The exact failure mode could not be classified from the trace alone."
      "Inspect root_cause and the call_tree; raise an issue with the tx hash.",
    row "INSUFFICIENT_BALANCE"
      "Sender lacks the token or ETH balance needed for the operation."
      "Verify the sender holds enough of the input token (or wrap ETH first).",
    row "SLIPPAGE_EXCEEDED"
      "The trade output was below the minimum acceptable amount (price slippage)."
      "Increase slippage tolerance, or split the trade to reduce price impact.",
    row "DEADLINE_EXPIRED"
      "The transaction was mined after its specified deadline."
      "Resubmit with a later deadline (or a tighter gas-price target).",
    row "UNAUTHORIZED"
      "The caller lacks permission for this operation (ownership or approval)."
      "Approve the spender first, or confirm the caller is the owner.",
    row "TRANSFER_FAILED"
      "An ERC-20 transfer reverted (returned false or threw)."
      "Check token balance, allowance, and whether the token has transfer hooks." ]

/-- The diagnoses that `20240109000001_subdivide_categories.sql` adds. -/
def subdividedDiagnosisSeed (now : Int) : List CategoryDiagnosis :=
  let row category message action := ⟨category, message, some action, some "builtin", now⟩
  [ row "SLIPPAGE_AMOUNT_OUT"
      "Trade output fell below the minimum amount you specified (buy-side slippage)."
      "Increase amountOutMin tolerance, or split the trade to lower price impact.",
    row "SLIPPAGE_AMOUNT_IN"
      "Trade required more input than the maximum you specified (sell-side slippage)."
      "Increase amountInMax tolerance, or split the trade to lower price impact.",
    row "SLIPPAGE_PRICE_IMPACT"
      "Pool price moved past the allowed limit during execution."
      "Widen sqrtPriceLimitX96 (or remove the limit) and consider splitting the trade.",
    row "INSUFFICIENT_ALLOWANCE"
      "The spender lacks ERC-20 allowance for this token transfer."
      "Call approve(spender, amount) on the token before the trade or rerun." ]

/-- The three migrations, run at their times. -/
def Lookups.migrate (t : Lookups) (now now' now'' : Int) : Lookups where
  functionSignature := t.functionSignature.insertNew (functionSignatureSeed now)
  categoryDiagnosis :=
    (t.categoryDiagnosis.insertNew (categoryDiagnosisSeed now')).insertNew
      (subdividedDiagnosisSeed now'')

/-- After the migrations every category has a diagnosis, whatever the tables held before. -/
theorem getCategoryDiagnosis_migrate (t : Lookups) (now now' now'' : Int) (c : ErrorCategory) :
    ∃ d, getCategoryDiagnosis (t.migrate now now' now'') c.asWire = some d ∧
      d.errorCategory = c.asWire := by
  have hkeys : (categoryDiagnosisSeed now').map (·.errorCategory) ++
      (subdividedDiagnosisSeed now'').map (·.errorCategory) =
      ["UNKNOWN", "INSUFFICIENT_BALANCE", "SLIPPAGE_EXCEEDED", "DEADLINE_EXPIRED", "UNAUTHORIZED",
        "TRANSFER_FAILED", "SLIPPAGE_AMOUNT_OUT", "SLIPPAGE_AMOUNT_IN", "SLIPPAGE_PRICE_IMPACT",
        "INSUFFICIENT_ALLOWANCE"] := rfl
  have hseeded : c.asWire ∈ (categoryDiagnosisSeed now').map (·.errorCategory) ++
      (subdividedDiagnosisSeed now'').map (·.errorCategory) := by
    rw [hkeys]
    cases c <;> decide
  have hkey : c.asWire ∈ (t.migrate now now' now'').categoryDiagnosis.keys := by
    rcases List.mem_append.mp hseeded with hfirst | hsecond
    · obtain ⟨r, hr, hkey⟩ := List.mem_map.mp hfirst
      rw [← hkey]
      exact KeyedTable.keys_subset_insertNew _ _ (KeyedTable.mem_keys_insertNew _ _ r hr)
    · obtain ⟨r, hr, hkey⟩ := List.mem_map.mp hsecond
      rw [← hkey]
      exact KeyedTable.mem_keys_insertNew _ _ r hr
  cases hlookup : getCategoryDiagnosis (t.migrate now now' now'') c.asWire with
  | none => exact absurd hkey (KeyedTable.lookup_eq_none.mp hlookup)
  | some d => exact ⟨d, rfl, (KeyedTable.lookup_eq_some.mp hlookup).2⟩

end TxIndexer.Db
