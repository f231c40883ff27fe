import TxIndexer.Indexer.ProcessFailedTxs

/-!
# The category a failure is stored under

The classifier names ten categories and the enum of the database has them all, but
`process_failed_txs` maps the classifier's text back by a match that lists five.
-/

namespace TxIndexer.Proofs

open Decoder Db Indexer

variable {toLowercase : String → String}

/-- A keyword of the generic `INSUFFICIENT_BALANCE`. -/
def HasBalanceKeyword (lower : String) : Prop :=
  textContains lower "stf" ∨ textContains lower "insufficient" ∨ textContains lower "balance" ∨
    textContains lower "exceeds balance" ∨ textContains lower "not enough"

/-- A reason, in lower case, that belongs to one of the categories the generic ones were
subdivided into. -/
def SubdividedReason (lower : String) : Prop :=
  textContains lower "allowance" ∨ textContains lower "return amount is not enough" ∨
    textContains lower "min return" ∨
    (¬ HasBalanceKeyword lower ∧ (textContains lower "too little received" ∨
      textContains lower "too much requested" ∨ textContains lower "price slipped" ∨
      textContains lower "amount out"))

/-- The match keeps the texts it lists, and `UNKNOWN`. -/
theorem storedCategory_asWire_iff (c : ErrorCategory) :
    (storedCategory c.asWire).asWire = c.asWire ↔
      c ≠ .insufficientAllowance ∧ c ≠ .slippageAmountOut ∧ c ≠ .slippageAmountIn ∧
        c ≠ .slippagePriceImpact := by
  cases c <;> decide

/-- The enum has a variant for each text the classifier returns, and the variant is one of the
four the match forgets exactly when the reason is a subdivided one. -/
theorem classifyError_eq_asWire (toLowercase : String → String) (reason : String) :
    ∃ c : ErrorCategory, classifyError toLowercase reason = c.asWire ∧
      ((c ≠ .insufficientAllowance ∧ c ≠ .slippageAmountOut ∧ c ≠ .slippageAmountIn ∧
        c ≠ .slippagePriceImpact) ↔ ¬ SubdividedReason (toLowercase reason)) := by
  unfold classifyError SubdividedReason HasBalanceKeyword
  dsimp only
  generalize toLowercase reason = lower
  -- which text a keyword is does not matter, only which test comes first
  generalize textContains lower "allowance" = allowance
  generalize textContains lower "return amount is not enough" = returnAmount
  generalize textContains lower "min return" = minReturn
  generalize textContains lower "stf" = stf
  generalize textContains lower "insufficient" = insufficient
  generalize textContains lower "balance" = balance
  generalize textContains lower "exceeds balance" = exceedsBalance
  generalize textContains lower "not enough" = notEnough
  generalize textContains lower "too little received" = tooLittle
  generalize textContains lower "too much requested" = tooMuch
  generalize textContains lower "price slipped" = priceSlipped
  generalize textContains lower "amount out" = amountOut
  simp only [Bool.or_eq_true, or_assoc]
  by_cases hallowance : allowance = true
  · rw [if_pos hallowance]
    exact ⟨.insufficientAllowance, rfl,
      iff_of_false (fun h => h.1 rfl) (not_not_intro (.inl hallowance))⟩
  rw [if_neg hallowance]
  by_cases hreturn : returnAmount = true ∨ minReturn = true
  · rw [if_pos hreturn]
    refine ⟨.slippageAmountOut, rfl, iff_of_false (fun h => h.2.1 rfl) (not_not_intro (.inr ?_))⟩
    rcases hreturn with h | h
    · exact .inl h
    · exact .inr (.inl h)
  rw [if_neg hreturn]
  rw [not_or] at hreturn
  by_cases hbalance : stf = true ∨ insufficient = true ∨ balance = true ∨ exceedsBalance = true ∨
    notEnough = true
  · rw [if_pos hbalance]
    refine ⟨.insufficientBalance, rfl, iff_of_true ⟨nofun, nofun, nofun, nofun⟩ ?_⟩
    rintro (h | h | h | ⟨h, -⟩)
    · exact hallowance h
    · exact hreturn.1 h
    · exact hreturn.2 h
    · exact h hbalance
  rw [if_neg hbalance]
  by_cases hlittle : tooLittle = true
  · rw [if_pos hlittle]
    exact ⟨.slippageAmountOut, rfl, iff_of_false (fun h => h.2.1 rfl)
      (not_not_intro (.inr (.inr (.inr ⟨hbalance, .inl hlittle⟩))))⟩
  rw [if_neg hlittle]
  by_cases hmuch : tooMuch = true
  · rw [if_pos hmuch]
    exact ⟨.slippageAmountIn, rfl, iff_of_false (fun h => h.2.2.1 rfl)
      (not_not_intro (.inr (.inr (.inr ⟨hbalance, .inr (.inl hmuch)⟩))))⟩
  rw [if_neg hmuch]
  by_cases hslipped : priceSlipped = true ∨ amountOut = true
  · rw [if_pos hslipped]
    exact ⟨.slippagePriceImpact, rfl, iff_of_false (fun h => h.2.2.2 rfl)
      (not_not_intro (.inr (.inr (.inr ⟨hbalance, .inr (.inr hslipped)⟩))))⟩
  rw [if_neg hslipped]
  have hplain : ¬ (allowance = true ∨ returnAmount = true ∨ minReturn = true ∨
      (¬ (stf = true ∨ insufficient = true ∨ balance = true ∨ exceedsBalance = true ∨
        notEnough = true) ∧ (tooLittle = true ∨ tooMuch = true ∨ priceSlipped = true ∨
        amountOut = true))) := by
    rintro (h | h | h | ⟨-, h | h | h⟩)
    · exact hallowance h
    · exact hreturn.1 h
    · exact hreturn.2 h
    · exact hlittle h
    · exact hmuch h
    · exact hslipped h
  split
  · exact ⟨.slippageExceeded, rfl, iff_of_true ⟨nofun, nofun, nofun, nofun⟩ hplain⟩
  split
  · exact ⟨.deadlineExpired, rfl, iff_of_true ⟨nofun, nofun, nofun, nofun⟩ hplain⟩
  split
  · exact ⟨.unauthorized, rfl, iff_of_true ⟨nofun, nofun, nofun, nofun⟩ hplain⟩
  split
  · exact ⟨.transferFailed, rfl, iff_of_true ⟨nofun, nofun, nofun, nofun⟩ hplain⟩
  exact ⟨.unknown, rfl, iff_of_true ⟨nofun, nofun, nofun, nofun⟩ hplain⟩

/-- The classification of a reason is kept exactly when it is not a subdivided one. -/
theorem storedCategory_classifyError_iff (reason : String) :
    (storedCategory (classifyError toLowercase reason)).asWire = classifyError toLowercase reason ↔
      ¬ SubdividedReason (toLowercase reason) := by
  obtain ⟨c, hc, hiff⟩ := classifyError_eq_asWire toLowercase reason
  rw [hc, storedCategory_asWire_iff, hiff]

/-- The category of a row is the classification of its reason, and `UNKNOWN` without one. -/
def CategoryKept (toLowercase : String → String) (root : FlatFrame) (row : FailedTransaction) :
    Prop :=
  (∀ reason, revertReasonOf root = .ok (some reason) →
    row.errorCategory.asWire = classifyError toLowercase reason) ∧
  (revertReasonOf root = .ok none → row.errorCategory = .unknown)

/-- The row of a failed transaction whose trace parses keeps the classification of its revert
reason exactly when the reason is not a subdivided one. -/
theorem category_kept_iff {answer : String → TraceAnswer} {timestamp : Int}
    {txHashes : List String} {txHash : String} {json : Json} {root : CallFrame}
    {traceLogs : List TraceLog} {failedTxs : List FailedTransaction} {row : FailedTransaction}
    (hanswer : answer txHash = .callTracer json)
    (hroot : parseCallFrame toLowercase json = .ok root)
    (hrows : processFailedTxs toLowercase answer timestamp txHashes = .ok (traceLogs, failedTxs))
    (hrow : row ∈ failedTxs) (hhash : row.txHash = txHash) :
    CategoryKept toLowercase (root.toFlatFrame 0) row ↔
      ∀ reason, revertReasonOf (root.toFlatFrame 0) = .ok (some reason) →
        ¬ SubdividedReason (toLowercase reason) := by
  have hdiagnose := (processFailedTxs_diagnosis hanswer hroot hrows).2 row hrow hhash
  obtain ⟨hreason, hcategory, -⟩ := diagnose_cases hdiagnose
  rw [CategoryKept, hreason]
  cases hstored : (diagnosisOf row).revertReason with
  | none =>
      rw [hstored] at hcategory
      exact iff_of_true ⟨nofun, fun _ => hcategory⟩ nofun
  | some reason =>
      rw [hstored] at hcategory
      rw [show row.errorCategory = _ from hcategory]
      constructor
      · intro hkept reason' heq
        cases heq
        exact (storedCategory_classifyError_iff reason).mp (hkept.1 reason rfl)
      · intro hplain
        refine ⟨?_, nofun⟩
        intro reason' heq
        cases heq
        exact (storedCategory_classifyError_iff reason).mpr (hplain reason rfl)

/-- A call that reverted with `Error("ERC20: insufficient allowance")`. -/
def allowanceFrame : Json := .object [
  ("type", .string "CALL"), ("from", .string "0x0000000000000000000000000000000000000005"),
  ("to", .string "0x0000000000000000000000000000000000000006"), ("value", .string "0x0"),
  ("gasUsed", .string "0x64"), ("input", .string "0x23b872dd"),
  ("output", .string ("0x08c379a0" ++
    "0000000000000000000000000000000000000000000000000000000000000020" ++
    "000000000000000000000000000000000000000000000000000000000000001d" ++
    "45524332303a20696e73756666696369656e7420616c6c6f77616e6365000000")),
  ("error", .string "execution reverted")]

/-- The diagnoses of the rows of a transaction with that trace. -/
theorem allowanceFrame_rows :
    (processFailedTxs asciiLowercase (fun _ => .callTracer allowanceFrame) 1700000000
      [hashHex 7]).map (fun rows => rows.2.map diagnosisOf) =
        .ok [⟨.unknown, some "ERC20: insufficient allowance", some "0x23b872dd"⟩] := by
  decide +kernel

/-- It gets a row, with that reason and the category `UNKNOWN`. -/
theorem allowanceFrame_row : ∃ root traceLogs failedTxs row,
    parseCallFrame asciiLowercase allowanceFrame = .ok root ∧
    processFailedTxs asciiLowercase (fun _ => .callTracer allowanceFrame) 1700000000
      [hashHex 7] = .ok (traceLogs, failedTxs) ∧
    row ∈ failedTxs ∧ row.txHash = hashHex 7 ∧
    revertReasonOf (root.toFlatFrame 0) = .ok (some "ERC20: insufficient allowance") ∧
    row.errorCategory = .unknown := by
  obtain ⟨root, hroot⟩ : ∃ root, parseCallFrame asciiLowercase allowanceFrame = .ok root :=
    ⟨_, rfl⟩
  have hrows := allowanceFrame_rows
  cases hrun : processFailedTxs asciiLowercase (fun _ => .callTracer allowanceFrame) 1700000000
      [hashHex 7] with
  | error p => rw [hrun] at hrows; cases hrows
  | ok rows =>
      rw [hrun] at hrows
      obtain ⟨hexists, hall⟩ := processFailedTxs_diagnosis rfl hroot hrun
      obtain ⟨row, hrow, hhash⟩ := hexists List.mem_cons_self
      have hdiagnosis : diagnosisOf row =
          ⟨.unknown, some "ERC20: insufficient allowance", some "0x23b872dd"⟩ := by
        have hlist : rows.2.map diagnosisOf = [_] := Except.ok.inj hrows
        exact List.mem_singleton.mp (hlist ▸ List.mem_map_of_mem hrow)
      have hreason := (diagnose_cases (hall row hrow hhash)).1
      rw [hdiagnosis] at hreason
      exact ⟨root, rows.1, rows.2, row, hroot, rfl, hrow, hhash, hreason,
        congrArg Diagnosis.errorCategory hdiagnosis⟩

/-- The condition fails there. -/
theorem category_kept_iff_allowance : ∃ root row,
    parseCallFrame asciiLowercase allowanceFrame = .ok root ∧
    (CategoryKept asciiLowercase (root.toFlatFrame 0) row ↔
      ∀ reason, revertReasonOf (root.toFlatFrame 0) = .ok (some reason) →
        ¬ SubdividedReason (asciiLowercase reason)) := by
  obtain ⟨root, traceLogs, failedTxs, row, hroot, hrun, hrow, hhash, -⟩ := allowanceFrame_row
  exact ⟨root, row, hroot, category_kept_iff rfl hroot hrun hrow hhash⟩

/-- `INSUFFICIENT_ALLOWANCE` is lost. -/
theorem allowance_lost : ∃ root traceLogs failedTxs row,
    parseCallFrame asciiLowercase allowanceFrame = .ok root ∧
    processFailedTxs asciiLowercase (fun _ => .callTracer allowanceFrame) 1700000000
      [hashHex 7] = .ok (traceLogs, failedTxs) ∧
    row ∈ failedTxs ∧ row.txHash = hashHex 7 ∧
    ¬ CategoryKept asciiLowercase (root.toFlatFrame 0) row := by
  obtain ⟨root, traceLogs, failedTxs, row, hroot, hrun, hrow, hhash, hreason, hunknown⟩ :=
    allowanceFrame_row
  refine ⟨root, traceLogs, failedTxs, row, hroot, hrun, hrow, hhash, ?_⟩
  intro hkept
  have hlost := hkept.1 _ hreason
  rw [hunknown] at hlost
  exact absurd hlost (by decide +kernel)

end TxIndexer.Proofs
