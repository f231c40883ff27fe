import TxIndexer.Decoder.Events
import Mathlib.Algebra.BigOperators.Group.List.Basic
import Mathlib.Algebra.Order.BigOperators.Group.List

/-!
# The direction of a swap

The amounts of a `Swap` log are the changes of the pool's two balances: what was paid in is the
positive one and what was paid out the negative one, whichever token each is of. `decode_swap`
looks at the sign of the first amount only.
-/

namespace TxIndexer.Proofs

open Decoder

/-- The pool did not gain both tokens, nor lose both. -/
def Opposed (amount0 amount1 : Int) : Prop :=
  ¬ (0 < amount0 ∧ 0 < amount1) ∧ ¬ (amount0 < 0 ∧ amount1 < 0)

/-- `amount_in` is what the pool gained and `amount_out` what it lost. -/
def Directed (s : DecodedSwap) : Prop :=
  s.amountIn = max s.amount0 s.amount1 ∧ 0 ≤ s.amountIn ∧
    s.amountOut = -min s.amount0 s.amount1 ∧ 0 ≤ s.amountOut

/-- Nothing of token 0 moved and token 1 was paid in. -/
def PaidOnlyToken1 (amount0 amount1 : Int) : Prop := amount0 = 0 ∧ 0 < amount1

instance (amount0 amount1 : Int) : Decidable (Opposed amount0 amount1) :=
  inferInstanceAs (Decidable (¬ (_ ∧ _) ∧ ¬ (_ ∧ _)))

instance (s : DecodedSwap) : Decidable (Directed s) :=
  inferInstanceAs (Decidable (_ ∧ _ ∧ _ ∧ _))

instance (amount0 amount1 : Int) : Decidable (PaidOnlyToken1 amount0 amount1) :=
  inferInstanceAs (Decidable (_ ∧ _))

variable {abi : EventAbi} {topics : List B256} {data : Bytes} {ctx : LogContext}
  {fields : SwapFields}

/-- A log with the signature of `Swap` that the ABI decoder accepts becomes a swap. -/
theorem decodeLog_swap (htopic : topics.head? = some abi.swapSignatureHash)
    (hfields : abi.swapDecodeRawLog topics data = .ok fields) :
    decodeLog abi topics data ctx = .ok (.swap (swapOf ctx fields)) := by
  simp only [decodeLog, htopic, if_true]
  rw [decodeSwap_eq, hfields]
  rfl

/-- The amounts are what the pool gained and lost, but where only token 1 was paid in. -/
theorem swapOf_amounts (ctx : LogContext)
    (h : Opposed fields.amount0.toInt fields.amount1.toInt) :
    (swapOf ctx fields).amountIn =
      (if PaidOnlyToken1 fields.amount0.toInt fields.amount1.toInt then 0
        else max fields.amount0.toInt fields.amount1.toInt) ∧
    (swapOf ctx fields).amountOut =
      (if PaidOnlyToken1 fields.amount0.toInt fields.amount1.toInt then fields.amount1.toInt
        else -min fields.amount0.toInt fields.amount1.toInt) := by
  obtain ⟨hgain, hlose⟩ := h
  simp only [swapOf, PaidOnlyToken1]
  by_cases hsign : 0 ≤ fields.amount0.toInt
  · simp only [if_pos hsign]
    omega
  · simp only [if_neg hsign]
    omega

theorem directed_swapOf_iff (h : Opposed fields.amount0.toInt fields.amount1.toInt) :
    Directed (swapOf ctx fields) ↔ ¬ PaidOnlyToken1 fields.amount0.toInt fields.amount1.toInt := by
  obtain ⟨hin, hout⟩ := swapOf_amounts ctx h
  have h0 : (swapOf ctx fields).amount0 = fields.amount0.toInt := rfl
  have h1 : (swapOf ctx fields).amount1 = fields.amount1.toInt := rfl
  rw [Directed, hin, hout, h0, h1]
  by_cases hpaid : PaidOnlyToken1 fields.amount0.toInt fields.amount1.toInt
  · rw [if_pos hpaid, if_pos hpaid]
    refine iff_of_false (fun hdirected => ?_) (not_not.mpr hpaid)
    obtain ⟨hzero, hpos⟩ := hpaid
    omega
  · rw [if_neg hpaid, if_neg hpaid]
    obtain ⟨hgain, hlose⟩ := h
    exact iff_of_true ⟨rfl, by omega, rfl, by omega⟩ hpaid

/-- The two amounts exchanged, `amount_in` and `amount_out` stay the same. -/
theorem exchanged_iff {fields' : SwapFields} {ctx' : LogContext}
    (h : Opposed fields.amount0.toInt fields.amount1.toInt)
    (h0 : fields'.amount0 = fields.amount1) (h1 : fields'.amount1 = fields.amount0) :
    ((swapOf ctx' fields').amountIn = (swapOf ctx fields).amountIn ∧
      (swapOf ctx' fields').amountOut = (swapOf ctx fields).amountOut) ↔
    ¬ PaidOnlyToken1 fields.amount0.toInt fields.amount1.toInt ∧
      ¬ PaidOnlyToken1 fields.amount1.toInt fields.amount0.toInt := by
  have h' : Opposed fields'.amount0.toInt fields'.amount1.toInt := by
    rw [h0, h1]
    exact ⟨fun hgain => h.1 hgain.symm, fun hlose => h.2 hlose.symm⟩
  obtain ⟨hin, hout⟩ := swapOf_amounts ctx h
  obtain ⟨hin', hout'⟩ := swapOf_amounts ctx' h'
  rw [hin, hout, hin', hout', h0, h1]
  by_cases hpaid : PaidOnlyToken1 fields.amount0.toInt fields.amount1.toInt
  · -- one of the two says that nothing was paid in, and the other does not
    refine iff_of_false (fun hsame => ?_) fun hneither => hneither.1 hpaid
    have hother : ¬ PaidOnlyToken1 fields.amount1.toInt fields.amount0.toInt :=
      fun hpaid' => absurd hpaid'.1 hpaid.2.ne'
    rw [if_pos hpaid, if_neg hother] at hsame
    exact absurd hsame.1 (lt_max_of_lt_left hpaid.2).ne'
  · by_cases hpaid' : PaidOnlyToken1 fields.amount1.toInt fields.amount0.toInt
    · refine iff_of_false (fun hsame => ?_) fun hneither => hneither.2 hpaid'
      rw [if_neg hpaid, if_pos hpaid'] at hsame
      exact absurd hsame.1 (lt_max_of_lt_left hpaid'.2).ne
    · rw [if_neg hpaid, if_neg hpaid', if_neg hpaid, if_neg hpaid']
      exact iff_of_true ⟨max_comm _ _, congrArg Neg.neg (min_comm _ _)⟩ ⟨hpaid, hpaid'⟩

/-- A `Swap` log decodes to what the pool gained and lost unless only token 1 was paid in, with
no token 0 paid out; exchanging its amounts changes nothing unless one of them is zero and the
other positive. -/
theorem swap_direction_iff (htopic : topics.head? = some abi.swapSignatureHash)
    (hfields : abi.swapDecodeRawLog topics data = .ok fields)
    (h : Opposed fields.amount0.toInt fields.amount1.toInt) :
    ∃ s, decodeLog abi topics data ctx = .ok (.swap s) ∧
      s.amount0 = fields.amount0.toInt ∧ s.amount1 = fields.amount1.toInt ∧
      (Directed s ↔ ¬ PaidOnlyToken1 s.amount0 s.amount1) ∧
      ∀ topics' data' ctx' fields', topics'.head? = some abi.swapSignatureHash →
        abi.swapDecodeRawLog topics' data' = .ok fields' →
        fields'.amount0 = fields.amount1 → fields'.amount1 = fields.amount0 →
        ∃ s', decodeLog abi topics' data' ctx' = .ok (.swap s') ∧
          ((s'.amountIn = s.amountIn ∧ s'.amountOut = s.amountOut) ↔
            ¬ PaidOnlyToken1 s.amount0 s.amount1 ∧ ¬ PaidOnlyToken1 s.amount1 s.amount0) := by
  refine ⟨swapOf ctx fields, decodeLog_swap htopic hfields, rfl, rfl, directed_swapOf_iff h, ?_⟩
  intro topics' data' ctx' fields' htopic' hfields' h0 h1
  exact ⟨swapOf ctx' fields', decodeLog_swap htopic' hfields', exchanged_iff h h0 h1⟩

/-! ## The volume of a group of swaps -/

/-- `s` was decoded from a log with opposed amounts. -/
def DecodedOpposed (s : DecodedSwap) : Prop :=
  ∃ ctx fields, Opposed fields.amount0.toInt fields.amount1.toInt ∧ s = swapOf ctx fields

/-- `SUM(amount_in)`, the volume of `vw_daily_swap_volume` and of `vw_pool_fee_revenue`. -/
def totalAmountIn (swaps : List DecodedSwap) : Int := (swaps.map (·.amountIn)).sum

/-- What the pools gained in these swaps. -/
def totalPaid (swaps : List DecodedSwap) : Int := (swaps.map fun s => max s.amount0 s.amount1).sum

theorem DecodedOpposed.amountIn_le {s : DecodedSwap} (h : DecodedOpposed s) :
    s.amountIn ≤ max s.amount0 s.amount1 ∧
      (s.amountIn = max s.amount0 s.amount1 ↔ ¬ PaidOnlyToken1 s.amount0 s.amount1) := by
  obtain ⟨ctx, fields, h, rfl⟩ := h
  have h0 : (swapOf ctx fields).amount0 = fields.amount0.toInt := rfl
  have h1 : (swapOf ctx fields).amount1 = fields.amount1.toInt := rfl
  rw [(swapOf_amounts ctx h).1, h0, h1]
  by_cases hpaid : PaidOnlyToken1 fields.amount0.toInt fields.amount1.toInt
  · rw [if_pos hpaid]
    obtain ⟨hzero, hpos⟩ := id hpaid
    exact ⟨by omega, iff_of_false (by omega) (not_not.mpr hpaid)⟩
  · rw [if_neg hpaid]
    exact ⟨le_refl _, iff_of_true rfl hpaid⟩

theorem totalAmountIn_le {swaps : List DecodedSwap} (h : ∀ s ∈ swaps, DecodedOpposed s) :
    totalAmountIn swaps ≤ totalPaid swaps := by
  have hall : ∀ s ∈ swaps, s.amountIn ≤ max s.amount0 s.amount1 :=
    fun s hs => (h s hs).amountIn_le.1
  exact List.sum_le_sum hall

/-- The reported volume is what was paid in exactly when no swap of the group paid in token 1
for nothing. -/
theorem totalAmountIn_eq_iff {swaps : List DecodedSwap} (h : ∀ s ∈ swaps, DecodedOpposed s) :
    totalAmountIn swaps = totalPaid swaps ↔
      ∀ s ∈ swaps, ¬ PaidOnlyToken1 s.amount0 s.amount1 := by
  induction swaps with
  | nil => exact iff_of_true rfl fun s hs => absurd hs List.not_mem_nil
  | cons s swaps ih =>
      rw [List.forall_mem_cons] at h ⊢
      obtain ⟨hle, hiff⟩ := h.1.amountIn_le
      have hrest := totalAmountIn_le h.2
      rw [← hiff, ← ih h.2]
      simp only [totalAmountIn, totalPaid, List.map_cons, List.sum_cons] at hrest ⊢
      omega

/-! ## A swap whose output rounds to nothing -/

/-- The data of a `Swap` with these amounts, at price 1 with liquidity 1. -/
def swapData (amount0 amount1 : BitVec 256) : Bytes :=
  [amount0.toNat, amount1.toNat, 2 ^ 96, 1, 0].flatMap (beBytes 32)

/-- The topics of a `Swap` from the router 5 to the trader 6. -/
def swapTopics : List B256 := [uniswapAbi.swapSignatureHash, 5, 6]

/-- Where the log is. -/
def swapContext : LogContext where
  address := "0xpool"
  txHash := "0xtx"
  logIndex := 0
  timestamp := 0

/-- The words of the data are read one by one. -/
theorem dataWord_flatMap {words : List Nat} {i : Nat} (h : i < words.length) :
    dataWord (words.flatMap (beBytes 32)) i = words[i] % 256 ^ 32 := by
  induction words generalizing i with
  | nil => exact absurd h (Nat.not_lt_zero i)
  | cons w words ih =>
      have hword : (beBytes 32 w).length = 32 := length_beBytes 32 w
      cases i with
      | zero =>
          rw [dataWord, List.flatMap_cons, Nat.mul_zero, List.drop_zero,
            List.take_left' hword, beNat_beBytes]
          rfl
      | succ i =>
          have hdrop : 32 * (i + 1) = (beBytes 32 w).length + 32 * i := by omega
          rw [dataWord, List.flatMap_cons, hdrop, List.drop_length_add_append, ← dataWord,
            ih (Nat.lt_of_succ_lt_succ h)]
          rfl

/-- The fields of such a log. -/
theorem swapDecodeRawLog_swapData (amount0 amount1 : BitVec 256) : ∃ fields,
    uniswapAbi.swapDecodeRawLog swapTopics (swapData amount0 amount1) = .ok fields ∧
      fields.amount0 = amount0 ∧ fields.amount1 = amount1 := by
  have hlength : (swapData amount0 amount1).length = 160 := by
    simp [swapData]
  simp only [uniswapAbi, swapTopics, hlength, le_refl, if_true]
  refine ⟨_, rfl, ?_, ?_⟩
  · show BitVec.ofNat 256 (dataWord _ 0) = amount0
    rw [swapData, dataWord_flatMap (by simp)]
    show BitVec.ofNat 256 (amount0.toNat % 2 ^ 256) = amount0
    rw [Nat.mod_eq_of_lt amount0.isLt, BitVec.ofNat_toNat, BitVec.setWidth_eq]
  · show BitVec.ofNat 256 (dataWord _ 1) = amount1
    rw [swapData, dataWord_flatMap (by simp)]
    show BitVec.ofNat 256 (amount1.toNat % 2 ^ 256) = amount1
    rw [Nat.mod_eq_of_lt amount1.isLt, BitVec.ofNat_toNat, BitVec.setWidth_eq]

/-- Ten of token 0 paid in for nine of token 1, and the other way round. -/
theorem swap_direction_iff_ten_for_nine : ∃ s,
    decodeLog uniswapAbi swapTopics (swapData 10 (-9)) swapContext = .ok (.swap s) ∧ Directed s ∧
    ∃ s', decodeLog uniswapAbi swapTopics (swapData (-9) 10) swapContext = .ok (.swap s') ∧
      s'.amountIn = s.amountIn ∧ s'.amountOut = s.amountOut := by
  obtain ⟨fields, hfields, hf0, hf1⟩ := swapDecodeRawLog_swapData 10 (-9)
  obtain ⟨fields', hfields', hf0', hf1'⟩ := swapDecodeRawLog_swapData (-9) 10
  have hopposed : Opposed fields.amount0.toInt fields.amount1.toInt := by
    rw [hf0, hf1]
    decide
  obtain ⟨s, hdecoded, h0, h1, hdirected, hexchanged⟩ :=
    swap_direction_iff rfl hfields hopposed
  obtain ⟨s', hdecoded', hsame⟩ := hexchanged swapTopics _ swapContext fields' rfl hfields'
    (hf0'.trans hf1.symm) (hf1'.trans hf0.symm)
  rw [hf0] at h0
  rw [hf1] at h1
  refine ⟨s, hdecoded, hdirected.mpr ?_, s', hdecoded', hsame.mpr ?_⟩
  · rw [h0, h1]
    decide
  · rw [h0, h1]
    decide

/-- A thousand of token 1 paid in, for an amount of token 0 that rounds to nothing: nothing is
reported paid in. -/
theorem dust_swap_not_directed : ∃ s,
    decodeLog uniswapAbi swapTopics (swapData 0 1000) swapContext = .ok (.swap s) ∧
    Opposed s.amount0 s.amount1 ∧ s.amountIn = 0 ∧ s.amountOut = 1000 ∧ ¬ Directed s := by
  obtain ⟨fields, hfields, h0, h1⟩ := swapDecodeRawLog_swapData 0 1000
  have hin : (swapOf swapContext fields).amountIn = 0 := by
    simp only [swapOf, h0, h1]
    decide
  have hout : (swapOf swapContext fields).amountOut = 1000 := by
    simp only [swapOf, h0, h1]
    decide
  have hopposed : Opposed fields.amount0.toInt fields.amount1.toInt := by
    rw [h0, h1]
    decide
  refine ⟨swapOf swapContext fields, decodeLog_swap rfl hfields, hopposed, hin, hout, ?_⟩
  intro hdirected
  have hmax := hdirected.1
  simp only [swapOf, h0, h1] at hmax
  exact absurd hmax (by decide)

end TxIndexer.Proofs
