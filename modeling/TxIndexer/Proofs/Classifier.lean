import Mathlib.Data.Bool.AllAny
import TxIndexer.Decoder.Classifier
import TxIndexer.Decoder.RevertReason

/-!
# What the classifier matches

The rules of `classify_error` as a table, the first matching rule of which decides. The priority
rule above the function (specific categories before the generic ones) is broken by one row of the
table; and no row matches the hexadecimal text of a payload that is not `Error(string)`.
-/

namespace TxIndexer.Proofs

open Decoder

variable {toLowercase : String → String}

/-- The specific rules that are tried first. -/
def leadingRules : List (List String × String) := [
  (["allowance"], "INSUFFICIENT_ALLOWANCE"),
  (["return amount is not enough", "min return"], "SLIPPAGE_AMOUNT_OUT")]

/-- The generic rule that is tried before the other specific ones. -/
def balanceRule : List String × String :=
  (["stf", "insufficient", "balance", "exceeds balance", "not enough"], "INSUFFICIENT_BALANCE")

/-- The specific rules after it. -/
def trailingRules : List (List String × String) := [
  (["too little received"], "SLIPPAGE_AMOUNT_OUT"),
  (["too much requested"], "SLIPPAGE_AMOUNT_IN"),
  (["price slipped", "amount out"], "SLIPPAGE_PRICE_IMPACT")]

/-- The other generic rules. -/
def genericRules : List (List String × String) := [
  (["slippage"], "SLIPPAGE_EXCEEDED"),
  (["deadline", "too old", "expired", "transaction too old"], "DEADLINE_EXPIRED"),
  (["unauthorized", "ownable", "not owner", "forbidden", "access denied"], "UNAUTHORIZED"),
  (["transfer failed", "transfer_failed", "transfer_from_failed", "transfer from failed",
    "safe transfer", "safetransferfrom"], "TRANSFER_FAILED")]

/-- The tests of `classify_error` in their order, each with the category it returns. -/
def classifierRules : List (List String × String) :=
  leadingRules ++ balanceRule :: (trailingRules ++ genericRules)

/-- A keyword of a rule occurs in the text. -/
def ruleMatches (lower : String) (rule : List String × String) : Bool :=
  rule.1.any fun keyword => textContains lower keyword

/-- The first rule that matches decides. -/
theorem classifyError_eq_find? (toLowercase : String → String) (reason : String) :
    classifyError toLowercase reason =
      ((classifierRules.find? (ruleMatches (toLowercase reason))).map Prod.snd).getD "UNKNOWN" := by
  have hif : ∀ (b : Bool) (rule : List String × String) (rest : Option (List String × String)),
      ((if b then some rule else rest).map Prod.snd).getD "UNKNOWN" =
        if b then rule.2 else (rest.map Prod.snd).getD "UNKNOWN" := by
    intro b rule rest
    cases b <;> rfl
  have hfind : ∀ (p : List String × String → Bool) rule rules,
      List.find? p (rule :: rules) = if p rule then some rule else rules.find? p := by
    intro p rule rules
    rw [List.find?_cons]
    cases p rule <;> rfl
  simp only [classifierRules, leadingRules, balanceRule, trailingRules, genericRules,
    List.cons_append, List.nil_append, hfind, hif, List.find?_nil, ruleMatches, List.any_cons,
    List.any_nil, Bool.or_false, classifyError, Bool.or_assoc, Option.map_none, Option.getD_none]

/-- A text that no rule matches is `UNKNOWN`. -/
theorem classifyError_eq_unknown {reason : String}
    (h : ∀ rule ∈ classifierRules, ruleMatches (toLowercase reason) rule = false) :
    classifyError toLowercase reason = "UNKNOWN" := by
  have hnone : classifierRules.find? (ruleMatches (toLowercase reason)) = none := by
    rw [List.find?_eq_none]
    intro rule hrule
    simp [h rule hrule]
  rw [classifyError_eq_find?, hnone]
  rfl

/-! ## Specific categories and generic ones -/

/-- The categories the generic ones were subdivided into, with their keywords. -/
def specificKeywords : List (String × List String) := [
  ("INSUFFICIENT_ALLOWANCE", ["allowance"]),
  ("SLIPPAGE_AMOUNT_OUT", ["return amount is not enough", "min return", "too little received"]),
  ("SLIPPAGE_AMOUNT_IN", ["too much requested"]),
  ("SLIPPAGE_PRICE_IMPACT", ["price slipped", "amount out"])]

/-- The categories a reason falls back to. -/
def genericCategories : List String :=
  ["INSUFFICIENT_BALANCE", "SLIPPAGE_EXCEEDED", "DEADLINE_EXPIRED", "UNAUTHORIZED",
    "TRANSFER_FAILED"]

/-- `category` is specific and one of its keywords occurs in the text. -/
def SpecificKeywordIn (lower category : String) : Prop :=
  ∃ keywords, (category, keywords) ∈ specificKeywords ∧
    ∃ keyword ∈ keywords, textContains lower keyword

/-- A reason with a keyword of a specific category gets a specific category whose keyword occurs,
never a generic one. -/
def SpecificWins (toLowercase : String → String) (reason : String) : Prop :=
  (∃ category, SpecificKeywordIn (toLowercase reason) category) →
    SpecificKeywordIn (toLowercase reason) (classifyError toLowercase reason) ∧
      classifyError toLowercase reason ∉ genericCategories

/-- The generic balance rule matches before any specific rule does, and one of those after it
matches too. -/
def ShadowedReason (lower : String) : Prop :=
  (∀ rule ∈ leadingRules, ruleMatches lower rule = false) ∧ ruleMatches lower balanceRule ∧
    ∃ rule ∈ trailingRules, ruleMatches lower rule

theorem specificKeywordIn_of_rule {lower : String} {rule : List String × String}
    (hrule : rule ∈ leadingRules ++ trailingRules) (hmatch : ruleMatches lower rule) :
    SpecificKeywordIn lower rule.2 ∧ rule.2 ∉ genericCategories := by
  have htable : ∀ rule ∈ leadingRules ++ trailingRules,
      (∃ row ∈ specificKeywords, row.1 = rule.2 ∧ rule.1 ⊆ row.2) ∧
        rule.2 ∉ genericCategories := by decide
  obtain ⟨⟨row, hrow, hcategory, hkeywords⟩, hgeneric⟩ := htable rule hrule
  obtain ⟨keyword, hkeyword, hin⟩ := List.any_eq_true.mp hmatch
  refine ⟨⟨row.2, ?_, keyword, hkeywords hkeyword, hin⟩, hgeneric⟩
  rw [← hcategory]
  exact hrow

theorem rule_of_specificKeywordIn {lower category : String}
    (h : SpecificKeywordIn lower category) :
    ∃ rule ∈ leadingRules ++ trailingRules, ruleMatches lower rule := by
  have htable : ∀ row ∈ specificKeywords, ∀ keyword ∈ row.2,
      ∃ rule ∈ leadingRules ++ trailingRules, keyword ∈ rule.1 := by decide
  obtain ⟨keywords, hrow, keyword, hkeyword, hin⟩ := h
  obtain ⟨rule, hrule, hmem⟩ := htable (category, keywords) hrow keyword hkeyword
  exact ⟨rule, hrule, List.any_eq_true.mpr ⟨keyword, hmem, hin⟩⟩

/-- The category when some rule of a block matches and none before it does. -/
theorem classifyError_of_block {reason : String}
    (before block after : List (List String × String))
    (hrules : classifierRules = before ++ block ++ after)
    (hbefore : ∀ rule ∈ before, ruleMatches (toLowercase reason) rule = false)
    (hblock : ∃ rule ∈ block, ruleMatches (toLowercase reason) rule) :
    ∃ rule ∈ block, ruleMatches (toLowercase reason) rule ∧
      classifyError toLowercase reason = rule.2 := by
  have hnone : before.find? (ruleMatches (toLowercase reason)) = none := by
    rw [List.find?_eq_none]
    intro rule hrule
    simp [hbefore rule hrule]
  obtain ⟨rule, hfound⟩ := Option.isSome_iff_exists.mp (List.find?_isSome.mpr hblock)
  refine ⟨rule, List.mem_of_find?_eq_some hfound, List.find?_some hfound, ?_⟩
  rw [classifyError_eq_find?, hrules, List.find?_append, List.find?_append, hnone, hfound]
  rfl

/-- A specific keyword of which no leading rule knows is one of a trailing rule. -/
theorem trailing_of_specificKeywordIn {lower category : String}
    (hnone : ∀ rule ∈ leadingRules, ruleMatches lower rule = false)
    (h : SpecificKeywordIn lower category) : ∃ rule ∈ trailingRules, ruleMatches lower rule := by
  obtain ⟨rule, hrule, hmatch⟩ := rule_of_specificKeywordIn h
  rcases List.mem_append.mp hrule with hrule | hrule
  · rw [hnone rule hrule] at hmatch
    cases hmatch
  · exact ⟨rule, hrule, hmatch⟩

/-- A leading rule that matches decides. -/
theorem specificWins_of_leading {reason : String}
    (h : ∃ rule ∈ leadingRules, ruleMatches (toLowercase reason) rule) :
    SpecificWins toLowercase reason := by
  obtain ⟨rule, hrule, hmatch, hcategory⟩ := classifyError_of_block [] leadingRules _ rfl nofun h
  intro _
  rw [hcategory]
  exact specificKeywordIn_of_rule (List.mem_append_left _ hrule) hmatch

/-- After the leading rules the generic balance rule decides. -/
theorem classifyError_balance {reason : String}
    (hnone : ∀ rule ∈ leadingRules, ruleMatches (toLowercase reason) rule = false)
    (hbalance : ruleMatches (toLowercase reason) balanceRule) :
    classifyError toLowercase reason = "INSUFFICIENT_BALANCE" := by
  obtain ⟨rule, hrule, -, hcategory⟩ :=
    classifyError_of_block leadingRules [balanceRule] (trailingRules ++ genericRules) rfl hnone
      ⟨balanceRule, List.mem_singleton_self _, hbalance⟩
  rw [hcategory, List.mem_singleton.mp hrule]
  rfl

/-- When the balance rule does not match either, a trailing rule decides. -/
theorem specificWins_of_no_balance {reason : String}
    (hnone : ∀ rule ∈ leadingRules, ruleMatches (toLowercase reason) rule = false)
    (hbalance : ruleMatches (toLowercase reason) balanceRule = false) :
    SpecificWins toLowercase reason := by
  intro ⟨category, hkeyword⟩
  have hbefore : ∀ rule ∈ leadingRules ++ [balanceRule],
      ruleMatches (toLowercase reason) rule = false := by
    intro rule hrule
    rcases List.mem_append.mp hrule with hrule | hrule
    · exact hnone rule hrule
    · rw [List.mem_singleton.mp hrule]
      exact hbalance
  obtain ⟨rule, hrule, hmatch, hcategory⟩ :=
    classifyError_of_block (leadingRules ++ [balanceRule]) trailingRules genericRules rfl hbefore
      (trailing_of_specificKeywordIn hnone hkeyword)
  rw [hcategory]
  exact specificKeywordIn_of_rule (List.mem_append_right _ hrule) hmatch

/-- Specific categories win exactly when the reason is not a shadowed one. -/
theorem specificWins_iff (toLowercase : String → String) (reason : String) :
    SpecificWins toLowercase reason ↔ ¬ ShadowedReason (toLowercase reason) := by
  by_cases hleading : ∃ rule ∈ leadingRules, ruleMatches (toLowercase reason) rule
  · refine iff_of_true (specificWins_of_leading hleading) ?_
    intro ⟨hnone, _⟩
    obtain ⟨rule, hrule, hmatch⟩ := hleading
    rw [hnone rule hrule] at hmatch
    cases hmatch
  have hnone : ∀ rule ∈ leadingRules, ruleMatches (toLowercase reason) rule = false := by
    intro rule hrule
    rw [Bool.eq_false_iff]
    exact fun hmatch => hleading ⟨rule, hrule, hmatch⟩
  cases hbalance : ruleMatches (toLowercase reason) balanceRule with
  | false =>
      refine iff_of_true (specificWins_of_no_balance hnone hbalance) ?_
      intro ⟨_, hmatch, _⟩
      rw [hbalance] at hmatch
      cases hmatch
  | true =>
      -- the generic rule decides, so every specific keyword is lost
      constructor
      · intro hwins ⟨_, _, rule, hrule, hmatch⟩
        obtain ⟨hkeyword, -⟩ := specificKeywordIn_of_rule (List.mem_append_right _ hrule) hmatch
        have hgeneric := (hwins ⟨_, hkeyword⟩).2
        rw [classifyError_balance hnone hbalance] at hgeneric
        exact hgeneric (by decide)
      · intro hshadowed ⟨category, hkeyword⟩
        have htrailing := trailing_of_specificKeywordIn hnone hkeyword
        exact absurd ⟨hnone, hbalance, htrailing⟩ hshadowed

/-- A router that spells out why it gave up. -/
def shadowedReason : String := "insufficient output: Too little received"

/-- The keyword of `SLIPPAGE_AMOUNT_OUT` occurs, and the category is `INSUFFICIENT_BALANCE`. -/
theorem specific_loses : ¬ SpecificWins asciiLowercase shadowedReason := by
  intro hwins
  have hkeyword : SpecificKeywordIn (asciiLowercase shadowedReason) "SLIPPAGE_AMOUNT_OUT" :=
    ⟨["return amount is not enough", "min return", "too little received"], by decide,
      "too little received", by decide, by decide +kernel⟩
  have hcategory : classifyError asciiLowercase shadowedReason = "INSUFFICIENT_BALANCE" := by
    decide +kernel
  have hgeneric := (hwins ⟨_, hkeyword⟩).2
  rw [hcategory] at hgeneric
  exact hgeneric (by decide)

/-! ## Payloads that are not `Error(string)` -/

/-- The characters of the decoder's two hexadecimal renderings, in lower case. -/
def renderingAlphabet : List Char := hexDigits ++ ['x', 'p', 'n', 'i', '(', ')']

/-- Every keyword has a letter that no rendering has. -/
theorem exists_not_mem_renderingAlphabet : ∀ rule ∈ classifierRules, ∀ keyword ∈ rule.1,
    ∃ c ∈ keyword.toList, c ∉ renderingAlphabet := by
  have hany : ∀ rule ∈ classifierRules, ∀ keyword ∈ rule.1,
      keyword.toList.any fun c => c ∉ renderingAlphabet := by decide
  intro rule hrule keyword hkeyword
  exact List.any_iff_exists_prop.mp (hany rule hrule keyword hkeyword)

/-- A text over the renderings' characters matches no rule. -/
theorem classifyError_rendering {reason : String}
    (h : ∀ c ∈ (toLowercase reason).toList, c ∈ renderingAlphabet) :
    classifyError toLowercase reason = "UNKNOWN" := by
  apply classifyError_eq_unknown
  intro rule hrule
  rw [Bool.eq_false_iff]
  intro hmatch
  obtain ⟨keyword, hkeyword, hcontains⟩ := List.any_eq_true.mp hmatch
  obtain ⟨c, hc, hforeign⟩ := exists_not_mem_renderingAlphabet rule hrule keyword hkeyword
  have hoccurs : keyword.toList <:+: (toLowercase reason).toList := of_decide_eq_true hcontains
  exact hforeign (h c (hoccurs.subset hc))

/-- A payload without the `Error(string)` selector is rendered over hexadecimal digits and the
letters of `0x` and `Panic(0x)`. -/
theorem decodeRevertReason_rendering {output : Bytes} (h : output.take 4 ≠ errorSelector) :
    ∃ reason, decodeRevertReason output = .ok (.ok reason) ∧
      ∀ c ∈ reason.toList, c ∈ 'P' :: 'a' :: renderingAlphabet := by
  have hplain : ∀ c ∈ (bytesHex output).toList, c ∈ 'P' :: 'a' :: renderingAlphabet := by
    intro c hc
    rw [bytesHex, String.toList_ofList] at hc
    rcases List.mem_cons.mp hc with rfl | hc
    · decide
    rcases List.mem_cons.mp hc with rfl | hc
    · decide
    obtain ⟨b, -, hc⟩ := List.mem_flatMap.mp hc
    have hdigit := mem_hexDigits_of_mem_hexFixed hc
    simp [renderingAlphabet, hdigit]
  unfold decodeRevertReason
  by_cases hshort : output.length < 4
  · exact ⟨_, if_pos hshort, hplain⟩
  rw [if_neg hshort, if_neg h]
  by_cases hpanic : output.take 4 = panicSelector ∧ 36 ≤ output.length
  · refine ⟨_, if_pos hpanic, ?_⟩
    intro c hc
    rw [String.toList_ofList] at hc
    rcases List.mem_append.mp hc with hc | hc
    · rcases List.mem_append.mp hc with hc | hc
      · have hprefix : ∀ c ∈ "Panic(0x".toList, c ∈ 'P' :: 'a' :: renderingAlphabet :=
          List.all_iff_forall_prop.mp (by decide)
        exact hprefix c hc
      · have hdigit := mem_hexDigits_of_mem_hexFixed hc
        simp [renderingAlphabet, hdigit]
    · rw [List.mem_singleton.mp hc]
      decide
  · exact ⟨_, if_neg hpanic, hplain⟩

/-- A payload without the `Error(string)` selector is decoded, and what it is decoded into has no
category. -/
theorem undecoded_payload_unknown
    (hlower : ∀ s : String, (∀ c ∈ s.toList, c.toNat < 128) → toLowercase s = asciiLowercase s)
    (output : Bytes) (h : output.take 4 ≠ errorSelector) :
    ∃ reason, decodeRevertReason output = .ok (.ok reason) ∧
      classifyError toLowercase reason = "UNKNOWN" := by
  obtain ⟨reason, hdecode, hrendering⟩ := decodeRevertReason_rendering h
  refine ⟨reason, hdecode, classifyError_rendering ?_⟩
  have hascii : ∀ c ∈ 'P' :: 'a' :: renderingAlphabet, c.toNat < 128 :=
    List.all_iff_forall_prop.mp (by decide)
  rw [hlower reason fun c hc => hascii c (hrendering c hc), asciiLowercase, String.toList_ofList]
  intro c hc
  obtain ⟨upper, hupper, rfl⟩ := List.mem_map.mp hc
  have hfold : ∀ c ∈ 'P' :: 'a' :: renderingAlphabet, c.toLower ∈ renderingAlphabet :=
    List.all_iff_forall_prop.mp (by decide)
  exact hfold upper (hrendering upper hupper)

/-- An unchecked division by zero. -/
theorem undecoded_payload_unknown_panic :
    ∃ reason, decodeRevertReason (panicSelector ++ List.replicate 31 0 ++ [0x12]) =
      .ok (.ok reason) ∧ classifyError asciiLowercase reason = "UNKNOWN" :=
  undecoded_payload_unknown (fun _ _ => rfl) _ (by decide)

end TxIndexer.Proofs
