import TxIndexer.Proofs.RevertClusters
import TxIndexer.Proofs.RevertAbi
import TxIndexer.Decoder.Classifier
import TxIndexer.Indexer.ProcessFailedTxs

/-!
# The kind of a cluster and the origin of its reasons

The view derives the kind of a cluster from the text of its template, and the text of an
`Error(string)` is up to the contract. A string that looks like what another arm of
`fn_revert_template` makes is given the kind of that arm, and may share its cluster; these strings
are described here by their words.
-/

namespace TxIndexer.Proofs

open Db Decoder Lib

variable {w rest : List Char} {ws : List (List Char)} {sp : SpaceClass}

/-! ## Texts that the placeholders leave alone -/

theorem fillPlaceholders_ne_nil (hw : w ≠ []) : fillPlaceholders w ≠ [] := by
  have hne : ∀ text ∈ [hexPlaceholder, addrPlaceholder, numberPlaceholder], text ≠ [] := by decide
  exact replaceEach_ne_nil (fun pass hpass => hne _ (placeholders_texts pass hpass)) hw

/-- No placeholder may be confused with a part of the text. -/
def NoPlaceholder (text : List Char) : Prop :=
  ∀ p ∈ [hexPlaceholder, addrPlaceholder, numberPlaceholder], Apart p text

instance (text : List Char) : Decidable (NoPlaceholder text) :=
  inferInstanceAs (Decidable (∀ p ∈ _, _))

theorem exists_of_fillPlaceholders_eq {text : List Char} (hno : NoPlaceholder text)
    (h : fillPlaceholders w = text ++ rest) :
    ∃ rest', w = text ++ rest' ∧ fillPlaceholders rest' = rest :=
  exists_of_replaceEach_eq (fun pass hpass => hno _ (placeholders_texts pass hpass)) h

theorem fillPlaceholders_eq_iff {text : List Char} (hno : NoPlaceholder text)
    (hself : fillPlaceholders text = text) : fillPlaceholders w = text ↔ w = text := by
  refine ⟨fun h => ?_, fun h => h ▸ hself⟩
  have hnil : fillPlaceholders w = text ++ [] := h.trans (List.append_nil text).symm
  obtain ⟨rest, rfl, hrest⟩ := exists_of_fillPlaceholders_eq hno hnil
  cases rest with
  | nil => exact List.append_nil text
  | cons c rest => exact absurd hrest (fillPlaceholders_ne_nil (List.cons_ne_nil c rest))

/-- A text that ends at a boundary begins the words with placeholders exactly where it begins the
word. -/
theorem exists_fillPlaceholders_append_iff {text : List Char} (hno : NoPlaceholder text)
    (hself : fillPlaceholders text = text) (hlast : ∀ c ∈ text.getLast?, isHexOrX c = false) :
    (∃ rest, fillPlaceholders w = text ++ rest) ↔ ∃ rest, w = text ++ rest := by
  constructor
  · rintro ⟨rest, h⟩
    obtain ⟨rest', hw, -⟩ := exists_of_fillPlaceholders_eq hno h
    exact ⟨rest', hw⟩
  · rintro ⟨rest, rfl⟩
    exact ⟨fillPlaceholders rest, by rw [fillPlaceholders_append (.inl hlast), hself]⟩

theorem map_fillPlaceholders_eq_iff {texts : List (List Char)}
    (hno : ∀ text ∈ texts, NoPlaceholder text)
    (hself : ∀ text ∈ texts, fillPlaceholders text = text) :
    ws.map fillPlaceholders = texts ↔ ws = texts := by
  induction texts generalizing ws with
  | nil => exact List.map_eq_nil_iff
  | cons text texts ih =>
      obtain ⟨hno, hnos⟩ := List.forall_mem_cons.mp hno
      obtain ⟨hself, hselfs⟩ := List.forall_mem_cons.mp hself
      cases ws with
      | nil => exact ⟨nofun, nofun⟩
      | cons w ws =>
          rw [List.map_cons, List.cons.injEq, List.cons.injEq, ih hnos hselfs,
            fillPlaceholders_eq_iff hno hself]

/-! ## Texts that look like a custom error -/

/-- `custom`, one character, `error:`. -/
def customErrorLike (c : Char) : List Char := "custom".toList ++ c :: "error:".toList

theorem customErrorLike_append (c : Char) (rest : List Char) :
    customErrorLike c ++ rest = "custom".toList ++ c :: ("error:".toList ++ rest) :=
  List.append_assoc ..

theorem eq_of_mem_customErrorLike {c d : Char} (h : d ∈ customErrorLike c)
    (hcustom : d ∉ "custom".toList) (herror : d ∉ "error:".toList) : d = c := by
  rcases List.mem_append.mp h with h | h
  · exact absurd h hcustom
  · exact (List.mem_cons.mp h).resolve_right herror

theorem noPlaceholder_customErrorLike (c : Char) : NoPlaceholder (customErrorLike c) := by
  by_cases hc : c = '\x7b'
  · -- the brace is followed by an `e`, with which no placeholder goes on
    subst hc
    decide
  · have hbrace : '\x7b' ∉ customErrorLike c := fun hmem =>
      hc (eq_of_mem_customErrorLike hmem (by decide) (by decide)).symm
    intro p hp
    simp only [List.mem_cons, List.not_mem_nil, or_false] at hp
    rcases hp with rfl | rfl | rfl
    · exact Apart.of_head hbrace
    · exact Apart.of_head hbrace
    · exact Apart.of_head hbrace

theorem longNumber_matcher_of_short {v : List Char} (h : (v.takeWhile isDecimalDigit).length < 4) :
    longNumber.matcher v = none := by
  refine if_neg fun hmatch => ?_
  have hlo : 4 ≤ (v.takeWhile isDecimalDigit).length := hmatch.2.1
  omega

/-- A run of digits has at most as many elements as the text has digits. -/
theorem length_takeWhile_le_countP (p : Char → Bool) (v : List Char) :
    (v.takeWhile p).length ≤ v.countP p := by
  have hall : (v.takeWhile p).countP p = (v.takeWhile p).length :=
    List.countP_eq_length.mpr fun _ hc => List.mem_takeWhile_imp hc
  rw [← hall]
  exact (List.takeWhile_sublist p).countP_le

theorem fillPlaceholders_customErrorLike (c : Char) :
    fillPlaceholders (customErrorLike c) = customErrorLike c := by
  have hlead : ∀ v, v <:+ customErrorLike c → ¬ ['0', 'x'] <+: v := by
    intro v hv hpre
    have hzero : '0' ∈ customErrorLike c := hv.subset (hpre.subset List.mem_cons_self)
    obtain rfl : '0' = c := eq_of_mem_customErrorLike hzero (by decide) (by decide)
    have hno : ¬ ['0', 'x'] <:+: customErrorLike '0' := by decide
    exact hno (hpre.isInfix.trans hv.isInfix)
  have hcount : (customErrorLike c).countP isDecimalDigit ≤ 1 := by
    have hsplit : customErrorLike c = "custom".toList ++ ([c] ++ "error:".toList) := rfl
    have hcustom : "custom".toList.countP isDecimalDigit = 0 := by decide
    have herror : "error:".toList.countP isDecimalDigit = 0 := by decide
    have hone : [c].countP isDecimalDigit ≤ 1 := List.countP_le_length
    rw [hsplit, List.countP_append, List.countP_append]
    omega
  show replaceEach placeholders (customErrorLike c) = customErrorLike c
  refine replaceEach_eq_self fun pass hpass v hv => ?_
  rcases placeholders_cases hpass with ⟨r, hr, heq⟩ | heq
  · rw [heq]
    exact r.matcher_of_not_prefix (hr.lead ▸ hlead v hv)
  · have hle : v.countP isDecimalDigit ≤ (customErrorLike c).countP isDecimalDigit :=
      hv.sublist.countP_le
    have hrun := length_takeWhile_le_countP isDecimalDigit v
    rw [heq]
    exact longNumber_matcher_of_short (by omega)

/-- The first word, or the first two, look like a custom error. -/
def CustomErrorWords (ws : List (List Char)) : Prop :=
  (∃ c rest ws', ws = (customErrorLike c ++ rest) :: ws') ∨
    ∃ rest ws', ws = "custom".toList :: ("error:".toList ++ rest) :: ws'

theorem customErrorWords_map_iff :
    CustomErrorWords (ws.map fillPlaceholders) ↔ CustomErrorWords ws := by
  have hfirst : ∀ {c : Char} {w : List Char},
      (∃ rest, fillPlaceholders w = customErrorLike c ++ rest) ↔
        ∃ rest, w = customErrorLike c ++ rest := by
    intro c w
    refine exists_fillPlaceholders_append_iff (noPlaceholder_customErrorLike c)
      (fillPlaceholders_customErrorLike c) ?_
    have hlast : (customErrorLike c).getLast? = some ':' := rfl
    rw [hlast]
    rintro _ ⟨⟩
    decide
  have hcustom : ∀ {w : List Char}, fillPlaceholders w = "custom".toList ↔ w = "custom".toList :=
    fillPlaceholders_eq_iff (by decide) (by decide)
  have herror : ∀ {w : List Char}, (∃ rest, fillPlaceholders w = "error:".toList ++ rest) ↔
      ∃ rest, w = "error:".toList ++ rest := by
    intro w
    refine exists_fillPlaceholders_append_iff (by decide) (by decide) ?_
    rintro _ ⟨⟩
    decide
  refine or_congr ?_ ?_
  · cases ws with
    | nil => simp
    | cons w ws =>
        simp only [List.map_cons, List.cons.injEq, exists_and_left, exists_eq', and_true]
        exact exists_congr fun c => hfirst
  · match ws with
    | [] => simp
    | [w] => simp
    | w :: v :: ws =>
        simp only [List.map_cons, List.cons.injEq, exists_and_left, exists_eq', and_true]
        exact and_congr hcustom herror

/-- Where a text that looks like a custom error is split at its first space. -/
theorem customError_split {c : Char} {tail : List Char}
    (h : w ++ ' ' :: tail = "custom".toList ++ c :: ("error:".toList ++ rest)) :
    (∃ rest', w = customErrorLike c ++ rest') ∨ (w = "custom".toList ∧ "error:".toList <+: tail) := by
  have hcustom : ' ' ∉ "custom".toList := by decide
  have herror : ' ' ∉ "error:".toList := by decide
  rcases List.append_eq_append_iff.mp h with ⟨front, hfront, htail⟩ | ⟨front, rfl, htail⟩
  · cases front with
    | nil =>
        obtain ⟨-, rfl⟩ := List.cons.inj htail
        exact .inr ⟨by simpa using hfront.symm, List.prefix_append _ _⟩
    | cons d front =>
        obtain ⟨rfl, -⟩ := List.cons.inj htail
        exact absurd (hfront ▸ List.mem_append_right w List.mem_cons_self) hcustom
  · cases front with
    | nil =>
        obtain ⟨-, rfl⟩ := List.cons.inj htail
        exact .inr ⟨List.append_nil _, List.prefix_append _ _⟩
    | cons d front =>
        obtain ⟨rfl, herror'⟩ := List.cons.inj htail
        rcases List.append_eq_append_iff.mp herror' with ⟨last, hlast, -⟩ | ⟨last, hlast, hspace⟩
        · exact .inl ⟨last, by rw [customErrorLike_append, ← hlast]⟩
        · cases last with
          | nil =>
              rw [List.append_nil] at hlast
              exact .inl ⟨[], by rw [customErrorLike_append, hlast, List.append_nil]⟩
          | cons e last =>
              obtain ⟨rfl, -⟩ := List.cons.inj hspace
              exact absurd (hlast ▸ List.mem_append_right front List.mem_cons_self) herror

/-- The `LIKE` looks at the first word, or where its underscore stands for a space at the first
two. -/
theorem like_intercalate_iff :
    like (customErrorPrefix ++ ['%']) ([' '].intercalate ws) = true ↔ CustomErrorWords ws := by
  have hne : "error:".toList ≠ [] := by decide
  have hspace : ' ' ∉ "error:".toList := by decide
  rw [like_customError]
  constructor
  · rintro ⟨c, rest, h⟩
    match ws with
    | [] => cases h
    | [w] =>
        rw [List.intercalate_singleton] at h
        exact .inl ⟨c, rest, [], by rw [customErrorLike_append, h]⟩
    | w :: v :: ws =>
        rw [List.intercalate_cons_cons, List.append_assoc] at h
        rcases customError_split h with ⟨rest', rfl⟩ | ⟨rfl, herror⟩
        · exact .inl ⟨c, rest', v :: ws, rfl⟩
        · obtain ⟨_, _, ⟨rfl, rfl⟩, tail, rfl⟩ := (prefix_intercalate_iff hne hspace).mp herror
          exact .inr ⟨tail, ws, rfl⟩
  · rintro (⟨c, rest, ws', rfl⟩ | ⟨rest, ws', rfl⟩)
    · cases ws' with
      | nil => exact ⟨c, rest, by rw [List.intercalate_singleton, customErrorLike_append]⟩
      | cons v ws' =>
          refine ⟨c, rest ++ ([' '] ++ [' '].intercalate (v :: ws')), ?_⟩
          rw [List.intercalate_cons_cons, List.append_assoc, List.append_assoc,
            customErrorLike_append]
    · obtain ⟨tail, htail⟩ :=
        (prefix_intercalate_iff (s := ' ') hne hspace).mpr
          ⟨"error:".toList ++ rest, ws', rfl, List.prefix_append _ _⟩
      exact ⟨' ', tail, by rw [List.intercalate_cons_cons, ← htail]; simp⟩

/-! ## Texts that look like a panic -/

/-- `0x` and at least `n` hexadecimal digits. -/
def HexAtLeast (n : Nat) (s : List Char) : Prop :=
  ∃ ds rest, s = '0' :: 'x' :: (ds ++ rest) ∧ (∀ d ∈ ds, isHexDigit d = true) ∧ ds.length = n

/-- What may follow `Panic(0x` so that it is still there with the placeholders filled in: no digit;
or `0x` and so many digits that they are replaced first. Of 40 digits the last may not begin a
longer number itself. -/
def PanicTail (rest : List Char) : Prop :=
  (∀ c ∈ rest.head?, isHexDigit c = false) ∨ HexAtLeast 41 rest ∨
    (HexAtLeast 40 rest ∧ ¬ HexAtLeast 41 (rest.drop 41))

theorem longHex_matcher_eq_none {s : List Char} :
    longHex.matcher s = none ↔ ¬ HexAtLeast 41 s :=
  RunPattern.matcher_eq_none_iff (by decide) fun _ => Iff.rfl

theorem addressHex40_matcher_eq_none {s : List Char} :
    addressHex40.matcher s = none ↔ ¬ HexAtLeast 40 s := by
  refine RunPattern.matcher_eq_none_iff (by decide) fun n => ?_
  show 40 ≤ min n 40 ↔ 40 ≤ n
  omega

theorem shortHex_matcher_eq_none {s : List Char} :
    shortHex.matcher s = none ↔ ¬ HexAtLeast 1 s := by
  refine RunPattern.matcher_eq_none_iff (by decide) fun n => ?_
  show 1 ≤ min n 39 ↔ 1 ≤ n
  omega

/-- After the digits of a hexadecimal number no other begins, but at the last. -/
theorem not_hexAtLeast_double {n : Nat} (h : 2 ≤ n) (t : List Char) :
    ¬ HexAtLeast n ('0' :: 'x' :: '0' :: 'x' :: t) := by
  rintro ⟨ds, rest, heq, hds, hlength⟩
  match ds with
  | [] =>
      rw [← hlength, List.length_nil] at h
      omega
  | [_] =>
      rw [← hlength, List.length_singleton] at h
      omega
  | d :: d' :: ds =>
      simp only [List.cons_append, List.cons.injEq, true_and] at heq
      have hx := hds d' (by simp)
      rw [← heq.2.1] at hx
      exact absurd hx (by decide)

theorem brace_not_mem {ds : List Char} (hds : ∀ d ∈ ds, isHexDigit d = true) :
    '\x7b' ∉ '0' :: 'x' :: ds := by
  simp only [List.mem_cons, not_or]
  exact ⟨by decide, by decide, fun hmem => absurd (hds _ hmem) (by decide)⟩

/-- What follows `Panic(0x` where it is there with the placeholders filled in. -/
theorem panicTail_of_fillPlaceholders {out : List Char}
    (h : fillPlaceholders w = panicPrefix ++ out) :
    ∃ rest, w = panicPrefix ++ rest ∧ PanicTail rest := by
  have hhex : Apart hexPlaceholder panicPrefix := by decide
  have haddr : Apart addrPlaceholder panicPrefix := by decide
  have hnumber : Apart numberPlaceholder panicPrefix := by decide
  obtain ⟨o₃, h₃, -, -⟩ := exists_of_replaceAll_eq hnumber h
  obtain ⟨o₂, h₂, -, hshort⟩ := exists_of_replaceAll_eq hhex h₃
  obtain ⟨o₁, h₁, ho₂, -⟩ := exists_of_replaceAll_eq haddr h₂
  obtain ⟨o, rfl, ho₁, -⟩ := exists_of_replaceAll_eq hhex h₁
  refine ⟨o, rfl, ?_⟩
  have hnone : ¬ HexAtLeast 1 ('0' :: 'x' :: o₂) :=
    shortHex_matcher_eq_none.mp (hshort ['0', 'x'] (by decide) (by decide))
  cases o with
  | nil => exact .inl nofun
  | cons d o =>
      by_cases hd : isHexDigit d = true
      · by_cases hlong : HexAtLeast 41 (d :: o)
        · exact .inr (.inl hlong)
        · have hkept : longHex.matcher (d :: o) = none :=
            longHex_matcher_eq_none.mpr hlong
          rw [replaceAll_of_none hkept] at ho₁
          by_cases haddress : HexAtLeast 40 o₁
          · obtain ⟨ds, t, heq, hds, hlength⟩ := haddress
            rw [← replaceAll_of_none hkept, heq] at ho₁
            obtain ⟨rest, hrest, -, hlast⟩ :=
              exists_of_replaceAll_eq (w := '0' :: 'x' :: ds) (Apart.of_head (brace_not_mem hds)) ho₁
            refine .inr (.inr ⟨⟨ds, rest, hrest, hds, hlength⟩, fun hat => ?_⟩)
            have hdrop : (d :: o).drop 41 = ds.drop 39 ++ rest := by
              rw [hrest]
              exact List.drop_append_of_le_length (by simp only [List.length_cons]; omega)
            have hsuffix : ds.drop 39 <:+ '0' :: 'x' :: ds :=
              (List.drop_suffix 39 ds).trans ⟨['0', 'x'], rfl⟩
            have hne : ds.drop 39 ≠ [] := by
              rw [Ne, List.drop_eq_nil_iff]
              omega
            rw [hdrop] at hat
            exact longHex_matcher_eq_none.mp (hlast _ hsuffix hne) hat
          · -- the digit is still there, and would be replaced with its `0x`
            have hkept' : addressHex40.matcher o₁ = none :=
              addressHex40_matcher_eq_none.mpr haddress
            rw [← ho₁] at hkept' ho₂
            rw [replaceAll_of_none hkept'] at ho₂
            exact absurd ⟨[d], _, by rw [← ho₂]; rfl, by simpa using hd, rfl⟩ hnone
      · exact .inl (by rintro _ ⟨⟩; simpa using hd)

/-- A pattern of hexadecimal digits matches nowhere in `0x` before another `0x`. -/
theorem hexLead_none {r : RunPattern Char} (hlead : r.lead = ['0', 'x']) {t : List Char}
    (hnone : r.matcher ('0' :: 'x' :: t) = none) :
    ∀ v, v <:+ ['0', 'x'] → v ≠ [] → r.matcher (v ++ t) = none := by
  intro v hv hne
  rcases List.suffix_cons_iff.mp hv with rfl | hv
  · exact hnone
  · rcases List.suffix_cons_iff.mp hv with rfl | hv
    · refine r.matcher_of_not_prefix fun hpre => ?_
      rw [hlead] at hpre
      exact absurd (List.cons_prefix_cons.mp hpre).1 (by decide)
    · exact absurd (List.suffix_nil.mp hv) hne

/-- No match begins at another character than a digit. -/
theorem matcher_none_of_not_digit {pass : Matcher Char × List Char} (hpass : pass ∈ placeholders)
    {c : Char} (hc : isHexDigit c = false) (t : List Char) : pass.1 (c :: t) = none := by
  have hlead : ¬ ['0', 'x'] <+: c :: t := by
    intro hpre
    rw [← (List.cons_prefix_cons.mp hpre).1] at hc
    exact absurd hc (by decide)
  rcases placeholders_cases hpass with ⟨r, hr, heq⟩ | heq
  · rw [heq]
    exact r.matcher_of_not_prefix (hr.lead ▸ hlead)
  · rw [heq]
    refine longNumber_matcher_of_short ?_
    rw [List.takeWhile_cons_of_neg fun hdigit => ?_]
    · decide
    · rw [isHexDigit_of_decimal hdigit] at hc
      cases hc

/-- Each replacement keeps a `0x` that is not followed by a digit. -/
theorem lead_stays {pass : Matcher Char × List Char} (hpass : pass ∈ placeholders) {t : List Char}
    (ht : ∀ c ∈ t.head?, isHexDigit c = false) :
    ∃ t', replaceAll pass.1 pass.2 ('0' :: 'x' :: t) = '0' :: 'x' :: t' ∧
      ∀ c ∈ t'.head?, isHexDigit c = false := by
  have hnone : ∀ v, v <:+ ['0', 'x'] → v ≠ [] → pass.1 (v ++ t) = none := by
    rcases placeholders_cases hpass with ⟨r, hr, heq⟩ | heq
    · rw [heq]
      exact hexLead_none hr.lead (hr.matcher_none ht)
    · intro v hv hne
      rw [heq]
      rcases List.suffix_cons_iff.mp hv with rfl | hv
      · have hrun : (['0', 'x'] ++ t).takeWhile isDecimalDigit = ['0'] := rfl
        exact longNumber_matcher_of_short (by rw [hrun]; decide)
      · rcases List.suffix_cons_iff.mp hv with rfl | hv
        · have hrun : (['x'] ++ t).takeWhile isDecimalDigit = [] := rfl
          exact longNumber_matcher_of_short (by rw [hrun]; decide)
        · exact absurd (List.suffix_nil.mp hv) hne
  have hhead : ∀ c ∈ (replaceAll pass.1 pass.2 t).head?, isHexDigit c = false := by
    cases t with
    | nil => nofun
    | cons c t =>
        rw [replaceAll_of_none (matcher_none_of_not_digit hpass (ht c rfl) t)]
        exact ht
  exact ⟨_, replaceAll_append_of_none (w := ['0', 'x']) hnone, hhead⟩

theorem lead_stays_each {passes : List (Matcher Char × List Char)} (hpasses : passes ⊆ placeholders)
    {t : List Char} (ht : ∀ c ∈ t.head?, isHexDigit c = false) :
    ∃ t', replaceEach passes ('0' :: 'x' :: t) = '0' :: 'x' :: t' := by
  induction passes generalizing t with
  | nil => exact ⟨t, rfl⟩
  | cons pass passes ih =>
      obtain ⟨hpass, hrest⟩ := List.cons_subset.mp hpasses
      obtain ⟨t', heq, ht'⟩ := lead_stays hpass ht
      obtain ⟨t'', heq'⟩ := ih hrest ht'
      exact ⟨t'', by rw [replaceEach_cons, heq, heq']⟩

/-- A placeholder after `0x` is followed by no digit. -/
theorem not_digit_of_placeholder {text t : List Char}
    (htext : text ∈ [hexPlaceholder, addrPlaceholder, numberPlaceholder]) :
    ∀ c ∈ (text ++ t).head?, isHexDigit c = false := by
  simp only [List.mem_cons, List.not_mem_nil, or_false] at htext
  rcases htext with rfl | rfl | rfl
  · rintro _ ⟨⟩
    rfl
  · rintro _ ⟨⟩
    rfl
  · rintro _ ⟨⟩
    rfl

/-- With a placeholder after it `0x` stays. -/
theorem lead_stays_of_placeholder {passes : List (Matcher Char × List Char)}
    (hpasses : passes ⊆ placeholders) {text : List Char}
    (htext : text ∈ [hexPlaceholder, addrPlaceholder, numberPlaceholder]) (t : List Char) :
    ∃ t', replaceEach passes ('0' :: 'x' :: (text ++ t)) = '0' :: 'x' :: t' :=
  lead_stays_each hpasses (not_digit_of_placeholder htext)

theorem replaceAll_lead {r : RunPattern Char} {repl t : List Char} (hlead : r.lead = ['0', 'x'])
    (hnone : r.matcher ('0' :: 'x' :: t) = none) :
    replaceAll r.matcher repl ('0' :: 'x' :: t) = '0' :: 'x' :: replaceAll r.matcher repl t :=
  replaceAll_append_of_none (w := ['0', 'x']) (hexLead_none hlead hnone)

/-- A number of more than 40 digits after `0x` is replaced first. -/
theorem fillPlaceholders_hexAtLeast_41 (h : HexAtLeast 41 rest) :
    ∃ t, fillPlaceholders ('0' :: 'x' :: rest) = '0' :: 'x' :: t := by
  obtain ⟨ds, t, rfl, hds, hlength⟩ := id h
  have hdouble : longHex.matcher ('0' :: 'x' :: '0' :: 'x' :: (ds ++ t)) = none :=
    longHex_matcher_eq_none.mpr (not_hexAtLeast_double (by decide) _)
  obtain ⟨n, hn⟩ := Option.ne_none_iff_exists'.mp fun hnone =>
    longHex_matcher_eq_none.mp hnone h
  have hrest : placeholders.tail ⊆ placeholders := List.tail_subset _
  obtain ⟨t', ht'⟩ := lead_stays_of_placeholder hrest
    (show hexPlaceholder ∈ _ by decide) (replaceAll longHex.matcher hexPlaceholder _)
  refine ⟨t', ?_⟩
  rw [fillPlaceholders_eq, placeholders, replaceEach_cons, replaceAll_lead rfl hdouble,
    replaceAll_of_some hn]
  exact ht'

/-- So is a number of 40 digits of which the last begins no longer number. -/
theorem fillPlaceholders_hexAtLeast_40 (h : HexAtLeast 40 rest) (hlong : ¬ HexAtLeast 41 rest)
    (hlast : ¬ HexAtLeast 41 (rest.drop 41)) :
    ∃ t, fillPlaceholders ('0' :: 'x' :: rest) = '0' :: 'x' :: t := by
  obtain ⟨ds, t, rfl, hds, hlength⟩ := h
  have hdouble : longHex.matcher ('0' :: 'x' :: '0' :: 'x' :: (ds ++ t)) = none :=
    longHex_matcher_eq_none.mpr (not_hexAtLeast_double (by decide) _)
  have hdigits : ∀ v, v <:+ ds → v ≠ [] → longHex.matcher (v ++ t) = none := by
    intro v hv hne
    refine longHex_matcher_eq_none.mpr fun hat => ?_
    match v with
    | [] => exact hne rfl
    | [c] =>
        obtain ⟨front, rfl⟩ := hv
        rw [List.length_append, List.length_singleton] at hlength
        have hdrop : ('0' :: 'x' :: (front ++ [c] ++ t)).drop 41 = [c] ++ t := by
          show (front ++ [c] ++ t).drop 39 = [c] ++ t
          rw [List.append_assoc]
          exact List.drop_left' (by omega)
        exact hlast (hdrop ▸ hat)
    | c :: c' :: v =>
        obtain ⟨ds', t', heq, -⟩ := hat
        simp only [List.cons_append, List.cons.injEq] at heq
        have hx := hds c' (hv.subset (by simp))
        rw [heq.2.1] at hx
        exact absurd hx (by decide)
  have hfirst : replaceAll longHex.matcher hexPlaceholder ('0' :: 'x' :: (ds ++ t)) =
      '0' :: 'x' :: (ds ++ replaceAll longHex.matcher hexPlaceholder t) := by
    rw [replaceAll_lead rfl (longHex_matcher_eq_none.mpr hlong),
      replaceAll_append_of_none hdigits]
  have hdouble' : addressHex40.matcher
      ('0' :: 'x' :: '0' :: 'x' :: (ds ++ replaceAll longHex.matcher hexPlaceholder t)) = none :=
    addressHex40_matcher_eq_none.mpr (not_hexAtLeast_double (by decide) _)
  obtain ⟨n, hn⟩ := Option.ne_none_iff_exists'.mp fun hnone =>
    addressHex40_matcher_eq_none.mp hnone
      ⟨ds, replaceAll longHex.matcher hexPlaceholder t, rfl, hds, hlength⟩
  have hrest : placeholders.tail.tail ⊆ placeholders :=
    List.Subset.trans (List.tail_subset _) (List.tail_subset _)
  obtain ⟨t', ht'⟩ := lead_stays_of_placeholder hrest
    (show addrPlaceholder ∈ _ by decide) (replaceAll addressHex40.matcher addrPlaceholder _)
  refine ⟨t', ?_⟩
  rw [fillPlaceholders_eq, placeholders, replaceEach_cons, replaceAll_lead rfl hdouble, hfirst,
    replaceEach_cons, replaceAll_lead rfl hdouble', replaceAll_of_some hn]
  exact ht'

/-- Where a word begins with `Panic(0x` after the replacements. -/
theorem panicPrefix_fillPlaceholders_iff :
    panicPrefix <+: fillPlaceholders w ↔ ∃ rest, w = panicPrefix ++ rest ∧ PanicTail rest := by
  constructor
  · rintro ⟨out, h⟩
    exact panicTail_of_fillPlaceholders h.symm
  · rintro ⟨rest, rfl, htail⟩
    have hopen : fillPlaceholders "Panic(".toList = "Panic(".toList := by decide
    have hsplit : fillPlaceholders (panicPrefix ++ rest) =
        "Panic(".toList ++ fillPlaceholders ('0' :: 'x' :: rest) := by
      have hseparated : Separated isHexOrX "Panic(".toList ('0' :: 'x' :: rest) :=
        .inl (by rintro _ ⟨⟩; rfl)
      have happend := fillPlaceholders_append hseparated
      rw [hopen] at happend
      exact happend
    obtain ⟨t, ht⟩ : ∃ t, fillPlaceholders ('0' :: 'x' :: rest) = '0' :: 'x' :: t := by
      by_cases hlong : HexAtLeast 41 rest
      · exact fillPlaceholders_hexAtLeast_41 hlong
      · rcases htail with hhead | hat | ⟨hat, hlast⟩
        · exact lead_stays_each (List.Subset.refl placeholders) hhead
        · exact absurd hat hlong
        · exact fillPlaceholders_hexAtLeast_40 hat hlong hlast
    exact ⟨t, by rw [hsplit, ht]; rfl⟩

/-! ## Texts of another kind -/

/-- The words of `(no revert data)`. -/
def noDataWords : List (List Char) := ["(no".toList, "revert".toList, "data)".toList]

/-- The words of `(undecodable output)`. -/
def undecodableWords : List (List Char) := ["(undecodable".toList, "output)".toList]

/-- The words are those of a template without data, or begin like a custom error or a panic. -/
def WordsImitate (ws : List (List Char)) : Prop :=
  ws = noDataWords ∨ ws = undecodableWords ∨ CustomErrorWords ws ∨
    ∃ rest ws', ws = (panicPrefix ++ rest) :: ws' ∧ PanicTail rest

/-- The text looks like what another arm of `fn_revert_template` takes or makes. -/
def Imitates (sp : SpaceClass) (s : List Char) : Prop :=
  btrim s = ['0', 'x'] ∨ IsHexRun panicPrefix 1 [')'] s ∨ IsHexRun ['0', 'x'] 1 [] s ∨
    WordsImitate (words sp.isSpace s)

variable {s : List Char}

/-- The joined words are a constant template exactly if the words are its words. -/
theorem intercalate_map_eq_iff (texts : List (List Char))
    (hno : ∀ text ∈ texts, NoPlaceholder text)
    (hself : ∀ text ∈ texts, fillPlaceholders text = text)
    (htexts : ∀ text ∈ texts, IsWord sp.isSpace text) :
    [' '].intercalate ((words sp.isSpace s).map fillPlaceholders) = [' '].intercalate texts ↔
      words sp.isSpace s = texts := by
  have hwords : ∀ w ∈ (words sp.isSpace s).map fillPlaceholders, IsWord sp.isSpace w := by
    rw [← words_fillPlaceholders]
    exact fun w => isWord_of_mem_words
  rw [intercalate_inj sp.space hwords htexts, map_fillPlaceholders_eq_iff hno hself]

theorem isWord_of_mem {texts : List (List Char)}
    (h : ∀ text ∈ texts, text ≠ [] ∧
      (text.all fun c => decide (32 < c.toNat ∧ c.toNat < 128)) = true) :
    ∀ text ∈ texts, IsWord sp.isSpace text :=
  fun text htext => isWord_of_visible (h text htext).1 (h text htext).2

/-- The first word begins like a panic after the replacements. -/
theorem panicPrefix_intercalate_iff :
    panicPrefix <+: [' '].intercalate (ws.map fillPlaceholders) ↔
      ∃ rest ws', ws = (panicPrefix ++ rest) :: ws' ∧ PanicTail rest := by
  rw [prefix_intercalate_iff (by decide) (by decide)]
  cases ws with
  | nil => exact ⟨nofun, nofun⟩
  | cons w ws =>
      constructor
      · rintro ⟨_, _, heq, hpre⟩
        obtain ⟨rfl, rfl⟩ := List.cons.inj heq
        obtain ⟨rest, rfl, htail⟩ := panicPrefix_fillPlaceholders_iff.mp hpre
        exact ⟨rest, ws, rfl, htail⟩
      · rintro ⟨rest, ws', heq, htail⟩
        obtain ⟨rfl, rfl⟩ := List.cons.inj heq
        exact ⟨_, _, rfl, panicPrefix_fillPlaceholders_iff.mpr ⟨rest, rfl, htail⟩⟩

/-- The kind of what the last arm makes. -/
theorem clusterKind_normalised_iff :
    clusterKind ([' '].intercalate ((words sp.isSpace s).map fillPlaceholders)) = .text ↔
      ¬ WordsImitate (words sp.isSpace s) := by
  have hdata : [' '].intercalate ((words sp.isSpace s).map fillPlaceholders) = noRevertData ↔
      words sp.isSpace s = noDataWords := by
    have hjoin : noRevertData = [' '].intercalate noDataWords := by decide
    rw [hjoin]
    exact intercalate_map_eq_iff noDataWords (by decide) (by decide) (isWord_of_mem (by decide))
  have houtput : [' '].intercalate ((words sp.isSpace s).map fillPlaceholders) =
      undecodableOutput ↔ words sp.isSpace s = undecodableWords := by
    have hjoin : undecodableOutput = [' '].intercalate undecodableWords := by decide
    rw [hjoin]
    exact intercalate_map_eq_iff undecodableWords (by decide) (by decide)
      (isWord_of_mem (by decide))
  rw [clusterKind_eq_text_iff, Ne, hdata, Ne, houtput, like_intercalate_iff,
    customErrorWords_map_iff, panicPrefix_intercalate_iff, WordsImitate, not_or, not_or, not_or]

/-- A text that is not blank is given the kind of decoded texts exactly if it does not look like
what another arm takes or makes. -/
theorem clusterKind_revertTemplate_iff (hblank : btrim s ≠ []) :
    clusterKind (revertTemplate sp s) = .text ↔ ¬ Imitates sp s := by
  by_cases hlead : btrim s = ['0', 'x']
  · rw [revertTemplate, if_pos (.inr hlead)]
    exact iff_of_false (by decide) fun h => h (.inl hlead)
  by_cases hpanic : IsHexRun panicPrefix 1 [')'] s
  · obtain ⟨ds, -, -, heq⟩ := (isHexRun_iff (by rintro _ ⟨⟩; rfl)).mp hpanic
    rw [revertTemplate_panic hpanic, heq, clusterKind_panic, ← heq]
    exact iff_of_false (by decide) fun h => h (.inr (.inl hpanic))
  by_cases hhex : IsHexRun ['0', 'x'] 1 [] s
  · refine iff_of_false ?_ fun h => h (.inr (.inr (.inl hhex)))
    obtain ⟨ds, hds, -, heq⟩ := (isHexRun_iff (by intro y hy; cases hy)).mp hhex
    obtain rfl : s = '0' :: 'x' :: ds := by rw [heq]; simp
    rw [revertTemplate_hex hds]
    split
    · decide
    · split
      · rw [clusterKind_customError]
        decide
      · decide
  · have hlong : ¬ IsHexRun ['0', 'x'] 8 [] s :=
      fun h => hhex ⟨h.1, le_trans (by decide) h.2.1, h.2.2⟩
    rw [revertTemplate, if_neg (not_or.mpr ⟨hblank, hlead⟩), if_neg hpanic, if_neg hlong,
      if_neg hhex, normalised_eq, clusterKind_normalised_iff]
    simp only [Imitates, hlead, hpanic, hhex, false_or]

/-! ## Where the reasons come from -/

/-- The output is decoded into the string of an `Error(string)`, which is not blank. -/
def TextOrigin (output : Bytes) : Prop :=
  output.take 4 = errorSelector ∧ ∃ reason, DecodedAs output reason ∧ btrim reason.toList ≠ []

/-- A row of `failed_transaction`, with the output that `decode_revert_reason` made its reason of
if its reason was made so. -/
structure TracedFailure where
  row : FailedTransaction
  output : Option Bytes
  decoded : ∀ b ∈ output, ∃ reason, row.revertReason = some reason ∧ DecodedAs b reason

namespace TracedFailure

/-- The reason was decoded from an `Error(string)` that is not blank. -/
def FromText (f : TracedFailure) : Prop := ∃ b ∈ f.output, TextOrigin b

/-- There is no reason, or it was made of an output that is no `Error(string)`. -/
def Raw (f : TracedFailure) : Prop :=
  f.row.revertReason = none ∨ ∃ b ∈ f.output, b.take 4 ≠ errorSelector

end TracedFailure

/-- The kinds of the clusters say where the reasons come from, and no cluster mixes the two. -/
structure KindReflectsOrigin (sp : SpaceClass) (rows : List TracedFailure)
    (out : List UnknownRevertCluster) : Prop where
  kind : ∀ c ∈ out, ∀ f ∈ rows, f.output.isSome → InCluster sp f.row c →
    (c.clusterKind = .text ↔ f.FromText)
  unmixed : ∀ c ∈ out, ∀ f ∈ rows, ∀ g ∈ rows, InCluster sp f.row c → InCluster sp g.row c →
    f.FromText → ¬ g.Raw

variable {output : Bytes} {reason : String} {f : TracedFailure} {rows : List TracedFailure}
  {out : List UnknownRevertCluster}

theorem TextOrigin.not_blank (h : TextOrigin output) (hreason : DecodedAs output reason) :
    btrim reason.toList ≠ [] := by
  obtain ⟨-, reason', hreason', hblank⟩ := h
  rw [hreason.unique hreason']
  exact hblank

/-- An output that is no `Error(string)` is too short, a panic or undecoded; none is a text. -/
theorem clusterKind_ne_text_of_raw (hraw : output.take 4 ≠ errorSelector)
    (hreason : DecodedAs output reason) :
    clusterKind (fnRevertTemplate sp (some reason)) ≠ .text := by
  by_cases hshort : output.length < 4
  · rw [clusterKind_of_short hshort hreason]
    decide
  by_cases hpanic : output.take 4 = panicSelector ∧ 36 ≤ output.length
  · have houtput : PanicOutput output := ⟨hpanic.1, hpanic.2⟩
    rw [houtput.template hreason, panicText, clusterKind_panic]
    decide
  · have houtput : Undecoded output := ⟨Nat.le_of_not_lt hshort, hraw, hpanic⟩
    rw [houtput.template hreason, customErrorTemplate, clusterKind_customError]
    decide

theorem TracedFailure.Raw.kind_ne_text (h : f.Raw) : clusterKind (f.row.template sp) ≠ .text := by
  rcases h with hnone | ⟨output, houtput, hraw⟩
  · rw [FailedTransaction.template, hnone, fnRevertTemplate]
    decide
  · obtain ⟨reason, hsome, hreason⟩ := f.decoded output houtput
    rw [FailedTransaction.template, hsome]
    exact clusterKind_ne_text_of_raw hraw hreason

/-- The template of a reason that was decoded is of the kind of texts exactly if it comes from a
text that does not look like another arm's. -/
theorem TracedFailure.kind_eq_text_iff (hf : f.output.isSome) :
    clusterKind (f.row.template sp) = .text ↔
      f.FromText ∧ ∀ reason ∈ f.row.revertReason, ¬ Imitates sp reason.toList := by
  obtain ⟨output, houtput⟩ := Option.isSome_iff_exists.mp hf
  obtain ⟨reason, hsome, hreason⟩ := f.decoded output houtput
  have hfrom : f.FromText ↔ TextOrigin output := by
    rw [TracedFailure.FromText, houtput]
    simp
  rw [hfrom, FailedTransaction.template, hsome]
  simp only [Option.mem_def, Option.some.injEq, forall_eq']
  by_cases hselector : output.take 4 = errorSelector
  · by_cases hblank : btrim reason.toList = []
    · rw [fnRevertTemplate, revertTemplate, if_pos (.inl hblank)]
      exact iff_of_false (by decide) fun h => h.1.not_blank hreason hblank
    · have htext : TextOrigin output := ⟨hselector, reason, hreason, hblank⟩
      rw [fnRevertTemplate, clusterKind_revertTemplate_iff hblank]
      exact ⟨fun h => ⟨htext, h⟩, fun h => h.2⟩
  · exact iff_of_false (clusterKind_ne_text_of_raw hselector hreason) fun h => hselector h.1.1

theorem TracedFailure.FromText.isSome (h : f.FromText) : f.output.isSome := by
  obtain ⟨b, hb, -⟩ := h
  rw [hb]
  rfl

/-- The kinds reflect the origins exactly if no unknown failure comes from an `Error(string)` that
is not blank and looks like what another arm of `fn_revert_template` takes or makes. -/
theorem kind_reflects_origin_iff
    (hview : VwUnknownRevertClusters sp (rows.map TracedFailure.row) out) :
    KindReflectsOrigin sp rows out ↔
      ∀ f ∈ rows, f.row.errorCategory = .unknown → f.FromText →
        ∀ reason ∈ f.row.revertReason, ¬ Imitates sp reason.toList := by
  have hkind : ∀ {c} {f : TracedFailure}, c ∈ out → InCluster sp f.row c →
      c.clusterKind = clusterKind (f.row.template sp) := by
    intro c f hc hfc
    rw [hview.kind hc, hfc.2]
  constructor
  · intro h f hf hunknown htext
    obtain ⟨c, hc, hfc⟩ := hview.exists_cluster (List.mem_map_of_mem hf) hunknown
    have htemplate := (h.kind c hc f hf htext.isSome hfc).mpr htext
    rw [hkind hc hfc, TracedFailure.kind_eq_text_iff htext.isSome] at htemplate
    exact htemplate.2
  · intro h
    constructor
    · intro c hc f hf hdecoded hfc
      rw [hkind hc hfc, TracedFailure.kind_eq_text_iff hdecoded]
      exact ⟨fun hboth => hboth.1, fun htext => ⟨htext, h f hf hfc.1 htext⟩⟩
    · intro c hc f hf g hg hfc hgc htext hraw
      have htemplate := (TracedFailure.kind_eq_text_iff htext.isSome).mpr
        ⟨htext, h f hf hfc.1 htext⟩
      rw [← hkind hc hfc, hkind hc hgc] at htemplate
      exact hraw.kind_ne_text htemplate

/-! ## Where the indexer has its rows from -/

/-- The rows of a failed transaction's trace are made so: the reason is what
`decode_revert_reason` makes of the root frame's output. -/
theorem exists_traced_failedRow {toLowercase : String → String} {root : FlatFrame}
    {d : Indexer.Diagnosis} (h : Indexer.diagnose toLowercase root = .ok d) (txHash : String)
    (timestamp : Int) (flattened : FlattenedTrace) :
    ∃ f : TracedFailure, f.row = Indexer.failedRow txHash timestamp flattened d ∧
      (f.row.revertReason = none ∧ f.output = none ∨
        f.row.revertReason.isSome ∧ f.output = Indexer.revertPayload root) := by
  obtain ⟨hreason, -, -⟩ := Indexer.diagnose_cases h
  unfold Indexer.revertReasonOf at hreason
  cases hnone : d.revertReason with
  | none =>
      refine ⟨⟨Indexer.failedRow txHash timestamp flattened d, none, ?_⟩, rfl, .inl ⟨hnone, rfl⟩⟩
      intro b hb
      cases hb
  | some reason =>
      have hsome : (Indexer.failedRow txHash timestamp flattened d).revertReason = some reason :=
        hnone
      refine ⟨⟨_, Indexer.revertPayload root, ?_⟩, rfl,
        .inr ⟨Option.isSome_iff_exists.mpr ⟨reason, hsome⟩, rfl⟩⟩
      intro b hb
      refine ⟨reason, hsome, ?_⟩
      rw [hb, hnone] at hreason
      dsimp only at hreason
      rw [DecodedAs]
      cases hdecode : decodeRevertReason b with
      | error p =>
          rw [hdecode] at hreason
          cases hreason
      | ok decoded =>
          rw [hdecode] at hreason
          cases decoded with
          | error e => cases hreason
          | ok reason' =>
              cases hreason
              rfl

theorem decodedAs_errorString {s : String} (h : (utf8Bytes s).length < 2 ^ 63) :
    DecodedAs (errorSelector ++ abiEncodeString s) s := by
  rw [DecodedAs, decodeRevertReason_error, decodeAbiString_abiEncodeString h]

/-- An unknown failure with the reason its output is decoded to. -/
def tracedFailure {b : Bytes} {reason : String} (h : DecodedAs b reason) : TracedFailure where
  row := unknownFailure reason
  output := some b
  decoded := by
    intro b' hb'
    obtain rfl := Option.some.inj hb'
    exact ⟨reason, rfl, h⟩

theorem fromText_tracedFailure {b : Bytes} (h : DecodedAs b reason) :
    (tracedFailure h).FromText ↔ TextOrigin b := by
  simp [TracedFailure.FromText, tracedFailure]

theorem decodedAs_knownText :
    DecodedAs (errorSelector ++ abiEncodeString "no reason known") "no reason known" :=
  decodedAs_errorString (by decide)

theorem undecoded_selector : Undecoded [0x12, 0x34, 0x56, 0x78] :=
  ⟨by decide, by decide, by decide⟩

theorem panicOutput_overflow : PanicOutput (panicSelector ++ List.replicate 31 0 ++ [0x11]) :=
  ⟨by decide, by decide⟩

/-- A failure without a reason, and failures by a string, a custom error, a panic and no data. -/
def fiveFailures : List TracedFailure :=
  [⟨{ unknownFailure "" with revertReason := none }, none, fun _ hb => by cases hb⟩,
    tracedFailure decodedAs_knownText,
    tracedFailure undecoded_selector.decodedAs,
    tracedFailure panicOutput_overflow.decodedAs,
    tracedFailure (decodedAs_of_short (by decide : ([] : Bytes).length < 4))]

theorem kind_reflects_origin_iff_five : ∃ out,
    VwUnknownRevertClusters asciiSpace (fiveFailures.map TracedFailure.row) out ∧
      KindReflectsOrigin asciiSpace fiveFailures out := by
  have hkind : clusterKind (revertTemplate asciiSpace "no reason known".toList) = .text := by
    decide
  obtain ⟨out, hview⟩ :=
    exists_vwUnknownRevertClusters asciiSpace (fiveFailures.map TracedFailure.row)
  refine ⟨out, hview, (kind_reflects_origin_iff hview).mpr ?_⟩
  simp only [fiveFailures, List.forall_mem_cons, List.not_mem_nil, false_implies, implies_true,
    and_true, fromText_tracedFailure]
  refine ⟨?_, ?_, ?_, ?_, ?_⟩
  · rintro - ⟨b, hb, -⟩
    cases hb
  · intro _ _ reason hreason
    obtain rfl : "no reason known" = reason := Option.some.inj hreason
    exact (clusterKind_revertTemplate_iff (by decide)).mp hkind
  · intro _ htext
    exact absurd htext.1 (by decide)
  · intro _ htext
    exact absurd htext.1 (by decide)
  · intro _ htext
    exact absurd htext.1 (by decide)

/-- An `Error(string)` whose string is a selector in hexadecimal digits. -/
def selectorText : String := "0x12345678"

theorem decodedAs_selectorText :
    DecodedAs (errorSelector ++ abiEncodeString selectorText) selectorText :=
  decodedAs_errorString (by decide)

/-- A failure with that string, and one with the custom error of that selector. -/
def mixedFailures : List TracedFailure :=
  [tracedFailure decodedAs_selectorText, tracedFailure undecoded_selector.decodedAs]

/-- No rule matches the string, and the view groups it with the custom error. -/
theorem text_among_custom_errors :
    classifyError asciiLowercase selectorText = "UNKNOWN" ∧
    ∃ out, VwUnknownRevertClusters asciiSpace (mixedFailures.map TracedFailure.row) out ∧
      (∃ c ∈ out, c.clusterKind = .customError ∧
        ∀ f ∈ mixedFailures, InCluster asciiSpace f.row c) ∧
      ¬ KindReflectsOrigin asciiSpace mixedFailures out := by
  have horigin : (tracedFailure decodedAs_selectorText).FromText :=
    fromText_tracedFailure decodedAs_selectorText |>.mpr
      ⟨rfl, _, decodedAs_selectorText, by decide⟩
  have hsame : ∀ f ∈ mixedFailures,
      f.row.template asciiSpace = customErrorTemplate [0x12, 0x34, 0x56, 0x78] := by
    simp only [mixedFailures, List.forall_mem_cons, List.not_mem_nil, false_implies, implies_true,
      and_true]
    exact ⟨by decide, undecoded_selector.template undecoded_selector.decodedAs⟩
  have hunknown : ∀ f ∈ mixedFailures, f.row.errorCategory = .unknown := by
    simp [mixedFailures, tracedFailure, unknownFailure]
  have hview : VwUnknownRevertClusters asciiSpace (mixedFailures.map TracedFailure.row)
      [clusterOf asciiSpace (mixedFailures.map TracedFailure.row)
        (customErrorTemplate [0x12, 0x34, 0x56, 0x78])] := by
    refine vwUnknownRevertClusters_of_same (List.cons_ne_nil _ _) ?_ ?_
    · intro f hf
      obtain ⟨g, hg, rfl⟩ := List.mem_map.mp hf
      exact hunknown g hg
    · intro f hf
      obtain ⟨g, hg, rfl⟩ := List.mem_map.mp hf
      exact hsame g hg
  have hin : ∀ f ∈ mixedFailures, InCluster asciiSpace f.row
      (clusterOf asciiSpace (mixedFailures.map TracedFailure.row)
        (customErrorTemplate [0x12, 0x34, 0x56, 0x78])) :=
    fun f hf => ⟨hunknown f hf, hsame f hf⟩
  have hcustom : (clusterOf asciiSpace (mixedFailures.map TracedFailure.row)
      (customErrorTemplate [0x12, 0x34, 0x56, 0x78])).clusterKind = .customError :=
    clusterKind_customError ('0' :: 'x' :: bytesToHex [0x12, 0x34, 0x56, 0x78])
  refine ⟨by decide, _, hview, ⟨_, List.mem_singleton_self _, hcustom, hin⟩, fun h => ?_⟩
  have hkind := (h.kind _ (List.mem_singleton_self _) _ List.mem_cons_self rfl
    (hin _ List.mem_cons_self)).mpr horigin
  rw [hcustom] at hkind
  cases hkind

end TxIndexer.Proofs
