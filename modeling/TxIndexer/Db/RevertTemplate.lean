import Mathlib.Data.List.Sort
import TxIndexer.Std.SqlText
import TxIndexer.Db.Models
import Mathlib.Data.List.Dedup

/-!
# Clusters of unknown reverts

`fn_revert_template` and `vw_unknown_revert_clusters` of `sql/views/001_views.sql`. Texts are lists
of characters. Of the columns of the view those are left out that need the `transaction` table, the
collation of a text or the scale of a `NUMERIC`.
-/

namespace TxIndexer.Db

open Lib

/-! ## `fn_revert_template` -/

/-- The template of a failure without output. -/
def noRevertData : List Char := "(no revert data)".toList

/-- The template of an output too short for a selector. -/
def undecodableOutput : List Char := "(undecodable output)".toList

/-- What the template of a custom error begins with. -/
def customErrorPrefix : List Char := "custom_error:".toList

/-- What a decoded panic begins with. -/
def panicPrefix : List Char := "Panic(0x".toList

/-- `'0x[0-9a-fA-F]{41,}'`. -/
def longHex : RunPattern Char := ⟨['0', 'x'], isHexDigit, 41, none⟩

/-- `'0x[0-9a-fA-F]{40}'`. -/
def addressHex40 : RunPattern Char := ⟨['0', 'x'], isHexDigit, 40, some 40⟩

/-- `'0x[0-9a-fA-F]{1,39}'`. -/
def shortHex : RunPattern Char := ⟨['0', 'x'], isHexDigit, 1, some 39⟩

/-- `'[0-9]{4,}'`. -/
def longNumber : RunPattern Char := ⟨[], isDecimalDigit, 4, none⟩

/-- The placeholder `{hex}`. -/
def hexPlaceholder : List Char := ['\x7b', 'h', 'e', 'x', '\x7d']

/-- The placeholder `{addr}`. -/
def addrPlaceholder : List Char := ['\x7b', 'a', 'd', 'd', 'r', '\x7d']

/-- The placeholder `{n}`. -/
def numberPlaceholder : List Char := ['\x7b', 'n', '\x7d']

/-- The inner four replacements. -/
def fillPlaceholders (s : List Char) : List Char :=
  replaceAll longNumber.matcher numberPlaceholder
    (replaceAll shortHex.matcher hexPlaceholder
      (replaceAll addressHex40.matcher addrPlaceholder
        (replaceAll longHex.matcher hexPlaceholder s)))

/-- `s ~ '^lead[0-9a-fA-F]{lo,}tail$'`, where `tail` does not begin with a digit. -/
def IsHexRun (lead : List Char) (lo : Nat) (tail s : List Char) : Prop :=
  lead <+: s ∧ lo ≤ ((s.drop lead.length).takeWhile isHexDigit).length ∧
    (s.drop lead.length).dropWhile isHexDigit = tail

instance (lead : List Char) (lo : Nat) (tail s : List Char) : Decidable (IsHexRun lead lo tail s) :=
  inferInstanceAs (Decidable (_ ∧ _))

/-- `fn_revert_template` (`001_views.sql:185-208`) of a reason that is not null. -/
def revertTemplate (sp : SpaceClass) (s : List Char) : List Char :=
  if btrim s = [] ∨ btrim s = ['0', 'x'] then noRevertData
  else if IsHexRun panicPrefix 1 [')'] s then s
  else if IsHexRun ['0', 'x'] 8 [] s then customErrorPrefix ++ (s.take 10).map Char.toLower
  else if IsHexRun ['0', 'x'] 1 [] s then undecodableOutput
  else btrim (collapse sp.isSpace ' ' (fillPlaceholders s))

/-- `fn_revert_template` (`001_views.sql:185-208`). -/
def fnRevertTemplate (sp : SpaceClass) (reason : Option String) : List Char :=
  match reason with
  | none => noRevertData
  | some reason => revertTemplate sp reason.toList

/-! ## `vw_unknown_revert_clusters` -/

/-- `cluster_kind`. -/
inductive ClusterKind where
  | noData
  | customError
  | panic
  | text
  deriving DecidableEq, Repr

/-- The `CASE` over the template (`001_views.sql:245-251`). -/
def clusterKind (template : List Char) : ClusterKind :=
  if template = noRevertData ∨ template = undecodableOutput then .noData
  else if like (customErrorPrefix ++ ['%']) template then .customError
  else if panicPrefix <+: template then .panic
  else .text

/-- A row of the view. -/
structure UnknownRevertCluster where
  template : List Char
  clusterKind : ClusterKind
  occurrences : Nat
  totalGasWasted : Int
  distinctSelectors : Nat
  firstSeen : Int
  lastSeen : Int
  deriving DecidableEq, Repr

/-- The template of a row. -/
def FailedTransaction.template (sp : SpaceClass) (f : FailedTransaction) : List Char :=
  fnRevertTemplate sp f.revertReason

/-- `unknown_tx`. -/
def unknownTx (rows : List FailedTransaction) : List FailedTransaction :=
  rows.filter fun f => f.errorCategory = .unknown

/-- The group of a template. -/
def clusterOf (sp : SpaceClass) (rows : List FailedTransaction) (template : List Char) :
    UnknownRevertCluster :=
  let group := (unknownTx rows).filter fun f => f.template sp = template
  { template := template
    clusterKind := clusterKind template
    occurrences := group.length
    totalGasWasted := (group.map FailedTransaction.gasUsed).sum
    distinctSelectors := (group.filterMap FailedTransaction.failingFunction).dedup.length
    firstSeen := (group.map FailedTransaction.timestamp).min?.getD 0
    lastSeen := (group.map FailedTransaction.timestamp).max?.getD 0 }

/-- `ORDER BY occurrences DESC, total_gas_wasted DESC`. -/
def ClusterBefore (c d : UnknownRevertCluster) : Prop :=
  d.occurrences < c.occurrences ∨
    (c.occurrences = d.occurrences ∧ d.totalGasWasted ≤ c.totalGasWasted)

/-- What `vw_unknown_revert_clusters` (`001_views.sql:230-268`) may return: one row for each
template, in the order of the `ORDER BY`. -/
def VwUnknownRevertClusters (sp : SpaceClass) (rows : List FailedTransaction)
    (out : List UnknownRevertCluster) : Prop :=
  out.Perm (((unknownTx rows).map (FailedTransaction.template sp)).dedup.map (clusterOf sp rows)) ∧
    out.Pairwise ClusterBefore

/-- `f` is one of the rows that the view groups into `c`. -/
def InCluster (sp : SpaceClass) (f : FailedTransaction) (c : UnknownRevertCluster) : Prop :=
  f.errorCategory = .unknown ∧ f.template sp = c.template

/-! ## The anchored patterns -/

theorem isHexRun_iff {lead tail s : List Char} {lo : Nat}
    (htail : ∀ y ∈ tail.head?, isHexDigit y = false) :
    IsHexRun lead lo tail s ↔
      ∃ ds, (∀ d ∈ ds, isHexDigit d = true) ∧ lo ≤ ds.length ∧ s = lead ++ (ds ++ tail) := by
  constructor
  · rintro ⟨⟨rest, rfl⟩, hlo, hend⟩
    rw [List.drop_left] at hlo hend
    refine ⟨rest.takeWhile isHexDigit, fun d hd => List.mem_takeWhile_imp hd, hlo, ?_⟩
    rw [← hend, List.takeWhile_append_dropWhile]
  · rintro ⟨ds, hds, hlo, rfl⟩
    have hstop : tail.takeWhile isHexDigit = [] ∧ tail.dropWhile isHexDigit = tail := by
      cases tail with
      | nil => exact ⟨rfl, rfl⟩
      | cons y ys =>
          have hy : ¬ isHexDigit y = true := by simpa using htail y rfl
          exact ⟨List.takeWhile_cons_of_neg hy, List.dropWhile_cons_of_neg hy⟩
    refine ⟨List.prefix_append _ _, ?_, ?_⟩
    · rw [List.drop_left, List.takeWhile_append_of_pos hds, hstop.1, List.append_nil]
      exact hlo
    · rw [List.drop_left, List.dropWhile_append_of_pos hds, hstop.2]

theorem ne_space_of_isHexDigit {c : Char} (h : isHexDigit c = true) : (c == ' ') = false := by
  refine beq_eq_false_iff_ne.mpr fun heq => ?_
  rw [heq] at h
  cases h

variable {sp : SpaceClass} {ds s : List Char}

/-- The template of a text that the first pattern matches is the text. -/
theorem revertTemplate_panic (h : IsHexRun panicPrefix 1 [')'] s) : revertTemplate sp s = s := by
  obtain ⟨ds, hds, -, heq⟩ := (isHexRun_iff (by rintro _ ⟨⟩; rfl)).mp h
  have hword : IsWord (fun c => c == ' ') s := by
    refine ⟨by rw [heq]; exact List.cons_ne_nil _ _, fun c hc => ?_⟩
    rw [heq, List.mem_append, List.mem_append] at hc
    rcases hc with hc | hc | hc
    · have hall : (panicPrefix.all fun c => !(c == ' ')) = true := by decide
      simpa using List.all_eq_true.mp hall c hc
    · exact ne_space_of_isHexDigit (hds c hc)
    · rw [List.mem_singleton.mp hc]
      rfl
  rw [revertTemplate, btrim, trim_word (by decide) hword, if_neg, if_pos h]
  rw [heq]
  rintro (heq | heq)
  · cases heq
  · cases heq

/-- The template of hexadecimal digits after `0x`. -/
theorem revertTemplate_hex (hds : ∀ d ∈ ds, isHexDigit d = true) :
    revertTemplate sp ('0' :: 'x' :: ds) =
      if ds = [] then noRevertData
      else if 8 ≤ ds.length then
        customErrorPrefix ++ ('0' :: 'x' :: ds.take 8).map Char.toLower
      else undecodableOutput := by
  have hword : IsWord (fun c => c == ' ') ('0' :: 'x' :: ds) := by
    refine ⟨List.cons_ne_nil _ _, fun c hc => ?_⟩
    rcases List.mem_cons.mp hc with rfl | hc
    · rfl
    · rcases List.mem_cons.mp hc with rfl | hc
      · rfl
      · exact ne_space_of_isHexDigit (hds c hc)
  have hrun : ∀ lo, IsHexRun ['0', 'x'] lo [] ('0' :: 'x' :: ds) ↔ lo ≤ ds.length := by
    intro lo
    rw [isHexRun_iff (by intro y hy; cases hy)]
    constructor
    · rintro ⟨ds', -, hlo, heq⟩
      obtain rfl : ds = ds' ++ [] := by simpa using heq
      rwa [List.append_nil]
    · intro hlo
      exact ⟨ds, hds, hlo, by simp⟩
  have hpanic : ¬ IsHexRun panicPrefix 1 [')'] ('0' :: 'x' :: ds) := by
    rintro ⟨⟨rest, heq⟩, -⟩
    cases heq
  rw [revertTemplate, btrim, trim_word (by decide) hword]
  simp only [if_neg hpanic, hrun, reduceCtorEq, false_or, List.cons.injEq, true_and, List.take]
  by_cases hnil : ds = []
  · rw [if_pos hnil, if_pos hnil]
  · have hpos : 1 ≤ ds.length := List.length_pos_iff.mpr hnil
    rw [if_neg hnil, if_neg hnil, if_pos hpos]

/-! ## The kinds -/

/-- Of the pattern `'custom_error:%'` the underscore, too, stands for any character. -/
theorem like_customError {t : List Char} :
    like (customErrorPrefix ++ ['%']) t = true ↔
      ∃ c rest, t = "custom".toList ++ c :: ("error:".toList ++ rest) := by
  show like ['c', 'u', 's', 't', 'o', 'm', '_', 'e', 'r', 'r', 'o', 'r', ':', '%'] t = true ↔
    ∃ c rest, t = 'c' :: 'u' :: 's' :: 't' :: 'o' :: 'm' :: c :: 'e' :: 'r' :: 'r' :: 'o' :: 'r' ::
      ':' :: rest
  simp only [like_cons (c := 'c') (by decide) (by decide), like_cons (c := 'u') (by decide) (by decide),
    like_cons (c := 's') (by decide) (by decide), like_cons (c := 't') (by decide) (by decide),
    like_cons (c := 'o') (by decide) (by decide), like_cons (c := 'm') (by decide) (by decide),
    like_cons (c := 'e') (by decide) (by decide), like_cons (c := 'r') (by decide) (by decide),
    like_cons (c := ':') (by decide) (by decide), like_underscore, like_percent, and_true]
  constructor
  · rintro ⟨_, rfl, _, rfl, _, rfl, _, rfl, _, rfl, _, rfl, c, _, rfl, _, rfl, _, rfl, _, rfl, _,
      rfl, _, rfl, rest, rfl⟩
    exact ⟨c, rest, rfl⟩
  · rintro ⟨c, rest, rfl⟩
    exact ⟨_, rfl, _, rfl, _, rfl, _, rfl, _, rfl, _, rfl, c, _, rfl, _, rfl, _, rfl, _, rfl, _, rfl,
      _, rfl, _, rfl⟩

theorem clusterKind_eq_text_iff {t : List Char} :
    clusterKind t = .text ↔ t ≠ noRevertData ∧ t ≠ undecodableOutput ∧
      ¬ like (customErrorPrefix ++ ['%']) t = true ∧ ¬ panicPrefix <+: t := by
  rw [clusterKind]
  by_cases hnone : t = noRevertData ∨ t = undecodableOutput
  · rw [if_pos hnone]
    exact ⟨nofun, fun h => absurd hnone (not_or.mpr ⟨h.1, h.2.1⟩)⟩
  · rw [if_neg hnone]
    obtain ⟨hdata, houtput⟩ := not_or.mp hnone
    by_cases hcustom : like (customErrorPrefix ++ ['%']) t = true
    · rw [if_pos hcustom]
      exact ⟨nofun, fun h => absurd hcustom h.2.2.1⟩
    · rw [if_neg hcustom]
      by_cases hpanic : panicPrefix <+: t
      · rw [if_pos hpanic]
        exact ⟨nofun, fun h => absurd hpanic h.2.2.2⟩
      · rw [if_neg hpanic]
        exact iff_of_true rfl ⟨hdata, houtput, hcustom, hpanic⟩

theorem clusterKind_customError (t : List Char) :
    clusterKind (customErrorPrefix ++ t) = .customError := by
  have hlike : like (customErrorPrefix ++ ['%']) (customErrorPrefix ++ t) = true :=
    like_customError.mpr ⟨'_', t, rfl⟩
  rw [clusterKind, if_neg, if_pos hlike]
  rintro (h | h)
  · cases h
  · cases h

theorem clusterKind_panic (t : List Char) : clusterKind (panicPrefix ++ t) = .panic := by
  have hlike : ¬ like (customErrorPrefix ++ ['%']) (panicPrefix ++ t) = true := by
    intro h
    obtain ⟨c, rest, heq⟩ := like_customError.mp h
    cases heq
  rw [clusterKind, if_neg, if_neg hlike, if_pos (List.prefix_append _ _)]
  rintro (h | h)
  · cases h
  · cases h

/-! ## The placeholders -/

/-- The four replacements, in their order. -/
def placeholders : List (Matcher Char × List Char) :=
  [(longHex.matcher, hexPlaceholder), (addressHex40.matcher, addrPlaceholder),
    (shortHex.matcher, hexPlaceholder), (longNumber.matcher, numberPlaceholder)]

theorem fillPlaceholders_eq (s : List Char) : fillPlaceholders s = replaceEach placeholders s := rfl

/-- The characters that the four patterns match. -/
def isHexOrX (c : Char) : Bool := isHexDigit c || c == 'x'

/-- `0x` and at least one hexadecimal digit. -/
structure HexPattern (r : RunPattern Char) : Prop where
  lead : r.lead = ['0', 'x']
  cls : r.cls = isHexDigit
  pos : 1 ≤ r.lo

/-- No number begins at a `0x` that is not followed by a digit. -/
theorem HexPattern.matcher_none {r : RunPattern Char} (hr : HexPattern r) {t : List Char}
    (ht : ∀ c ∈ t.head?, isHexDigit c = false) : r.matcher ('0' :: 'x' :: t) = none := by
  have hmatch : r.matcher (r.lead ++ ([] ++ t)) =
      if r.lo ≤ r.taken 0 ∧ 0 < r.lead.length + r.taken 0
      then some (r.lead.length + r.taken 0 - 1) else none :=
    r.matcher_lead nofun (hr.cls ▸ ht)
  have htaken : r.taken 0 ≤ 0 := r.taken_le 0
  have hpos := hr.pos
  rw [if_neg (by omega), hr.lead] at hmatch
  exact hmatch

/-- Three of the patterns are of hexadecimal digits and one of decimal digits. -/
theorem placeholders_cases {pass : Matcher Char × List Char} (hpass : pass ∈ placeholders) :
    (∃ r, HexPattern r ∧ pass.1 = r.matcher) ∨ pass.1 = longNumber.matcher := by
  simp only [placeholders, List.mem_cons, List.not_mem_nil, or_false] at hpass
  rcases hpass with rfl | rfl | rfl | rfl
  · exact .inl ⟨longHex, ⟨rfl, rfl, by decide⟩, rfl⟩
  · exact .inl ⟨addressHex40, ⟨rfl, rfl, by decide⟩, rfl⟩
  · exact .inl ⟨shortHex, ⟨rfl, rfl, by decide⟩, rfl⟩
  · exact .inr rfl

theorem placeholders_over : ∀ pass ∈ placeholders, pass.1.Over isHexOrX := by
  have hlead : ∀ c ∈ ['0', 'x'], isHexOrX c = true := List.all_eq_true.mp (by decide)
  have hcls : ∀ c, isHexDigit c = true → isHexOrX c = true := fun c hc => by simp [isHexOrX, hc]
  have hdecimal : ∀ c, isDecimalDigit c = true → isHexOrX c = true :=
    fun c hc => hcls c (isHexDigit_of_decimal hc)
  intro pass hpass
  rcases placeholders_cases hpass with ⟨r, hr, heq⟩ | heq
  · rw [heq]
    exact RunPattern.over (hr.lead ▸ hlead) (hr.cls ▸ hcls)
  · rw [heq]
    exact RunPattern.over nofun hdecimal

theorem fillPlaceholders_append {a b : List Char} (h : Separated isHexOrX a b) :
    fillPlaceholders (a ++ b) = fillPlaceholders a ++ fillPlaceholders b :=
  replaceEach_append placeholders_over h

/-- Each replacement text begins with a brace, and its second character is `h`, `a` or `n`. -/
theorem placeholders_texts : ∀ pass ∈ placeholders,
    pass.2 ∈ [hexPlaceholder, addrPlaceholder, numberPlaceholder] := by
  intro pass hpass
  simp only [placeholders, List.mem_cons, List.not_mem_nil, or_false] at hpass
  rcases hpass with rfl | rfl | rfl | rfl
  · decide
  · decide
  · decide
  · decide

theorem isHexOrX_of_isSpace {c : Char} (h : sp.isSpace c = true) : isHexOrX c = false := by
  rw [Bool.eq_false_iff]
  intro hc
  have hascii : 32 < c.toNat ∧ c.toNat < 128 := by
    rcases Bool.or_eq_true _ _ ▸ hc with hdigit | hx
    · have hbounds := toNat_of_isHexDigit hdigit
      omega
    · rw [beq_iff_eq.mp hx]
      decide
  rw [sp.not_space hascii.1 hascii.2] at h
  cases h

/-- A text of visible ASCII characters is a word. -/
theorem isWord_of_visible {w : List Char} (hne : w ≠ [])
    (h : (w.all fun c => decide (32 < c.toNat ∧ c.toNat < 128)) = true) :
    IsWord sp.isSpace w := by
  refine ⟨hne, fun c hc => ?_⟩
  obtain ⟨hlow, hhigh⟩ := of_decide_eq_true (List.all_eq_true.mp h c hc)
  exact sp.not_space hlow hhigh

theorem placeholders_isWord : ∀ pass ∈ placeholders, IsWord sp.isSpace pass.2 := by
  have hvisible : ∀ text ∈ [hexPlaceholder, addrPlaceholder, numberPlaceholder], text ≠ [] ∧
      (text.all fun c => decide (32 < c.toNat ∧ c.toNat < 128)) = true := by decide
  intro pass hpass
  obtain ⟨hne, hall⟩ := hvisible _ (placeholders_texts pass hpass)
  exact isWord_of_visible hne hall

/-- The words of the text after the replacements are those of the text, replaced. -/
theorem words_fillPlaceholders (s : List Char) :
    words sp.isSpace (fillPlaceholders s) = (words sp.isSpace s).map fillPlaceholders :=
  words_replaceEach placeholders_over (fun _ => isHexOrX_of_isSpace) placeholders_isWord s

/-- The last arm: the words of the text, with placeholders, one space between any two. -/
theorem normalised_eq (s : List Char) :
    btrim (collapse sp.isSpace ' ' (fillPlaceholders s)) =
      [' '].intercalate ((words sp.isSpace s).map fillPlaceholders) := by
  rw [btrim, trim_collapse sp.space, words_fillPlaceholders]

/-! ## The clusters of a row -/

variable {rows : List FailedTransaction} {out : List UnknownRevertCluster} {f : FailedTransaction}
  {c d : UnknownRevertCluster}

/-- Every cluster is the group of its template, and has its kind. -/
theorem VwUnknownRevertClusters.eq_clusterOf (h : VwUnknownRevertClusters sp rows out)
    (hc : c ∈ out) : c = clusterOf sp rows c.template := by
  obtain ⟨template, -, rfl⟩ := List.mem_map.mp (h.1.mem_iff.mp hc)
  rfl

theorem VwUnknownRevertClusters.kind (h : VwUnknownRevertClusters sp rows out) (hc : c ∈ out) :
    c.clusterKind = clusterKind c.template :=
  congrArg UnknownRevertCluster.clusterKind (h.eq_clusterOf hc)

/-- An unknown failure is in one cluster. -/
theorem VwUnknownRevertClusters.exists_cluster (h : VwUnknownRevertClusters sp rows out)
    (hf : f ∈ rows) (hunknown : f.errorCategory = .unknown) : ∃ c ∈ out, InCluster sp f c := by
  refine ⟨clusterOf sp rows (f.template sp), h.1.mem_iff.mpr (List.mem_map_of_mem ?_),
    hunknown, rfl⟩
  exact List.mem_dedup.mpr (List.mem_map_of_mem (List.mem_filter.mpr
    ⟨hf, decide_eq_true hunknown⟩))

theorem VwUnknownRevertClusters.inCluster_unique (h : VwUnknownRevertClusters sp rows out)
    (hc : c ∈ out) (hd : d ∈ out) (hfc : InCluster sp f c) (hfd : InCluster sp f d) : c = d := by
  rw [h.eq_clusterOf hc, h.eq_clusterOf hd, ← hfc.2, ← hfd.2]

/-- The view returns something for every table. -/
theorem exists_vwUnknownRevertClusters (sp : SpaceClass) (rows : List FailedTransaction) :
    ∃ out, VwUnknownRevertClusters sp rows out := by
  classical
  have : IsTrans UnknownRevertCluster ClusterBefore := by
    constructor
    intro a b c hab hbc
    unfold ClusterBefore at hab hbc ⊢
    omega
  have : Std.Total ClusterBefore := by
    constructor
    intro a b
    unfold ClusterBefore
    omega
  exact ⟨_, List.perm_insertionSort _ _, List.pairwise_insertionSort ClusterBefore _⟩

/-- Unknown failures with one template are one cluster. -/
theorem vwUnknownRevertClusters_of_same {t : List Char} (hne : rows ≠ [])
    (hunknown : ∀ f ∈ rows, f.errorCategory = .unknown) (hsame : ∀ f ∈ rows, f.template sp = t) :
    VwUnknownRevertClusters sp rows [clusterOf sp rows t] := by
  have hall : unknownTx rows = rows :=
    List.filter_eq_self.mpr fun f hf => decide_eq_true (hunknown f hf)
  have hconst : rows.map (FailedTransaction.template sp) = List.replicate rows.length t :=
    List.eq_replicate_iff.mpr ⟨List.length_map _, fun x hx => by
      obtain ⟨f, hf, rfl⟩ := List.mem_map.mp hx
      exact hsame f hf⟩
  refine ⟨?_, List.pairwise_singleton _ _⟩
  rw [hall, hconst, List.replicate_dedup (fun h => hne (List.length_eq_zero_iff.mp h))]
  rfl

end TxIndexer.Db
