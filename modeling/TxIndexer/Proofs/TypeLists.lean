import TxIndexer.Decoder.Abi
import TxIndexer.Lib.Nesting
import Mathlib.Data.Bool.AllAny

/-!
# Type lists

The parameter list of a signature is cut out between the first opening and the last closing
parenthesis and split at the commas outside of all parentheses. In the text of a type every comma is
inside of parentheses, and these match, so that the list splits into the types it was joined from.
-/

namespace TxIndexer.Proofs

open Decoder Lib

/-! ## The grammar -/

/-- An elementary type is a word of letters and digits, as `address`, `uint256` and `fixed128x18`
are. -/
structure ElementaryType (w : List Char) : Prop where
  ne_nil : w ≠ []
  chars : ∀ c ∈ w, c.isAlphanum = true

/-- The texts `T1,...,Tn`. -/
def joinTypes (ts : List (List Char)) : List Char := [','].intercalate ts

/-- The canonical texts of types. -/
inductive CanonicalType : List Char → Prop
  | elementary {w : List Char} (hw : ElementaryType w) : CanonicalType w
  | array {t : List Char} (ht : CanonicalType t) : CanonicalType (t ++ ['[', ']'])
  | fixedArray {t : List Char} (ht : CanonicalType t) (k : Nat) :
      CanonicalType (t ++ '[' :: (Nat.toDigits 10 k ++ [']']))
  | tuple {ts : List (List Char)} (hts : ∀ t ∈ ts, CanonicalType t) :
      CanonicalType ('(' :: (joinTypes ts ++ [')']))

/-- What a character does to the depth of `split_top_level`. -/
def typeMark (c : Char) : Mark :=
  if c = '(' then .opening
  else if c = ')' then .closing
  else if c = ',' then .separator
  else .plain

variable {c : Char} {t types name cs : List Char} {ts : List (List Char)}

/-! ## Characters -/

theorem isWhitespace_of_visible (hlow : 32 < c.toNat) (hhigh : c.toNat < 128) :
    isWhitespace c = false := by
  simp only [isWhitespace, List.mem_cons, List.not_mem_nil, or_false, Bool.or_eq_false_iff,
    Bool.and_eq_false_iff, decide_eq_false_iff_not]
  omega

theorem toNat_of_isAlphanum (h : c.isAlphanum = true) : 48 ≤ c.toNat ∧ c.toNat < 128 := by
  unfold Char.isAlphanum Char.isAlpha Char.isUpper Char.isLower Char.isDigit at h
  simp only [Bool.or_eq_true, Bool.and_eq_true, decide_eq_true_eq, ge_iff_le,
    UInt32.le_iff_toNat_le] at h
  change ((65 ≤ c.toNat ∧ c.toNat ≤ 90) ∨ (97 ≤ c.toNat ∧ c.toNat ≤ 122)) ∨
    (48 ≤ c.toNat ∧ c.toNat ≤ 57) at h
  omega

/-- A fixed word is elementary as its characters are letters and digits, one by one. -/
theorem ElementaryType.of_all {w : List Char} (hne : w ≠ []) (h : w.all Char.isAlphanum = true) :
    ElementaryType w := ⟨hne, List.all_eq_true.mp h⟩

/-- A letter or a digit splits nothing. -/
theorem typeMark_of_isAlphanum (h : c.isAlphanum = true) : typeMark c = .plain := by
  have hlow := (toNat_of_isAlphanum h).1
  have hne : ∀ d : Char, d.toNat < 48 → c ≠ d := by
    rintro d hd rfl
    omega
  rw [typeMark, if_neg (hne _ (by decide)), if_neg (hne _ (by decide)), if_neg (hne _ (by decide))]

theorem isAlphanum_of_mem_toDigits {k : Nat} (hc : c ∈ Nat.toDigits 10 k) :
    c.isAlphanum = true := by
  rw [Char.isAlphanum, Nat.isDigit_of_mem_toDigits (by decide) (by decide) hc, Bool.or_true]

/-- A length in brackets. -/
theorem forall_mem_length {p : Char → Prop} (hopen : p '[') (hclose : p ']')
    (halphanum : ∀ c, c.isAlphanum = true → p c) (k : Nat) :
    ∀ c ∈ '[' :: (Nat.toDigits 10 k ++ [']']), p c := by
  rw [List.forall_mem_cons, List.forall_mem_append, List.forall_mem_singleton]
  exact ⟨hopen, fun c hc => halphanum c (isAlphanum_of_mem_toDigits hc), hclose⟩

/-! ## Types -/

namespace CanonicalType

/-- The commas of a type are inside of its parentheses, and these match. -/
theorem balanced (h : CanonicalType t) : Balanced typeMark false t := by
  induction h with
  | elementary hw => exact .of_plain fun c hc => typeMark_of_isAlphanum (hw.chars c hc)
  | array ht ih => exact ih.append (.append (.plain rfl) (.plain rfl))
  | fixedArray ht k ih =>
      refine ih.append (.of_plain ?_)
      exact forall_mem_length (p := fun c => typeMark c = .plain) rfl rfl
        (fun _ => typeMark_of_isAlphanum) k
  | tuple hts ih => exact .group rfl rfl (.intercalate rfl ih)

/-- A type has no white space. -/
theorem not_isWhitespace (h : CanonicalType t) : ∀ c ∈ t, isWhitespace c = false := by
  have halphanum : ∀ c : Char, c.isAlphanum = true → isWhitespace c = false := by
    intro c hc
    obtain ⟨hlow, hhigh⟩ := toNat_of_isAlphanum hc
    exact isWhitespace_of_visible (by omega) hhigh
  induction h with
  | elementary hw => exact fun c hc => halphanum c (hw.chars c hc)
  | array ht ih =>
      rw [List.forall_mem_append]
      have hbrackets : ∀ c ∈ ['[', ']'], isWhitespace c = false :=
        List.forall_mem_cons.mpr ⟨by decide, List.forall_mem_singleton.mpr (by decide)⟩
      exact ⟨ih, hbrackets⟩
  | fixedArray ht k ih =>
      rw [List.forall_mem_append]
      exact ⟨ih, forall_mem_length (by decide) (by decide) halphanum k⟩
  | tuple hts ih =>
      rw [List.forall_mem_cons, List.forall_mem_append, List.forall_mem_singleton]
      exact ⟨by decide, forall_mem_intercalate (by decide) ih, by decide⟩

theorem ne_nil (h : CanonicalType t) : t ≠ [] := by
  cases h with
  | elementary hw => exact hw.ne_nil
  | array ht => exact List.append_ne_nil_of_right_ne_nil _ (List.cons_ne_nil _ _)
  | fixedArray ht k => exact List.append_ne_nil_of_right_ne_nil _ (List.cons_ne_nil _ _)
  | tuple hts => exact List.cons_ne_nil _ _

end CanonicalType

/-! ## The splitter -/

/-- The loop of `split_top_level` is the splitter of nested texts, but for the white space around
the parts. -/
theorem splitTopLevelFrom_eq (depth : Int) (current cs : List Char) :
    splitTopLevelFrom depth current cs = (splitOuter typeMark depth current cs).map Decoder.trim := by
  induction cs generalizing depth current with
  | nil => rfl
  | cons c cs ih =>
      rw [splitTopLevelFrom]
      by_cases hopen : c = '('
      · subst hopen
        rw [if_pos rfl, splitOuter_opening rfl, ih]
      rw [if_neg hopen]
      by_cases hclose : c = ')'
      · subst hclose
        rw [if_pos rfl, splitOuter_closing rfl, ih]
      rw [if_neg hclose]
      by_cases hcomma : c = ','
      · subst hcomma
        by_cases hdepth : depth = 0
        · subst hdepth
          rw [if_pos ⟨rfl, rfl⟩, splitOuter_outer rfl, ih, List.map_cons]
        · rw [if_neg fun h => hdepth h.2, splitOuter_inner rfl hdepth, ih]
      · have hplain : typeMark c = .plain := by
          rw [typeMark, if_neg hopen, if_neg hclose, if_neg hcomma]
        rw [if_neg fun h => hcomma h.1, splitOuter_plain hplain, ih]

theorem trim_eq_self (h : ∀ c ∈ cs, isWhitespace c = false) : Decoder.trim cs = cs := by
  have hdrop : ∀ cs : List Char, (∀ c ∈ cs, isWhitespace c = false) →
      cs.dropWhile isWhitespace = cs := by
    intro cs h
    cases cs with
    | nil => rfl
    | cons c cs => rw [List.dropWhile_cons_of_neg (by simp [h c List.mem_cons_self])]
  rw [Decoder.trim, hdrop cs h, hdrop cs.reverse fun c hc => h c (List.mem_reverse.mp hc),
    List.reverse_reverse]

theorem joinTypes_ne_nil (hts : ∀ t ∈ ts, CanonicalType t) (hne : ts ≠ []) :
    joinTypes ts ≠ [] := by
  cases ts with
  | nil => exact absurd rfl hne
  | cons t ts =>
      have ht := (hts t List.mem_cons_self).ne_nil
      rw [joinTypes]
      cases ts with
      | nil => rwa [List.intercalate_singleton]
      | cons u ts =>
          rw [List.intercalate_cons_cons, List.append_assoc]
          exact List.append_ne_nil_of_left_ne_nil ht _

/-- The types of a parameter list are split back. -/
theorem splitTopLevel_joinTypes (hts : ∀ t ∈ ts, CanonicalType t) :
    splitTopLevel (joinTypes ts) = ts := by
  by_cases hnil : ts = []
  · subst hnil
    rfl
  · have htrim : ts.map Decoder.trim = ts :=
      (List.map_congr_left fun t ht => trim_eq_self (hts t ht).not_isWhitespace).trans
        (List.map_id ts)
    have hsplit : splitOuter typeMark 0 [] (joinTypes ts) = ts :=
      splitOuter_intercalate rfl (fun t ht => (hts t ht).balanced) hnil
    rw [splitTopLevel, if_neg (joinTypes_ne_nil hts hnil), splitTopLevelFrom_eq, hsplit, htrim]

/-- While the text has fewer than `2 ^ 31` characters the counter stays in its range. -/
theorem splitTopLevelI32From_eq {op : Int → Checked Int}
    (hop : ∀ i, -2 ^ 31 ≤ i → i < 2 ^ 31 → op i = .ok i) {depth : Int}
    (hlow : -2 ^ 31 + (cs.length : Int) ≤ depth) (hhigh : depth + cs.length < 2 ^ 31)
    (current : List Char) :
    splitTopLevelI32From op depth current cs = .ok (splitTopLevelFrom depth current cs) := by
  induction cs generalizing depth current with
  | nil => rfl
  | cons c cs ih =>
      rw [List.length_cons] at hlow hhigh
      rw [splitTopLevelI32From, splitTopLevelFrom]
      by_cases hopen : c = '('
      · rw [if_pos hopen, if_pos hopen, hop (depth + 1) (by omega) (by omega)]
        exact ih (by omega) (by omega) _
      rw [if_neg hopen, if_neg hopen]
      by_cases hclose : c = ')'
      · rw [if_pos hclose, if_pos hclose, hop (depth - 1) (by omega) (by omega)]
        exact ih (by omega) (by omega) _
      rw [if_neg hclose, if_neg hclose]
      by_cases hcomma : c = ',' ∧ depth = 0
      · rw [if_pos hcomma, if_pos hcomma, ih (by omega) (by omega)]
        rfl
      · rw [if_neg hcomma, if_neg hcomma]
        exact ih (by omega) (by omega) _

theorem splitTopLevelI32_eq {op : Int → Checked Int} (hop : op ∈ [checkedI32, wrappingI32])
    (hlength : types.length < 2 ^ 31) :
    splitTopLevelI32 op types = .ok (splitTopLevel types) := by
  have hsame : ∀ i, -2 ^ 31 ≤ i → i < 2 ^ 31 → op i = .ok i := by
    intro i hlow hhigh
    rcases List.mem_pair.mp hop with rfl | rfl
    · exact checkedI32_of_lt hlow hhigh
    · exact wrappingI32_of_lt hlow hhigh
  rw [splitTopLevelI32, splitTopLevel]
  by_cases hnil : types = []
  · rw [if_pos hnil, if_pos hnil]
  · rw [if_neg hnil, if_neg hnil]
    exact splitTopLevelI32From_eq hsame (by omega) (by omega) []

/-! ## The parameter list -/

/-- The parameter list is what stands between the outer parentheses. -/
theorem extractParamList_signature (hname : '(' ∉ name) :
    extractParamList (name ++ '(' :: (types ++ [')'])) = some types := by
  have hopen : (name ++ '(' :: (types ++ [')'])).findIdx? (· = '(') = some name.length := by
    rw [List.findIdx?_append, List.findIdx?_eq_none_iff.mpr]
    · simp [List.findIdx?_cons]
    · intro c hc
      rw [decide_eq_false_iff_not]
      rintro rfl
      exact hname hc
  have hclose : (name ++ '(' :: (types ++ [')'])).reverse.findIdx? (· = ')') = some 0 := by
    simp [List.findIdx?_cons]
  have hlength : (name ++ '(' :: (types ++ [')'])).length - 1 - 0 =
      name.length + (types.length + 1) := by
    simp
  have htake : (name ++ '(' :: (types ++ [')'])).take (name.length + (types.length + 1)) =
      name ++ '(' :: types := by
    rw [List.take_length_add_append, List.take_succ_cons, List.take_left]
  simp only [extractParamList, hopen, hclose, Option.bind_eq_bind, Option.bind_some, hlength, htake]
  rw [if_neg (by omega), ← List.drop_drop, List.drop_left]
  rfl

/-- Of `name(T1,...,Tn)` the parameter list is the text between the outer parentheses, and it is
split into the types; so it is by the loop with its `i32` counter, in either build, while the list
has fewer than `2 ^ 31` characters. -/
theorem split_undoes_join (hname : '(' ∉ name) (hts : ∀ t ∈ ts, CanonicalType t) :
    extractParamList (name ++ '(' :: (joinTypes ts ++ [')'])) = some (joinTypes ts) ∧
      splitTopLevel (joinTypes ts) = ts ∧
      ((joinTypes ts).length < 2 ^ 31 → ∀ op ∈ [checkedI32, wrappingI32],
        splitTopLevelI32 op (joinTypes ts) = .ok ts) := by
  have hsplit := splitTopLevel_joinTypes hts
  refine ⟨extractParamList_signature hname, hsplit, fun hlength op hop => ?_⟩
  rw [splitTopLevelI32_eq hop hlength, hsplit]

/-- An array of tuples between two elementary types. -/
def nestedTypes : List (List Char) :=
  ["address".toList, "(address,uint24,uint256[2])[]".toList, "bytes".toList]

theorem split_undoes_join_nested :
    extractParamList "swap(address,(address,uint24,uint256[2])[],bytes)".toList =
        some "address,(address,uint24,uint256[2])[],bytes".toList ∧
      splitTopLevel "address,(address,uint24,uint256[2])[],bytes".toList = nestedTypes ∧
      splitTopLevelI32 checkedI32 "address,(address,uint24,uint256[2])[],bytes".toList =
        .ok nestedTypes := by
  have haddress : CanonicalType "address".toList := .elementary (.of_all (by decide) (by decide))
  have hbytes : CanonicalType "bytes".toList := .elementary (.of_all (by decide) (by decide))
  have huint24 : CanonicalType "uint24".toList := .elementary (.of_all (by decide) (by decide))
  have huint256 : CanonicalType "uint256".toList := .elementary (.of_all (by decide) (by decide))
  have hfields : ∀ t ∈ ["address".toList, "uint24".toList, "uint256[2]".toList],
      CanonicalType t := by
    simp only [List.forall_mem_cons, List.not_mem_nil, false_implies, implies_true, and_true]
    exact ⟨haddress, huint24, .fixedArray huint256 2⟩
  have hts : ∀ t ∈ nestedTypes, CanonicalType t := by
    simp only [nestedTypes, List.forall_mem_cons, List.not_mem_nil, false_implies, implies_true,
      and_true]
    exact ⟨haddress, .array (.tuple hfields), hbytes⟩
  have hname : '(' ∉ "swap".toList := by decide
  obtain ⟨hextract, hsplit, hcounted⟩ := split_undoes_join hname hts
  exact ⟨hextract, hsplit, hcounted (by decide) checkedI32 List.mem_cons_self⟩

end TxIndexer.Proofs
