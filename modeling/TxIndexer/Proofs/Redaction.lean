import Mathlib.Data.Bool.AllAny
import Mathlib.Data.List.TakeWhile
import TxIndexer.Indexer.Alerts

/-!
# What `last_error` tells about a URL

`redact_urls` cuts a text at each scheme and resumes at the next whitespace. The texts between
the URLs are all that its result depends on, and no scheme is left in it.
-/

namespace TxIndexer.Proofs

open Indexer

/-- `schemes` of `redact_urls`. -/
def schemes : List (List Char) := ["https://".toList, "http://".toList]

/-- The replacement of a URL. -/
def redacted : List Char := "<redacted-url>".toList

/-- No scheme occurs in the text. -/
def NoScheme (text : List Char) : Prop := ∀ scheme ∈ schemes, ¬ scheme <:+: text

instance (text : List Char) : Decidable (NoScheme text) :=
  inferInstanceAs (Decidable (∀ scheme ∈ schemes, ¬ scheme <:+: text))

/-- A URL starts here. -/
def StartsUrl (text : List Char) : Prop := ∃ scheme ∈ schemes, scheme <+: text

/-- The text from the whitespace that ends a URL. -/
def afterUrl (text : List Char) : List Char := text.dropWhile fun c => !isAsciiWhitespace c

/-! ## Occurrences of a scheme -/

/-- An occurrence without a character lies to one side of it. -/
theorem infix_of_not_mem {α : Type} {word before after : List α} {c : α} (hc : c ∉ word)
    (h : word <:+: before ++ c :: after) : word <:+: before ∨ word <:+: after := by
  rcases List.infix_append_iff.mp h with h | h | ⟨left, right, rfl, hleft, hright⟩
  · exact .inl h
  · rcases List.infix_cons_iff.mp h with h | h
    · cases word with
      | nil => exact .inl (List.nil_infix)
      | cons d word =>
          obtain ⟨rfl, -⟩ := List.cons_prefix_cons.mp h
          exact absurd List.mem_cons_self hc
    · exact .inr h
  · cases right with
    | nil => exact .inl (by simpa using hleft.isInfix)
    | cons d right =>
        obtain ⟨rfl, -⟩ := List.cons_prefix_cons.mp hright
        exact absurd (List.mem_append_right left List.mem_cons_self) hc

/-- A scheme begins with the only `h` it has. -/
theorem scheme_eq_cons : ∀ scheme ∈ schemes, ∃ rest, scheme = 'h' :: rest ∧ 'h' ∉ rest := by
  intro scheme hscheme
  rcases List.mem_cons.mp hscheme with rfl | hscheme
  · exact ⟨"ttps://".toList, by decide, by decide⟩
  · rw [List.mem_singleton.mp hscheme]
    exact ⟨"ttp://".toList, by decide, by decide⟩

theorem noScheme_cons {c : Char} {text : List Char} :
    NoScheme (c :: text) ↔ ¬ StartsUrl (c :: text) ∧ NoScheme text := by
  simp only [NoScheme, StartsUrl, List.infix_cons_iff, not_or, not_exists, not_and]
  constructor
  · intro h
    exact ⟨fun scheme hscheme => (h scheme hscheme).1, fun scheme hscheme => (h scheme hscheme).2⟩
  · rintro ⟨hstart, hrest⟩ scheme hscheme
    exact ⟨hstart scheme hscheme, hrest scheme hscheme⟩

theorem NoScheme.of_infix {text whole : List Char} (h : NoScheme whole) (hpart : text <:+: whole) :
    NoScheme text := by
  intro scheme hscheme hoccurs
  exact h scheme hscheme (hoccurs.trans hpart)

theorem StartsUrl.append {text : List Char} (h : StartsUrl text) (tail : List Char) :
    StartsUrl (text ++ tail) := by
  obtain ⟨scheme, hscheme, hprefix⟩ := h
  exact ⟨scheme, hscheme, hprefix.trans (List.prefix_append _ _)⟩

/-- A scheme that starts before a URL does not reach into it. -/
theorem StartsUrl.of_append {before url : List Char} (hbefore : before ≠ []) (hurl : StartsUrl url)
    (h : StartsUrl (before ++ url)) : StartsUrl before := by
  obtain ⟨scheme, hscheme, after, hafter⟩ := h
  obtain ⟨urlScheme, hurlScheme, hurlPrefix⟩ := hurl
  obtain ⟨urlRest, rfl, -⟩ := scheme_eq_cons urlScheme hurlScheme
  rcases List.append_eq_append_iff.mp hafter with ⟨rest, hcut, -⟩ | ⟨reach, hcut, hreach⟩
  · exact ⟨scheme, hscheme, rest, hcut.symm⟩
  · cases reach with
    | nil => exact ⟨scheme, hscheme, [], by simpa using hcut⟩
    | cons c reach =>
        -- the character of the scheme at the start of the URL would be its second `h`
        obtain ⟨tail, hscheme', hfree⟩ := scheme_eq_cons scheme hscheme
        rw [hreach] at hurlPrefix
        obtain ⟨rfl, -⟩ := List.cons_prefix_cons.mp hurlPrefix
        obtain ⟨d, before, rfl⟩ := List.exists_cons_of_ne_nil hbefore
        rw [hscheme', List.cons_append, List.cons.injEq] at hcut
        exact absurd (by simp [hcut.2]) hfree

/-! ## The first URL -/

theorem splitAtUrl_cons (c : Char) (text : List Char) :
    (StartsUrl (c :: text) ∧ splitAtUrl (c :: text) = some ([], c :: text)) ∨
      (¬ StartsUrl (c :: text) ∧ splitAtUrl (c :: text) =
        (splitAtUrl text).map fun (before, after) => (c :: before, after)) := by
  have hstarts : StartsUrl (c :: text) ↔
      "https://".toList <+: c :: text ∨ "http://".toList <+: c :: text := by
    simp [StartsUrl, schemes]
  by_cases h : StartsUrl (c :: text)
  · exact .inl ⟨h, by rw [splitAtUrl, if_pos (hstarts.mp h)]⟩
  · exact .inr ⟨h, by rw [splitAtUrl, if_neg (mt hstarts.mpr h)]⟩

theorem splitAtUrl_eq_none {text : List Char} : splitAtUrl text = none ↔ NoScheme text := by
  induction text with
  | nil => exact iff_of_true rfl (by decide)
  | cons c text ih =>
      rw [noScheme_cons]
      rcases splitAtUrl_cons c text with ⟨hstarts, hsplit⟩ | ⟨hstarts, hsplit⟩
      · simp [hsplit, hstarts]
      · simp [hsplit, hstarts, ih]

/-- The text is cut before a scheme, and no scheme starts earlier. -/
theorem splitAtUrl_eq_some {input before after : List Char}
    (h : splitAtUrl input = some (before, after)) :
    input = before ++ after ∧ NoScheme before ∧ StartsUrl after := by
  induction input generalizing before with
  | nil => cases h
  | cons c text ih =>
      rcases splitAtUrl_cons c text with ⟨hstarts, hsplit⟩ | ⟨hstarts, hsplit⟩
      · rw [hsplit] at h
        cases h
        exact ⟨rfl, by decide, hstarts⟩
      · rw [hsplit] at h
        obtain ⟨⟨before', after'⟩, hrest, heq⟩ := Option.map_eq_some_iff.mp h
        cases heq
        obtain ⟨rfl, hfree, hurl⟩ := ih hrest
        exact ⟨rfl, noScheme_cons.mpr ⟨fun h => hstarts (h.append after), hfree⟩, hurl⟩

/-- A URL after a text without a scheme is the first one. -/
theorem splitAtUrl_append {before after : List Char} (hbefore : NoScheme before)
    (hafter : StartsUrl after) : splitAtUrl (before ++ after) = some (before, after) := by
  induction before with
  | nil =>
      obtain ⟨scheme, hscheme, hprefix⟩ := hafter
      cases after with
      | nil =>
          rw [List.prefix_nil.mp hprefix] at hscheme
          exact absurd hscheme (by decide)
      | cons c text =>
          rcases splitAtUrl_cons c text with ⟨-, hsplit⟩ | ⟨hstarts, -⟩
          · exact hsplit
          · exact absurd ⟨scheme, hscheme, hprefix⟩ hstarts
  | cons c before ih =>
      obtain ⟨hstart, hrest⟩ := noScheme_cons.mp hbefore
      rcases splitAtUrl_cons c (before ++ after) with ⟨hstarts, -⟩ | ⟨-, hsplit⟩
      · exact absurd (StartsUrl.of_append (List.cons_ne_nil c before) hafter hstarts) hstart
      · rw [List.cons_append, hsplit, ih hrest]
        rfl

theorem redactUrls_of_noScheme {text : List Char} (h : NoScheme text) : redactUrls text = text := by
  rw [redactUrls]
  split
  · rfl
  · next before after hsplit => rw [splitAtUrl_eq_none.mpr h] at hsplit; cases hsplit

/-- The first URL is replaced up to the whitespace that ends it. -/
theorem redactUrls_append {before after : List Char} (hbefore : NoScheme before)
    (hafter : StartsUrl after) :
    redactUrls (before ++ after) = before ++ redacted ++ redactUrls (afterUrl after) := by
  rw [redactUrls]
  split
  · next hsplit => rw [splitAtUrl_append hbefore hafter] at hsplit; cases hsplit
  · next before' after' hsplit =>
      rw [splitAtUrl_append hbefore hafter] at hsplit
      cases hsplit
      rfl

/-! ## What is kept and what is not -/

/-- `input` is a text without a scheme, then a URL up to a whitespace, then such a text again;
`texts` are the texts before, between and after its URLs. -/
inductive UrlText : List Char → List (List Char) → Prop
  | last {text : List Char} : NoScheme text → UrlText text [text]
  | url {text url rest : List Char} {texts : List (List Char)} :
      NoScheme text → StartsUrl url → (∀ c ∈ url, isAsciiWhitespace c = false) →
      (∀ c ∈ rest.head?, isAsciiWhitespace c = true) → UrlText rest texts →
      UrlText (text ++ url ++ rest) (text :: texts)

/-- The inputs are the same up to characters other than whitespace after one scheme. -/
def DifferInUrl (input other : List Char) : Prop :=
  ∃ before, ∃ scheme ∈ schemes, ∃ url url' after,
    (∀ c ∈ url, isAsciiWhitespace c = false) ∧ (∀ c ∈ url', isAsciiWhitespace c = false) ∧
      input = before ++ scheme ++ url ++ after ∧ other = before ++ scheme ++ url' ++ after

theorem afterUrl_append {url : List Char} (hurl : ∀ c ∈ url, isAsciiWhitespace c = false)
    (rest : List Char) : afterUrl (url ++ rest) = afterUrl rest := by
  rw [afterUrl, List.dropWhile_append, if_pos]
  · rfl
  · rw [List.isEmpty_iff, List.dropWhile_eq_nil_iff]
    intro c hc
    simp [hurl c hc]

theorem afterUrl_eq_self {rest : List Char}
    (hrest : ∀ c ∈ rest.head?, isAsciiWhitespace c = true) : afterUrl rest = rest := by
  cases rest with
  | nil => rfl
  | cons c rest =>
      rw [afterUrl, List.dropWhile_cons_of_neg]
      simp [hrest c rfl]

theorem not_whitespace_of_mem_scheme :
    ∀ scheme ∈ schemes, ∀ c ∈ scheme, isAsciiWhitespace c = false := by
  have hall : ∀ scheme ∈ schemes, scheme.all fun c => isAsciiWhitespace c = false := by decide
  intro scheme hscheme
  exact List.all_iff_forall_prop.mp (hall scheme hscheme)

/-- A URL runs to the next whitespace. -/
theorem exists_url {after : List Char} (h : StartsUrl after) :
    ∃ url, after = url ++ afterUrl after ∧ StartsUrl url ∧
      (∀ c ∈ url, isAsciiWhitespace c = false) ∧
      ∀ c ∈ (afterUrl after).head?, isAsciiWhitespace c = true := by
  obtain ⟨scheme, hscheme, tail, rfl⟩ := h
  refine ⟨(scheme ++ tail).takeWhile fun c => !isAsciiWhitespace c,
    List.takeWhile_append_dropWhile.symm, ?_, ?_, ?_⟩
  · refine ⟨scheme, hscheme, ?_⟩
    rw [List.takeWhile_append_of_pos]
    · exact List.prefix_append _ _
    · intro c hc
      simp [not_whitespace_of_mem_scheme scheme hscheme c hc]
  · intro c hc
    simpa using List.mem_takeWhile_imp hc
  · intro c hc
    have hhead := List.head?_dropWhile_not (fun c => !isAsciiWhitespace c) (scheme ++ tail)
    rw [show (scheme ++ tail).dropWhile _ = afterUrl (scheme ++ tail) from rfl, hc] at hhead
    simpa using hhead

/-- Every input is texts and URLs in turn. -/
theorem exists_urlText (input : List Char) : ∃ texts, UrlText input texts := by
  induction input using redactUrls.induct with
  | case1 input hnone => exact ⟨_, .last (splitAtUrl_eq_none.mp hnone)⟩
  | case2 input before after hsplit ih =>
      obtain ⟨texts, htexts⟩ := ih
      obtain ⟨rfl, hbefore, hafter⟩ := splitAtUrl_eq_some hsplit
      obtain ⟨url, hcut, hurl, hword, hrest⟩ := exists_url hafter
      have hurlText : UrlText (before ++ url ++ afterUrl after) (before :: texts) :=
        .url hbefore hurl hword hrest htexts
      rw [List.append_assoc, ← hcut] at hurlText
      exact ⟨_, hurlText⟩

/-- The result is the texts with the replacement between them. -/
theorem redactUrls_eq_intercalate {input : List Char} {texts : List (List Char)}
    (h : UrlText input texts) : redactUrls input = redacted.intercalate texts := by
  induction h with
  | last hfree => simp [redactUrls_of_noScheme hfree]
  | @url text url rest texts hfree hurl hword hrest htexts ih =>
      rw [List.append_assoc, redactUrls_append hfree (hurl.append rest), afterUrl_append hword,
        afterUrl_eq_self hrest, ih]
      cases htexts <;> simp [List.intercalate, List.intersperse]

/-- The replacement without its brackets. -/
def redactedWord : List Char := "redacted-url".toList

theorem redacted_eq : redacted = '<' :: (redactedWord ++ ['>']) := by decide

/-- No scheme has a bracket. -/
theorem not_mem_scheme : ∀ scheme ∈ schemes, '<' ∉ scheme ∧ '>' ∉ scheme := by
  decide

theorem noScheme_redactedWord : NoScheme redactedWord := by
  have hcolon : ∀ scheme ∈ schemes, ':' ∈ scheme := by decide
  intro scheme hscheme hoccurs
  exact absurd (hoccurs.subset (hcolon scheme hscheme)) (by decide)

/-- The result has no scheme: none spans a replacement. -/
theorem noScheme_redactUrls (input : List Char) : NoScheme (redactUrls input) := by
  induction input using redactUrls.induct with
  | case1 input hnone =>
      have hfree := splitAtUrl_eq_none.mp hnone
      rw [redactUrls_of_noScheme hfree]
      exact hfree
  | case2 input before after hsplit ih =>
      obtain ⟨rfl, hbefore, hafter⟩ := splitAtUrl_eq_some hsplit
      rw [redactUrls_append hbefore hafter]
      intro scheme hscheme hoccurs
      obtain ⟨hopen, hclose⟩ := not_mem_scheme scheme hscheme
      rw [redacted_eq, List.append_assoc, List.cons_append, List.append_assoc] at hoccurs
      rcases infix_of_not_mem hopen hoccurs with hoccurs | hoccurs
      · exact hbefore scheme hscheme hoccurs
      rcases infix_of_not_mem hclose hoccurs with hoccurs | hoccurs
      · exact noScheme_redactedWord scheme hscheme hoccurs
      · exact ih scheme hscheme hoccurs

/-- What follows a scheme up to the next whitespace does not show. -/
theorem redactUrls_url {scheme url url' after : List Char} (hscheme : scheme ∈ schemes)
    (hurl : ∀ c ∈ url, isAsciiWhitespace c = false)
    (hurl' : ∀ c ∈ url', isAsciiWhitespace c = false) (before : List Char) :
    redactUrls (before ++ (scheme ++ url ++ after)) =
      redactUrls (before ++ (scheme ++ url' ++ after)) := by
  have hword := not_whitespace_of_mem_scheme scheme hscheme
  induction before using redactUrls.induct with
  | case1 before hnone =>
      have hfree := splitAtUrl_eq_none.mp hnone
      have hstarts : ∀ rest, StartsUrl (scheme ++ rest) :=
        fun rest => ⟨scheme, hscheme, List.prefix_append _ _⟩
      simp only [List.append_assoc]
      rw [redactUrls_append hfree (hstarts _), redactUrls_append hfree (hstarts _),
        afterUrl_append hword, afterUrl_append hword, afterUrl_append hurl, afterUrl_append hurl']
  | case2 before text rest hsplit ih =>
      obtain ⟨rfl, htext, hrest⟩ := splitAtUrl_eq_some hsplit
      have hfirst : ∀ tail, redactUrls (text ++ rest ++ tail) =
          text ++ redacted ++ redactUrls (afterUrl (rest ++ tail)) := by
        intro tail
        rw [List.append_assoc, redactUrls_append htext (hrest.append tail)]
      rw [hfirst, hfirst]
      congr 1
      -- the scheme lies in the URL at hand, or after the whitespace that ends it
      by_cases hends : ∀ c ∈ rest, isAsciiWhitespace c = false
      · simp only [List.append_assoc]
        rw [afterUrl_append hends, afterUrl_append hends, afterUrl_append hword,
          afterUrl_append hword, afterUrl_append hurl, afterUrl_append hurl']
      · have hcut : ∀ tail, afterUrl (rest ++ tail) = afterUrl rest ++ tail := by
          intro tail
          rw [afterUrl, List.dropWhile_append, if_neg]
          · rfl
          · rw [List.isEmpty_iff, List.dropWhile_eq_nil_iff]
            simpa using hends
        rw [hcut, hcut]
        exact ih

theorem redactUrls_differInUrl {input other : List Char} (h : DifferInUrl input other) :
    redactUrls input = redactUrls other := by
  obtain ⟨before, scheme, hscheme, url, url', after, hurl, hurl', rfl, rfl⟩ := h
  have hsame : redactUrls (before ++ (scheme ++ url ++ after)) = _ :=
    redactUrls_url hscheme hurl hurl' before
  simpa only [List.append_assoc] using hsame

/-- Redaction keeps the texts between the URLs and nothing of a URL, and so does what is stored
of it. -/
theorem redaction_leaks_nothing (input : List Char) :
    NoScheme (redactUrls input) ∧
    (∃ texts, UrlText input texts) ∧
    (∀ texts, UrlText input texts → redactUrls input = redacted.intercalate texts) ∧
    redactUrls (redactUrls input) = redactUrls input ∧
    (∀ other, DifferInUrl input other → redactUrls other = redactUrls input) ∧
    ∃ lastError, recordOf (.error (String.ofList input)) = (false, some lastError) ∧
      lastError.toList = (redactUrls input).take 500 ∧ NoScheme lastError.toList ∧
      ∀ other, DifferInUrl input other →
        recordOf (.error (String.ofList other)) = (false, some lastError) := by
  have hfree := noScheme_redactUrls input
  have hrecord : ∀ text : List Char, recordOf (.error (String.ofList text)) =
      (false, some (String.ofList ((redactUrls text).take 500))) := by
    intro text
    simp [recordOf]
  refine ⟨hfree, exists_urlText input, fun texts h => redactUrls_eq_intercalate h,
    redactUrls_of_noScheme hfree, fun other h => (redactUrls_differInUrl h).symm,
    String.ofList ((redactUrls input).take 500), hrecord input, ?_, ?_, ?_⟩
  · exact String.toList_ofList
  · rw [String.toList_ofList]
    exact hfree.of_infix (List.take_prefix 500 _).isInfix
  · intro other hother
    rw [hrecord other, redactUrls_differInUrl hother]

end TxIndexer.Proofs
