import TxIndexer.Db.RevertTemplate

/-!
# Templates depend on the message format only

A message format is a text with holes for addresses, hexadecimal literals and long numbers. The
literal pieces keep the holes apart, so that each replacement works on each piece on its own, and
every value of a hole becomes the placeholder of its kind. Only a message that is all
`Panic(0x…)` is kept as it is.
-/

namespace TxIndexer.Proofs

open Db Lib

/-- What a hole stands for. -/
inductive HoleKind where
  | address
  | hex
  | number
  deriving DecidableEq, Repr

/-- `0x` and hexadecimal digits, so many as `p` says. -/
def IsHexValue (p : Nat → Prop) (v : List Char) : Prop :=
  ∃ ds, v = '0' :: 'x' :: ds ∧ (∀ d ∈ ds, isHexDigit d = true) ∧ p ds.length

/-- The values that fill a hole. -/
def HoleKind.Admits : HoleKind → List Char → Prop
  | .address, v => IsHexValue (fun n => n = 40) v
  | .hex, v => IsHexValue (fun n => (1 ≤ n ∧ n ≤ 39) ∨ 41 ≤ n) v
  | .number, v => (∀ d ∈ v, isDecimalDigit d = true) ∧ 4 ≤ v.length

/-- What a value becomes. -/
def HoleKind.placeholder : HoleKind → List Char
  | .address => addrPlaceholder
  | .hex => hexPlaceholder
  | .number => numberPlaceholder

/-- A part of a format. -/
inductive Piece where
  | literal (text : List Char)
  | hole (kind : HoleKind)
  deriving DecidableEq, Repr

/-- Holes and literal pieces take turns, and a literal piece meets a hole with a character that is
neither a hexadecimal digit nor `x`. -/
def Follows : Piece → Piece → Prop
  | .literal text, .hole _ => ∀ c ∈ text.getLast?, isHexOrX c = false
  | .hole _, .literal text => ∀ c ∈ text.head?, isHexOrX c = false
  | .literal _, .literal _ => False
  | .hole _, .hole _ => False

/-- A message format. -/
structure Format where
  pieces : List Piece
  chain : pieces.IsChain Follows
  literals : ∀ text, .literal text ∈ pieces → text ≠ [] ∧ ¬ ['0', 'x'] <:+: text

/-- `s` is the format with a value in each hole. -/
inductive Fills : List Piece → List Char → Prop
  | nil : Fills [] []
  | literal {text s : List Char} {ps : List Piece} (h : Fills ps s) :
      Fills (.literal text :: ps) (text ++ s)
  | hole {kind : HoleKind} {v s : List Char} {ps : List Piece} (hv : kind.Admits v)
      (h : Fills ps s) : Fills (.hole kind :: ps) (v ++ s)

/-- `Panic(` and `)` around one hole. -/
def panicFormat (kind : HoleKind) : List Piece :=
  [.literal "Panic(".toList, .hole kind, .literal [')']]

variable {kind : HoleKind} {v s s' ds : List Char} {p : Piece} {ps : List Piece}
  {fmt : Format} {sp : SpaceClass}

/-! ## What becomes of a value -/

/-- After its first character a hexadecimal value contains no other. -/
theorem hexLead_not_prefix (hds : ∀ d ∈ ds, isHexDigit d = true) :
    ∀ u, u <:+ 'x' :: ds → ¬ ['0', 'x'] <+: u := by
  intro u hu hpre
  rcases List.suffix_cons_iff.mp hu with rfl | hu
  · exact absurd (List.cons_prefix_cons.mp hpre).1 (by decide)
  · have hx := hds 'x' (hu.subset (hpre.subset (by decide)))
    exact absurd hx (by decide)

/-- A hexadecimal value of another length stays. -/
theorem replaceAll_hex_self {r : RunPattern Char} {repl : List Char} (hlead : r.lead = ['0', 'x'])
    (hcls : r.cls = isHexDigit) (hds : ∀ d ∈ ds, isHexDigit d = true)
    (hlength : ¬ r.lo ≤ r.taken ds.length) :
    replaceAll r.matcher repl ('0' :: 'x' :: ds) = '0' :: 'x' :: ds := by
  refine replaceAll_eq_self fun u hu => ?_
  rcases List.suffix_cons_iff.mp hu with rfl | hu
  · have hstop : ∀ y ∈ ([] : List Char).head?, r.cls y = false := nofun
    have hmatch := r.matcher_lead (hcls ▸ hds) hstop
    rw [List.append_nil, hlead, if_neg fun h => hlength h.1] at hmatch
    exact hmatch
  · exact r.matcher_of_not_prefix (hlead ▸ hexLead_not_prefix hds u hu)

/-- A hexadecimal value of the right length is replaced. -/
theorem replaceAll_hex {r : RunPattern Char} {repl : List Char} (hlead : r.lead = ['0', 'x'])
    (hcls : r.cls = isHexDigit) (hds : ∀ d ∈ ds, isHexDigit d = true) (hlo : r.lo ≤ ds.length)
    (hhi : r.taken ds.length = ds.length) :
    replaceAll r.matcher repl ('0' :: 'x' :: ds) = repl := by
  have hne : r.lead ++ ds ≠ [] := by
    rw [hlead]
    exact List.cons_ne_nil _ _
  have hrun : replaceAll r.matcher repl (r.lead ++ ds) = repl :=
    r.replaceAll_run (hcls ▸ hds) hlo hhi hne
  rw [hlead] at hrun
  exact hrun

/-- Texts that the number pattern and the three hexadecimal patterns leave as they are. -/
theorem placeholder_stays : ∀ text ∈ [hexPlaceholder, addrPlaceholder, numberPlaceholder],
    ∀ pass ∈ placeholders, replaceAll pass.1 pass.2 text = text := by
  intro text htext pass hpass
  simp only [placeholders, List.mem_cons, List.not_mem_nil, or_false] at htext hpass
  rcases htext with rfl | rfl | rfl
  · rcases hpass with rfl | rfl | rfl | rfl <;> decide
  · rcases hpass with rfl | rfl | rfl | rfl <;> decide
  · rcases hpass with rfl | rfl | rfl | rfl <;> decide

theorem fillPlaceholders_address (hds : ∀ d ∈ ds, isHexDigit d = true) (hlength : ds.length = 40) :
    fillPlaceholders ('0' :: 'x' :: ds) = addrPlaceholder := by
  have hlong : ¬ longHex.lo ≤ longHex.taken ds.length := by
    rw [hlength]
    decide
  have htaken : addressHex40.taken ds.length = ds.length := by
    rw [hlength]
    rfl
  have hstays := placeholder_stays addrPlaceholder (by decide)
  rw [fillPlaceholders, replaceAll_hex_self (r := longHex) rfl rfl hds hlong,
    replaceAll_hex (r := addressHex40) rfl rfl hds hlength.ge htaken,
    hstays (shortHex.matcher, hexPlaceholder) (by simp [placeholders]),
    hstays (longNumber.matcher, numberPlaceholder) (by simp [placeholders])]

theorem fillPlaceholders_longHex (hds : ∀ d ∈ ds, isHexDigit d = true) (hlength : 41 ≤ ds.length) :
    fillPlaceholders ('0' :: 'x' :: ds) = hexPlaceholder := by
  have hstays := placeholder_stays hexPlaceholder (by decide)
  rw [fillPlaceholders, replaceAll_hex (r := longHex) rfl rfl hds hlength rfl,
    hstays (addressHex40.matcher, addrPlaceholder) (by simp [placeholders]),
    hstays (shortHex.matcher, hexPlaceholder) (by simp [placeholders]),
    hstays (longNumber.matcher, numberPlaceholder) (by simp [placeholders])]

theorem fillPlaceholders_shortHex (hds : ∀ d ∈ ds, isHexDigit d = true) (hpos : 1 ≤ ds.length)
    (hlength : ds.length ≤ 39) : fillPlaceholders ('0' :: 'x' :: ds) = hexPlaceholder := by
  have hlong : ¬ longHex.lo ≤ longHex.taken ds.length := by
    show ¬ 41 ≤ ds.length
    omega
  have haddress : ¬ addressHex40.lo ≤ addressHex40.taken ds.length := by
    show ¬ 40 ≤ min ds.length 40
    omega
  have htaken : shortHex.taken ds.length = ds.length := Nat.min_eq_left hlength
  have hstays := placeholder_stays hexPlaceholder (by decide)
  rw [fillPlaceholders, replaceAll_hex_self (r := longHex) rfl rfl hds hlong,
    replaceAll_hex_self (r := addressHex40) rfl rfl hds haddress,
    replaceAll_hex (r := shortHex) rfl rfl hds hpos htaken,
    hstays (longNumber.matcher, numberPlaceholder) (by simp [placeholders])]

theorem fillPlaceholders_number (hv : ∀ d ∈ v, isDecimalDigit d = true) (hlength : 4 ≤ v.length) :
    fillPlaceholders v = numberPlaceholder := by
  have hno : ∀ u, u <:+ v → ¬ ['0', 'x'] <+: u := by
    intro u hu hpre
    have hx := hv 'x' (hu.subset (hpre.subset (by decide)))
    exact absurd hx (by decide)
  have hself : ∀ (r : RunPattern Char) (repl : List Char), r.lead = ['0', 'x'] →
      replaceAll r.matcher repl v = v := fun r repl hlead =>
    replaceAll_eq_self fun u hu => r.matcher_of_not_prefix (hlead ▸ hno u hu)
  have hne : v ≠ [] := by
    rintro rfl
    exact absurd hlength (by decide)
  rw [fillPlaceholders, hself longHex _ rfl, hself addressHex40 _ rfl, hself shortHex _ rfl]
  exact longNumber.replaceAll_run hv hlength rfl hne

/-- A value becomes the placeholder of its hole. -/
theorem fillPlaceholders_value (h : kind.Admits v) : fillPlaceholders v = kind.placeholder := by
  cases kind with
  | address =>
      obtain ⟨ds, rfl, hds, hlength⟩ := h
      exact fillPlaceholders_address hds hlength
  | hex =>
      obtain ⟨ds, rfl, hds, ⟨hpos, hlength⟩ | hlength⟩ := h
      · exact fillPlaceholders_shortHex hds hpos hlength
      · exact fillPlaceholders_longHex hds hlength
  | number => exact fillPlaceholders_number h.1 h.2

/-! ## What becomes of a message -/

/-- The value begins with a decimal digit, and has at least three characters. -/
structure StartsWithDigit (v : List Char) : Prop where
  head : ∃ d rest, v = d :: rest ∧ isDecimalDigit d = true
  three_le : 3 ≤ v.length
  chars : ∀ c ∈ v, isHexOrX c = true

theorem IsHexValue.startsWithDigit {q : Nat → Prop} (hq : ∀ n, q n → 1 ≤ n) (h : IsHexValue q v) :
    StartsWithDigit v := by
  obtain ⟨ds, rfl, hds, hlength⟩ := h
  have hpos := hq _ hlength
  refine ⟨⟨'0', _, rfl, by decide⟩, ?_, fun c hc => ?_⟩
  · simp only [List.length_cons]
    omega
  · simp only [List.mem_cons] at hc
    rcases hc with rfl | rfl | hc
    · decide
    · decide
    · simp [isHexOrX, hds c hc]

theorem HoleKind.Admits.startsWithDigit (h : kind.Admits v) : StartsWithDigit v := by
  cases kind with
  | address =>
      have hvalue : IsHexValue (fun n => n = 40) v := h
      exact hvalue.startsWithDigit fun n hn => by omega
  | hex =>
      have hvalue : IsHexValue (fun n => (1 ≤ n ∧ n ≤ 39) ∨ 41 ≤ n) v := h
      exact hvalue.startsWithDigit fun n hn => by omega
  | number =>
      obtain ⟨hv, hlength⟩ := h
      cases v with
      | nil => exact absurd hlength (by decide)
      | cons d rest =>
          refine ⟨⟨d, rest, rfl, hv d List.mem_cons_self⟩, by omega, fun c hc => ?_⟩
          simp [isHexOrX, isHexDigit_of_decimal (hv c hc)]

/-- The message after the four replacements. -/
def render : List Piece → List Char
  | [] => []
  | .literal text :: ps => fillPlaceholders text ++ render ps
  | .hole kind :: ps => kind.placeholder ++ render ps

/-- Where a part of a format is followed by another, a boundary is between them. -/
theorem Fills.separated (hchain : (p :: ps).IsChain Follows)
    (hliteral : ∀ text, .literal text ∈ ps → text ≠ []) (h : Fills ps s) :
    (∀ text, p = .literal text → Separated isHexOrX text s) ∧
      ∀ kind, p = .hole kind → ∀ v, Separated isHexOrX v s := by
  cases h with
  | nil => exact ⟨fun text _ => .inr nofun, fun kind _ v => .inr nofun⟩
  | @literal text s ps h =>
      have hfollows := (List.isChain_cons_cons.mp hchain).1
      refine ⟨?_, ?_⟩
      · rintro text rfl
        exact hfollows.elim
      · rintro kind rfl v
        refine .inr fun c hc => hfollows c ?_
        have hne := hliteral text List.mem_cons_self
        cases text with
        | nil => exact absurd rfl hne
        | cons d text => exact hc
  | hole hv h =>
      have hfollows := (List.isChain_cons_cons.mp hchain).1
      refine ⟨?_, ?_⟩
      · rintro text rfl
        exact .inl hfollows
      · rintro kind rfl v
        exact hfollows.elim

/-- Each part is replaced on its own. -/
theorem Fills.fillPlaceholders (hchain : ps.IsChain Follows)
    (hliteral : ∀ text, .literal text ∈ ps → text ≠ []) (h : Fills ps s) :
    fillPlaceholders s = render ps := by
  induction h with
  | nil => rfl
  | @literal text s ps h ih =>
      have hrest : ∀ text, .literal text ∈ ps → text ≠ [] :=
        fun text htext => hliteral text (List.mem_cons_of_mem _ htext)
      rw [fillPlaceholders_append ((h.separated hchain hrest).1 text rfl), ih hchain.of_cons hrest,
        render]
  | @hole kind v s ps hv h ih =>
      have hrest : ∀ text, .literal text ∈ ps → text ≠ [] :=
        fun text htext => hliteral text (List.mem_cons_of_mem _ htext)
      rw [fillPlaceholders_append ((h.separated hchain hrest).2 kind rfl v), ih hchain.of_cons hrest,
        fillPlaceholders_value hv, render]

/-! ## The other arms -/

theorem Fills.eq_of_no_hole (hno : ∀ kind, .hole kind ∉ ps) (h : Fills ps s) (h' : Fills ps s') :
    s = s' := by
  induction h generalizing s' with
  | nil => cases h'; rfl
  | @literal text s ps h ih =>
      cases h' with
      | literal h' => rw [ih (fun kind hk => hno kind (List.mem_cons_of_mem _ hk)) h']
  | @hole kind v s ps hv h ih => exact absurd List.mem_cons_self (hno kind)

theorem Fills.exists_value (h : Fills ps s) (hhole : .hole kind ∈ ps) :
    ∃ v, v <:+: s ∧ kind.Admits v := by
  induction h with
  | nil => cases hhole
  | literal h ih =>
      obtain ⟨v, hv, hadmits⟩ := ih ((List.mem_cons.mp hhole).resolve_left nofun)
      exact ⟨v, hv.trans (List.suffix_append _ _).isInfix, hadmits⟩
  | @hole kind' v s ps hv h ih =>
      rcases List.mem_cons.mp hhole with heq | hhole
      · cases heq
        exact ⟨v, (List.prefix_append _ _).isInfix, hv⟩
      · obtain ⟨w, hw, hadmits⟩ := ih hhole
        exact ⟨w, hw.trans (List.suffix_append _ _).isInfix, hadmits⟩

/-- A literal piece next to a hole has a character that no hexadecimal text has. -/
theorem Fills.exists_boundary (hchain : ps.IsChain Follows)
    (hliteral : ∀ text, .literal text ∈ ps → text ≠ []) (h : Fills ps s)
    (hhole : .hole kind ∈ ps) {text : List Char} (htext : .literal text ∈ ps) :
    ∃ c ∈ s, isHexOrX c = false := by
  cases h with
  | nil => cases hhole
  | @literal text' s ps h =>
      have hne := hliteral text' List.mem_cons_self
      cases h with
      | nil =>
          rcases List.mem_cons.mp hhole with heq | hmem
          · cases heq
          · cases hmem
      | literal h => exact ((List.isChain_cons_cons.mp hchain).1).elim
      | hole hv h =>
          have hfollows := (List.isChain_cons_cons.mp hchain).1
          exact ⟨_, List.mem_append_left _ (List.getLast_mem hne),
            hfollows _ (List.getLast?_eq_some_getLast hne)⟩
  | hole hv h =>
      cases h with
      | nil =>
          rcases List.mem_cons.mp htext with heq | hmem
          · cases heq
          · cases hmem
      | @literal text' s ps h =>
          have hfollows := (List.isChain_cons_cons.mp hchain).1
          have hne := hliteral text' (by simp)
          exact ⟨_, List.mem_append_right _ (List.mem_append_left _ (List.head_mem hne)),
            hfollows _ (List.head?_eq_some_head hne)⟩
      | hole hv h => exact ((List.isChain_cons_cons.mp hchain).1).elim

/-- A text with a value in it is neither blank nor `0x`. -/
theorem btrim_ne (hv : StartsWithDigit v) (hinfix' : v <:+: s) :
    ¬ (btrim s = [] ∨ btrim s = ['0', 'x']) := by
  have hkept : (v.filter fun c => c ≠ ' ') = v := by
    refine List.filter_eq_self.mpr fun c hc => decide_eq_true fun heq => ?_
    have hchar := hv.chars c hc
    rw [heq] at hchar
    cases hchar
  have hle : v.length ≤ ((btrim s).filter fun c => c ≠ ' ').length := by
    rw [btrim, filter_trim, ← hkept]
    exact (hinfix'.sublist.filter _).length_le
  have hlength := hv.three_le
  rintro (heq | heq)
  · rw [heq] at hle
    exact absurd (hlength.trans hle) (by decide)
  · rw [heq] at hle
    exact absurd (hlength.trans hle) (by decide)

theorem not_isHexRun_of_boundary {c : Char} {lo : Nat} (hc : c ∈ s) (hboundary : isHexOrX c = false) :
    ¬ IsHexRun ['0', 'x'] lo [] s := by
  rw [isHexRun_iff (by intro y hy; cases hy)]
  rintro ⟨ds, hds, -, rfl⟩
  rw [List.append_nil] at hc
  rcases List.mem_append.mp hc with hc | hc
  · have hall : ∀ c ∈ ['0', 'x'], isHexOrX c = true := List.all_eq_true.mp (by decide)
    rw [hall c hc] at hboundary
    cases hboundary
  · rw [isHexOrX, hds c hc] at hboundary
    cases hboundary

/-- Two runs of digits before characters that are none. -/
theorem hexRun_unique {ds' a b : List Char} (hds : ∀ d ∈ ds, isHexDigit d = true)
    (hds' : ∀ d ∈ ds', isHexDigit d = true) (ha : ∀ c ∈ a.head?, isHexDigit c = false)
    (hb : ∀ c ∈ b.head?, isHexDigit c = false) (heq : ds ++ a = ds' ++ b) : ds = ds' ∧ a = b := by
  have hstop : ∀ l : List Char, (∀ c ∈ l.head?, isHexDigit c = false) →
      l.takeWhile isHexDigit = [] := by
    intro l hl
    cases l with
    | nil => rfl
    | cons c l => exact List.takeWhile_cons_of_neg (by simpa using hl c rfl)
  have htake := congrArg (List.takeWhile isHexDigit) heq
  rw [List.takeWhile_append_of_pos hds, List.takeWhile_append_of_pos hds', hstop a ha, hstop b hb,
    List.append_nil, List.append_nil] at htake
  subst htake
  exact ⟨rfl, List.append_cancel_left heq⟩

theorem isHexDigit_of_boundary {c : Char} (h : isHexOrX c = false) : isHexDigit c = false :=
  (Bool.or_eq_false_iff.mp h).1

/-- Nothing fills a format that has a part. -/
theorem Fills.nil_of_nil (hliteral : ∀ text, .literal text ∈ ps → text ≠ []) (h : Fills ps []) :
    ps = [] := by
  cases hps : ps with
  | nil => rfl
  | cons p ps' =>
      subst hps
      generalize hs : ([] : List Char) = s at h
      cases h with
      | literal h =>
          exact absurd (List.append_eq_nil_iff.mp hs.symm).1 (hliteral _ List.mem_cons_self)
      | hole hv h =>
          have hlength := hv.startsWithDigit.three_le
          rw [(List.append_eq_nil_iff.mp hs.symm).1] at hlength
          exact absurd hlength (by decide)

/-- The first literal piece of a message that is all `Panic(0x…)`. -/
theorem panicOpen_of_append {text rest : List Char} (hv : StartsWithDigit v)
    (hlast : ∀ c ∈ text.getLast?, isHexOrX c = false) (hno : ¬ ['0', 'x'] <:+: text)
    (heq : text ++ (v ++ s) = "Panic(".toList ++ '0' :: 'x' :: rest) :
    text = "Panic(".toList ∧ v ++ s = '0' :: 'x' :: rest := by
  obtain ⟨⟨d, v', rfl, hd⟩, -, -⟩ := hv
  rcases List.append_eq_append_iff.mp heq with ⟨front, hopen, hrest⟩ | ⟨front, htext, hrest⟩
  · cases front with
    | nil => exact ⟨by simpa using hopen.symm, by simpa using hrest⟩
    | cons c front =>
        -- a value would begin inside of the opening
        have hall : ("Panic(".toList.all fun c => !isDecimalDigit c) = true := by decide
        have hmem : c ∈ "Panic(".toList := by
          rw [hopen]
          exact List.mem_append_right _ List.mem_cons_self
        obtain rfl : d = c := (List.cons.inj hrest).1
        have hnot := List.all_eq_true.mp hall d hmem
        rw [hd] at hnot
        cases hnot
  · cases front with
    | nil => exact ⟨by simpa using htext, by simpa using hrest.symm⟩
    | cons c front =>
        obtain ⟨rfl, htail⟩ := List.cons.inj hrest
        cases front with
        | nil =>
            rw [htext, List.getLast?_append] at hlast
            exact absurd (hlast '0' rfl) (by decide)
        | cons c' front =>
            obtain ⟨rfl, -⟩ := List.cons.inj htail
            exact absurd ⟨"Panic(".toList, front, by rw [htext]; simp⟩ hno

theorem IsHexValue.exists_digits {q : Nat → Prop} {rest : List Char} (hv : IsHexValue q v)
    (heq : v ++ s = '0' :: 'x' :: rest) : ∃ ds, (∀ d ∈ ds, isHexDigit d = true) ∧ ds ++ s = rest := by
  obtain ⟨ds, rfl, hds, -⟩ := hv
  exact ⟨ds, hds, (List.cons.inj (List.cons.inj heq).2).2⟩

/-- A value that begins with `0x` is hexadecimal. -/
theorem exists_hexDigits (hv : kind.Admits v) {rest : List Char} (heq : v ++ s = '0' :: 'x' :: rest) :
    kind ≠ .number ∧ ∃ ds, (∀ d ∈ ds, isHexDigit d = true) ∧ ds ++ s = rest := by
  cases kind with
  | address =>
      have hvalue : IsHexValue (fun n => n = 40) v := hv
      exact ⟨nofun, hvalue.exists_digits heq⟩
  | hex =>
      have hvalue : IsHexValue (fun n => (1 ≤ n ∧ n ≤ 39) ∨ 41 ≤ n) v := hv
      exact ⟨nofun, hvalue.exists_digits heq⟩
  | number =>
      obtain ⟨hdigits, hlength⟩ := hv
      match v, hlength with
      | c :: c' :: v, _ =>
          obtain ⟨-, htail⟩ := List.cons.inj heq
          obtain ⟨rfl, -⟩ := List.cons.inj htail
          exact absurd (hdigits 'x' (by simp)) (by decide)

/-- Only `Panic(` and `)` around a hexadecimal hole make a message that is all `Panic(0x…)`. -/
theorem Fills.eq_panicFormat (hchain : ps.IsChain Follows)
    (hliteral : ∀ text, .literal text ∈ ps → text ≠ [] ∧ ¬ ['0', 'x'] <:+: text)
    (h : Fills ps s) (hhole : .hole kind ∈ ps) (hrun : IsHexRun panicPrefix 1 [')'] s) :
    ∃ kind, kind ≠ .number ∧ ps = panicFormat kind := by
  obtain ⟨ds, hds, -, heq⟩ := (isHexRun_iff (by rintro _ ⟨⟩; rfl)).mp hrun
  cases h with
  | nil => cases hhole
  | hole hv h =>
      obtain ⟨⟨d, v', rfl, hd⟩, -, -⟩ := hv.startsWithDigit
      rw [(List.cons.inj heq).1] at hd
      exact absurd hd (by decide)
  | @literal text s ps h =>
      cases h with
      | nil => exact absurd (List.mem_singleton.mp hhole) nofun
      | literal h => exact ((List.isChain_cons_cons.mp hchain).1).elim
      | @hole kind v s ps hv h =>
          obtain ⟨hlast, hchain'⟩ := List.isChain_cons_cons.mp hchain
          obtain ⟨rfl, hvalue⟩ := panicOpen_of_append hv.startsWithDigit hlast
            (hliteral text List.mem_cons_self).2 heq
          obtain ⟨hkind, ds', hds', htail⟩ := exists_hexDigits hv hvalue
          refine ⟨kind, hkind, ?_⟩
          cases h with
          | nil =>
              have hmem : ')' ∈ ds' := by
                rw [List.append_nil] at htail
                rw [htail]
                simp
              exact absurd (hds' _ hmem) (by decide)
          | hole hv' h => exact ((List.isChain_cons_cons.mp hchain').1).elim
          | @literal text s ps h =>
              obtain ⟨hfirst, -⟩ := List.isChain_cons_cons.mp hchain'
              have hne := (hliteral text (by simp)).1
              cases text with
              | nil => exact absurd rfl hne
              | cons c text =>
                  obtain ⟨-, hend⟩ := hexRun_unique hds' hds
                    (by rintro _ ⟨⟩; exact isHexDigit_of_boundary (hfirst c rfl))
                    (by rintro _ ⟨⟩; rfl) htail
                  obtain ⟨rfl, hnil⟩ := List.cons.inj hend
                  obtain ⟨rfl, rfl⟩ := List.append_eq_nil_iff.mp hnil
                  rw [h.nil_of_nil fun text htext => (hliteral text (by simp [htext])).1]
                  rfl

/-- A message of a format with a hole and a literal piece is normalised, unless it is all
`Panic(0x…)`. -/
theorem Fills.revertTemplate (hchain : ps.IsChain Follows)
    (hliteral : ∀ text, .literal text ∈ ps → text ≠ [] ∧ ¬ ['0', 'x'] <:+: text)
    (h : Fills ps s) (hhole : .hole kind ∈ ps) {text : List Char} (htext : .literal text ∈ ps)
    (hpanic : ∀ kind, kind ≠ .number → ps ≠ panicFormat kind) :
    revertTemplate sp s = btrim (collapse sp.isSpace ' ' (render ps)) := by
  have hne : ∀ text, .literal text ∈ ps → text ≠ [] := fun text htext => (hliteral text htext).1
  obtain ⟨v, hv, hadmits⟩ := h.exists_value hhole
  obtain ⟨c, hc, hboundary⟩ := h.exists_boundary hchain hne hhole htext
  have hrun : ¬ IsHexRun panicPrefix 1 [')'] s := by
    intro hrun
    obtain ⟨kind, hkind, heq⟩ := h.eq_panicFormat hchain hliteral hhole hrun
    exact hpanic kind hkind heq
  rw [Db.revertTemplate, if_neg (btrim_ne hadmits.startsWithDigit hv), if_neg hrun,
    if_neg (not_isHexRun_of_boundary hc hboundary), if_neg (not_isHexRun_of_boundary hc hboundary),
    h.fillPlaceholders hchain hne]

/-- Two messages of one format have the same template, unless the format is `Panic(` and `)` around
a hole for an address or a hexadecimal literal. -/
theorem template_of_format (hliteral : ∃ text, .literal text ∈ fmt.pieces)
    (hpanic : ∀ kind, kind ≠ .number → fmt.pieces ≠ panicFormat kind)
    (h : Fills fmt.pieces s) (h' : Fills fmt.pieces s') :
    fnRevertTemplate sp (some (String.ofList s)) =
      fnRevertTemplate sp (some (String.ofList s')) := by
  rw [fnRevertTemplate, fnRevertTemplate, String.toList_ofList, String.toList_ofList]
  obtain ⟨text, htext⟩ := hliteral
  by_cases hhole : ∃ kind, .hole kind ∈ fmt.pieces
  · obtain ⟨kind, hhole⟩ := hhole
    rw [h.revertTemplate fmt.chain fmt.literals hhole htext hpanic,
      h'.revertTemplate fmt.chain fmt.literals hhole htext hpanic]
  · rw [h.eq_of_no_hole (fun kind hk => hhole ⟨kind, hk⟩) h']

/-- A transfer of an amount to an address. -/
def transferFormat : Format where
  pieces := [.literal "sent ".toList, .hole .number, .literal " to ".toList, .hole .address]
  chain := by
    refine .cons_cons ?_ (.cons_cons ?_ (.cons_cons ?_ (.singleton _)))
    · rintro _ ⟨⟩
      rfl
    · rintro _ ⟨⟩
      rfl
    · rintro _ ⟨⟩
      rfl
  literals text htext := by
    simp only [List.mem_cons, Piece.literal.injEq, reduceCtorEq, List.not_mem_nil, or_false,
      false_or] at htext
    rcases htext with rfl | rfl
    · exact ⟨by decide, by decide⟩
    · exact ⟨by decide, by decide⟩

/-- An address of one digit. -/
def addressOf (digit : Char) : List Char := '0' :: 'x' :: List.replicate 40 digit

theorem admits_addressOf {digit : Char} (h : isHexDigit digit = true) :
    HoleKind.address.Admits (addressOf digit) := by
  refine ⟨_, rfl, fun d hd => ?_, List.length_replicate⟩
  rw [List.eq_of_mem_replicate hd]
  exact h

/-- The message `sent amount to address`. -/
theorem fills_transferFormat {amount recipient : List Char}
    (hamount : HoleKind.number.Admits amount) (hrecipient : HoleKind.address.Admits recipient) :
    Fills transferFormat.pieces
      ("sent ".toList ++ (amount ++ (" to ".toList ++ (recipient ++ [])))) :=
  .literal (.hole hamount (.literal (.hole hrecipient .nil)))

theorem template_of_format_transfer :
    fnRevertTemplate asciiSpace (some (String.ofList ("sent ".toList ++ ("12345".toList ++
      (" to ".toList ++ (addressOf '1' ++ [])))))) =
    fnRevertTemplate asciiSpace (some (String.ofList ("sent ".toList ++ ("9876543".toList ++
      (" to ".toList ++ (addressOf '2' ++ [])))))) := by
  have hshort : HoleKind.number.Admits "12345".toList :=
    ⟨List.all_eq_true.mp (by decide), by decide⟩
  have hlong : HoleKind.number.Admits "9876543".toList :=
    ⟨List.all_eq_true.mp (by decide), by decide⟩
  have hliteral : ∃ text, .literal text ∈ transferFormat.pieces := ⟨_, List.mem_cons_self⟩
  refine template_of_format hliteral ?_
    (fills_transferFormat hshort (admits_addressOf rfl))
    (fills_transferFormat hlong (admits_addressOf rfl))
  intro kind _ heq
  cases heq

/-- `Panic(` and `)` around an address. -/
def panicAddressFormat : Format where
  pieces := panicFormat .address
  chain := by
    refine .cons_cons ?_ (.cons_cons ?_ (.singleton _))
    · rintro _ ⟨⟩
      rfl
    · rintro _ ⟨⟩
      rfl
  literals text htext := by
    simp only [panicFormat, List.mem_cons, Piece.literal.injEq, reduceCtorEq, List.not_mem_nil,
      or_false, false_or] at htext
    rcases htext with rfl | rfl
    · exact ⟨by decide, by decide⟩
    · exact ⟨by decide, by decide⟩

/-- The template of a panic message with an address is the message. -/
theorem fnRevertTemplate_panicAddress {digit : Char} (h : isHexDigit digit = true) :
    fnRevertTemplate sp
      (some (String.ofList ("Panic(".toList ++ (addressOf digit ++ ([')'] ++ []))))) =
    "Panic(".toList ++ (addressOf digit ++ ([')'] ++ [])) := by
  rw [fnRevertTemplate, String.toList_ofList]
  refine revertTemplate_panic ((isHexRun_iff (by rintro _ ⟨⟩; rfl)).mpr
    ⟨List.replicate 40 digit, fun d hd => ?_, ?_, rfl⟩)
  · rw [List.eq_of_mem_replicate hd]
    exact h
  · rw [List.length_replicate]
    decide

/-- Two messages `Panic(address)` have different templates. -/
theorem panic_address_kept : ∃ s s' : List Char,
    Fills panicAddressFormat.pieces s ∧ Fills panicAddressFormat.pieces s' ∧
    (∃ text, .literal text ∈ panicAddressFormat.pieces ∧ 'P' ∈ text) ∧
    panicAddressFormat.pieces ≠ panicFormat .hex ∧
    ∀ sp, fnRevertTemplate sp (some (String.ofList s)) ≠
      fnRevertTemplate sp (some (String.ofList s')) := by
  have hone : isHexDigit '1' = true := rfl
  have htwo : isHexDigit '2' = true := rfl
  refine ⟨_, _, .literal (.hole (admits_addressOf hone) (.literal .nil)),
    .literal (.hole (admits_addressOf htwo) (.literal .nil)),
    ⟨_, List.mem_cons_self, by decide⟩, nofun, fun sp => ?_⟩
  rw [fnRevertTemplate_panicAddress rfl, fnRevertTemplate_panicAddress rfl]
  decide

end TxIndexer.Proofs
