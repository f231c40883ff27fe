import Mathlib.Data.List.TakeWhile
import Mathlib.Data.List.Infix

/-!
# Global replacement

`replaceAll` replaces every match of a pattern, from left to right, each match as long as the
pattern allows, and goes on after the match. A pattern is what it matches at the front of a list. Where
its matches keep to an alphabet, a boundary outside of the alphabet splits the replacement in two;
and what comes out unlike the replacement text was there before.
-/

namespace TxIndexer.Lib

variable {α : Type*}

/-- What a pattern matches at the front of a list: `some n` for a longest match of `n + 1`
elements. -/
abbrev Matcher (α : Type*) := List α → Option Nat

/-- The replacement, of which the first elements are skipped as part of the last match. -/
def replaceFrom (m : Matcher α) (repl : List α) : Nat → List α → List α
  | _, [] => []
  | skip + 1, _ :: xs => replaceFrom m repl skip xs
  | 0, x :: xs =>
      match m (x :: xs) with
      | some n => repl ++ replaceFrom m repl n xs
      | none => x :: replaceFrom m repl 0 xs

/-- Every match is replaced. -/
def replaceAll (m : Matcher α) (repl xs : List α) : List α := replaceFrom m repl 0 xs

variable {m : Matcher α} {repl xs ys w out : List α} {x : α} {n : Nat} {p q : α → Bool}

theorem replaceFrom_eq (m : Matcher α) (repl : List α) (skip : Nat) (xs : List α) :
    replaceFrom m repl skip xs = replaceAll m repl (xs.drop skip) := by
  induction xs generalizing skip with
  | nil => cases skip <;> rfl
  | cons x xs ih =>
      cases skip with
      | zero => rfl
      | succ skip => exact ih skip

@[simp] theorem replaceAll_nil : replaceAll m repl [] = [] := rfl

theorem replaceAll_of_none (h : m (x :: xs) = none) :
    replaceAll m repl (x :: xs) = x :: replaceAll m repl xs := by
  rw [replaceAll, replaceFrom, h]
  rfl

theorem replaceAll_of_some (h : m (x :: xs) = some n) :
    replaceAll m repl (x :: xs) = repl ++ replaceAll m repl (xs.drop n) := by
  rw [replaceAll, replaceFrom, h]
  exact congrArg (repl ++ ·) (replaceFrom_eq ..)

/-- Nothing is replaced where the pattern matches nowhere. -/
theorem replaceAll_eq_self (h : ∀ v, v <:+ xs → m v = none) : replaceAll m repl xs = xs := by
  induction xs with
  | nil => rfl
  | cons x xs ih =>
      rw [replaceAll_of_none (h _ List.suffix_rfl),
        ih fun v hv => h v (hv.trans (List.suffix_cons x xs))]

/-- Nothing is replaced in a part where no match begins. -/
theorem replaceAll_append_of_none (h : ∀ v, v <:+ w → v ≠ [] → m (v ++ xs) = none) :
    replaceAll m repl (w ++ xs) = w ++ replaceAll m repl xs := by
  induction w with
  | nil => rfl
  | cons y w ih =>
      have hnone : m (y :: (w ++ xs)) = none := h _ List.suffix_rfl (List.cons_ne_nil y w)
      rw [List.cons_append, replaceAll_of_none hnone,
        ih fun v hv => h v (hv.trans (List.suffix_cons y w)), List.cons_append]

/-- A match of the whole list. -/
theorem replaceAll_whole (h : m (x :: xs) = some xs.length) :
    replaceAll m repl (x :: xs) = repl := by
  rw [replaceAll_of_some h, List.drop_length, replaceAll_nil, List.append_nil]

/-! ## Boundaries -/

/-- The pattern looks no further than the first element outside of `p`, and its matches are not
empty. -/
structure Matcher.Over (m : Matcher α) (p : α → Bool) : Prop where
  takeWhile : ∀ xs, m xs = m (xs.takeWhile p)
  lt_length : ∀ xs n, m xs = some n → n < xs.length

/-- What comes before ends, or what comes after begins, outside of `p`. -/
def Separated (p : α → Bool) (xs ys : List α) : Prop :=
  (∀ x ∈ xs.getLast?, p x = false) ∨ ∀ y ∈ ys.head?, p y = false

theorem Separated.drop (h : Separated p (x :: xs) ys) (n : Nat) : Separated p (xs.drop n) ys := by
  refine h.imp_left fun hlast y hy => hlast y ?_
  rw [List.getLast?_drop] at hy
  split at hy
  · cases hy
  · next hlength =>
      cases xs with
      | nil => exact absurd (Nat.zero_le _) hlength
      | cons z zs => exact hy

theorem Separated.takeWhile_append (h : Separated p (x :: xs) ys) :
    (x :: xs ++ ys).takeWhile p = (x :: xs).takeWhile p := by
  rw [List.takeWhile_append]
  split
  · next hall =>
      have hwhole : (x :: xs).takeWhile p = x :: xs := (List.takeWhile_prefix p).eq_of_length hall
      rw [hwhole]
      rcases h with hlast | hhead
      · have hmem := List.getLast_mem (List.cons_ne_nil x xs)
        have hfalse := hlast _ (List.getLast?_eq_some_getLast (List.cons_ne_nil x xs))
        have htrue := List.takeWhile_eq_self_iff.mp hwhole _ hmem
        rw [hfalse] at htrue
        cases htrue
      · cases ys with
        | nil => rw [List.takeWhile_nil, List.append_nil]
        | cons y ys =>
            rw [List.takeWhile_cons_of_neg (by simpa using hhead y rfl), List.append_nil]
  · rfl

/-- No match crosses a boundary, so the two sides are replaced on their own. -/
theorem replaceAll_append (hm : m.Over p) (h : Separated p xs ys) :
    replaceAll m repl (xs ++ ys) = replaceAll m repl xs ++ replaceAll m repl ys := by
  induction hlength : xs.length using Nat.strong_induction_on generalizing xs with
  | _ k ih =>
      cases xs with
      | nil => rfl
      | cons x xs =>
          rw [List.length_cons] at hlength
          have hsame : m (x :: (xs ++ ys)) = m (x :: xs) := by
            rw [← List.cons_append, hm.takeWhile, h.takeWhile_append, ← hm.takeWhile]
          cases hmatch : m (x :: xs) with
          | none =>
              have hrest : Separated p xs ys := h.drop 0
              rw [List.cons_append, replaceAll_of_none (hsame.trans hmatch),
                replaceAll_of_none hmatch, ih _ (by omega) hrest rfl, List.cons_append]
          | some n =>
              have hn := hm.lt_length _ _ hmatch
              rw [List.length_cons] at hn
              have hdrop : (xs ++ ys).drop n = xs.drop n ++ ys :=
                List.drop_append_of_le_length (by omega)
              rw [List.cons_append, replaceAll_of_some (hsame.trans hmatch),
                replaceAll_of_some hmatch, hdrop,
                ih _ (by rw [List.length_drop]; omega) (h.drop n) rfl, List.append_assoc]

/-- An element outside of the alphabet stays. -/
theorem replaceAll_cons_of_not (hm : m.Over p) (hx : p x = false) :
    replaceAll m repl (x :: xs) = x :: replaceAll m repl xs := by
  have hnone : m (x :: xs) = none := by
    rw [hm.takeWhile, List.takeWhile_cons_of_neg (by simpa using hx)]
    cases hmatch : m [] with
    | none => rfl
    | some n => exact absurd (hm.lt_length _ _ hmatch) (Nat.not_lt_zero n)
  exact replaceAll_of_none hnone

/-- A boundary is still one after the replacement. -/
theorem Separated.replaceAll (hm : m.Over p) (h : Separated p xs ys) :
    Separated p (replaceAll m repl xs) (replaceAll m repl ys) := by
  rcases h with hlast | hhead
  · left
    cases hxs : xs.getLast? with
    | none =>
        rw [List.getLast?_eq_none_iff.mp hxs]
        nofun
    | some x =>
        obtain ⟨front, rfl⟩ := List.getLast?_eq_some_iff.mp hxs
        have hx := hlast x hxs
        have hend : Separated p front [x] := .inr (by rintro _ ⟨⟩; exact hx)
        rw [replaceAll_append hm hend, replaceAll_cons_of_not hm hx, replaceAll_nil,
          List.getLast?_append]
        rintro _ ⟨⟩
        exact hx
  · right
    cases ys with
    | nil => nofun
    | cons y ys =>
        rw [replaceAll_cons_of_not hm (hhead y rfl)]
        exact hhead

/-! ## What comes out -/

/-- Neither text is the beginning of the other, wherever in `w` one begins. -/
def Apart (repl w : List α) : Prop := ∀ v, v <:+ w → v ≠ [] → ¬ v <+: repl ∧ ¬ repl <+: v

theorem Apart.of_head {r : α} {rs : List α} (h : r ∉ w) : Apart (r :: rs) w := by
  intro v hv hne
  cases v with
  | nil => exact absurd rfl hne
  | cons y v =>
      have hy : y ≠ r := fun heq => h (heq ▸ hv.subset List.mem_cons_self)
      exact ⟨fun hpre => hy (List.cons_prefix_cons.mp hpre).1,
        fun hpre => hy (List.cons_prefix_cons.mp hpre).1.symm⟩

instance [DecidableEq α] (repl w : List α) : Decidable (Apart repl w) :=
  decidable_of_iff (∀ v ∈ w.tails, v ≠ [] → ¬ v <+: repl ∧ ¬ repl <+: v)
    (forall_congr' fun v => by rw [List.mem_tails])

/-- What comes out apart from the replacement text was there before. -/
theorem exists_of_replaceAll_eq (hw : Apart repl w) (h : replaceAll m repl xs = w ++ out) :
    ∃ rest, xs = w ++ rest ∧ replaceAll m repl rest = out ∧
      ∀ v, v <:+ w → v ≠ [] → m (v ++ rest) = none := by
  induction w generalizing xs with
  | nil =>
      refine ⟨xs, rfl, h, fun v hv hne => ?_⟩
      exact absurd (List.suffix_nil.mp hv) hne
  | cons y w ih =>
      cases xs with
      | nil => cases h
      | cons x xs =>
          cases hmatch : m (x :: xs) with
          | some n =>
              rw [replaceAll_of_some hmatch] at h
              have hrepl : repl <+: y :: w ++ out := ⟨_, h⟩
              obtain ⟨hnot, hnot'⟩ := hw _ List.suffix_rfl (List.cons_ne_nil y w)
              exact ((List.prefix_or_prefix_of_prefix hrepl (List.prefix_append _ _)).elim
                hnot' hnot).elim
          | none =>
              rw [replaceAll_of_none hmatch, List.cons_append] at h
              obtain ⟨rfl, htail⟩ := List.cons.inj h
              obtain ⟨rest, rfl, hrest, hnone⟩ :=
                ih (fun v hv => hw v (hv.trans (List.suffix_cons x w))) htail
              refine ⟨rest, rfl, hrest, fun v hv hne => ?_⟩
              rcases List.suffix_cons_iff.mp hv with rfl | hv
              · exact hmatch
              · exact hnone v hv hne

theorem mem_of_mem_replaceAll {y : α} (h : y ∈ replaceAll m repl xs) : y ∈ xs ∨ y ∈ repl := by
  induction hlength : xs.length using Nat.strong_induction_on generalizing xs with
  | _ k ih =>
      cases xs with
      | nil => cases h
      | cons x xs =>
          rw [List.length_cons] at hlength
          cases hmatch : m (x :: xs) with
          | none =>
              rw [replaceAll_of_none hmatch] at h
              rcases List.mem_cons.mp h with rfl | h
              · exact .inl List.mem_cons_self
              · exact (ih _ (by omega) h rfl).imp_left (List.mem_cons_of_mem x)
          | some n =>
              rw [replaceAll_of_some hmatch] at h
              rcases List.mem_append.mp h with h | h
              · exact .inr h
              · refine (ih _ (by rw [List.length_drop]; omega) h rfl).imp_left fun hmem => ?_
                exact List.mem_cons_of_mem x (List.mem_of_mem_drop hmem)

theorem replaceAll_ne_nil (hrepl : repl ≠ []) (hxs : xs ≠ []) : replaceAll m repl xs ≠ [] := by
  cases xs with
  | nil => exact absurd rfl hxs
  | cons x xs =>
      cases hmatch : m (x :: xs) with
      | none =>
          rw [replaceAll_of_none hmatch]
          exact List.cons_ne_nil _ _
      | some n =>
          rw [replaceAll_of_some hmatch]
          exact List.append_ne_nil_of_left_ne_nil hrepl _

/-! ## Several replacements in turn -/

/-- The replacements are made one after the other, each in what the one before left. -/
def replaceEach (passes : List (Matcher α × List α)) (xs : List α) : List α :=
  passes.foldl (fun xs pass => replaceAll pass.1 pass.2 xs) xs

variable {pass : Matcher α × List α} {passes : List (Matcher α × List α)}

@[simp] theorem replaceEach_cons :
    replaceEach (pass :: passes) xs = replaceEach passes (replaceAll pass.1 pass.2 xs) := rfl

theorem replaceEach_nil : replaceEach passes ([] : List α) = [] := by
  induction passes with
  | nil => rfl
  | cons pass passes ih => exact ih

theorem replaceEach_append (hm : ∀ pass ∈ passes, pass.1.Over p) (h : Separated p xs ys) :
    replaceEach passes (xs ++ ys) = replaceEach passes xs ++ replaceEach passes ys := by
  induction passes generalizing xs ys with
  | nil => rfl
  | cons pass passes ih =>
      obtain ⟨hpass, hpasses⟩ := List.forall_mem_cons.mp hm
      rw [replaceEach_cons, replaceAll_append hpass h, ih hpasses (h.replaceAll hpass)]
      rfl

theorem replaceEach_eq_self (h : ∀ pass ∈ passes, ∀ v, v <:+ xs → pass.1 v = none) :
    replaceEach passes xs = xs := by
  induction passes with
  | nil => rfl
  | cons pass passes ih =>
      obtain ⟨hpass, hpasses⟩ := List.forall_mem_cons.mp h
      rw [replaceEach_cons, replaceAll_eq_self hpass, ih hpasses]

theorem exists_of_replaceEach_eq (hw : ∀ pass ∈ passes, Apart pass.2 w)
    (h : replaceEach passes xs = w ++ out) :
    ∃ rest, xs = w ++ rest ∧ replaceEach passes rest = out := by
  induction passes generalizing xs with
  | nil => exact ⟨out, h, rfl⟩
  | cons pass passes ih =>
      obtain ⟨hpass, hpasses⟩ := List.forall_mem_cons.mp hw
      obtain ⟨rest', hrest', hout⟩ := ih hpasses h
      obtain ⟨rest, rfl, hrest, -⟩ := exists_of_replaceAll_eq hpass hrest'
      exact ⟨rest, rfl, by rw [replaceEach_cons, hrest, hout]⟩

theorem mem_of_mem_replaceEach {y : α} (h : y ∈ replaceEach passes xs) :
    y ∈ xs ∨ ∃ pass ∈ passes, y ∈ pass.2 := by
  induction passes generalizing xs with
  | nil => exact .inl h
  | cons pass passes ih =>
      rcases ih h with h | ⟨pass', hpass', hy⟩
      · exact (mem_of_mem_replaceAll h).imp_right fun hy => ⟨pass, List.mem_cons_self, hy⟩
      · exact .inr ⟨pass', List.mem_cons_of_mem pass hpass', hy⟩

theorem replaceEach_ne_nil (hrepl : ∀ pass ∈ passes, pass.2 ≠ []) (hxs : xs ≠ []) :
    replaceEach passes xs ≠ [] := by
  induction passes generalizing xs with
  | nil => exact hxs
  | cons pass passes ih =>
      obtain ⟨hpass, hpasses⟩ := List.forall_mem_cons.mp hrepl
      exact ih hpasses (replaceAll_ne_nil hpass hxs)

/-! ## Runs -/

/-- A fixed text and then a run of elements of a class: at least `lo`, and at most `hi`. -/
structure RunPattern (α : Type*) where
  lead : List α
  cls : α → Bool
  lo : Nat
  hi : Option Nat

variable {r : RunPattern α} {ds rest : List α}

/-- How many elements of a run of `n` are matched. -/
def RunPattern.taken (r : RunPattern α) (n : Nat) : Nat := r.hi.elim n (min n)

theorem RunPattern.taken_le (n : Nat) : r.taken n ≤ n := by
  unfold RunPattern.taken
  cases r.hi with
  | none => exact le_rfl
  | some hi => exact Nat.min_le_left n hi

variable [DecidableEq α]

/-- The longest match at the front. -/
def RunPattern.matcher (r : RunPattern α) : Matcher α := fun xs =>
  let n := r.taken ((xs.drop r.lead.length).takeWhile r.cls).length
  if r.lead <+: xs ∧ r.lo ≤ n ∧ 0 < r.lead.length + n then some (r.lead.length + n - 1) else none

theorem RunPattern.matcher_of_not_prefix (h : ¬ r.lead <+: xs) : r.matcher xs = none :=
  if_neg fun hmatch => h hmatch.1

/-- The pattern at its fixed text, where the run of the class is `ds`. -/
theorem RunPattern.matcher_lead (hds : ∀ d ∈ ds, r.cls d = true)
    (hrest : ∀ y ∈ rest.head?, r.cls y = false) :
    r.matcher (r.lead ++ (ds ++ rest)) =
      if r.lo ≤ r.taken ds.length ∧ 0 < r.lead.length + r.taken ds.length
      then some (r.lead.length + r.taken ds.length - 1) else none := by
  have hrun : (ds ++ rest).takeWhile r.cls = ds := by
    rw [List.takeWhile_append_of_pos hds]
    cases rest with
    | nil => rw [List.takeWhile_nil, List.append_nil]
    | cons y ys =>
        rw [List.takeWhile_cons_of_neg (by simpa using hrest y rfl), List.append_nil]
  simp only [RunPattern.matcher, List.drop_left, hrun, List.prefix_append, true_and]

/-- The pattern matches at its fixed text, before a run that is long enough, and nowhere else. -/
theorem RunPattern.matcher_eq_none_iff (hlead : r.lead ≠ [])
    (hhi : ∀ n, r.lo ≤ r.taken n ↔ r.lo ≤ n) :
    r.matcher xs = none ↔
      ¬ ∃ ds rest, xs = r.lead ++ (ds ++ rest) ∧ (∀ d ∈ ds, r.cls d = true) ∧ ds.length = r.lo := by
  rw [← not_iff_not, not_not]
  constructor
  · intro h
    obtain ⟨hpre, hlo, -⟩ : r.lead <+: xs ∧ r.lo ≤ _ ∧ _ := by
      by_contra hnot
      exact h (if_neg hnot)
    obtain ⟨ys, rfl⟩ := hpre
    rw [hhi, List.drop_left] at hlo
    have hrun : ys.take r.lo = (ys.takeWhile r.cls).take r.lo := by
      conv_lhs => rw [← List.takeWhile_append_dropWhile (p := r.cls) (l := ys)]
      exact List.take_append_of_le_length hlo
    refine ⟨ys.take r.lo, ys.drop r.lo, by rw [List.take_append_drop], fun d hd => ?_, ?_⟩
    · rw [hrun] at hd
      exact List.mem_takeWhile_imp (List.mem_of_mem_take hd)
    · rw [hrun, List.length_take, Nat.min_eq_left hlo]
  · rintro ⟨ds, rest, rfl, hds, hlength⟩
    have hpos : 0 < r.lead.length := List.length_pos_iff.mpr hlead
    have hlo : r.lo ≤ ((ds ++ rest).takeWhile r.cls).length := by
      rw [List.takeWhile_append_of_pos hds, List.length_append, hlength]
      exact Nat.le_add_right _ _
    have hmatch : r.lead <+: r.lead ++ (ds ++ rest) ∧
        r.lo ≤ r.taken ((ds ++ rest).takeWhile r.cls).length ∧
        0 < r.lead.length + r.taken ((ds ++ rest).takeWhile r.cls).length :=
      ⟨List.prefix_append _ _, (hhi _).mpr hlo, by omega⟩
    simp only [RunPattern.matcher, List.drop_left]
    rw [if_pos hmatch]
    exact nofun

/-- The pattern looks no further than its own elements. -/
theorem RunPattern.over (hlead : ∀ x ∈ r.lead, p x = true)
    (hcls : ∀ x, r.cls x = true → p x = true) : r.matcher.Over p where
  takeWhile xs := by
    by_cases hpre : r.lead <+: xs
    · obtain ⟨ys, rfl⟩ := hpre
      have htwice : (ys.takeWhile p).takeWhile r.cls = ys.takeWhile r.cls := by
        rw [List.takeWhile_takeWhile]
        congr 1
        funext x
        have := hcls x
        cases hx : r.cls x <;> simp_all
      rw [List.takeWhile_append_of_pos hlead]
      simp only [RunPattern.matcher, List.drop_left, htwice, List.prefix_append]
    · rw [r.matcher_of_not_prefix hpre, r.matcher_of_not_prefix]
      exact fun h => hpre (h.trans (List.takeWhile_prefix p))
  lt_length xs n h := by
    obtain ⟨⟨hpre, -, hpos⟩, hn⟩ := Option.ite_none_right_eq_some.mp h
    have hrun := ((List.takeWhile_prefix r.cls).length_le).trans_eq
      (List.length_drop (i := r.lead.length) (l := xs))
    have htaken := r.taken_le ((xs.drop r.lead.length).takeWhile r.cls).length
    have hlead := hpre.length_le
    cases hn
    omega

/-- A match as long as the list. -/
theorem RunPattern.replaceAll_run (hds : ∀ d ∈ ds, r.cls d = true) (hlo : r.lo ≤ ds.length)
    (hhi : r.taken ds.length = ds.length) (hne : r.lead ++ ds ≠ []) :
    replaceAll r.matcher repl (r.lead ++ ds) = repl := by
  have hpos : 0 < r.lead.length + ds.length := by
    rw [← List.length_append]
    exact List.length_pos_iff.mpr hne
  have hstop : ∀ y ∈ ([] : List α).head?, r.cls y = false := nofun
  have hmatch := r.matcher_lead hds hstop
  rw [List.append_nil, hhi, if_pos ⟨hlo, hpos⟩] at hmatch
  cases hwhole : r.lead ++ ds with
  | nil => exact absurd hwhole hne
  | cons x xs =>
      rw [hwhole] at hmatch
      have hlength := congrArg List.length hwhole
      rw [List.length_append, List.length_cons] at hlength
      exact replaceAll_whole (by rw [hmatch, hlength]; rfl)

end TxIndexer.Lib
