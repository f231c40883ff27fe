import TxIndexer.Lib.Replace
import Mathlib.Data.List.DropRight

/-!
# Words

The words of a list are its maximal parts without separators. Collapsing every run of separators
into one `s` and trimming `s` from both ends leaves the words with one `s` between any two.
-/

namespace TxIndexer.Lib

variable {α : Type*} {p : α → Bool} {x s : α} {xs w rest : List α} {ws : List (List α)}

theorem head?_dropWhile_eq_false (p : α → Bool) (xs : List α) :
    ∀ y ∈ (xs.dropWhile p).head?, p y = false := by
  intro y hy
  have hfirst := List.head?_dropWhile_not p xs
  rw [Option.mem_def.mp hy] at hfirst
  exact hfirst

/-- The maximal non-empty parts of a list without separators. -/
def words (p : α → Bool) (xs : List α) : List (List α) :=
  (xs.splitOnP p).filter fun w => !w.isEmpty

/-- Not empty, and without separators. -/
def IsWord (p : α → Bool) (w : List α) : Prop := w ≠ [] ∧ ∀ x ∈ w, p x = false

@[simp] theorem words_nil : words p [] = [] := rfl

theorem words_cons_sep (hx : p x = true) : words p (x :: xs) = words p xs := by
  have hsplit := List.splitOnP_append_cons [] xs hx
  rw [List.nil_append, List.splitOnP_nil] at hsplit
  rw [words, hsplit, List.filter_append]
  rfl

/-- A word that is over. -/
theorem words_append (hw : IsWord p w) (hrest : ∀ y ∈ rest.head?, p y = true) :
    words p (w ++ rest) = w :: words p rest := by
  have hkeep : ∀ vs : List (List α), ((w :: vs).filter fun w => !w.isEmpty) =
      w :: vs.filter fun w => !w.isEmpty := fun vs => by simp [hw.1]
  cases rest with
  | nil =>
      rw [List.append_nil, words, List.splitOnP_eq_singleton hw.2, hkeep]
      rfl
  | cons y ys =>
      have hy := hrest y rfl
      rw [words_cons_sep hy, words, List.splitOnP_append_cons_of_forall_mem hw.2 y hy,
        hkeep]
      rfl

theorem words_of_isWord (hw : IsWord p w) : words p w = [w] := by
  have hend : ∀ y ∈ ([] : List α).head?, p y = true := nofun
  have hwords := words_append hw hend
  rwa [List.append_nil] at hwords

/-- Induction along the words of a list. -/
@[elab_as_elim]
theorem words_induction {motive : List α → Prop} (p : α → Bool) (nil : motive [])
    (sep : ∀ x xs, p x = true → motive xs → motive (x :: xs))
    (word : ∀ w rest, IsWord p w → (∀ y ∈ rest.head?, p y = true) → motive rest →
      motive (w ++ rest)) (xs : List α) : motive xs := by
  induction hlength : xs.length using Nat.strong_induction_on generalizing xs with
  | _ k ih =>
      cases xs with
      | nil => exact nil
      | cons x xs =>
          by_cases hx : p x = true
          · exact sep x xs hx (ih _ (by rw [← hlength]; exact Nat.lt_succ_self _) xs rfl)
          · have hdrop : ((x :: xs).dropWhile fun y => !p y) = xs.dropWhile fun y => !p y := by
              simp [hx]
            have hsplit := List.takeWhile_append_dropWhile (p := fun y => !p y) (l := x :: xs)
            have hword : IsWord p ((x :: xs).takeWhile fun y => !p y) := by
              refine ⟨by simp [hx], fun y hy => ?_⟩
              simpa using List.mem_takeWhile_imp hy
            have hhead : ∀ y ∈ ((x :: xs).dropWhile fun y => !p y).head?, p y = true := by
              intro y hy
              simpa using head?_dropWhile_eq_false _ _ y hy
            rw [← hsplit]
            refine word _ _ hword hhead (ih _ ?_ _ rfl)
            rw [hdrop, ← hlength, List.length_cons]
            exact Nat.lt_succ_of_le (List.dropWhile_suffix _).length_le

theorem isWord_of_mem_words (hw : w ∈ words p xs) : IsWord p w := by
  induction xs using words_induction p with
  | nil => cases hw
  | sep x xs hx ih => exact ih (words_cons_sep hx ▸ hw)
  | word v rest hv hrest ih =>
      rw [words_append hv hrest] at hw
      rcases List.mem_cons.mp hw with rfl | hw
      · exact hv
      · exact ih hw

/-- The words of words with one separator between any two. -/
theorem words_intercalate (hs : p s = true) (hws : ∀ w ∈ ws, IsWord p w) :
    words p ([s].intercalate ws) = ws := by
  induction ws with
  | nil => rfl
  | cons w ws ih =>
      obtain ⟨hw, hws⟩ := List.forall_mem_cons.mp hws
      cases ws with
      | nil => rw [List.intercalate_singleton, words_of_isWord hw]
      | cons v vs =>
          have hsep : ∀ y ∈ ([s] ++ [s].intercalate (v :: vs)).head?, p y = true := by
            rintro _ ⟨⟩
            exact hs
          rw [List.intercalate_cons_cons, List.append_assoc, words_append hw hsep,
            List.singleton_append, words_cons_sep hs, ih hws]

theorem intercalate_inj {vs : List (List α)} (hs : p s = true) (hws : ∀ w ∈ ws, IsWord p w)
    (hvs : ∀ v ∈ vs, IsWord p v) : [s].intercalate ws = [s].intercalate vs ↔ ws = vs := by
  refine ⟨fun h => ?_, congrArg _⟩
  rw [← words_intercalate hs hws, h, words_intercalate hs hvs]

/-- What begins the joined words without a separator begins the first word. -/
theorem prefix_intercalate_iff {u : List α} (hne : u ≠ []) (hu : s ∉ u) :
    u <+: [s].intercalate ws ↔ ∃ w ws', ws = w :: ws' ∧ u <+: w := by
  cases ws with
  | nil =>
      rw [List.intercalate_nil, List.prefix_nil]
      exact ⟨fun h => absurd h hne, nofun⟩
  | cons w ws =>
      constructor
      · intro h
        refine ⟨w, ws, rfl, ?_⟩
        cases ws with
        | nil => rwa [List.intercalate_singleton] at h
        | cons v vs =>
            rw [List.intercalate_cons_cons, List.append_assoc] at h
            rcases List.prefix_or_prefix_of_prefix h (List.prefix_append w _) with h' | h'
            · exact h'
            · -- beyond the first word, `u` would hold the separator
              obtain ⟨rest, rfl⟩ := h'
              obtain ⟨t, ht⟩ := h
              rw [List.append_assoc] at ht
              cases rest with
              | nil => rw [List.append_nil]
              | cons x rest =>
                  obtain ⟨rfl, -⟩ := List.cons.inj (List.append_cancel_left ht)
                  exact absurd (by simp) hu
      · rintro ⟨_, _, ⟨rfl, rfl⟩, h⟩
        cases ws with
        | nil => rwa [List.intercalate_singleton]
        | cons v vs =>
            rw [List.intercalate_cons_cons, List.append_assoc]
            exact h.trans (List.prefix_append _ _)

/-- A replacement that leaves separators alone, and makes none, works on the words. -/
theorem words_replaceEach {passes : List (Matcher α × List α)} {q : α → Bool}
    (hm : ∀ pass ∈ passes, pass.1.Over q) (hsep : ∀ x, p x = true → q x = false)
    (hrepl : ∀ pass ∈ passes, IsWord p pass.2) (xs : List α) :
    words p (replaceEach passes xs) = (words p xs).map (replaceEach passes) := by
  have hcons : ∀ x xs, p x = true →
      replaceEach passes (x :: xs) = x :: replaceEach passes xs := by
    intro x xs hx
    clear hrepl
    induction passes generalizing xs with
    | nil => rfl
    | cons pass passes ih =>
        obtain ⟨hpass, hpasses⟩ := List.forall_mem_cons.mp hm
        rw [replaceEach_cons, replaceAll_cons_of_not hpass (hsep x hx), ih hpasses]
        rfl
  induction xs using words_induction p with
  | nil => rw [replaceEach_nil, words_nil, List.map_nil]
  | sep x xs hx ih => rw [hcons x xs hx, words_cons_sep hx, ih, words_cons_sep hx]
  | word w rest hw hrest ih =>
      have hword : IsWord p (replaceEach passes w) := by
        refine ⟨replaceEach_ne_nil (fun pass hpass => (hrepl pass hpass).1) hw.1, fun y hy => ?_⟩
        rcases mem_of_mem_replaceEach hy with hy | ⟨pass, hpass, hy⟩
        · exact hw.2 y hy
        · exact (hrepl pass hpass).2 y hy
      have hhead : ∀ y ∈ (replaceEach passes rest).head?, p y = true := by
        cases rest with
        | nil => rw [replaceEach_nil]; nofun
        | cons y ys => rw [hcons y ys (hrest y rfl)]; exact hrest
      rw [replaceEach_append hm (.inr fun y hy => hsep y (hrest y hy)), words_append hword hhead,
        words_append hw hrest, ih, List.map_cons]

/-! ## Collapsing separators -/

/-- `s` is taken off both ends. -/
def trim [BEq α] (s : α) (xs : List α) : List α :=
  (xs.dropWhile fun x => x == s).rdropWhile fun x => x == s

/-- Trimming takes nothing but `s` away. -/
theorem filter_trim [DecidableEq α] (s : α) (xs : List α) :
    ((trim s xs).filter fun x => x ≠ s) = xs.filter fun x => x ≠ s := by
  have hall : ∀ ys : List α, (∀ y ∈ ys, (y == s) = true) → (ys.filter fun x => x ≠ s) = [] := by
    intro ys hys
    refine List.filter_eq_nil_iff.mpr fun y hy => ?_
    simpa using beq_iff_eq.mp (hys y hy)
  have hfront : ((xs.takeWhile fun x => x == s).filter fun x => x ≠ s) = [] :=
    hall _ fun y hy => by
      have hy' := List.mem_takeWhile_imp hy
      exact hy'
  have hback : (((xs.dropWhile fun x => x == s).rtakeWhile fun x => x == s).filter
      fun x => x ≠ s) = [] :=
    hall _ fun y hy => by
      have hy' := List.mem_rtakeWhile_imp hy
      exact hy'
  calc ((trim s xs).filter fun x => x ≠ s)
      = ((xs.dropWhile fun x => x == s).filter fun x => x ≠ s) := by
        conv_rhs => rw [← List.rdropWhile_append_rtakeWhile (p := fun x => x == s)
          (l := xs.dropWhile fun x => x == s), List.filter_append, hback, List.append_nil]
        rfl
    _ = xs.filter fun x => x ≠ s := by
        conv_rhs => rw [← List.takeWhile_append_dropWhile (p := fun x => x == s) (l := xs),
          List.filter_append, hfront, List.nil_append]

theorem rdropWhile_append (p : α → Bool) (xs ys : List α) : (xs ++ ys).rdropWhile p =
    if ys.rdropWhile p = [] then xs.rdropWhile p else xs ++ ys.rdropWhile p := by
  induction ys using List.reverseRecOn with
  | nil => rw [List.append_nil, List.rdropWhile_nil, if_pos rfl]
  | append_singleton ys y ih =>
      rw [← List.append_assoc]
      by_cases hy : p y = true
      · rw [List.rdropWhile_concat_pos _ _ _ hy, List.rdropWhile_concat_pos _ _ _ hy, ih]
      · rw [List.rdropWhile_concat_neg _ _ _ hy, List.rdropWhile_concat_neg _ _ _ hy,
          if_neg (List.append_ne_nil_of_right_ne_nil ys (List.cons_ne_nil y [])),
          List.append_assoc]

variable [DecidableEq α]

/-- Every run of separators becomes one `s`. -/
def collapse (p : α → Bool) (s : α) (xs : List α) : List α :=
  replaceAll (RunPattern.matcher ⟨[], p, 1, none⟩) [s] xs

theorem collapse_over (p : α → Bool) : (RunPattern.matcher ⟨[], p, 1, none⟩).Over p :=
  RunPattern.over nofun fun _ h => h

theorem collapse_cons_sep (hx : p x = true) :
    collapse p s (x :: xs) = s :: collapse p s (xs.dropWhile p) := by
  have hrun : ∀ d ∈ x :: xs.takeWhile p, p d = true :=
    List.forall_mem_cons.mpr ⟨hx, fun _ hd => List.mem_takeWhile_imp hd⟩
  have hrest := head?_dropWhile_eq_false p xs
  have hmatch := RunPattern.matcher_lead (r := ⟨[], p, 1, none⟩) hrun hrest
  simp only [List.nil_append, List.cons_append, List.takeWhile_append_dropWhile, RunPattern.taken,
    Option.elim_none, List.length_nil, List.length_cons, Nat.zero_add, Nat.add_sub_cancel,
    Nat.le_add_left, Nat.succ_pos, and_self, if_true] at hmatch
  have hdrop : xs.drop (xs.takeWhile p).length = xs.dropWhile p :=
    calc xs.drop (xs.takeWhile p).length
        = (xs.takeWhile p ++ xs.dropWhile p).drop (xs.takeWhile p).length := by
          rw [List.takeWhile_append_dropWhile]
      _ = xs.dropWhile p := List.drop_left
  rw [collapse, replaceAll_of_some hmatch, hdrop]
  rfl

theorem collapse_append (hw : ∀ y ∈ w, p y = false) :
    collapse p s (w ++ rest) = w ++ collapse p s rest := by
  induction w with
  | nil => rfl
  | cons y w ih =>
      obtain ⟨hy, hw⟩ := List.forall_mem_cons.mp hw
      rw [List.cons_append, collapse, replaceAll_cons_of_not (collapse_over p) hy]
      exact congrArg (y :: ·) (ih hw)

variable (hs : p s = true)
include hs

/-- A word is not trimmed. -/
theorem rdropWhile_word (hw : IsWord p w) : (w.rdropWhile fun x => x == s) = w := by
  refine List.rdropWhile_eq_self_iff.mpr fun hne hlast => ?_
  have hword := hw.2 _ (List.getLast_mem hne)
  rw [beq_iff_eq.mp hlast, hs] at hword
  cases hword

/-- What separates before the first word is trimmed. -/
theorem dropWhile_collapse (xs : List α) :
    ((collapse p s xs).dropWhile fun x => x == s) = collapse p s (xs.dropWhile p) := by
  have hkept : ∀ ys : List α, (∀ y ∈ ys.head?, p y = false) →
      ((collapse p s ys).dropWhile fun x => x == s) = collapse p s ys := by
    intro ys hys
    cases ys with
    | nil => rfl
    | cons y ys =>
        have hy := hys y rfl
        have hne : (fun x => x == s) y = false := by
          refine beq_eq_false_iff_ne.mpr fun heq => ?_
          rw [heq, hs] at hy
          cases hy
        rw [show y :: ys = [y] ++ ys from rfl, collapse_append (by simpa using hy)]
        exact List.dropWhile_cons_of_neg (by simpa using hne)
  have hdropped := head?_dropWhile_eq_false p xs
  cases xs with
  | nil => rfl
  | cons x xs =>
      by_cases hx : p x = true
      · rw [List.dropWhile_cons_of_pos hx] at hdropped ⊢
        rw [collapse_cons_sep hx, List.dropWhile_cons_of_pos (by simp), hkept _ hdropped]
      · rw [List.dropWhile_cons_of_neg hx] at hdropped ⊢
        exact hkept _ hdropped

theorem trim_word (hw : IsWord p w) : trim s w = w := by
  have hfirst : (w.dropWhile fun x => x == s) = w := by
    cases w with
    | nil => rfl
    | cons y w =>
        refine List.dropWhile_cons_of_neg fun heq => ?_
        have hy := hw.2 y List.mem_cons_self
        rw [beq_iff_eq.mp heq, hs] at hy
        cases hy
  rw [trim, hfirst, rdropWhile_word hs hw]

/-- Collapsed and trimmed, a list is its words with one `s` between any two. -/
theorem trim_collapse (xs : List α) : trim s (collapse p s xs) = [s].intercalate (words p xs) := by
  rw [trim, dropWhile_collapse hs]
  induction xs using words_induction p with
  | nil => rfl
  | sep x xs hx ih => rw [List.dropWhile_cons_of_pos hx, words_cons_sep hx, ih]
  | word w rest hw hrest ih =>
      cases w with
      | nil => exact absurd rfl hw.1
      | cons y w =>
          have hy := hw.2 y List.mem_cons_self
          rw [List.cons_append, List.dropWhile_cons_of_neg (by simpa using hy), ← List.cons_append,
            collapse_append hw.2, words_append hw hrest]
          cases rest with
          | nil => rw [collapse, replaceAll_nil, List.append_nil, words_nil,
              List.intercalate_singleton, rdropWhile_word hs hw]
          | cons z rest =>
              have hz := hrest z rfl
              rw [List.dropWhile_cons_of_pos hz] at ih
              have hsep := rdropWhile_append (fun x => x == s) [s] (collapse p s (rest.dropWhile p))
              rw [ih, List.singleton_append] at hsep
              rw [collapse_cons_sep hz, rdropWhile_append, hsep]
              cases hwords : words p (z :: rest) with
              | nil =>
                  have hend : ([s].rdropWhile fun x => x == s) = [] := by simp
                  rw [List.intercalate_nil, if_pos rfl, hend, if_pos rfl, rdropWhile_word hs hw,
                    List.intercalate_singleton]
              | cons v vs =>
                  have hv : IsWord p v := isWord_of_mem_words (hwords ▸ List.mem_cons_self)
                  have hne : [s].intercalate (v :: vs) ≠ [] := by
                    cases v with
                    | nil => exact absurd rfl hv.1
                    | cons c v => rw [List.intercalate_cons_cons_left]; exact List.cons_ne_nil _ _
                  rw [if_neg hne, List.singleton_append, if_neg (List.cons_ne_nil _ _),
                    List.intercalate_cons_cons, List.append_assoc, List.singleton_append]

end TxIndexer.Lib
