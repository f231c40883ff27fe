import TxIndexer.Lib.OrderBy
import Mathlib.Data.List.Pairwise

/-!
# ORDER BY with a LIMIT and an OFFSET

Each page is read off some ordering consistent with the sort key, not the same one for every
page. The pages of a table are its rows, each once, for every choice of the orderings exactly
when no rows with equal keys lie on both sides of a page boundary.
-/

namespace TxIndexer.Lib

open scoped List

variable {α κ : Type} [LinearOrder κ]

/-- `sorted` is an ordering of `rows` consistent with `ORDER BY key`. -/
structure Sorts (key : α → κ) (rows sorted : List α) : Prop where
  perm : sorted.Perm rows
  sorted : sorted.Pairwise fun a b => key a ≤ key b

/-- `out` is what a query over `rows` with `ORDER BY key LIMIT limit OFFSET offset` may return. -/
def OrderByPage (key : α → κ) (limit offset : Nat) (rows out : List α) : Prop :=
  ∃ sorted, Sorts key rows sorted ∧ out = (sorted.drop offset).take limit

/-- How many pages have an offset below the number of rows. -/
def pageCount (limit count : Nat) : Nat := (count + limit - 1) / limit

/-- The pages at offsets `0`, `limit`, `2 * limit`, … put together. -/
def concatPages (limit count : Nat) (page : Nat → List α) : List α :=
  (List.range (pageCount limit count)).flatMap page

/-- How many rows are before every row with key `k`. -/
def before (key : α → κ) (rows : List α) (k : κ) : Nat := rows.countP fun a => key a < k

/-- How many rows are not after every row with key `k`. -/
def upTo (key : α → κ) (rows : List α) (k : κ) : Nat := rows.countP fun a => key a ≤ k

/-- Rows with key `k` are on both sides of position `m`. -/
def Straddles (key : α → κ) (rows : List α) (m : Nat) (k : κ) : Prop :=
  before key rows k < m ∧ m < upTo key rows k

variable {key : α → κ} {rows sorted : List α}

namespace Sorts

theorem exists_sorts (key : α → κ) (rows : List α) : ∃ sorted, Sorts key rows sorted := by
  have htotal : Std.Total fun a b : α => key a ≤ key b := ⟨fun a b => le_total _ _⟩
  have htrans : IsTrans α fun a b => key a ≤ key b := ⟨fun _ _ _ => le_trans⟩
  exact ⟨_, List.perm_insertionSort _ rows, List.pairwise_insertionSort _ rows⟩

/-- A row from position `m` on has a key at least that of the rows before it. -/
theorem le_of_mem_take_drop (h : Sorts key rows sorted) {m : Nat} {a b : α}
    (ha : a ∈ sorted.take m) (hb : b ∈ sorted.drop m) : key a ≤ key b := by
  have hpairwise := h.sorted
  rw [← List.take_append_drop m sorted, List.pairwise_append] at hpairwise
  exact hpairwise.2.2 a ha b hb

theorem le_of_mem_drop (h : Sorts key rows sorted) {m : Nat} {b : α} {later : List α}
    (hdrop : sorted.drop m = b :: later) {a : α} (ha : a ∈ sorted.drop m) : key b ≤ key a := by
  have hpairwise : (sorted.drop m).Pairwise fun a b => key a ≤ key b := h.sorted.drop
  rw [hdrop, List.pairwise_cons] at hpairwise
  rw [hdrop] at ha
  rcases List.mem_cons.mp ha with rfl | ha
  · exact le_rfl
  · exact hpairwise.1 a ha

/-- `before` counts the rows in front of position `m` and those from there on. -/
theorem before_eq (h : Sorts key rows sorted) (m : Nat) (k : κ) :
    before key rows k = (sorted.take m).countP (fun a => key a < k) +
      (sorted.drop m).countP fun a => key a < k := by
  rw [before, ← h.perm.countP_eq, ← List.countP_append, List.take_append_drop]

theorem upTo_eq (h : Sorts key rows sorted) (m : Nat) (k : κ) :
    upTo key rows k = (sorted.take m).countP (fun a => key a ≤ k) +
      (sorted.drop m).countP fun a => key a ≤ k := by
  rw [upTo, ← h.perm.countP_eq, ← List.countP_append, List.take_append_drop]

/-- The rows in front of position `m`, whose row is `b`, are within the first `m`. -/
theorem before_head (h : Sorts key rows sorted) {m : Nat} {b : α} {later : List α}
    (hdrop : sorted.drop m = b :: later) :
    before key rows (key b) = (sorted.take m).countP fun a => key a < key b := by
  have hnone : (sorted.drop m).countP (fun a => decide (key a < key b)) = 0 := by
    rw [List.countP_eq_zero]
    intro a ha
    simpa using h.le_of_mem_drop hdrop ha
  rw [h.before_eq m, hnone, Nat.add_zero]

theorem lt_upTo_head (h : Sorts key rows sorted) {m : Nat} {b : α} {later : List α}
    (hdrop : sorted.drop m = b :: later) : m < upTo key rows (key b) := by
  have hlen : m < sorted.length := by
    by_contra hge
    rw [List.drop_eq_nil_of_le (Nat.le_of_not_lt hge)] at hdrop
    cases hdrop
  have hb : b ∈ sorted.drop m := by rw [hdrop]; exact List.mem_cons_self
  have hall : (sorted.take m).countP (fun a => decide (key a ≤ key b)) = m := by
    rw [List.countP_eq_length.mpr, List.length_take, Nat.min_eq_left (Nat.le_of_lt hlen)]
    intro a ha
    simpa using h.le_of_mem_take_drop ha hb
  have hpos : 0 < (sorted.drop m).countP fun a => decide (key a ≤ key b) :=
    List.countP_pos_iff.mpr ⟨b, hb, by simp⟩
  rw [h.upTo_eq m, hall]
  exact Nat.lt_add_of_pos_right hpos

/-- When no rows with equal keys are on both sides of position `m`, the rows in front of it are
the same ones in every ordering. -/
theorem take_eq_filter (h : Sorts key rows sorted) {m : Nat}
    (hm : ∀ k, ¬ Straddles key rows m k) :
    sorted.take m = sorted.filter fun a => upTo key rows (key a) ≤ m := by
  cases hdrop : sorted.drop m with
  | nil =>
      have hle : sorted.length ≤ m := by simpa using hdrop
      rw [List.take_of_length_le hle, List.filter_eq_self.mpr]
      intro a _
      rw [decide_eq_true_eq]
      exact List.countP_le_length.trans (h.perm.length_eq ▸ hle)
  | cons b later =>
      have hafter : m < upTo key rows (key b) := h.lt_upTo_head hdrop
      -- nothing in front of `b` has its key, so all of it counts as before
      have hfull : (sorted.take m).length ≤ (sorted.take m).countP fun a => key a < key b := by
        rw [← h.before_head hdrop]
        refine (List.length_take_le m sorted).trans (Nat.le_of_not_lt fun hlt => ?_)
        exact hm (key b) ⟨hlt, hafter⟩
      have hlt : ∀ a ∈ sorted.take m, key a < key b := by
        have hall := List.countP_eq_length.mp (Nat.le_antisymm List.countP_le_length hfull)
        intro a ha
        simpa using hall a ha
      have hfront : ∀ a ∈ sorted.take m, decide (upTo key rows (key a) ≤ m) = true := by
        intro a ha
        rw [decide_eq_true_eq]
        calc upTo key rows (key a)
            ≤ before key rows (key b) := by
              refine List.countP_mono_left fun c _ hc => ?_
              simp only [decide_eq_true_eq] at hc ⊢
              exact hc.trans_lt (hlt a ha)
          _ ≤ m := by
              rw [h.before_head hdrop]
              exact List.countP_le_length.trans (List.length_take_le m sorted)
      have hback : ∀ a ∈ sorted.drop m, ¬ decide (upTo key rows (key a) ≤ m) = true := by
        intro a ha
        rw [decide_eq_true_eq, Nat.not_le]
        refine hafter.trans_le (List.countP_mono_left fun c _ hc => ?_)
        simp only [decide_eq_true_eq] at hc ⊢
        exact hc.trans (h.le_of_mem_drop hdrop ha)
      conv_rhs => rw [← List.take_append_drop m sorted]
      rw [List.filter_append, List.filter_eq_self.mpr hfront, List.filter_eq_nil_iff.mpr hback,
        List.append_nil]

/-- The rows that surround a boundary with equal keys on both sides. -/
theorem around_straddled (h : Sorts key rows sorted) {m : Nat} {k : κ}
    (hstraddles : Straddles key rows (m + 1) k) :
    ∃ x y later, sorted = sorted.take m ++ x :: y :: later ∧ m + 1 < sorted.length ∧
      key x = k ∧ key y = k := by
  obtain ⟨hbefore, hupTo⟩ := hstraddles
  have hlen : m + 1 < sorted.length :=
    h.perm.length_eq ▸ hupTo.trans_le List.countP_le_length
  have hdrop : sorted.drop m = sorted[m] :: sorted[m + 1] :: sorted.drop (m + 2) := by
    rw [List.drop_eq_getElem_cons (by omega), List.drop_eq_getElem_cons hlen]
  have htake : sorted.take (m + 1) = sorted.take m ++ [sorted[m]] := by
    rw [List.take_succ_eq_append_getElem (by omega)]
  have hdrop' : sorted.drop (m + 1) = sorted[m + 1] :: sorted.drop (m + 2) :=
    List.drop_eq_getElem_cons hlen
  have hxy : key sorted[m] ≤ key sorted[m + 1] := by
    have hx : sorted[m] ∈ sorted.take (m + 1) := by
      rw [htake]
      exact List.mem_append_right _ (List.mem_singleton.mpr rfl)
    have hy : sorted[m + 1] ∈ sorted.drop (m + 1) := by rw [hdrop']; exact List.mem_cons_self
    exact h.le_of_mem_take_drop hx hy
  have hkx : k ≤ key sorted[m] := by
    by_contra hlt
    have hall : (sorted.take (m + 1)).countP (fun a => decide (key a < k)) = m + 1 := by
      rw [List.countP_eq_length.mpr, List.length_take, Nat.min_eq_left (Nat.le_of_lt hlen)]
      intro a ha
      rw [htake, List.mem_append, List.mem_singleton] at ha
      rw [decide_eq_true_eq]
      rcases ha with ha | rfl
      · have hmem : sorted[m] ∈ sorted.drop m := by rw [hdrop]; exact List.mem_cons_self
        exact (h.le_of_mem_take_drop ha hmem).trans_lt (not_le.mp hlt)
      · exact not_le.mp hlt
    rw [h.before_eq (m + 1), hall] at hbefore
    omega
  have hky : key sorted[m + 1] ≤ k := by
    by_contra hlt
    have hnone : (sorted.drop (m + 1)).countP (fun a => decide (key a ≤ k)) = 0 := by
      rw [List.countP_eq_zero]
      intro a ha
      rw [decide_eq_true_eq, not_le]
      exact (not_le.mp hlt).trans_le (h.le_of_mem_drop hdrop' ha)
    rw [h.upTo_eq (m + 1), hnone, Nat.add_zero] at hupTo
    have hle := (List.countP_le_length (p := fun a => decide (key a ≤ k))).trans
      (List.length_take_le (m + 1) sorted)
    omega
  refine ⟨sorted[m], sorted[m + 1], sorted.drop (m + 2), ?_, hlen, ?_, ?_⟩
  · rw [← hdrop, List.take_append_drop]
  · exact le_antisymm (hxy.trans hky) hkx
  · exact le_antisymm hky (hkx.trans hxy)

/-- Neighbours with equal keys may be swapped. -/
theorem swap {front later : List α} {x y : α}
    (h : Sorts key rows (front ++ x :: y :: later)) (hxy : key x = key y) :
    Sorts key rows (front ++ y :: x :: later) where
  perm := ((List.Perm.swap x y later).append_left front).trans h.perm
  sorted := by
    have hpairwise := h.sorted
    simp only [List.pairwise_append, List.pairwise_cons, List.mem_cons, forall_eq_or_imp] at hpairwise ⊢
    obtain ⟨hfront, ⟨⟨-, hx⟩, hy, hlater⟩, hcross⟩ := hpairwise
    refine ⟨hfront, ⟨⟨hxy.ge, hy⟩, hx, hlater⟩, fun a ha => ?_⟩
    obtain ⟨hax, hay, halater⟩ := hcross a ha
    exact ⟨hay, hax, halater⟩

end Sorts

variable {limit : Nat}

theorem le_pageCount_mul (hlimit : 0 < limit) (count : Nat) :
    count ≤ pageCount limit count * limit := by
  have hlt := Nat.lt_div_mul_add hlimit (a := count + limit - 1)
  rw [pageCount]
  omega

theorem lt_pageCount (hlimit : 0 < limit) {count i : Nat} (hi : i * limit < count) :
    i < pageCount limit count := by
  rw [pageCount, Nat.lt_iff_add_one_le, Nat.le_div_iff_mul_le hlimit, Nat.succ_mul]
  omega

/-- The first `n` pages hold the rows that are in front of their end in every ordering. -/
theorem flatMap_pages_perm (hties : ∀ i k, ¬ Straddles key rows (i * limit) k)
    {page : Nat → List α} :
    ∀ n, (∀ i < n, OrderByPage key limit (i * limit) rows (page i)) →
      ((List.range n).flatMap page).Perm
        (rows.filter fun a => upTo key rows (key a) ≤ n * limit) := by
  intro n
  induction n with
  | zero =>
      intro _
      obtain ⟨sorted, h⟩ := Sorts.exists_sorts key rows
      have hfilter := (h.perm.filter fun a => decide (upTo key rows (key a) ≤ 0 * limit)).symm
      rw [← h.take_eq_filter (hties 0), Nat.zero_mul, List.take_zero] at hfilter
      rw [Nat.zero_mul, List.perm_nil.mp hfilter]
      exact .nil
  | succ n ih =>
      intro hpage
      obtain ⟨sorted, h, heq⟩ := hpage n (Nat.lt_succ_self n)
      have hearlier := ih fun i hi => hpage i (Nat.lt_succ_of_lt hi)
      have htake : ∀ j, (sorted.take (j * limit)).Perm
          (rows.filter fun a => upTo key rows (key a) ≤ j * limit) := by
        intro j
        rw [h.take_eq_filter (hties j)]
        exact h.perm.filter _
      rw [List.range_succ, List.flatMap_append, List.flatMap_singleton]
      calc (List.range n).flatMap page ++ page n
        _ ~ sorted.take (n * limit) ++ page n := (hearlier.trans (htake n).symm).append_right _
        _ = sorted.take ((n + 1) * limit) := by rw [heq, Nat.succ_mul, List.take_add]
        _ ~ _ := htake (n + 1)

/-- Pages read off orderings of their own are the rows of the table, each once, for every choice
of the orderings exactly when no two rows with equal keys are on both sides of a boundary. -/
theorem concatPages_perm_iff (hlimit : 0 < limit) (hrows : rows.Nodup) :
    (∀ page : Nat → List α,
      (∀ i < pageCount limit rows.length, OrderByPage key limit (i * limit) rows (page i)) →
      (concatPages limit rows.length page).Perm rows) ↔
    ∀ i k, ¬ Straddles key rows (i * limit) k := by
  constructor
  · intro hall i k hstraddles
    obtain ⟨sorted, h⟩ := Sorts.exists_sorts key rows
    obtain _ | i := i
    · rw [Nat.zero_mul] at hstraddles
      exact absurd hstraddles.1 (Nat.not_lt_zero _)
    -- the row before the boundary, and the same row behind it in another ordering
    obtain ⟨m, hm⟩ : ∃ m, (i + 1) * limit = m + 1 :=
      Nat.exists_eq_succ_of_ne_zero (Nat.mul_pos (Nat.succ_pos i) hlimit).ne'
    rw [hm] at hstraddles
    obtain ⟨x, y, later, hsorted, hlen, hx, hy⟩ := h.around_straddled hstraddles
    have hswapped : Sorts key rows (sorted.take m ++ y :: x :: later) :=
      Sorts.swap (hsorted ▸ h) (hx.trans hy.symm)
    let page : Nat → List α := fun j =>
      if j = i + 1 then ((sorted.take m ++ y :: x :: later).drop (j * limit)).take limit
      else (sorted.drop (j * limit)).take limit
    have hperm := hall page fun j _ => by
      by_cases hj : j = i + 1
      · exact ⟨_, hswapped, by simp only [page, if_pos hj]⟩
      · exact ⟨_, h, by simp only [page, if_neg hj]⟩
    have hcount : (i + 1) * limit < rows.length := by
      rw [hm, ← h.perm.length_eq]
      exact hlen
    have hlast : x ∈ page i := by
      have hget : ((sorted.drop (i * limit)).take limit)[m - i * limit]? = some x := by
        rw [List.getElem?_take_of_lt (by rw [Nat.succ_mul] at hm; omega), List.getElem?_drop,
          show i * limit + (m - i * limit) = m by rw [Nat.succ_mul] at hm; omega, hsorted,
          List.getElem?_append_right (List.length_take_le m sorted), List.length_take,
          Nat.min_eq_left (by omega), Nat.sub_self, List.getElem?_cons_zero]
      simp only [page, if_neg (Nat.lt_succ_self i).ne]
      exact List.mem_of_getElem? hget
    have hfirst : x ∈ page (i + 1) := by
      simp only [page, if_pos]
      have hfront : (sorted.take m ++ [y]).length = (i + 1) * limit := by
        rw [List.length_append, List.length_take, List.length_singleton, hm]
        omega
      rw [List.append_cons, ← hfront, List.drop_left, List.take_cons hlimit]
      exact List.mem_cons_self
    have hdisjoint := (List.nodup_flatMap.mp (hperm.nodup_iff.mpr hrows)).2
    have hi := lt_pageCount hlimit ((Nat.mul_le_mul_right limit (Nat.le_succ i)).trans_lt hcount)
    have hsymm : Std.Symm (Function.onFun List.Disjoint page) := ⟨fun _ _ h _ ha hb => h hb ha⟩
    exact hdisjoint.forall (List.mem_range.mpr hi)
      (List.mem_range.mpr (lt_pageCount hlimit hcount)) (Nat.lt_succ_self i).ne hlast hfirst
  · intro hties page hpage
    have hperm := flatMap_pages_perm hties _ hpage
    rw [List.filter_eq_self.mpr] at hperm
    · exact hperm
    · intro a _
      rw [decide_eq_true_eq]
      exact List.countP_le_length.trans (le_pageCount_mul hlimit _)

end TxIndexer.Lib
