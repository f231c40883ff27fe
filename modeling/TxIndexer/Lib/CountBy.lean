import Mathlib.Algebra.BigOperators.Group.List.Lemmas
import Mathlib.Data.List.Dedup
import Mathlib.Algebra.Order.Ring.Int

/-!
# Counting rows by a key

`GROUP BY key` with `COUNT(*)`: one entry for each key of the rows, with the number of its rows.
The counts of the keys that meet a condition add up to the number of rows whose key does, so no
row is lost or counted twice, and grouping by a coarser key adds up the counts of the finer one.
-/

namespace TxIndexer.Lib

variable {ρ κ κ' : Type} [DecidableEq κ] [DecidableEq κ'] {key : ρ → κ} {rows : List ρ}

/-- The entries of a grouped count, in some order. -/
def countBy (key : ρ → κ) (rows : List ρ) : List (κ × Nat) :=
  (rows.map key).dedup.map fun k => (k, rows.countP fun r => key r = k)

theorem keys_countBy (key : ρ → κ) (rows : List ρ) :
    (countBy key rows).map Prod.fst = (rows.map key).dedup := by
  rw [countBy, List.map_map]
  exact List.map_id _

theorem nodup_keys_countBy (key : ρ → κ) (rows : List ρ) :
    ((countBy key rows).map Prod.fst).Nodup := by
  rw [keys_countBy]
  exact List.nodup_dedup _

theorem mem_countBy {k : κ} {n : Nat} :
    (k, n) ∈ countBy key rows ↔ (∃ r ∈ rows, key r = k) ∧ n = rows.countP fun r => key r = k := by
  rw [countBy, List.mem_map]
  constructor
  · rintro ⟨k', hk', heq⟩
    cases heq
    exact ⟨List.mem_map.mp (List.mem_dedup.mp hk'), rfl⟩
  · rintro ⟨hk, rfl⟩
    exact ⟨k, List.mem_dedup.mpr (List.mem_map.mpr hk), rfl⟩

/-- A key that is listed has rows. -/
theorem pos_of_mem_countBy {k : κ} {n : Nat} (h : (k, n) ∈ countBy key rows) : 0 < n := by
  obtain ⟨⟨r, hr, hk⟩, rfl⟩ := mem_countBy.mp h
  exact List.countP_pos_iff.mpr ⟨r, hr, decide_eq_true hk⟩

/-- The counts of some keys are the number of their rows. -/
theorem sum_countBy (p : κ → Bool) :
    (((countBy key rows).filter fun x => p x.1).map Prod.snd).sum =
      rows.countP fun r => p (key r) := by
  have hcount : ∀ k, (rows.countP fun r => key r = k) = (rows.map key).count k := by
    intro k
    rw [List.count, List.countP_map]
    apply List.countP_congr
    intro r _
    simp only [Function.comp_apply, decide_eq_true_eq, beq_iff_eq]
  have hfilter : ((countBy key rows).filter fun x => p x.1).map Prod.snd =
      ((rows.map key).dedup.filter p).map fun k => (rows.map key).count k := by
    rw [countBy, List.filter_map, List.map_map]
    apply List.map_congr_left
    intro k _
    exact hcount k
  rw [hfilter, List.sum_map_count_dedup_filter_eq_countP, List.countP_map]
  rfl

/-- Grouping by a coarser key adds up the counts. -/
theorem mem_countBy_comp {g : κ → κ'} {k' : κ'} {n : Nat} :
    (k', n) ∈ countBy (fun r => g (key r)) rows ↔
      (∃ x ∈ countBy key rows, g x.1 = k') ∧
        n = (((countBy key rows).filter fun x => g x.1 = k').map Prod.snd).sum := by
  rw [mem_countBy, sum_countBy (fun k => decide (g k = k'))]
  refine and_congr_left fun _ => ?_
  constructor
  · rintro ⟨r, hr, rfl⟩
    exact ⟨_, mem_countBy.mpr ⟨⟨r, hr, rfl⟩, rfl⟩, rfl⟩
  · rintro ⟨⟨k, m⟩, hx, rfl⟩
    obtain ⟨⟨r, hr, rfl⟩, -⟩ := mem_countBy.mp hx
    exact ⟨r, hr, rfl⟩

/-- The rows that meet one of two conditions, of which none meets both. -/
theorem countP_or {p q : ρ → Bool} (h : ∀ r ∈ rows, p r = true → q r = false) :
    (rows.countP fun r => p r || q r) = rows.countP p + rows.countP q := by
  induction rows with
  | nil => rfl
  | cons r rows ih =>
      have hrest := ih fun r' hr' => h r' (List.mem_cons_of_mem _ hr')
      have hr := h r List.mem_cons_self
      rw [List.countP_cons, List.countP_cons, List.countP_cons, hrest]
      cases hp : p r with
      | true => rw [hr hp, Bool.or_false, if_pos rfl, if_neg Bool.false_ne_true]; omega
      | false => rw [Bool.false_or, if_neg Bool.false_ne_true]; omega

/-- The rows that meet one of several conditions, of which none meets two. -/
theorem countP_any {α : Type} {l : List α} {p : α → ρ → Bool}
    (h : l.Pairwise fun a a' => ∀ r ∈ rows, p a r = true → p a' r = false) :
    (rows.countP fun r => l.any fun a => p a r) = (l.map fun a => rows.countP (p a)).sum := by
  induction l with
  | nil => exact List.countP_eq_zero.mpr fun _ _ => Bool.false_ne_true
  | cons a l ih =>
      obtain ⟨ha, hl⟩ := List.pairwise_cons.mp h
      rw [List.map_cons, List.sum_cons, ← ih hl, ← countP_or]
      · rfl
      · intro r hr hp
        rw [List.any_eq_false]
        intro a' ha'
        rw [ha a' ha' r hr hp]
        exact Bool.false_ne_true

end TxIndexer.Lib
