import Mathlib.Data.Prod.Lex
import Mathlib.Data.List.Perm.Subperm
import TxIndexer.Lib.OrderBy

/-!
# Rounds of ordered batches

In each round the first `limit` rows by some key are tried, and those of them that succeed leave.
With rows that never succeed a row may be tried late or never: it is tried in as many rounds as
there are rows, however ties are broken, exactly if fewer than `limit` other rows that never
succeed have a key at most its own.
-/

namespace TxIndexer.Lib

variable {α κ : Type} [DecidableEq α] [LinearOrder κ]

/-- The rows left by a round that tried `batch`. -/
def remaining (leaves : α → Bool) (rows batch : List α) : List α :=
  rows.filter fun a => !(decide (a ∈ batch) && leaves a)

/-- Rounds from `rows`, the batches they try, and the rows they leave. -/
inductive Rounds (key : α → κ) (limit : Nat) (leaves : α → Bool) :
    List α → List (List α) → List α → Prop
  | nil {rows} : Rounds key limit leaves rows [] rows
  | cons {rows batch batches final} (hbatch : OrderByLimit key limit rows batch)
      (hrest : Rounds key limit leaves (remaining leaves rows batch) batches final) :
      Rounds key limit leaves rows (batch :: batches) final

/-- The rows that may keep `p` out of a batch and never leave. -/
def blockers (key : α → κ) (leaves : α → Bool) (p : α) (rows : List α) : List α :=
  rows.filter fun q => decide (q ≠ p) && !leaves q && decide (key q ≤ key p)

variable {key : α → κ} {limit : Nat} {leaves : α → Bool} {p : α} {rows batch final : List α}
  {batches : List (List α)}

theorem mem_blockers {q : α} : q ∈ blockers key leaves p rows ↔
    q ∈ rows ∧ q ≠ p ∧ leaves q = false ∧ key q ≤ key p := by
  simp [blockers, and_assoc]

/-- What never leaves is left. -/
theorem blockers_remaining :
    blockers key leaves p (remaining leaves rows batch) = blockers key leaves p rows := by
  rw [blockers, remaining, List.filter_filter]
  refine List.filter_congr fun q _ => ?_
  cases leaves q <;> simp

theorem mem_remaining {a : α} :
    a ∈ remaining leaves rows batch ↔ a ∈ rows ∧ ¬ (a ∈ batch ∧ leaves a = true) := by
  by_cases hin : a ∈ batch <;> simp [remaining, hin]

theorem remaining_nodup (h : rows.Nodup) : (remaining leaves rows batch).Nodup := h.filter _

/-- A round that leaves `p` out of its batch, when fewer than `limit` rows block it, is one in
which some row leaves. -/
theorem length_remaining_lt (hnodup : rows.Nodup) (hp : p ∈ rows)
    (hfew : (blockers key leaves p rows).length < limit) (hbatch : OrderByLimit key limit rows batch)
    (hout : p ∉ batch) : (remaining leaves rows batch).length < rows.length := by
  have hleaver : ∃ c ∈ batch, leaves c = true := by
    by_contra hnone
    push Not at hnone
    have hsubset : batch ⊆ blockers key leaves p rows := by
      intro c hc
      refine mem_blockers.mpr ⟨hbatch.subset hc, ?_, ?_, hbatch.le_of_not_mem hp hout c hc⟩
      · rintro rfl
        exact hout hc
      · simpa using hnone c hc
    have hle := ((hbatch.nodup hnodup).subperm hsubset).length_le
    rw [hbatch.length_of_not_mem hp hout] at hle
    omega
  obtain ⟨c, hc, hleaves⟩ := hleaver
  refine List.length_filter_lt_length_iff_exists.mpr ⟨c, hbatch.subset hc, ?_⟩
  simp [hc, hleaves]

/-- Few blockers: `p` is tried. -/
theorem Rounds.tried (h : Rounds key limit leaves rows batches final) (hnodup : rows.Nodup)
    (hp : p ∈ rows) (hfew : (blockers key leaves p rows).length < limit)
    (hlength : rows.length ≤ batches.length) : ∃ batch ∈ batches, p ∈ batch := by
  induction h with
  | nil =>
      rw [List.length_nil, Nat.le_zero, List.length_eq_zero_iff] at hlength
      rw [hlength] at hp
      cases hp
  | @cons rows batch batches final hbatch hrest ih =>
      by_cases hin : p ∈ batch
      · exact ⟨batch, List.mem_cons_self, hin⟩
      · have hlt := length_remaining_lt hnodup hp hfew hbatch hin
        rw [List.length_cons] at hlength
        obtain ⟨batch', hbatch', hp'⟩ := ih (remaining_nodup hnodup)
          (mem_remaining.mpr ⟨hp, fun h => hin h.1⟩) (by rwa [blockers_remaining]) (by omega)
        exact ⟨batch', List.mem_cons_of_mem _ hbatch', hp'⟩

/-- The sort that puts `p` last among its ties. -/
def lastAmongTies (key : α → κ) (p a : α) : κ ×ₗ Bool := toLex (key a, decide (a = p))

/-- Many blockers: some batch does not have `p`. -/
theorem exists_batch_without (hnodup : rows.Nodup)
    (hmany : limit ≤ (blockers key leaves p rows).length) :
    ∃ batch, OrderByLimit key limit rows batch ∧ p ∉ batch := by
  have hrefines : ∀ a b, lastAmongTies key p a ≤ lastAmongTies key p b → key a ≤ key b := by
    intro a b hle
    rcases Prod.Lex.le_iff.mp hle with hlt | ⟨heq, -⟩
    · exact hlt.le
    · exact heq.le
  have hbefore : ∀ q ∈ blockers key leaves p rows,
      ¬ lastAmongTies key p p ≤ lastAmongTies key p q := by
    intro q hq hle
    obtain ⟨-, hne, -, hkey⟩ := mem_blockers.mp hq
    rcases Prod.Lex.le_iff.mp hle with hlt | ⟨-, hflag⟩
    · exact absurd hkey (not_le_of_gt hlt)
    · simp only [lastAmongTies, ofLex_toLex, hne, decide_true, decide_false] at hflag
      exact absurd hflag (by decide)
  refine ⟨_, .of_refinement (lastAmongTies key p) hrefines limit rows, fun hp => ?_⟩
  have htotal : Std.Total fun a b : α => lastAmongTies key p a ≤ lastAmongTies key p b :=
    ⟨fun a b => le_total _ _⟩
  have htrans : IsTrans α fun a b => lastAmongTies key p a ≤ lastAmongTies key p b :=
    ⟨fun _ _ _ => le_trans⟩
  have hsorted := List.pairwise_insertionSort
    (fun a b : α => lastAmongTies key p a ≤ lastAmongTies key p b) rows
  have hperm := List.perm_insertionSort
    (fun a b : α => lastAmongTies key p a ≤ lastAmongTies key p b) rows
  obtain ⟨before, after, hsplit⟩ := List.append_of_mem hp
  have hwhole := (List.take_append_drop limit
    (rows.insertionSort fun a b => lastAmongTies key p a ≤ lastAmongTies key p b)).symm
  rw [hsplit, List.append_assoc, List.cons_append] at hwhole
  rw [hwhole] at hsorted hperm
  have hsubset : blockers key leaves p rows ⊆ before := by
    intro q hq
    obtain ⟨hrows, hne, -, -⟩ := mem_blockers.mp hq
    rcases List.mem_append.mp (hperm.mem_iff.mpr hrows) with hbef | haft
    · exact hbef
    · rcases List.mem_cons.mp haft with rfl | haft
      · exact absurd rfl hne
      · have hpq := List.rel_of_pairwise_cons (List.pairwise_append.mp hsorted).2.1 haft
        exact absurd hpq (hbefore q hq)
  have hle := ((hnodup.filter _).subperm hsubset).length_le
  have htake := congrArg List.length hsplit
  rw [List.length_take, List.length_append, List.length_cons] at htake
  rw [blockers] at hmany
  omega

/-- Many blockers: `p` may never be tried. -/
theorem exists_rounds_without (hnodup : rows.Nodup) (hp : p ∈ rows)
    (hmany : limit ≤ (blockers key leaves p rows).length) (n : Nat) :
    ∃ batches final, Rounds key limit leaves rows batches final ∧ batches.length = n ∧
      ∀ batch ∈ batches, p ∉ batch := by
  induction n generalizing rows with
  | zero => exact ⟨[], rows, .nil, rfl, nofun⟩
  | succ n ih =>
      obtain ⟨batch, hbatch, hout⟩ := exists_batch_without hnodup hmany
      have hleft : (remaining leaves rows batch).Nodup := remaining_nodup hnodup
      obtain ⟨batches, final, hrounds, hlength, havoid⟩ := ih hleft
        (mem_remaining.mpr ⟨hp, fun h => hout h.1⟩) (by rwa [blockers_remaining])
      refine ⟨batch :: batches, final, .cons hbatch hrounds, by rw [List.length_cons, hlength], ?_⟩
      intro batch' hmem
      rcases List.mem_cons.mp hmem with rfl | hmem
      · exact hout
      · exact havoid batch' hmem

end TxIndexer.Lib
