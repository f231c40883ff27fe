import Mathlib.Data.List.Basic
import Mathlib.Data.List.Pairwise

/-!
# Tables with a generated identifier

Rows get the next identifier when they are inserted and nothing else distinguishes them. The
table carries the proof that its identifiers increase in insertion order, so reading it in
insertion order is reading it `ORDER BY` identifier.
-/

namespace TxIndexer.Lib

variable {α : Type}

/-- Rows with strictly increasing identifiers, all below the next one. -/
structure SerialTable (α : Type) where
  rows : List (Nat × α)
  nextId : Nat
  increasing : rows.Pairwise fun r r' => r.1 < r'.1
  below : ∀ r ∈ rows, r.1 < nextId

namespace SerialTable

@[ext] theorem ext {t u : SerialTable α} (hrows : t.rows = u.rows) (hnext : t.nextId = u.nextId) :
    t = u := by
  cases t; cases u; simp_all

instance : EmptyCollection (SerialTable α) := ⟨⟨[], 0, .nil, by simp⟩⟩

/-- The rows without their identifiers, in the order of the identifiers. -/
def values (t : SerialTable α) : List α := t.rows.map Prod.snd

/-- The identifiers a batch is given, in its order. -/
def numbered : Nat → List α → List (Nat × α)
  | _, [] => []
  | n, a :: as => (n, a) :: numbered (n + 1) as

theorem numbered_bounds (as : List α) :
    ∀ n, ∀ r ∈ numbered n as, n ≤ r.1 ∧ r.1 < n + as.length := by
  induction as with
  | nil => intro n r hr; simp [numbered] at hr
  | cons a as ih =>
      intro n r hr
      rw [numbered, List.mem_cons] at hr
      rcases hr with rfl | hr
      · simp
      · have hbound := ih (n + 1) r hr
        simp only [List.length_cons]
        omega

theorem numbered_increasing (as : List α) :
    ∀ n, (numbered n as).Pairwise fun r r' => r.1 < r'.1 := by
  induction as with
  | nil => intro n; exact .nil
  | cons a as ih =>
      intro n
      rw [numbered, List.pairwise_cons]
      refine ⟨?_, ih (n + 1)⟩
      intro r hr
      exact (numbered_bounds as (n + 1) r hr).1

theorem numbered_values (as : List α) : ∀ n, (numbered n as).map Prod.snd = as := by
  induction as with
  | nil => intro n; rfl
  | cons a as ih => intro n; rw [numbered, List.map_cons, ih]

theorem numbered_append (as bs : List α) :
    ∀ n, numbered n (as ++ bs) = numbered n as ++ numbered (n + as.length) bs := by
  induction as with
  | nil => intro n; rfl
  | cons a as ih =>
      intro n
      rw [List.cons_append, numbered, numbered, ih, List.cons_append, List.length_cons,
        Nat.add_right_comm, Nat.add_assoc]

/-- Append a batch, giving each row the next identifier. -/
def insert (t : SerialTable α) (as : List α) : SerialTable α where
  rows := t.rows ++ numbered t.nextId as
  nextId := t.nextId + as.length
  increasing := by
    rw [List.pairwise_append]
    refine ⟨t.increasing, numbered_increasing as t.nextId, ?_⟩
    intro r hr r' hr'
    exact Nat.lt_of_lt_of_le (t.below r hr) (numbered_bounds as t.nextId r' hr').1
  below := by
    intro r hr
    rcases List.mem_append.mp hr with hr | hr
    · exact Nat.lt_of_lt_of_le (t.below r hr) (Nat.le_add_right _ _)
    · exact (numbered_bounds as t.nextId r hr).2

/-- Delete the rows that meet `p`. Identifiers are not given out again. -/
def deleteWhere (t : SerialTable α) (p : α → Bool) : SerialTable α where
  rows := t.rows.filter fun r => !p r.2
  nextId := t.nextId
  increasing := t.increasing.filter _
  below := fun r hr => t.below r (List.mem_of_mem_filter hr)

@[simp] theorem insert_nil (t : SerialTable α) : t.insert [] = t := by
  ext1 <;> simp [insert, numbered]

/-- Two batches are one. -/
@[simp] theorem insert_insert (t : SerialTable α) (as bs : List α) :
    (t.insert as).insert bs = t.insert (as ++ bs) := by
  ext1 <;> simp [insert, numbered_append, Nat.add_assoc]

@[simp] theorem values_insert (t : SerialTable α) (as : List α) :
    (t.insert as).values = t.values ++ as := by
  simp [values, insert, numbered_values]

@[simp] theorem values_deleteWhere (t : SerialTable α) (p : α → Bool) :
    (t.deleteWhere p).values = t.values.filter fun a => !p a := by
  simp [values, deleteWhere, List.filter_map, Function.comp_def]

theorem deleteWhere_eq_self {t : SerialTable α} {p : α → Bool} (h : ∀ r ∈ t.rows, p r.2 = false) :
    t.deleteWhere p = t := by
  ext1
  · rw [deleteWhere, List.filter_eq_self]
    intro r hr
    rw [h r hr]
    rfl
  · rfl

end SerialTable

end TxIndexer.Lib
