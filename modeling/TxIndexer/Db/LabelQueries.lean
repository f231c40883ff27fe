import TxIndexer.Lib.GroupFold
import Mathlib.Data.String.Basic
import Mathlib.Order.Compare
import Mathlib.Data.Prod.Lex

/-!
# Failures by contract label

The pivot of `failed_tx_by_label_aggregate` in `crates/db/src/queries.rs`: the rows of a
`GROUP BY label, address, error_category` are folded into a hash map with one entry for each
contract, which is drained, sorted and cut.

`cnt` and the totals are `i64` in the source and integers here. They cannot overflow: a failed
transaction occurs once at most in the join that is counted, as transactions and labels are joined
by their primary keys, and a table has less than 2^41 rows (at most 2^32 pages of 8 kB with less
than 2^9 rows each).
-/

namespace TxIndexer.Db

open Lib

/-- A row of the grouped query (`queries.rs:1342-1347`). -/
structure RawRow where
  label : String
  address : String
  errorCategory : String
  cnt : Int
  deriving DecidableEq, Repr

/-- The key of the hash map. -/
def RawRow.contract (r : RawRow) : String × String := (r.label, r.address)

/-- What the query groups by. -/
def RawRow.key (r : RawRow) : String × String × String := (r.label, r.address, r.errorCategory)

/-- The entry of a contract: its total, and its counts by category. -/
abbrev LabelGroup := Int × GroupMap String Int

/-- `FailedTxByLabelPoint` (`models.rs:675-680`). -/
structure FailedTxByLabelPoint where
  label : String
  address : String
  totalFailures : Int
  byCategory : GroupMap String Int

/-- The contract of a point. -/
def FailedTxByLabelPoint.contract (p : FailedTxByLabelPoint) : String × String :=
  (p.label, p.address)

/-- `entry.0 += r.cnt; entry.1.insert(r.error_category, r.cnt)`. -/
def addRow (entry : LabelGroup) (r : RawRow) : LabelGroup :=
  (entry.1 + r.cnt, entry.2.insert r.errorCategory r.cnt)

/-- The hash map after the last row (`queries.rs:1368-1374`). -/
def labelGroups (raw : List RawRow) : GroupMap (String × String) LabelGroup :=
  groupFold RawRow.contract (0, ∅) addRow raw

/-- The point of an entry (`queries.rs:1378-1383`). -/
def pointOf (x : (String × String) × LabelGroup) : FailedTxByLabelPoint where
  label := x.1.1
  address := x.1.2
  totalFailures := x.2.1
  byCategory := x.2.2

/-- The comparison the points are sorted by (`queries.rs:1388-1393`). -/
def FailedTxByLabelPoint.cmp (a b : FailedTxByLabelPoint) : Ordering :=
  (compare b.totalFailures a.totalFailures).then
    ((compare a.label b.label).then (compare a.address b.address))

/-- `failed_tx_by_label_aggregate` (`queries.rs:1368-1397`) after its query, where the hash map is
drained as `entries`. -/
def pivotEntries (entries : List ((String × String) × LabelGroup)) (limit : Int) :
    List FailedTxByLabelPoint :=
  let out := (entries.map pointOf).mergeSort fun a b => (a.cmp b).isLE
  if 0 < limit then out.take limit.toNat else out

/-- `out` may be returned for these rows. -/
def FailedTxByLabelAggregate (raw : List RawRow) (limit : Int) (out : List FailedTxByLabelPoint) :
    Prop :=
  ∃ entries, Iterates (labelGroups raw) entries ∧ out = pivotEntries entries limit

/-! ## The order of the points -/

/-- By total, the largest first, then by label and by address. -/
def FailedTxByLabelPoint.Before (a b : FailedTxByLabelPoint) : Prop :=
  b.totalFailures < a.totalFailures ∨ a.totalFailures = b.totalFailures ∧
    (a.label < b.label ∨ a.label = b.label ∧ a.address ≤ b.address)

theorem then_isLE {c d : Ordering} :
    (c.then d).isLE = true ↔ c = .lt ∨ c = .eq ∧ d.isLE = true := by
  cases c <;> simp

namespace FailedTxByLabelPoint

variable {a b c : FailedTxByLabelPoint}

theorem cmp_isLE : (a.cmp b).isLE = true ↔ a.Before b := by
  have haddress : (compare a.address b.address).isLE = true ↔ a.address ≤ b.address := by
    rw [← not_lt, ← compare_gt_iff_gt]
    cases compare a.address b.address <;> simp
  rw [cmp, then_isLE, then_isLE, compare_lt_iff_lt, compare_lt_iff_lt, compare_eq_iff_eq,
    compare_eq_iff_eq, haddress, Before, eq_comm (a := b.totalFailures)]

/-- The key of that order. -/
def sortKey (p : FailedTxByLabelPoint) : Lex (Intᵒᵈ × Lex (String × String)) :=
  toLex (OrderDual.toDual p.totalFailures, toLex p.contract)

theorem before_iff : a.Before b ↔ a.sortKey ≤ b.sortKey := by
  rw [sortKey, sortKey, Prod.Lex.le_iff, Prod.Lex.le_iff]
  simp only [ofLex_toLex, OrderDual.toDual_lt_toDual, OrderDual.toDual_inj]
  exact Iff.rfl

theorem Before.trans (h : a.Before b) (h' : b.Before c) : a.Before c :=
  before_iff.mpr ((before_iff.mp h).trans (before_iff.mp h'))

theorem Before.total (a b : FailedTxByLabelPoint) : a.Before b ∨ b.Before a := by
  rw [before_iff, before_iff]
  exact le_total _ _

/-- Points of two contracts are never equally far up. -/
theorem Before.contract_eq (h : a.Before b) (h' : b.Before a) : a.contract = b.contract := by
  have hkey : a.sortKey = b.sortKey := le_antisymm (before_iff.mp h) (before_iff.mp h')
  exact congrArg (fun k => ofLex (ofLex k).2) hkey

end FailedTxByLabelPoint

end TxIndexer.Db
