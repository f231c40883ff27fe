import TxIndexer.Db.AdminQueries
import TxIndexer.Db.FailedTxQueries
import TxIndexer.Db.LabelQueries
import TxIndexer.Lib.CountBy

/-!
# Failures of labelled contracts

The query of `failed_tx_by_label_aggregate` (`crates/db/src/queries.rs:1349-1361`): labels are
joined with the transactions sent to their addresses and with the failures of these, and counted
by label, address and category.
-/

namespace TxIndexer.Db

open Lib

/-- What the query is bound to. -/
structure LabelFilter where
  ownerId : Option String
  fromTs : Option Int
  toTs : Option Int
  deriving DecidableEq, Repr

/-- `$1::TEXT IS NULL OR cl.owner_id = $1`. -/
def LabelFilter.owns (q : LabelFilter) (cl : ContractLabel) : Bool :=
  q.ownerId.all fun ownerId => cl.ownerId = some ownerId

/-- The bounds on the time. -/
def LabelFilter.inRange (q : LabelFilter) (f : FailedTransaction) : Bool :=
  FailedTxFilter.admits ⟨none, q.fromTs, q.toTs⟩ f

/-- The joined rows: a label, a transaction to its address and the failure of this. -/
def labelledFailures (labels : LabelTable) (db : Database) (q : LabelFilter) :
    List (ContractLabel × FailedTransaction) :=
  (labels.rows.filter q.owns).flatMap fun cl =>
    (db.failedTransaction.rows.filter q.inRange).flatMap fun f =>
      (db.transaction.rows.filter fun t => t.txHash = f.txHash ∧ t.toAddr = some cl.address).map
        fun _ => (cl, f)

/-- `GROUP BY cl.label, cl.address, f.error_category`. -/
def labelGroup (x : ContractLabel × FailedTransaction) : (String × String) × ErrorCategory :=
  ((x.1.label, x.1.address), x.2.errorCategory)

/-- The grouped rows, in some order. -/
def labelRows (labels : LabelTable) (db : Database) (q : LabelFilter) : List RawRow :=
  (countBy labelGroup (labelledFailures labels db q)).map fun x =>
    ⟨x.1.1.1, x.1.1.2, x.1.2.asWire, x.2⟩

/-- `failed_tx_by_label_aggregate` (`queries.rs:1325-1398`) may return `out`. -/
def FailedTxByLabel (labels : LabelTable) (db : Database) (q : LabelFilter) (limit : Int)
    (out : List FailedTxByLabelPoint) : Prop :=
  ∃ raw, raw.Perm (labelRows labels db q) ∧ FailedTxByLabelAggregate raw limit out

/-! ## What is joined -/

/-- The recipient of a transaction. -/
def recipient (db : Database) (txHash : String) : Option String :=
  (db.transaction.lookup txHash).bind Transaction.toAddr

/-- The failures of transactions to an address, in the time range. -/
def failuresTo (db : Database) (q : LabelFilter) (address : String) : List FailedTransaction :=
  (db.failedTransaction.rows.filter q.inRange).filter fun f =>
    recipient db f.txHash = some address

theorem labelledFailures_eq (labels : LabelTable) (db : Database) (q : LabelFilter) :
    labelledFailures labels db q = (labels.rows.filter q.owns).flatMap fun cl =>
      (failuresTo db q cl.address).map fun f => (cl, f) := by
  refine List.flatMap_congr fun cl _ => ?_
  have hjoin : ∀ f : FailedTransaction,
      (db.transaction.rows.filter fun t => t.txHash = f.txHash ∧ t.toAddr = some cl.address).map
          (fun _ => (cl, f)) =
        if recipient db f.txHash = some cl.address then [(cl, f)] else [] := by
    intro f
    have hsplit : (db.transaction.rows.filter fun t =>
        t.txHash = f.txHash ∧ t.toAddr = some cl.address) =
        (db.transaction.lookup f.txHash).toList.filter fun t => t.toAddr = some cl.address := by
      rw [← KeyedTable.filter_key, List.filter_filter]
      apply List.filter_congr
      intro t _
      rw [Bool.decide_and, Bool.and_comm]
    rw [hsplit, recipient]
    cases db.transaction.lookup f.txHash with
    | none => rfl
    | some t =>
        by_cases hto : t.toAddr = some cl.address
        · simp [hto]
        · simp [hto]
  simp only [hjoin]
  rw [failuresTo]
  induction db.failedTransaction.rows.filter q.inRange with
  | nil => rfl
  | cons f rows ih =>
      rw [List.flatMap_cons, ih]
      by_cases hto : recipient db f.txHash = some cl.address
      · rw [if_pos hto, List.filter_cons, if_pos (decide_eq_true hto)]
        rfl
      · rw [if_neg hto, List.filter_cons, if_neg (by simpa using hto)]
        rfl

end TxIndexer.Db
