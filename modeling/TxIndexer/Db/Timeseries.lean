import TxIndexer.Db.FailedTxQueries
import TxIndexer.Lib.CountBy
import TxIndexer.Lib.FloorTo
import Mathlib.Data.Prod.Lex

/-!
# Failures over time

`failed_tx_timeseries` of `crates/db/src/queries.rs`: failed transactions counted by time bucket
and category. `date_trunc` works in the time zone of the session, taken to be at a fixed offset
from UTC.
-/

namespace TxIndexer.Db

open Lib

/-- The position of a value in the enum, which `ORDER BY` goes by
(`20240101000001_initial_schema.sql:13-20`, `20240109000001_subdivide_categories.sql:12-15`). -/
def ErrorCategory.enumPosition : ErrorCategory → Nat
  | .insufficientBalance => 0
  | .slippageExceeded => 1
  | .deadlineExpired => 2
  | .unauthorized => 3
  | .transferFailed => 4
  | .unknown => 5
  | .slippageAmountOut => 6
  | .slippageAmountIn => 7
  | .slippagePriceImpact => 8
  | .insufficientAllowance => 9

theorem ErrorCategory.enumPosition_injective : Function.Injective ErrorCategory.enumPosition := by
  intro c c' h
  cases c <;> cases c' <;> first | rfl | cases h

/-- `TimeBucket` (`models.rs:78-82`). -/
inductive TimeBucket where
  | hour
  | day
  | week
  deriving DecidableEq, Repr

/-- `TimeBucket::from_str` (`models.rs:95-107`). -/
def TimeBucket.fromStr (s : String) : Option TimeBucket :=
  match s with
  | "hour" => some .hour
  | "day" => some .day
  | "week" => some .week
  | _ => none

/-- `date_trunc(bucket, t)` where local time is `zone` seconds ahead of UTC. Weeks begin on Monday,
and the day 0 was a Thursday. -/
def dateTrunc (zone : Int) (bucket : TimeBucket) (t : Int) : Int :=
  let localTime := t + zone
  match bucket with
  | .hour => localTime / 3600 * 3600 - zone
  | .day => localTime / 86400 * 86400 - zone
  | .week =>
      let day := localTime / 86400
      (day - (day + 3) % 7) * 86400 - zone

/-- `FailedTxTrendPoint` (`models.rs:529-536`). -/
structure FailedTxTrendPoint where
  bucket : Int
  errorCategory : ErrorCategory
  failureCount : Nat
  deriving DecidableEq, Repr

/-- The order of the points: `ORDER BY 1 ASC, 2 ASC`. -/
def FailedTxTrendPoint.sortKey (p : FailedTxTrendPoint) : Lex (Int × Nat) :=
  toLex (p.bucket, p.errorCategory.enumPosition)

/-- What the query groups by. -/
def trendKey (zone : Int) (bucket : TimeBucket) (f : FailedTransaction) : Int × ErrorCategory :=
  (dateTrunc zone bucket f.timestamp, f.errorCategory)

/-- The groups with their counts. -/
def trendPoints (zone : Int) (bucket : TimeBucket) (rows : List FailedTransaction) :
    List FailedTxTrendPoint :=
  (countBy (trendKey zone bucket) rows).map fun x => ⟨x.1.1, x.1.2, x.2⟩

/-- `failed_tx_timeseries` (`queries.rs:726-754`) may return `out`. -/
def FailedTxTimeseries (db : Database) (zone : Int) (bucket : TimeBucket)
    (fromTs toTs : Option Int) (out : List FailedTxTrendPoint) : Prop :=
  out.Perm (trendPoints zone bucket (matchingFailedTxs db ⟨none, fromTs, toTs⟩)) ∧
    out.Pairwise fun a b => a.sortKey ≤ b.sortKey

/-! ## Buckets -/

/-- The width of a bucket in seconds. -/
def TimeBucket.width : TimeBucket → Int
  | .hour => 3600
  | .day => 86400
  | .week => 604800

/-- Where some bucket begins: a local midnight, and for weeks that of a Monday. -/
def TimeBucket.origin (zone : Int) : TimeBucket → Int
  | .hour => -zone
  | .day => -zone
  | .week => -zone - 3 * 86400

theorem TimeBucket.width_pos (bucket : TimeBucket) : 0 < bucket.width := by
  cases bucket <;> decide

/-- A bucket consists of buckets of the other kind. -/
def TimeBucket.Refines (fine coarse : TimeBucket) : Prop := fine.width ≤ coarse.width

instance (fine coarse : TimeBucket) : Decidable (fine.Refines coarse) :=
  inferInstanceAs (Decidable (_ ≤ _))

/-- A point of a finer series goes into `p'`. -/
def FailedTxTrendPoint.Within (p : FailedTxTrendPoint) (zone : Int) (coarse : TimeBucket)
    (p' : FailedTxTrendPoint) : Prop :=
  dateTrunc zone coarse p.bucket = p'.bucket ∧ p.errorCategory = p'.errorCategory

instance (p : FailedTxTrendPoint) (zone : Int) (coarse : TimeBucket) (p' : FailedTxTrendPoint) :
    Decidable (p.Within zone coarse p') := inferInstanceAs (Decidable (_ ∧ _))

theorem dateTrunc_eq_floorTo (zone : Int) (bucket : TimeBucket) (t : Int) :
    dateTrunc zone bucket t = floorTo bucket.width (bucket.origin zone) t := by
  cases bucket with
  | hour =>
      show (t + zone) / 3600 * 3600 - zone = t - (t - -zone) % 3600
      omega
  | day =>
      show (t + zone) / 86400 * 86400 - zone = t - (t - -zone) % 86400
      omega
  | week =>
      show ((t + zone) / 86400 - ((t + zone) / 86400 + 3) % 7) * 86400 - zone =
        t - (t - (-zone - 3 * 86400)) % 604800
      omega

/-- The coarse bucket of a time is that of its fine bucket. -/
theorem dateTrunc_dateTrunc {fine coarse : TimeBucket} (h : fine.Refines coarse) (zone t : Int) :
    dateTrunc zone coarse (dateTrunc zone fine t) = dateTrunc zone coarse t := by
  simp only [dateTrunc_eq_floorTo]
  apply floorTo_floorTo fine.width_pos coarse.width_pos
  · revert h
    cases fine <;> cases coarse <;> decide
  · have horigin : coarse.origin zone - fine.origin zone =
        coarse.origin 0 - fine.origin 0 := by
      cases fine <;> cases coarse <;> simp only [TimeBucket.origin] <;> omega
    rw [horigin]
    revert h
    cases fine <;> cases coarse <;> decide

end TxIndexer.Db
