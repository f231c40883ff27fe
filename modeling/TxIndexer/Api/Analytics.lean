import TxIndexer.Api.FailedTx
import TxIndexer.Db.Timeseries
import TxIndexer.Db.LabelJoin

/-!
# The analytics endpoints

`failed_tx_timeseries` and `failed_tx_by_label` of `crates/api/src/routes/failed_tx.rs`.
-/

namespace TxIndexer.Api

open Db

/-- `FailedTxTrendQuery` (`failed_tx.rs:194-203`). -/
structure FailedTxTrendQuery where
  interval : Option String
  fromText : Option String
  toText : Option String
  deriving DecidableEq, Repr

/-- The bucket of `failed_tx_timeseries` (`failed_tx.rs:212-217`). -/
def parseInterval (value : Option String) : Except ApiError TimeBucket :=
  match value with
  | none => .ok .day
  | some s =>
      if s = "" then .ok .day
      else match TimeBucket.fromStr s with
        | some bucket => .ok bucket
        | none => .error (.badRequest s!"invalid `interval` (hour|day|week): {s}")

section Series

-- `DateTime::parse_from_rfc3339`
variable (parseRfc3339 : String → Option Int)

/-- The checked parameters of a series. -/
def trendParams (q : FailedTxTrendQuery) :
    Except ApiError (TimeBucket × Option Int × Option Int) := do
  let bucket ← parseInterval q.interval
  let fromTs ← parseTs parseRfc3339 q.fromText "from"
  let toTs ← parseTs parseRfc3339 q.toText "to"
  return (bucket, fromTs, toTs)

/-- `failed_tx_timeseries` (`failed_tx.rs:205-223`) may answer with these points. -/
def FailedTxTimeseries (db : Database) (zone : Int) (q : FailedTxTrendQuery)
    (points : List FailedTxTrendPoint) : Prop :=
  ∃ bucket fromTs toTs, trendParams parseRfc3339 q = .ok (bucket, fromTs, toTs) ∧
    Db.FailedTxTimeseries db zone bucket fromTs toTs points

/-- `FailedTxByLabelQuery` (`failed_tx.rs:225-236`). -/
structure FailedTxByLabelQuery where
  fromText : Option String
  toText : Option String
  owner : Option String
  limit : Option Int
  deriving DecidableEq, Repr

/-- The checked parameters of a report by label. -/
def labelParams (q : FailedTxByLabelQuery) : Except ApiError (LabelFilter × Int) := do
  let fromTs ← parseTs parseRfc3339 q.fromText "from"
  let toTs ← parseTs parseRfc3339 q.toText "to"
  let owner := q.owner.filter fun s => s ≠ ""
  let limit := min (max (q.limit.getD 50) 1) 200
  return (⟨owner, fromTs, toTs⟩, limit)

/-- `failed_tx_by_label` (`failed_tx.rs:238-255`) may answer with these points. -/
def FailedTxByLabel (labels : LabelTable) (db : Database) (q : FailedTxByLabelQuery)
    (points : List FailedTxByLabelPoint) : Prop :=
  ∃ filter limit, labelParams parseRfc3339 q = .ok (filter, limit) ∧
    Db.FailedTxByLabel labels db filter limit points

end Series

end TxIndexer.Api
