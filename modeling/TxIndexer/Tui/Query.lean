import TxIndexer.Api.FailedTx
import TxIndexer.Std.JsonNumber
import TxIndexer.Tui.App

/-!
# The query of the list

`query_pairs` of `crates/tui/src/app.rs` and its way into the parameters of
`crates/api/src/routes/failed_tx.rs`: the pairs are put into a URL by `reqwest` and taken out of
it by `axum`, which gives the endpoint the same pairs. Times are in seconds.
-/

namespace TxIndexer.Tui

open Api

/-- `DateTime::to_rfc3339` and `DateTime::parse_from_rfc3339`: what is written is read back, from
the epoch to the end of the year 9999. -/
structure Rfc3339 where
  render : Int → String
  parse : String → Option Int
  parse_render : ∀ t, 0 ≤ t → t < 253402300800 → parse (render t) = some t
  parse_empty : parse "" = none

/-- How far back a window goes. -/
def TimeWindow.seconds : TimeWindow → Option Int
  | .all => none
  | .h24 => some (24 * 3600)
  | .d7 => some (7 * 86400)
  | .d30 => some (30 * 86400)

/-- `TimeWindow::start_iso` (`app.rs:94-102`). -/
def TimeWindow.startIso (rfc : Rfc3339) (now : Int) (w : TimeWindow) : Option String :=
  w.seconds.map fun s => rfc.render (now - s)

/-- `FailedTxFilter::query_pairs` (`app.rs:134-146`). -/
def Filter.queryPairs (rfc : Rfc3339) (now : Int) (f : Filter) : List (String × String) :=
  [("limit", toString f.limit), ("offset", toString f.offset)] ++
    (f.category.map fun c => ("category", c)).toList ++
    ((f.window.startIso rfc now).map fun start => ("from", start)).toList

/-- A field of a query that is given at most once; `none` if it is given twice. -/
def queryField (pairs : List (String × String)) (name : String) : Option (Option String) :=
  match pairs.filter fun p => p.1 = name with
  | [] => some none
  | [p] => some (some p.2)
  | _ => none

/-- An `Option<i64>` of a query. -/
def queryI64 (pairs : List (String × String)) (name : String) : Option (Option Int) := do
  match ← queryField pairs name with
  | none => return none
  | some s => ((parseInt s).filter (FitsI64 ·)).map some

/-- `Query<FailedTxQuery>`; `none` where `axum` rejects the query. -/
def parseQuery (pairs : List (String × String)) : Option FailedTxQuery := do
  let category ← queryField pairs "category"
  let fromText ← queryField pairs "from"
  let toText ← queryField pairs "to"
  let limit ← queryI64 pairs "limit"
  let offset ← queryI64 pairs "offset"
  return ⟨category, fromText, toText, limit, offset⟩

/-- The fields of the query of a filter. -/
theorem queryField_queryPairs (rfc : Rfc3339) (now : Int) (f : Filter) :
    queryField (f.queryPairs rfc now) "category" = some f.category ∧
      queryField (f.queryPairs rfc now) "from" = some (f.window.startIso rfc now) ∧
      queryField (f.queryPairs rfc now) "to" = some none ∧
      queryField (f.queryPairs rfc now) "limit" = some (some (toString f.limit)) ∧
      queryField (f.queryPairs rfc now) "offset" = some (some (toString f.offset)) := by
  unfold Filter.queryPairs
  cases f.category <;> cases f.window.startIso rfc now <;> simp [queryField]

theorem queryI64_of_field {pairs : List (String × String)} {name : String} {n : Int}
    (hfield : queryField pairs name = some (some (toString n))) (hfits : FitsI64 n) :
    queryI64 pairs name = some (some n) := by
  have hparse : (parseInt (toString n)).filter (FitsI64 ·) = some n := by
    rw [show toString n = n.repr from rfl, parseInt_repr]
    exact Option.filter_some_pos (decide_eq_true hfits)
  rw [queryI64, hfield]
  exact congrArg (Option.map some) hparse

/-- The query of a filter as the endpoint gets it. -/
theorem parseQuery_queryPairs {rfc : Rfc3339} {now : Int} {f : Filter} (hlimit : FitsI64 f.limit)
    (hoffset : FitsI64 f.offset) :
    parseQuery (f.queryPairs rfc now) =
      some ⟨f.category, f.window.startIso rfc now, none, some f.limit, some f.offset⟩ := by
  obtain ⟨hcategory, hfrom, hto, hl, ho⟩ := queryField_queryPairs rfc now f
  rw [parseQuery, hcategory, hfrom, hto, queryI64_of_field hl hlimit, queryI64_of_field ho hoffset]
  rfl

end TxIndexer.Tui
