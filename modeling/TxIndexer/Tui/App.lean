import TxIndexer.Api.FailedTx
import TxIndexer.Std.Json

/-!
# The terminal UI

`crates/tui/src/app.rs`: the state behind the screens, what a key does to it, and how the answer
of a fetch is taken in. Fetching is not waited for: a request goes to a task of its own, and its
answer arrives as a message that says what kind of request it answers and no more.

The rows of the overview and of the cluster list, which the state only counts, are kept as JSON.
-/

namespace TxIndexer.Tui

open Db Api

/-- `Screen` (`app.rs:27-37`). -/
inductive Screen where
  | overview
  | failedTx
  | detail
  | clusters
  deriving DecidableEq, Repr

/-- `SCREEN_ORDER` (`app.rs:52-57`). -/
def screenOrder : List Screen := [.overview, .failedTx, .detail, .clusters]

/-- `TimeWindow` (`app.rs:61-70`). -/
inductive TimeWindow where
  | all
  | h24
  | d7
  | d30
  deriving DecidableEq, Repr

/-- `TimeWindow::next` (`app.rs:84-91`). -/
def TimeWindow.next : TimeWindow → TimeWindow
  | .all => .h24
  | .h24 => .d7
  | .d7 => .d30
  | .d30 => .all

/-- `Loadable` (`app.rs:107-118`). -/
inductive Loadable (α : Type) where
  | idle
  | loading
  | loaded (value : α)
  | failed (message : String)

/-- `FailedTxFilter` (`app.rs:122-131`). -/
structure Filter where
  category : Option String
  window : TimeWindow
  limit : Int
  offset : Int
  deriving DecidableEq, Repr

/-- `TotalPaginated<FailedTransaction>`, with `pagination.total`. -/
structure FailedTxPage where
  data : List FailedTransaction
  total : Int
  deriving DecidableEq, Repr

/-- `Action` (`event.rs:16-49`). -/
inductive Action where
  | quit
  | nextTab
  | prevTab
  | selectScreen (s : Screen)
  | up
  | down
  | enter
  | back
  | cycleCategory
  | cycleWindow
  | nextPage
  | prevPage
  | refreshNow
  | toggleAutoPoll
  | toggleHelp
  | none
  deriving DecidableEq, Repr

/-- A request in a task of its own, with what it asks for. -/
inductive Fetch where
  | latestBlock
  | analysis
  | failedList (query : Filter)
  | detail (txHash : String)
  | clusters
  deriving DecidableEq, Repr

/-- `DataMsg` (`event.rs:54-65`). -/
inductive DataMsg where
  | latestBlock (r : Except String (Option Int))
  | analysis (r : Except String (List Json))
  | failedList (r : Except String FailedTxPage)
  | detail (r : Except String FailedTxDetail)
  | clusters (r : Except String (List Json))

/-- `App` (`app.rs:150-193`), without the configuration, the client and the clock. -/
structure App where
  screen : Screen
  prevScreen : Screen
  shouldQuit : Bool
  showHelp : Bool
  autoPoll : Bool
  tick : Nat
  inflight : Nat
  latestBlock : Loadable (Option Int)
  analysis : Loadable (List Json)
  failed : Loadable FailedTxPage
  tableSelected : Option Nat
  filter : Filter
  detail : Loadable FailedTxDetail
  detailScroll : Nat
  selectedHash : Option String
  clusters : Loadable (List Json)
  clusterSelected : Option Nat

/-- `CATEGORIES` (`format.rs:10-21`). -/
def categories : List String := [
  "INSUFFICIENT_BALANCE", "INSUFFICIENT_ALLOWANCE", "SLIPPAGE_EXCEEDED", "SLIPPAGE_AMOUNT_OUT",
  "SLIPPAGE_AMOUNT_IN", "SLIPPAGE_PRICE_IMPACT", "DEADLINE_EXPIRED", "UNAUTHORIZED",
  "TRANSFER_FAILED", "UNKNOWN"]

/-- `begin` (`app.rs:515-519`): data that is loaded stays on screen. -/
def Loadable.begin {α : Type} : Loadable α → Loadable α
  | .loaded value => .loaded value
  | _ => .loading

/-- `settle` (`app.rs:522-527`). -/
def settle {α : Type} : Except String α → Loadable α
  | .ok value => .loaded value
  | .error message => .failed message

/-- How many rows a loaded list has, and none otherwise. -/
def Loadable.rowCount {α β : Type} (rows : α → List β) : Loadable α → Nat
  | .loaded value => (rows value).length
  | _ => 0

/-- `move_selection` and `move_cluster_selection` on a list of `len` rows (`app.rs:420-431`). -/
def moveWithin (selected : Option Nat) (len : Nat) (dir : Int) : Checked (Option Nat) :=
  if len = 0 then .ok selected
  else do
    let last ← checkedI32 (asI32 len - 1)
    let moved ← checkedI32 (asI32 (selected.getD 0) + dir)
    let next ← clamp moved 0 last
    return some next.toNat

/-- `clamp_selection` and `clamp_cluster_selection` on a list of `len` rows (`app.rs:433-445`). -/
def clampWithin (selected : Option Nat) (len : Nat) : Option Nat :=
  if len = 0 then none
  else match selected with
    | some i => if len ≤ i then some (len - 1) else some i
    | none => some 0

namespace App

/-- `App::new` (`app.rs:201-230`). -/
def new : App where
  screen := .overview
  prevScreen := .overview
  shouldQuit := false
  showHelp := false
  autoPoll := true
  tick := 0
  inflight := 0
  latestBlock := .idle
  analysis := .idle
  failed := .idle
  tableSelected := none
  filter := ⟨none, .all, 20, 0⟩
  detail := .idle
  detailScroll := 0
  selectedHash := none
  clusters := .idle
  clusterSelected := none

/-- `spawn_fetch_active` (`app.rs:290-346`), with the requests it spawns. -/
def spawnFetchActive (a : App) : App × List Fetch :=
  match a.screen with
  | .overview =>
      ({ a with
        latestBlock := a.latestBlock.begin
        analysis := a.analysis.begin
        inflight := a.inflight + 2 }, [.latestBlock, .analysis])
  | .failedTx =>
      ({ a with failed := a.failed.begin, inflight := a.inflight + 1 }, [.failedList a.filter])
  | .detail =>
      match a.selectedHash with
      | some hash =>
          ({ a with detail := a.detail.begin, inflight := a.inflight + 1 }, [.detail hash])
      | none => (a, [])
  | .clusters =>
      ({ a with clusters := a.clusters.begin, inflight := a.inflight + 1 }, [.clusters])

/-- `goto_screen` (`app.rs:369-375`). -/
def gotoScreen (a : App) (s : Screen) : App × List Fetch :=
  if a.screen ≠ s then spawnFetchActive { a with prevScreen := a.screen, screen := s }
  else (a, [])

/-- The screen `dir` tabs on (`app.rs:360-366`). -/
def tabScreen (a : App) (dir : Int) : Screen :=
  screenOrder.getD ((screenOrder.idxOf a.screen + dir) % screenOrder.length).toNat .overview

/-- The hash of the row that is selected in a loaded list (`app.rs:381-388`). -/
def selectedRow (a : App) : Option String :=
  match a.failed with
  | .loaded p => (a.tableSelected.bind fun i => p.data[i]?).map (·.txHash)
  | _ => none

/-- `on_enter` (`app.rs:377-394`). -/
def onEnter (a : App) : App × List Fetch :=
  if a.screen = .failedTx then
    match a.selectedRow with
    | some h => gotoScreen { a with selectedHash := some h, detailScroll := 0 } .detail
    | none => (a, [])
  else (a, [])

/-- `on_back` (`app.rs:396-400`). -/
def onBack (a : App) : App × List Fetch :=
  if a.screen = .detail then gotoScreen a .failedTx else (a, [])

/-- `move_selection` (`app.rs:420-431`). -/
def moveSelection (a : App) (dir : Int) : Checked App := do
  let tableSelected ← moveWithin a.tableSelected (a.failed.rowCount FailedTxPage.data) dir
  return { a with tableSelected }

/-- `move_cluster_selection` (`app.rs:447-458`). -/
def moveClusterSelection (a : App) (dir : Int) : Checked App := do
  let clusterSelected ← moveWithin a.clusterSelected (a.clusters.rowCount id) dir
  return { a with clusterSelected }

/-- `on_down` (`app.rs:402-409`). -/
def onDown (a : App) : Checked App :=
  match a.screen with
  | .failedTx => moveSelection a 1
  | .detail => .ok { a with detailScroll := min (a.detailScroll + 1) 65535 }
  | .clusters => moveClusterSelection a 1
  | .overview => .ok a

/-- `on_up` (`app.rs:411-418`). -/
def onUp (a : App) : Checked App :=
  match a.screen with
  | .failedTx => moveSelection a (-1)
  | .detail => .ok { a with detailScroll := a.detailScroll - 1 }
  | .clusters => moveClusterSelection a (-1)
  | .overview => .ok a

/-- The category after `category` in the cycle (`app.rs:475-484`). -/
def nextCategory : Option String → Option String
  | none => categories[0]?
  | some cur =>
      categories[(if cur ∈ categories then categories.idxOf cur else 0) + 1]?

/-- `cycle_category` (`app.rs:474-488`). -/
def cycleCategory (a : App) : App × List Fetch :=
  spawnFetchActive { a with
    filter := { a.filter with category := nextCategory a.filter.category, offset := 0 } }

/-- `cycle_window` (`app.rs:490-494`). -/
def cycleWindow (a : App) : App × List Fetch :=
  spawnFetchActive { a with
    filter := { a.filter with window := a.filter.window.next, offset := 0 } }

/-- `next_page` (`app.rs:496-503`). -/
def nextPage (a : App) : App × List Fetch :=
  match a.failed with
  | .loaded p =>
      if a.filter.offset + a.filter.limit < p.total then
        spawnFetchActive { a with
          filter := { a.filter with offset := a.filter.offset + a.filter.limit } }
      else (a, [])
  | _ => (a, [])

/-- `prev_page` (`app.rs:505-510`). -/
def prevPage (a : App) : App × List Fetch :=
  if 0 < a.filter.offset then
    spawnFetchActive { a with
      filter := { a.filter with offset := max (a.filter.offset - a.filter.limit) 0 } }
  else (a, [])

/-- `apply` (`app.rs:233-268`), with the requests it spawns. -/
def apply (a : App) : Action → Checked (App × List Fetch)
  | .quit => .ok ({ a with shouldQuit := true }, [])
  | .toggleHelp => .ok ({ a with showHelp := !a.showHelp }, [])
  | .toggleAutoPoll => .ok ({ a with autoPoll := !a.autoPoll }, [])
  | .refreshNow => .ok a.spawnFetchActive
  | .nextTab => .ok (a.gotoScreen (a.tabScreen 1))
  | .prevTab => .ok (a.gotoScreen (a.tabScreen (-1)))
  | .selectScreen s => .ok (a.gotoScreen s)
  | .up => do return (← a.onUp, [])
  | .down => do return (← a.onDown, [])
  | .enter => .ok a.onEnter
  | .back => .ok a.onBack
  | .cycleCategory => .ok (if a.screen = .failedTx then a.cycleCategory else (a, []))
  | .cycleWindow => .ok (if a.screen = .failedTx then a.cycleWindow else (a, []))
  | .nextPage => .ok (if a.screen = .failedTx then a.nextPage else (a, []))
  | .prevPage => .ok (if a.screen = .failedTx then a.prevPage else (a, []))
  | .none => .ok (a, [])

/-- `ingest` (`app.rs:271-287`). -/
def ingest (a : App) (msg : DataMsg) : App :=
  let a := { a with inflight := a.inflight - 1 }
  match msg with
  | .latestBlock r => { a with latestBlock := settle r }
  | .analysis r => { a with analysis := settle r }
  | .failedList r =>
      let failed := settle r
      { a with
        failed
        tableSelected := clampWithin a.tableSelected (failed.rowCount FailedTxPage.data) }
  | .detail r => { a with detail := settle r }
  | .clusters r =>
      let clusters := settle r
      { a with
        clusters
        clusterSelected := clampWithin a.clusterSelected (clusters.rowCount id) }

end App

end TxIndexer.Tui
