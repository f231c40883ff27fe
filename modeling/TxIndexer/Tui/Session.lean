import TxIndexer.Tui.App
import TxIndexer.Lib.Transition

/-!
# A session of the terminal UI

The main loop (`app.rs:530-575`) takes one key, tick or message at a time, while the tasks it has
spawned answer in any order.
-/

namespace TxIndexer.Tui

open Api

/-- The value of a loaded field. -/
def Loadable.value {α : Type} : Loadable α → Option α
  | .loaded value => some value
  | _ => none

/-- The state of the UI, the tasks whose message has not been taken in yet, and, as history, the
filter of the request that `failed` was last settled with. -/
structure Session where
  app : App
  running : List Fetch
  failedFor : Option Filter

/-- What the loop takes next: a key, a tick of the poll timer, or the message of a task. -/
inductive UiEvent where
  | action (a : Action)
  | tick
  | ingest (f : Fetch) (msg : DataMsg)

/-- `msg` may be the answer to `f`. The diagnosis of a transaction is what the endpoint answers on
some database. -/
def Answers : Fetch → DataMsg → Prop
  | .latestBlock, .latestBlock _ => True
  | .analysis, .analysis _ => True
  | .failedList _, .failedList _ => True
  | .detail txHash, .detail r => ∀ d, r = .ok d → ∃ db, getFailedTx db txHash = .ok d
  | .clusters, .clusters _ => True
  | _, _ => False

/-- The filter of a request for the list, and `old` for any other. -/
def Fetch.listedFor (old : Option Filter) : Fetch → Option Filter
  | .failedList query => some query
  | _ => old

/-- One turn of the main loop. -/
inductive UiStep : Session → UiEvent → Session → Prop
  | action {s a app spawned} (happly : s.app.apply a = .ok (app, spawned)) :
      UiStep s (.action a) { s with app, running := s.running ++ spawned }
  | tick {s app spawned}
      (hpoll : (app, spawned) = (if s.app.autoPoll then
        { s.app with tick := (s.app.tick + 1) % 2 ^ 64 }.spawnFetchActive
        else ({ s.app with tick := (s.app.tick + 1) % 2 ^ 64 }, []))) :
      UiStep s .tick { s with app, running := s.running ++ spawned }
  | ingest {s f msg} (hrunning : f ∈ s.running) (hanswers : Answers f msg) :
      UiStep s (.ingest f msg) {
        app := s.app.ingest msg
        running := s.running.erase f
        failedFor := f.listedFor s.failedFor }

/-- The UI as `run` starts it. -/
def Session.start : Session where
  app := App.new.spawnFetchActive.1
  running := App.new.spawnFetchActive.2
  failedFor := none

/-! ## What is on screen -/

/-- What decides which data a screen shows, and for what it was asked. -/
structure Shown where
  screen : Screen
  filter : Filter
  selectedHash : Option String
  failed : Option FailedTxPage
  detail : Option FailedTxDetail

def App.shown (a : App) : Shown where
  screen := a.screen
  filter := a.filter
  selectedHash := a.selectedHash
  failed := a.failed.value
  detail := a.detail.value

@[simp] theorem Loadable.value_begin {α : Type} (l : Loadable α) : l.begin.value = l.value := by
  cases l <;> rfl

/-- Fetching changes nothing that is shown. -/
@[simp] theorem App.shown_spawnFetchActive (a : App) : a.spawnFetchActive.1.shown = a.shown := by
  unfold spawnFetchActive
  cases hscreen : a.screen with
  | overview | failedTx | clusters => simp [shown, hscreen]
  | detail => cases hhash : a.selectedHash <;> simp [shown, hscreen, hhash]

@[simp] theorem App.shown_gotoScreen (a : App) (s : Screen) :
    (a.gotoScreen s).1.shown = { a.shown with screen := s } := by
  unfold gotoScreen
  split
  · rw [shown_spawnFetchActive]
    rfl
  · next hsame =>
      rw [not_not] at hsame
      subst hsame
      rfl

/-- What an action makes of the screen. -/
def shownAfter (a : App) : Action → Shown
  | .nextTab => { a.shown with screen := a.tabScreen 1 }
  | .prevTab => { a.shown with screen := a.tabScreen (-1) }
  | .selectScreen s => { a.shown with screen := s }
  | .enter =>
      match (if a.screen = .failedTx then a.selectedRow else none) with
      | some h => { a.shown with screen := .detail, selectedHash := some h }
      | none => a.shown
  | .back => if a.screen = .detail then { a.shown with screen := .failedTx } else a.shown
  | .cycleCategory =>
      if a.screen = .failedTx then
        { a.shown with
          filter := { a.filter with category := App.nextCategory a.filter.category, offset := 0 } }
      else a.shown
  | .cycleWindow =>
      if a.screen = .failedTx then
        { a.shown with filter := { a.filter with window := a.filter.window.next, offset := 0 } }
      else a.shown
  | .nextPage =>
      if a.screen = .failedTx ∧ ∃ p ∈ a.failed.value, a.filter.offset + a.filter.limit < p.total then
        { a.shown with filter := { a.filter with offset := a.filter.offset + a.filter.limit } }
      else a.shown
  | .prevPage =>
      if a.screen = .failedTx ∧ 0 < a.filter.offset then
        { a.shown with
          filter := { a.filter with offset := max (a.filter.offset - a.filter.limit) 0 } }
      else a.shown
  | _ => a.shown

theorem App.shown_moveSelection {a a' : App} {dir : Int} (h : a.moveSelection dir = .ok a') :
    a'.shown = a.shown := by
  unfold moveSelection at h
  cases hmove : moveWithin a.tableSelected (a.failed.rowCount FailedTxPage.data) dir with
  | error p => rw [hmove] at h; cases h
  | ok selected => rw [hmove] at h; cases h; rfl

theorem App.shown_moveClusterSelection {a a' : App} {dir : Int}
    (h : a.moveClusterSelection dir = .ok a') : a'.shown = a.shown := by
  unfold moveClusterSelection at h
  cases hmove : moveWithin a.clusterSelected (a.clusters.rowCount id) dir with
  | error p => rw [hmove] at h; cases h
  | ok selected => rw [hmove] at h; cases h; rfl

theorem App.shown_onUp {a a' : App} (h : a.onUp = .ok a') : a'.shown = a.shown := by
  unfold onUp at h
  cases hscreen : a.screen with
  | failedTx => rw [hscreen] at h; exact shown_moveSelection h
  | clusters => rw [hscreen] at h; exact shown_moveClusterSelection h
  | detail | overview => simp only [hscreen] at h; cases h; simp [shown, hscreen]

theorem App.shown_onDown {a a' : App} (h : a.onDown = .ok a') : a'.shown = a.shown := by
  unfold onDown at h
  cases hscreen : a.screen with
  | failedTx => rw [hscreen] at h; exact shown_moveSelection h
  | clusters => rw [hscreen] at h; exact shown_moveClusterSelection h
  | detail | overview => simp only [hscreen] at h; cases h; simp [shown, hscreen]

theorem App.shown_onEnter (a : App) : a.onEnter.1.shown = shownAfter a .enter := by
  unfold onEnter shownAfter
  by_cases hscreen : a.screen = .failedTx
  · simp only [if_pos hscreen]
    cases a.selectedRow with
    | none => rfl
    | some h => rw [shown_gotoScreen]; rfl
  · simp only [if_neg hscreen]

theorem App.shown_nextPage (a : App) (hscreen : a.screen = .failedTx) :
    a.nextPage.1.shown = shownAfter a .nextPage := by
  unfold nextPage shownAfter
  cases hfailed : a.failed with
  | loaded p =>
      by_cases hmore : a.filter.offset + a.filter.limit < p.total
      · simp only [if_pos hmore, shown_spawnFetchActive]
        rw [if_pos ⟨hscreen, p, rfl, hmore⟩]
        simp [shown, hfailed]
      · simp [hmore, Loadable.value]
  | idle | loading | failed => simp [Loadable.value]

/-- An action makes of the screen what `shownAfter` says. -/
theorem App.shown_apply {a : App} {act : Action} {r : App × List Fetch}
    (h : a.apply act = .ok r) : r.1.shown = shownAfter a act := by
  cases act with
  | up =>
      cases hup : a.onUp with
      | error p => rw [apply, hup] at h; cases h
      | ok up => rw [apply, hup] at h; cases h; exact shown_onUp hup
  | down =>
      cases hdown : a.onDown with
      | error p => rw [apply, hdown] at h; cases h
      | ok down => rw [apply, hdown] at h; cases h; exact shown_onDown hdown
  | refreshNow => cases h; exact shown_spawnFetchActive a
  | nextTab | prevTab | selectScreen => cases h; exact shown_gotoScreen a _
  | enter => cases h; exact shown_onEnter a
  | back =>
      cases h
      rw [onBack, shownAfter]
      split <;> simp
  | cycleCategory =>
      cases h
      rw [shownAfter]
      split
      · rw [cycleCategory, shown_spawnFetchActive]; rfl
      · rfl
  | cycleWindow =>
      cases h
      rw [shownAfter]
      split
      · rw [cycleWindow, shown_spawnFetchActive]; rfl
      · rfl
  | nextPage =>
      cases h
      split
      · next hscreen => exact shown_nextPage a hscreen
      · next hscreen => rw [shownAfter, if_neg (fun h => hscreen h.1)]
  | prevPage =>
      cases h
      split
      · next hscreen =>
          rw [prevPage, shownAfter]
          by_cases hoffset : 0 < a.filter.offset
          · rw [if_pos hoffset, if_pos ⟨hscreen, hoffset⟩, shown_spawnFetchActive]; rfl
          · rw [if_neg hoffset, if_neg (fun h => hoffset h.2)]
      · next hscreen => rw [shownAfter, if_neg (fun h => hscreen h.1)]
  | quit | toggleHelp | toggleAutoPoll | none => cases h; rfl

/-- What an answer makes of the screen. -/
theorem App.shown_ingest (a : App) (msg : DataMsg) :
    (a.ingest msg).shown = match msg with
      | .failedList r => { a.shown with failed := r.toOption }
      | .detail r => { a.shown with detail := r.toOption }
      | _ => a.shown := by
  cases msg with
  | failedList r => cases r <;> rfl
  | detail r => cases r <;> rfl
  | latestBlock | analysis | clusters => rfl

/-- A tick changes nothing that is shown. -/
theorem App.shown_tick {a app : App} {spawned : List Fetch}
    (h : (app, spawned) = (if a.autoPoll then
      { a with tick := (a.tick + 1) % 2 ^ 64 }.spawnFetchActive
      else ({ a with tick := (a.tick + 1) % 2 ^ 64 }, []))) : app.shown = a.shown := by
  split at h
  · have happ := congrArg Prod.fst h
    dsimp only at happ
    rw [happ, shown_spawnFetchActive]
    rfl
  · cases h
    rfl

end TxIndexer.Tui
