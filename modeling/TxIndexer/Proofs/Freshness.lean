import TxIndexer.Tui.Session
import TxIndexer.Proofs.Paging

/-!
# The terminal UI shows what it was asked for

The answer of a fetch carries no request, loaded data stays on screen while a new request runs,
and answers come in any order. A screen shows what it was asked for exactly as long as no answer
to another request is taken in on it, it is not entered with data of another request, and the
filter is not changed under a loaded list.
-/

namespace TxIndexer.Proofs

open Db Api Tui

/-- The diagnosis on screen is that of the selected transaction, and the list on screen was
fetched with the selected filter. -/
def ShowsAsked (v : Shown) (failedFor : Option Filter) : Prop :=
  (v.screen = .detail → ∀ d ∈ v.detail, v.selectedHash = some d.failed.txHash) ∧
  (v.screen = .failedTx → ∀ p ∈ v.failed, failedFor = some v.filter)

/-- The other screen an action goes to. -/
def opens (a : App) : Action → Option Screen
  | .nextTab => other (a.tabScreen 1)
  | .prevTab => other (a.tabScreen (-1))
  | .selectScreen s => other s
  | .enter => if a.screen = .failedTx ∧ a.selectedRow.isSome then some .detail else none
  | .back => if a.screen = .detail then some .failedTx else none
  | _ => none
where
  other (s : Screen) : Option Screen := if a.screen = s then none else some s

/-- The transaction that is selected once an action is taken. -/
def picks (a : App) : Action → Option String
  | .enter => if a.screen = .failedTx then a.selectedRow.or a.selectedHash else a.selectedHash
  | _ => a.selectedHash

/-- The action changes the filter of the list on screen. -/
def Refilters (a : App) : Action → Prop
  | .cycleCategory => a.screen = .failedTx
  | .cycleWindow => a.screen = .failedTx
  | .nextPage => a.screen = .failedTx ∧
      ∃ p ∈ a.failed.value, a.filter.offset + a.filter.limit < p.total
  | .prevPage => a.screen = .failedTx ∧ 0 < a.filter.offset
  | _ => False

/-- No loaded data comes on screen for another request than the one selected: an action that
opens the detail screen or the list finds nothing loaded there or what is selected, no filter is
changed under a loaded list, and no answer is taken in on the screen of another request. -/
def Current (s : Session) (e : UiEvent) (_ : Session) : Prop :=
  match e with
  | .action a =>
      (opens s.app a = some .detail →
        ∀ d ∈ s.app.detail.value, picks s.app a = some d.failed.txHash) ∧
      (opens s.app a = some .failedTx → ∀ p ∈ s.app.failed.value, s.failedFor = some s.app.filter) ∧
      (Refilters s.app a → s.app.failed.value = none)
  | .tick => True
  | .ingest (.detail txHash) (.detail (.ok _)) =>
      s.app.screen = .detail → s.app.selectedHash = some txHash
  | .ingest (.failedList query) (.failedList (.ok _)) =>
      s.app.screen = .failedTx → query = s.app.filter
  | .ingest _ _ => True

/-- What is on screen in a session is what was asked for. -/
def Fresh (s : Session) : Prop := ShowsAsked s.app.shown s.failedFor

/-- A change of screen shows what was asked for exactly when the new screen's data is. -/
theorem showsAsked_open {v : Shown} {failedFor : Option Filter} (h : ShowsAsked v failedFor)
    (t : Screen) : ShowsAsked { v with screen := t } failedFor ↔
      ((if v.screen = t then none else some t) = some Screen.detail →
        ∀ d ∈ v.detail, v.selectedHash = some d.failed.txHash) ∧
      ((if v.screen = t then none else some t) = some Screen.failedTx →
        ∀ p ∈ v.failed, failedFor = some v.filter) := by
  by_cases hsame : v.screen = t
  · subst hsame
    simp only [if_true, reduceCtorEq, false_implies, and_self, iff_true]
    exact h
  · simp only [if_neg hsame, Option.some.injEq]
    rfl

/-- A change of the filter leaves the list on screen right only if none is loaded. -/
theorem showsAsked_refilter {v : Shown} {failedFor : Option Filter} (h : ShowsAsked v failedFor)
    (hscreen : v.screen = .failedTx) {filter : Filter} (hne : filter ≠ v.filter) :
    ShowsAsked { v with filter } failedFor ↔ v.failed = none := by
  constructor
  · intro h'
    cases hfailed : v.failed with
    | none => rfl
    | some p =>
        have hold : failedFor = some v.filter := h.2 hscreen p hfailed
        have hnew : failedFor = some filter := h'.2 hscreen p hfailed
        exact absurd (Option.some.inj (hnew.symm.trans hold)) hne
  · intro hnone
    refine ⟨h.1, fun _ p hp => ?_⟩
    rw [show ({ v with filter } : Shown).failed = v.failed from rfl, hnone] at hp
    cases hp

/-- The category cycle has no fixed point. -/
theorem nextCategory_ne (category : Option String) : App.nextCategory category ≠ category := by
  cases category with
  | none => decide
  | some cur =>
      intro heq
      have hnodup : categories.Nodup := by decide
      have hmem : cur ∈ categories := List.mem_of_getElem? heq
      have hget : categories[categories.idxOf cur]? = some cur := List.getElem?_idxOf hmem
      rw [App.nextCategory, if_pos hmem] at heq
      have hlt : categories.idxOf cur < categories.length := List.idxOf_lt_length_of_mem hmem
      have hidx := (List.getElem?_inj hlt hnodup).mp (hget.trans heq.symm)
      omega

theorem next_ne (window : TimeWindow) : window.next ≠ window := by
  cases window <;> decide

/-- An action that opens no screen only has to leave the filter of a loaded list alone. -/
theorem current_of_opens_none {s : Session} {act : Action} (hopens : opens s.app act = none)
    (s' : Session) : Current s (.action act) s' ↔
      (Refilters s.app act → s.app.failed.value = none) := by
  simp [Current, hopens]

/-- An action leaves the screen right exactly when it meets its condition. -/
theorem showsAsked_after_iff {s : Session} (h : Fresh s) (hlimit : 0 < s.app.filter.limit)
    (act : Action) (s' : Session) : ShowsAsked (shownAfter s.app act) s.failedFor ↔
      Current s (.action act) s' := by
  have hold : ShowsAsked s.app.shown s.failedFor := h
  cases act with
  | nextTab | prevTab | selectScreen =>
      rw [shownAfter, showsAsked_open h]
      exact ⟨fun h => ⟨h.1, h.2, False.elim⟩, fun h => ⟨h.1, h.2.1⟩⟩
  | enter =>
      simp only [Current, opens, picks, Refilters, shownAfter]
      by_cases hscreen : s.app.screen = .failedTx
      · cases hrow : s.app.selectedRow with
        | none => simpa [hscreen] using hold
        | some row =>
            simp only [hscreen, if_true]
            simp [ShowsAsked, App.shown]
      · simpa [hscreen] using hold
  | back =>
      simp only [Current, opens, picks, Refilters, shownAfter]
      by_cases hscreen : s.app.screen = .detail
      · simp only [if_pos hscreen]
        simp [ShowsAsked, App.shown]
      · simpa [hscreen] using hold
  | cycleCategory =>
      simp only [Current, opens, picks, Refilters, shownAfter]
      by_cases hscreen : s.app.screen = .failedTx
      · rw [if_pos hscreen, showsAsked_refilter h hscreen]
        · simp [hscreen, App.shown]
        · intro heq
          exact nextCategory_ne _ (congrArg Filter.category heq)
      · simpa [hscreen] using hold
  | cycleWindow =>
      simp only [Current, opens, picks, Refilters, shownAfter]
      by_cases hscreen : s.app.screen = .failedTx
      · rw [if_pos hscreen, showsAsked_refilter h hscreen]
        · simp [hscreen, App.shown]
        · intro heq
          exact next_ne _ (congrArg Filter.window heq)
      · simpa [hscreen] using hold
  | nextPage =>
      rw [current_of_opens_none rfl]
      simp only [Refilters, shownAfter]
      split
      · next hmore =>
          rw [showsAsked_refilter h hmore.1]
          · exact ⟨fun hnone _ => hnone, fun h => h hmore⟩
          · intro heq
            have hoffset : s.app.filter.offset + s.app.filter.limit = s.app.filter.offset :=
              congrArg Filter.offset heq
            omega
      · next hmore => exact ⟨fun _ h => absurd h hmore, fun _ => hold⟩
  | prevPage =>
      simp only [Current, opens, picks, Refilters, shownAfter]
      split
      · next hback =>
          rw [showsAsked_refilter h hback.1]
          · simp [hback, App.shown]
          · intro heq
            have hoffset : max (s.app.filter.offset - s.app.filter.limit) 0 =
                s.app.filter.offset := congrArg Filter.offset heq
            omega
      · next hback => simpa [hback] using hold
  | quit | toggleHelp | toggleAutoPoll | refreshNow | up | down | none =>
      rw [current_of_opens_none rfl]
      exact ⟨fun _ => False.elim, fun _ => h⟩

/-- No action changes the page size. -/
theorem shownAfter_limit (a : App) (act : Action) :
    (shownAfter a act).filter.limit = a.filter.limit := by
  cases act with
  | enter | back | cycleCategory | cycleWindow | nextPage | prevPage =>
      rw [shownAfter]
      split <;> rfl
  | _ => rfl

/-- What is on screen is what was asked for, and pages are not empty. -/
structure Settled (s : Session) : Prop where
  fresh : Fresh s
  limit : 0 < s.app.filter.limit

/-- Taking in an answer leaves the screen right exactly when it is the answer to what the screen
asks for. -/
theorem fresh_ingest_iff {s : Session} (h : Fresh s) {f : Fetch} {msg : DataMsg}
    (hanswers : Answers f msg) (running : List Fetch) (s' : Session) :
    Fresh ⟨s.app.ingest msg, running, f.listedFor s.failedFor⟩ ↔ Current s (.ingest f msg) s' := by
  have hold : ShowsAsked s.app.shown s.failedFor := h
  rw [Fresh, App.shown_ingest]
  cases f with
  | latestBlock =>
      cases msg with
      | latestBlock r => exact ⟨fun _ => trivial, fun _ => hold⟩
      | _ => cases hanswers
  | analysis =>
      cases msg with
      | analysis r => exact ⟨fun _ => trivial, fun _ => hold⟩
      | _ => cases hanswers
  | clusters =>
      cases msg with
      | clusters r => exact ⟨fun _ => trivial, fun _ => hold⟩
      | _ => cases hanswers
  | failedList query =>
      cases msg with
      | failedList r =>
          cases r with
          | error message => exact ⟨fun _ => trivial, fun _ => ⟨hold.1, fun _ p hp => (by cases hp)⟩⟩
          | ok p =>
              constructor
              · intro hfresh hscreen
                exact Option.some.inj (hfresh.2 hscreen p rfl)
              · intro hcurrent
                exact ⟨hold.1, fun hscreen _ _ => congrArg some (hcurrent hscreen)⟩
      | _ => cases hanswers
  | detail txHash =>
      cases msg with
      | detail r =>
          cases r with
          | error message => exact ⟨fun _ => trivial, fun _ => ⟨fun _ d hd => (by cases hd), hold.2⟩⟩
          | ok d =>
              obtain ⟨db, hget⟩ : ∃ db, getFailedTx db txHash = .ok d := hanswers d rfl
              have htxHash : d.failed.txHash = txHash := getFailedTx_txHash hget
              constructor
              · intro hfresh hscreen
                rw [← htxHash]
                exact hfresh.1 hscreen d rfl
              · intro hcurrent
                refine ⟨fun hscreen d' hd' => ?_, hold.2⟩
                cases hd'
                rw [htxHash]
                exact hcurrent hscreen
      | _ => cases hanswers

/-- A turn of the loop leaves the screen right exactly when it meets its condition. -/
theorem fresh_step_iff {s s' : Session} {e : UiEvent} (h : Settled s) (hstep : UiStep s e s') :
    Fresh s' ↔ Current s e s' := by
  cases hstep with
  | @action a app spawned happly =>
      have hshown : app.shown = shownAfter s.app a := App.shown_apply happly
      rw [Fresh, hshown]
      exact showsAsked_after_iff h.fresh h.limit a _
  | @tick app spawned hpoll =>
      have hshown : app.shown = s.app.shown := App.shown_tick hpoll
      rw [Fresh, hshown]
      exact ⟨fun _ => trivial, fun _ => h.fresh⟩
  | ingest hrunning hanswers => exact fresh_ingest_iff h.fresh hanswers _ _

/-- A turn of the loop that meets its condition keeps the invariant. -/
theorem settled_step {s s' : Session} {e : UiEvent} (h : Settled s) (hstep : UiStep s e s')
    (hcurrent : Current s e s') : Settled s' where
  fresh := (fresh_step_iff h hstep).mpr hcurrent
  limit := by
    cases hstep with
    | @action a app spawned happly =>
        have hshown : app.shown = shownAfter s.app a := App.shown_apply happly
        have hlimit : app.filter.limit = s.app.filter.limit :=
          (congrArg (fun v => v.filter.limit) hshown).trans (shownAfter_limit s.app a)
        rw [hlimit]
        exact h.limit
    | @tick app spawned hpoll =>
        have hshown : app.shown = s.app.shown := App.shown_tick hpoll
        have hlimit : app.filter.limit = s.app.filter.limit :=
          congrArg (fun v => v.filter.limit) hshown
        rw [hlimit]
        exact h.limit
    | @ingest f msg hrunning hanswers =>
        have hlimit : (s.app.ingest msg).filter.limit = s.app.filter.limit := by cases msg <;> rfl
        rw [hlimit]
        exact h.limit

theorem settled_start : Settled Session.start := ⟨⟨nofun, nofun⟩, by decide⟩

/-- From a session that is started, the screens show what they were asked for as long as every
turn of the loop meets its condition, and the first that does not leaves one that shows something
else. -/
theorem screen_shows_asked_iff {s : Session} (hrun : Lib.Reaches UiStep Current Session.start s) :
    Fresh s ∧ ∀ e s', UiStep s e s' → (Fresh s' ↔ Current s e s') := by
  have hsettled : Settled s :=
    hrun.invariant (fun _ _ _ h hstep hguard => settled_step h hstep hguard) settled_start
  exact ⟨hsettled.fresh, fun e s' hstep => fresh_step_iff hsettled hstep⟩

/-! ## A session over two failures -/

/-- The diagnosis of one of the failures of `sameBlockFailures`. -/
def diagnosisAt12 (hash : B256) : FailedTxDetail := ⟨failureAt12 hash, [], false, none⟩

theorem getFailedTx_sameBlockFailures {hash : B256} (h : hash = 1 ∨ hash = 2) :
    getFailedTx sameBlockFailures (hashHex hash) = .ok (diagnosisAt12 hash) := by
  have hkeys : ([failureAt12 1, failureAt12 2].map FailedTransaction.txHash).Nodup := by
    simp [failureAt12]
  have hmem : failureAt12 hash ∈ sameBlockFailures.failedTransaction.rows := by
    rw [sameBlockFailures, Lib.KeyedTable.rows_insertNew_empty hkeys]
    rcases h with rfl | rfl <;> simp
  have hlookup : sameBlockFailures.failedTransaction.lookup (hashHex hash) =
      some (failureAt12 hash) := Lib.KeyedTable.lookup_eq_some.mpr ⟨hmem, rfl⟩
  rw [getFailedTx, if_pos (isTxHash_hashHex hash), getFailedTransaction, hlookup]
  rfl

/-- The list screen with both failures, the first of them selected. -/
def listing : Session where
  app := { Session.start.app with
    screen := .failedTx
    inflight := 2
    failed := .loaded ⟨[failureAt12 1, failureAt12 2], 2⟩
    tableSelected := some 0 }
  running := [.latestBlock, .analysis]
  failedFor := some ⟨none, .all, 20, 0⟩

/-- The first failure is opened and its diagnosis requested. -/
def firstOpened : Session where
  app := { listing.app with
    screen := .detail
    prevScreen := .failedTx
    inflight := 3
    selectedHash := some (hashHex 1)
    detail := .loading }
  running := [.latestBlock, .analysis, .detail (hashHex 1)]
  failedFor := some ⟨none, .all, 20, 0⟩

/-- The list is shown again before the diagnosis has come. -/
def listedAgain : Session where
  app := { firstOpened.app with
    screen := .failedTx
    prevScreen := .detail
    inflight := 4
    tableSelected := some 1 }
  running := [.latestBlock, .analysis, .detail (hashHex 1), .failedList ⟨none, .all, 20, 0⟩]
  failedFor := some ⟨none, .all, 20, 0⟩

/-- The second failure is opened. -/
def secondOpened : Session where
  app := { listedAgain.app with
    screen := .detail
    prevScreen := .failedTx
    inflight := 5
    selectedHash := some (hashHex 2) }
  running := [.latestBlock, .analysis, .detail (hashHex 1), .failedList ⟨none, .all, 20, 0⟩,
    .detail (hashHex 2)]
  failedFor := some ⟨none, .all, 20, 0⟩

theorem answers_diagnosisAt12 {hash : B256} (h : hash = 1 ∨ hash = 2) :
    Answers (.detail (hashHex hash)) (.detail (.ok (diagnosisAt12 hash))) := by
  intro d hd
  have hd : diagnosisAt12 hash = d := Except.ok.inj hd
  rw [← hd]
  exact ⟨sameBlockFailures, getFailedTx_sameBlockFailures h⟩

/-- The answer on the first failure is taken in. -/
theorem step_firstAnswer {s : Session} (h : .detail (hashHex 1) ∈ s.running) :
    UiStep s (.ingest (.detail (hashHex 1)) (.detail (.ok (diagnosisAt12 1)))) {
      app := s.app.ingest (.detail (.ok (diagnosisAt12 1)))
      running := s.running.erase (.detail (hashHex 1))
      failedFor := s.failedFor } :=
  .ingest h (answers_diagnosisAt12 (.inl rfl))

theorem listing_reached : Lib.Reaches UiStep Current Session.start listing := by
  have hlist : UiStep
      { app := { Session.start.app with screen := .failedTx, inflight := 3, failed := .loading }
        running := [.latestBlock, .analysis, .failedList ⟨none, .all, 20, 0⟩]
        failedFor := none }
      (.ingest (.failedList ⟨none, .all, 20, 0⟩)
        (.failedList (.ok ⟨[failureAt12 1, failureAt12 2], 2⟩))) listing :=
    .ingest (by decide) trivial
  refine Lib.Reaches.cons (.action .nextTab) (.action rfl)
    ⟨nofun, fun _ p hp => (by cases hp), False.elim⟩ ?_
  exact Lib.Reaches.cons _ hlist (fun _ => rfl) .refl

theorem firstOpened_reached : Lib.Reaches UiStep Current Session.start firstOpened := by
  have hopen : UiStep listing (.action .enter) firstOpened := .action rfl
  exact listing_reached.trans (Lib.Reaches.cons _ hopen
    ⟨fun _ d hd => (by cases hd), nofun, False.elim⟩ .refl)

/-- The diagnosis that is shown once it has come is that of the selected failure. -/
theorem diagnosis_shown_is_selected : ∃ s, Lib.Reaches UiStep Current Session.start s ∧
    s.app.screen = .detail ∧ s.app.detail.value = some (diagnosisAt12 1) ∧
      s.app.selectedHash = some (diagnosisAt12 1).failed.txHash := by
  have hmem : .detail (hashHex 1) ∈ firstOpened.running := by simp [firstOpened]
  have hanswer : Lib.Reaches UiStep Current firstOpened _ :=
    Lib.Reaches.cons _ (step_firstAnswer hmem) (fun _ => rfl) .refl
  have hrun := firstOpened_reached.trans hanswer
  exact ⟨_, hrun, rfl, rfl, (screen_shows_asked_iff hrun).1.1 rfl _ rfl⟩

/-- Going back and on to the second failure before the first has been answered shows the first
under the second. -/
theorem late_answer_shows_other :
    ¬ ∀ s, Lib.Reaches UiStep Lib.anyStep Session.start s → Fresh s := by
  intro hall
  have hopened : Lib.Reaches UiStep Lib.anyStep Session.start firstOpened :=
    firstOpened_reached.mono fun _ _ _ _ => trivial
  have hback : UiStep firstOpened (.action .back)
      { listedAgain with app := { listedAgain.app with tableSelected := some 0 } } := .action rfl
  have hdown : UiStep { listedAgain with app := { listedAgain.app with tableSelected := some 0 } }
      (.action .down) listedAgain := .action rfl
  have hopen : UiStep listedAgain (.action .enter) secondOpened := .action rfl
  have hmem : .detail (hashHex 1) ∈ secondOpened.running := by simp [secondOpened]
  have hlate := hopened.trans (Lib.Reaches.cons _ hback trivial (Lib.Reaches.cons _ hdown trivial
    (Lib.Reaches.cons _ hopen trivial
      (Lib.Reaches.cons _ (step_firstAnswer hmem) trivial .refl))))
  have hshown : some (hashHex 2) = some (hashHex 1) := (hall _ hlate).1 rfl (diagnosisAt12 1) rfl
  simp at hshown

end TxIndexer.Proofs
