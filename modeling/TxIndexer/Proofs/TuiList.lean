import TxIndexer.Proofs.Freshness
import TxIndexer.Tui.Query

/-!
# The list the terminal UI asks for

Whatever is typed, every request of a session for the list is one the endpoint accepts and takes
for the filter it was made from; so a page that is loaded is a page of the failures that filter
selects, of some state of the tables.
-/

namespace TxIndexer.Proofs

open Db Api Lib Tui

variable {rfc : Rfc3339}

/-- The filters a session makes: pages of 20 rows, an offset of a page the list has, and a category
of the cycle. -/
structure FilterOk (f : Filter) : Prop where
  limit : f.limit = 20
  offset : 0 ≤ f.offset
  offsetFits : f.offset < 2 ^ 63
  category : ∀ c ∈ f.category, c ∈ categories

/-- The times at which windows can be written as RFC 3339. -/
def ClockOk (now : Int) : Prop := 30 * 86400 ≤ now ∧ now < 253402300800

/-- What a filter selects at a time. -/
def filterAt (f : Filter) (now : Int) : FailedTxFilter where
  category := f.category.bind ErrorCategory.fromStr
  fromTs := f.window.seconds.map fun s => now - s
  toTs := none

/-- A page of the failures a filter selects, newest first, and how many there are. -/
def PageFor (f : Filter) (p : FailedTxPage) : Prop :=
  ∃ db now, ClockOk now ∧ ListFailedTransactions db (filterAt f now) 20 f.offset.toNat p.data ∧
    p.total = countFailedTransactions db (filterAt f now)

theorem fromStr_categories : ∀ c ∈ categories, ∃ category,
    ErrorCategory.fromStr c = some category ∧ category.asWire = c := by
  intro c hc
  simp only [categories, List.mem_cons, List.not_mem_nil, or_false] at hc
  rcases hc with rfl | rfl | rfl | rfl | rfl | rfl | rfl | rfl | rfl | rfl <;> exact ⟨_, rfl, rfl⟩

theorem parseCategory_of_ok {f : Filter} (h : FilterOk f) :
    parseCategory f.category = .ok (f.category.bind ErrorCategory.fromStr) := by
  cases hc : f.category with
  | none => rfl
  | some c =>
      obtain ⟨category, hcategory, -⟩ := fromStr_categories c (h.category c hc)
      have hne : c ≠ "" := by
        rintro rfl
        cases hcategory
      simp only [parseCategory, if_neg hne, hcategory, Option.bind_some]

theorem parseTs_startIso {f : Filter} {now : Int} (hnow : ClockOk now) (field : String) :
    parseTs rfc.parse (f.window.startIso rfc now) field =
      .ok (f.window.seconds.map fun s => now - s) := by
  obtain ⟨hlow, hhigh⟩ := hnow
  have hstart : ∀ s, f.window.seconds = some s → 0 ≤ now - s ∧ now - s < 253402300800 := by
    intro s hs
    cases hw : f.window <;> rw [hw] at hs <;> cases hs <;> omega
  unfold TimeWindow.startIso
  cases hs : f.window.seconds with
  | none => rfl
  | some s =>
      obtain ⟨h0, h1⟩ := hstart s hs
      have hparse : rfc.parse (rfc.render (now - s)) = some (now - s) := rfc.parse_render _ h0 h1
      have hne : rfc.render (now - s) ≠ "" := by
        intro hempty
        rw [hempty, rfc.parse_empty] at hparse
        cases hparse
      simp only [Option.map_some, parseTs, if_neg hne, hparse]

/-- A request for such a filter is accepted, for 20 rows from its offset. -/
theorem request_accepted {f : Filter} (h : FilterOk f) {now : Int} (hnow : ClockOk now) :
    ∃ query, parseQuery (f.queryPairs rfc now) = some query ∧
      listParams rfc.parse query = .ok (filterAt f now, 20, f.offset.toNat) := by
  have hlimit : FitsI64 f.limit := by
    rw [h.limit]
    decide
  have hoffset : FitsI64 f.offset := ⟨by have := h.offset; omega, h.offsetFits⟩
  refine ⟨_, parseQuery_queryPairs hlimit hoffset, ?_⟩
  have hpage : (min (max f.limit 1) 100).toNat = 20 := by
    rw [h.limit]
    rfl
  simp only [listParams, parseCategory_of_ok h, parseTs_startIso hnow]
  simp [parseTs, bind, Except.bind, pure, Except.pure, filterAt, hpage, max_eq_left h.offset]

/-! ## What a session asks for -/

/-- Every filter an action makes of such a filter is one again. -/
theorem filterOk_after {a : App} (h : FilterOk a.filter)
    (hloaded : ∀ p ∈ a.failed.value, FitsI64 p.total) (act : Action) :
    FilterOk (shownAfter a act).filter := by
  have hzero : (0 : Int) < 2 ^ 63 := by decide
  cases act with
  | cycleCategory =>
      rw [shownAfter]
      split
      · refine ⟨h.limit, Int.le_refl 0, hzero, fun c hc => ?_⟩
        change App.nextCategory a.filter.category = some c at hc
        cases hcategory : a.filter.category with
        | none => rw [hcategory] at hc; exact List.mem_of_getElem? hc
        | some cur => rw [hcategory] at hc; exact List.mem_of_getElem? hc
      · exact h
  | cycleWindow =>
      rw [shownAfter]
      split
      · exact ⟨h.limit, Int.le_refl 0, hzero, h.category⟩
      · exact h
  | nextPage =>
      rw [shownAfter]
      split
      · next hmore =>
          obtain ⟨-, p, hp, hlt⟩ := hmore
          obtain ⟨-, htotal⟩ := hloaded p hp
          have hlimit := h.limit
          have hoffset := h.offset
          refine ⟨h.limit, ?_, ?_, h.category⟩
          · change 0 ≤ a.filter.offset + a.filter.limit
            omega
          · change a.filter.offset + a.filter.limit < 2 ^ 63
            omega
      · exact h
  | prevPage =>
      rw [shownAfter]
      split
      · have hlimit := h.limit
        have hfits := h.offsetFits
        refine ⟨h.limit, le_max_right _ _, ?_, h.category⟩
        change max (a.filter.offset - a.filter.limit) 0 < 2 ^ 63
        omega
      · exact h
  | enter | back =>
      rw [shownAfter]
      split <;> exact h
  | _ => exact h

/-- No action changes what is loaded. -/
theorem shownAfter_failed (a : App) (act : Action) : (shownAfter a act).failed = a.failed.value := by
  cases act with
  | enter | back | cycleCategory | cycleWindow | nextPage | prevPage =>
      rw [shownAfter]
      split <;> rfl
  | _ => rfl

/-- A request for the list is made for the filter that is set. -/
theorem spawnFetchActive_filter {a : App} {f : Filter}
    (h : Fetch.failedList f ∈ a.spawnFetchActive.2) : f = a.spawnFetchActive.1.filter := by
  unfold App.spawnFetchActive at h ⊢
  cases hscreen : a.screen with
  | failedTx =>
      rw [hscreen] at h
      cases List.mem_singleton.mp h
      rfl
  | detail =>
      cases hhash : a.selectedHash with
      | none => simp [hscreen, hhash] at h
      | some hash => simp [hscreen, hhash] at h
  | overview | clusters => simp [hscreen] at h

theorem gotoScreen_filter {a : App} {t : Screen} {f : Filter}
    (h : Fetch.failedList f ∈ (a.gotoScreen t).2) : f = (a.gotoScreen t).1.filter := by
  unfold App.gotoScreen at h ⊢
  split
  · next hother =>
      rw [if_pos hother] at h
      exact spawnFetchActive_filter h
  · next hsame =>
      rw [if_neg hsame] at h
      cases h

theorem apply_filter {a : App} {act : Action} {r : App × List Fetch} (happly : a.apply act = .ok r)
    {f : Filter} (h : Fetch.failedList f ∈ r.2) : f = r.1.filter := by
  cases act with
  | refreshNow => cases happly; exact spawnFetchActive_filter h
  | nextTab | prevTab | selectScreen => cases happly; exact gotoScreen_filter h
  | up =>
      cases hup : a.onUp with
      | error p => rw [App.apply, hup] at happly; cases happly
      | ok up => rw [App.apply, hup] at happly; cases happly; cases h
  | down =>
      cases hdown : a.onDown with
      | error p => rw [App.apply, hdown] at happly; cases happly
      | ok down => rw [App.apply, hdown] at happly; cases happly; cases h
  | enter =>
      cases happly
      unfold App.onEnter at h ⊢
      split at h
      · next hscreen =>
          simp only [if_pos hscreen]
          cases hrow : a.selectedRow with
          | none => rw [hrow] at h; cases h
          | some row => rw [hrow] at h; exact gotoScreen_filter h
      · cases h
  | back =>
      cases happly
      unfold App.onBack at h ⊢
      split at h
      · next hscreen =>
          rw [if_pos hscreen]
          exact gotoScreen_filter h
      · cases h
  | cycleCategory | cycleWindow =>
      cases happly
      split at h
      · next hscreen =>
          rw [if_pos hscreen]
          exact spawnFetchActive_filter h
      · cases h
  | nextPage =>
      cases happly
      split at h
      · next hscreen =>
          rw [if_pos hscreen]
          unfold App.nextPage at h ⊢
          cases hfailed : a.failed with
          | loaded p =>
              rw [hfailed] at h
              dsimp only at h ⊢
              split at h
              · next hmore =>
                  rw [if_pos hmore]
                  exact spawnFetchActive_filter h
              · cases h
          | idle | loading | failed => rw [hfailed] at h; cases h
      · cases h
  | prevPage =>
      cases happly
      split at h
      · next hscreen =>
          rw [if_pos hscreen]
          unfold App.prevPage at h ⊢
          split at h
          · next hmore =>
              rw [if_pos hmore]
              exact spawnFetchActive_filter h
          · cases h
      · cases h
  | quit | toggleHelp | toggleAutoPoll | none => cases happly; cases h

/-! ## Any session -/

/-- A page that is taken in is what the endpoint answers to the query of its request, made at some
time on some state of the tables. -/
def FromApi (rfc : Rfc3339) (_ : Session) (e : UiEvent) (_ : Session) : Prop :=
  match e with
  | .ingest (.failedList f) (.failedList (.ok p)) =>
      ∃ db now query pagination, ClockOk now ∧ parseQuery (f.queryPairs rfc now) = some query ∧
        ListFailedTx rfc.parse db query p.data pagination ∧ p.total = pagination.total ∧
        FitsI64 p.total
  | _ => True

/-- What is asked for is asked with such a filter, and what is loaded is a page for the filter it
was asked with. -/
structure ListsOk (s : Session) : Prop where
  filter : FilterOk s.app.filter
  running : ∀ f, Fetch.failedList f ∈ s.running → FilterOk f
  loaded : ∀ p ∈ s.app.failed.value, FitsI64 p.total ∧ ∃ f, s.failedFor = some f ∧ PageFor f p

theorem listsOk_start : ListsOk Session.start where
  filter := ⟨rfl, Int.le_refl 0, by decide, fun c hc => by cases hc⟩
  running := by
    intro f hf
    simp [Session.start, App.spawnFetchActive, App.new] at hf
  loaded := by
    intro p hp
    cases hp

/-- The endpoint's answer to the request for a filter is a page for it. -/
theorem pageFor_of_api {f : Filter} {p : FailedTxPage} (h : FilterOk f) {db : Database} {now : Int}
    {query : FailedTxQuery} {pagination : PaginationMeta} (hnow : ClockOk now)
    (hquery : parseQuery (f.queryPairs rfc now) = some query)
    (hlist : ListFailedTx rfc.parse db query p.data pagination) (htotal : p.total = pagination.total) :
    PageFor f p := by
  obtain ⟨query', hquery', hparams⟩ : ∃ query', parseQuery (f.queryPairs rfc now) = some query' ∧
      listParams rfc.parse query' = .ok (filterAt f now, 20, f.offset.toNat) :=
    request_accepted h hnow
  rw [hquery, Option.some.injEq] at hquery'
  subst hquery'
  obtain ⟨filter, limit, offset, hparams', hrows, hpagination⟩ := hlist
  rw [hparams, Except.ok.injEq, Prod.mk.injEq, Prod.mk.injEq] at hparams'
  obtain ⟨rfl, rfl, rfl⟩ := hparams'
  rw [hpagination] at htotal
  exact ⟨db, now, hnow, hrows, htotal⟩

theorem listsOk_ingest {s : Session} (h : ListsOk s) {f : Fetch} {msg : DataMsg} {s' : Session}
    (hrunning : f ∈ s.running) (hanswers : Answers f msg)
    (hapi : FromApi rfc s (.ingest f msg) s') :
    ListsOk ⟨s.app.ingest msg, s.running.erase f, f.listedFor s.failedFor⟩ where
  filter := by
    have hfilter : (s.app.ingest msg).filter = s.app.filter := by
      cases msg <;> rfl
    rw [hfilter]
    exact h.filter
  running := fun f' hf' => h.running f' (List.mem_of_mem_erase hf')
  loaded := by
    intro p hp
    cases f with
    | failedList query =>
        cases msg with
        | failedList r =>
            cases r with
            | error message => cases hp
            | ok page =>
                cases hp
                obtain ⟨db, now, q, pagination, hnow, hq, hlist, htotal, hfits⟩ := hapi
                exact ⟨hfits, query, rfl,
                  pageFor_of_api (h.running query hrunning) hnow hq hlist htotal⟩
        | _ => cases hanswers
    | latestBlock | analysis | clusters | detail =>
        cases msg with
        | failedList r => cases hanswers
        | _ => exact h.loaded p hp

theorem listsOk_step {s s' : Session} {e : UiEvent} (h : ListsOk s) (hstep : UiStep s e s')
    (hapi : FromApi rfc s e s') : ListsOk s' := by
  cases hstep with
  | @action act app spawned happly =>
      have hshown : app.shown = shownAfter s.app act := App.shown_apply happly
      have hfilter : app.filter = (shownAfter s.app act).filter := congrArg Shown.filter hshown
      have hfailed : app.failed.value = s.app.failed.value :=
        (congrArg Shown.failed hshown).trans (shownAfter_failed s.app act)
      have hok : FilterOk app.filter := by
        rw [hfilter]
        exact filterOk_after h.filter (fun p hp => (h.loaded p hp).1) act
      refine ⟨hok, fun f hf => ?_, fun p hp => h.loaded p (hfailed ▸ hp)⟩
      rcases List.mem_append.mp hf with hf | hf
      · exact h.running f hf
      · rw [apply_filter happly hf]
        exact hok
  | @tick app spawned hpoll =>
      have hshown : app.shown = s.app.shown := App.shown_tick hpoll
      have hfilter : app.filter = s.app.filter := congrArg Shown.filter hshown
      have hfailed : app.failed.value = s.app.failed.value := congrArg Shown.failed hshown
      refine ⟨hfilter ▸ h.filter, fun f hf => ?_, fun p hp => h.loaded p (hfailed ▸ hp)⟩
      rcases List.mem_append.mp hf with hold | hnew
      · exact h.running f hold
      · split at hpoll
        · rw [Prod.ext_iff] at hpoll
          obtain ⟨happ, hspawned⟩ := hpoll
          dsimp only at happ hspawned
          rw [hspawned] at hnew
          have hset : f = app.filter := by
            rw [happ]
            exact spawnFetchActive_filter hnew
          rw [hset, hfilter]
          exact h.filter
        · cases hpoll
          cases hnew
  | ingest hrunning hanswers => exact listsOk_ingest h hrunning hanswers hapi

/-- In every session whose pages come from the API: each request for the list that is under way is
accepted at any time and taken for its filter, a loaded page is one for the filter it was asked
with, and where the screen is fresh it is one for the filter on screen. -/
theorem session_lists {s : Session} (hrun : Reaches UiStep (FromApi rfc) Session.start s) :
    (∀ f, Fetch.failedList f ∈ s.running → ∀ now, ClockOk now →
      ∃ query, parseQuery (f.queryPairs rfc now) = some query ∧
        listParams rfc.parse query = .ok (filterAt f now, 20, f.offset.toNat)) ∧
    (∀ p ∈ s.app.failed.value, ∃ f, s.failedFor = some f ∧ PageFor f p) ∧
    (Fresh s → s.app.screen = .failedTx → ∀ p ∈ s.app.failed.value, PageFor s.app.filter p) := by
  have hinv : ListsOk s :=
    hrun.invariant (fun _ _ _ h hstep hapi => listsOk_step h hstep hapi) listsOk_start
  refine ⟨fun f hf now hnow => request_accepted (hinv.running f hf) hnow,
    fun p hp => (hinv.loaded p hp).2, fun hfresh hscreen p hp => ?_⟩
  obtain ⟨f, hf, hpage⟩ := (hinv.loaded p hp).2
  have hasked : s.failedFor = some s.app.filter := hfresh.2 hscreen p hp
  rw [hf, Option.some.injEq] at hasked
  rwa [← hasked]

/-- Seconds in decimals; a session that sets no window writes none. -/
def decimalRfc : Rfc3339 where
  render := Int.repr
  parse := parseInt
  parse_render := fun t _ _ => parseInt_repr t
  parse_empty := by decide

theorem fromApi_listing {s s' : Session} : FromApi decimalRfc s
    (.ingest (.failedList ⟨none, .all, 20, 0⟩)
      (.failedList (.ok ⟨[failureAt12 1, failureAt12 2], 2⟩))) s' := by
  have hcount : countFailedTransactions sameBlockFailures ⟨none, none, none⟩ = 2 := by
    rw [countFailedTransactions, matching_sameBlockFailures]
    rfl
  have hpage : ListFailedTransactions sameBlockFailures ⟨none, none, none⟩ 20 0
      [failureAt12 1, failureAt12 2] := by
    rw [ListFailedTransactions, matching_sameBlockFailures]
    exact ⟨_, ⟨.refl _, by simp [failureAt12]⟩, rfl⟩
  refine ⟨sameBlockFailures, 30 * 86400, ⟨none, none, none, some 20, some 0⟩, ⟨20, 0, 2, 2⟩,
    ⟨by decide, by decide⟩, parseQuery_queryPairs (by decide) (by decide), ?_, rfl, by decide⟩
  exact ⟨⟨none, none, none⟩, 20, 0, rfl, hpage, by rw [hcount]; rfl⟩

/-- Two failures are listed without a filter. -/
theorem session_lists_listing : ∃ s p, Reaches UiStep (FromApi decimalRfc) Session.start s ∧
    s.app.failed.value = some p ∧ p.total = 2 ∧ PageFor ⟨none, .all, 20, 0⟩ p := by
  have hlist : UiStep
      { app := { Session.start.app with screen := .failedTx, inflight := 3, failed := .loading }
        running := [.latestBlock, .analysis, .failedList ⟨none, .all, 20, 0⟩]
        failedFor := none }
      (.ingest (.failedList ⟨none, .all, 20, 0⟩)
        (.failedList (.ok ⟨[failureAt12 1, failureAt12 2], 2⟩))) listing :=
    .ingest (by decide) trivial
  have hrun : Reaches UiStep (FromApi decimalRfc) Session.start listing :=
    Reaches.cons (.action .nextTab) (.action rfl) trivial
      (Reaches.cons _ hlist fromApi_listing .refl)
  obtain ⟨f, hf, hpage⟩ := (session_lists hrun).2.1 _ rfl
  cases hf
  exact ⟨listing, _, hrun, rfl, rfl, hpage⟩

end TxIndexer.Proofs
