import TxIndexer.Tui.Session

/-!
# The terminal UI stays in range

Lists grow, shrink and fail under a selection that is an index, and every fetch is counted while
it runs. Whatever is typed, and however the fetches answer, the selection stays within the list
that is loaded, the count is that of the fetches still running, and the offset is that of a page.
-/

namespace TxIndexer.Proofs

open Lib Tui

/-- The state of the UI and the fetches whose message has not been taken in. -/
abbrev Running := App × List Fetch

/-- One call of `apply`, `ingest`, or of the poll timer. A fetch may answer anything. -/
inductive AppStep : Running → UiEvent → Running → Prop
  | action {a a' : App} {running spawned act} (happly : a.apply act = .ok (a', spawned)) :
      AppStep (a, running) (.action act) (a', running ++ spawned)
  | tick {a a' : App} {running spawned}
      (hpoll : (a', spawned) = (if a.autoPoll then
        { a with tick := (a.tick + 1) % 2 ^ 64 }.spawnFetchActive
        else ({ a with tick := (a.tick + 1) % 2 ^ 64 }, []))) :
      AppStep (a, running) .tick (a', running ++ spawned)
  | ingest {a : App} {running f msg} (hrunning : f ∈ running) :
      AppStep (a, running) (.ingest f msg) (a.ingest msg, running.erase f)

/-- The turns of the main loop are such calls. -/
theorem appStep_of_uiStep {s s' : Session} {e : UiEvent} (h : UiStep s e s') :
    AppStep (s.app, s.running) e (s'.app, s'.running) := by
  cases h with
  | action happly => exact .action happly
  | tick hpoll => exact .tick hpoll
  | ingest hrunning hanswers => exact .ingest hrunning

/-- What a selected row of a list with `len` rows may be. -/
def Selects (selected : Option Nat) (len : Nat) : Prop := ∀ i ∈ selected, i < len

/-- The selections are within the loaded lists, the running fetches are counted, and the offset is
that of a page. -/
structure InRange (a : App) (running : List Fetch) : Prop where
  failed : Selects a.tableSelected (a.failed.rowCount FailedTxPage.data)
  clusters : Selects a.clusterSelected (a.clusters.rowCount id)
  inflight : a.inflight = running.length
  limit : 0 < a.filter.limit
  offset : 0 ≤ a.filter.offset ∧ a.filter.limit ∣ a.filter.offset

/-! ## Selections -/

theorem asI32_le (n : Nat) : asI32 n ≤ n := by
  have hmod : n % 2 ^ 32 ≤ n := Nat.mod_le _ _
  rw [asI32, BitVec.toInt_eq_toNat_cond, BitVec.toNat_ofNat]
  split <;> omega

theorem asI32_of_lt {n : Nat} (h : n < 2 ^ 31) : asI32 n = n := by
  rw [asI32, BitVec.toInt_eq_toNat_cond, BitVec.toNat_ofNat]
  split <;> omega

theorem checkedI32_eq_ok {i j : Int} (h : checkedI32 i = .ok j) : j = i := by
  unfold checkedI32 at h
  split at h
  · exact (Except.ok.inj h).symm
  · cases h

/-- A move stays within the list. -/
theorem moveWithin_selects {selected selected' : Option Nat} {len : Nat} {dir : Int}
    (hold : Selects selected len) (h : moveWithin selected len dir = .ok selected') :
    Selects selected' len := by
  unfold moveWithin at h
  by_cases hlen : len = 0
  · rw [if_pos hlen] at h
    cases h
    exact hold
  · rw [if_neg hlen] at h
    cases hlast : checkedI32 (asI32 len - 1) with
    | error p => rw [hlast] at h; cases h
    | ok last =>
        cases hmoved : checkedI32 (asI32 (selected.getD 0) + dir) with
        | error p => rw [hlast, hmoved] at h; cases h
        | ok moved =>
            rw [hlast, hmoved] at h
            simp only [clamp, bind, Except.bind, pure, Except.pure] at h
            by_cases hbounds : 0 ≤ last
            · rw [if_pos hbounds] at h
              cases h
              have hle := asI32_le len
              have heq := checkedI32_eq_ok hlast
              rintro i ⟨⟩
              omega
            · rw [if_neg hbounds] at h
              cases h

/-- A move in a list of fewer than 2^31 rows does not panic. -/
theorem moveWithin_defined {selected : Option Nat} {len : Nat} {dir : Int}
    (hold : Selects selected len) (hlen : len < 2 ^ 31) (hdir : dir = 1 ∨ dir = -1) :
    ∃ selected', moveWithin selected len dir = .ok selected' := by
  unfold moveWithin
  by_cases hzero : len = 0
  · exact ⟨selected, if_pos hzero⟩
  · have hcur : selected.getD 0 < len := by
      cases selected with
      | none => exact Nat.pos_of_ne_zero hzero
      | some i => exact hold i rfl
    have hlast : checkedI32 (asI32 len - 1) = .ok (asI32 len - 1) := by
      rw [asI32_of_lt hlen]
      exact checkedI32_of_lt (by omega) (by omega)
    have hmoved : checkedI32 (asI32 (selected.getD 0) + dir) =
        .ok (asI32 (selected.getD 0) + dir) := by
      rw [asI32_of_lt (by omega)]
      exact checkedI32_of_lt (by omega) (by omega)
    have hbounds : (0 : Int) ≤ asI32 len - 1 := by
      rw [asI32_of_lt hlen]
      omega
    rw [if_neg hzero, hlast, hmoved]
    simp only [clamp, if_pos hbounds, bind, Except.bind, pure, Except.pure]
    exact ⟨_, rfl⟩

/-- The selection of a list that has just been loaded, or failed. -/
theorem clampWithin_selects (selected : Option Nat) (len : Nat) :
    Selects (clampWithin selected len) len := by
  unfold clampWithin
  by_cases hlen : len = 0
  · rw [if_pos hlen]
    exact nofun
  · rw [if_neg hlen]
    cases selected with
    | none =>
        rintro i ⟨⟩
        omega
    | some j =>
        simp only
        by_cases hj : len ≤ j
        · rw [if_pos hj]
          rintro i ⟨⟩
          omega
        · rw [if_neg hj]
          rintro i ⟨⟩
          omega

/-! ## What keeps the invariant -/

@[simp] theorem rowCount_begin {α β : Type} (rows : α → List β) (l : Loadable α) :
    l.begin.rowCount rows = l.rowCount rows := by
  cases l <;> rfl

variable {a a' : App} {running : List Fetch}

/-- `spawn_fetch_active` counts what it spawns. -/
theorem InRange.spawn (h : InRange a running) :
    InRange a.spawnFetchActive.1 (running ++ a.spawnFetchActive.2) := by
  unfold App.spawnFetchActive
  cases hscreen : a.screen with
  | overview => exact ⟨h.failed, h.clusters, by simp [h.inflight], h.limit, h.offset⟩
  | failedTx => exact ⟨by simpa using h.failed, h.clusters, by simp [h.inflight], h.limit, h.offset⟩
  | clusters => exact ⟨h.failed, by simpa using h.clusters, by simp [h.inflight], h.limit, h.offset⟩
  | detail =>
      cases hhash : a.selectedHash with
      | none => simpa [hhash] using h
      | some hash => exact ⟨h.failed, h.clusters, by simp [h.inflight], h.limit, h.offset⟩

theorem InRange.stay (h : InRange a running) : InRange a (running ++ []) := by
  rwa [List.append_nil]

theorem InRange.goto (h : InRange a running) (s : Screen) :
    InRange (a.gotoScreen s).1 (running ++ (a.gotoScreen s).2) := by
  unfold App.gotoScreen
  split
  · exact InRange.spawn ⟨h.failed, h.clusters, h.inflight, h.limit, h.offset⟩
  · exact h.stay

/-- Another filter with the same limit, at the offset of a page. -/
theorem InRange.refilter (h : InRange a running) {filter : Filter}
    (hlimit : filter.limit = a.filter.limit)
    (hoffset : 0 ≤ filter.offset ∧ filter.limit ∣ filter.offset) :
    InRange ({ a with filter } : App).spawnFetchActive.1
      (running ++ ({ a with filter } : App).spawnFetchActive.2) :=
  InRange.spawn ⟨h.failed, h.clusters, h.inflight, by rw [hlimit]; exact h.limit, hoffset⟩

/-- A page forward adds the limit to the offset. -/
theorem InRange.next (h : InRange a running) :
    InRange a.nextPage.1 (running ++ a.nextPage.2) := by
  unfold App.nextPage
  cases hfailed : a.failed with
  | loaded p =>
      simp only
      rw [← hfailed]
      split
      · have hlimit := h.limit
        obtain ⟨h0, hdvd⟩ := h.offset
        refine h.refilter ?_ ⟨?_, ?_⟩
        · rfl
        · simp only
          omega
        · exact Int.dvd_add hdvd (Int.dvd_refl _)
      · exact h.stay
  | idle | loading | failed => exact h.stay

/-- A page back subtracts it, and a positive offset is at least the limit. -/
theorem InRange.prev (h : InRange a running) :
    InRange a.prevPage.1 (running ++ a.prevPage.2) := by
  unfold App.prevPage
  split
  · next hpos =>
      obtain ⟨-, hdvd⟩ := h.offset
      have hle : a.filter.limit ≤ a.filter.offset := Int.le_of_dvd hpos hdvd
      have hmax : max (a.filter.offset - a.filter.limit) 0 = a.filter.offset - a.filter.limit := by
        omega
      rw [hmax]
      refine h.refilter ?_ ⟨?_, ?_⟩
      · rfl
      · simp only
        omega
      · exact Int.dvd_sub hdvd (Int.dvd_refl _)
  · exact h.stay

theorem InRange.enter (h : InRange a running) :
    InRange a.onEnter.1 (running ++ a.onEnter.2) := by
  unfold App.onEnter
  split
  · cases a.selectedRow with
    | none => exact h.stay
    | some hash =>
        apply InRange.goto
        exact ⟨h.failed, h.clusters, h.inflight, h.limit, h.offset⟩
  · exact h.stay

/-- A move of either selection. -/
theorem InRange.move (h : InRange a running) {dir : Int}
    (hmove : a.moveSelection dir = .ok a' ∨ a.moveClusterSelection dir = .ok a') :
    InRange a' running := by
  rcases hmove with hmove | hmove
  · unfold App.moveSelection at hmove
    cases hwithin : moveWithin a.tableSelected (a.failed.rowCount FailedTxPage.data) dir with
    | error p => rw [hwithin] at hmove; cases hmove
    | ok selected =>
        rw [hwithin] at hmove
        cases hmove
        exact ⟨moveWithin_selects h.failed hwithin, h.clusters, h.inflight, h.limit, h.offset⟩
  · unfold App.moveClusterSelection at hmove
    cases hwithin : moveWithin a.clusterSelected (a.clusters.rowCount id) dir with
    | error p => rw [hwithin] at hmove; cases hmove
    | ok selected =>
        rw [hwithin] at hmove
        cases hmove
        exact ⟨h.failed, moveWithin_selects h.clusters hwithin, h.inflight, h.limit, h.offset⟩

/-- What `on_up` and `on_down` have in common: a move of the screen's list, or of the scroll. -/
def onMove (a : App) (dir : Int) (scroll : Nat) : Checked App :=
  match a.screen with
  | .failedTx => a.moveSelection dir
  | .detail => .ok { a with detailScroll := scroll }
  | .clusters => a.moveClusterSelection dir
  | .overview => .ok a

theorem onUp_eq (a : App) : a.onUp = onMove a (-1) (a.detailScroll - 1) := rfl

theorem onDown_eq (a : App) : a.onDown = onMove a 1 (min (a.detailScroll + 1) 65535) := rfl

theorem InRange.onMove (h : InRange a running) {dir : Int} {scroll : Nat}
    (hmove : onMove a dir scroll = .ok a') : InRange a' running := by
  unfold Proofs.onMove at hmove
  cases hscreen : a.screen with
  | failedTx => rw [hscreen] at hmove; exact h.move (.inl hmove)
  | clusters => rw [hscreen] at hmove; exact h.move (.inr hmove)
  | detail =>
      rw [hscreen] at hmove
      cases hmove
      exact ⟨h.failed, h.clusters, h.inflight, h.limit, h.offset⟩
  | overview => rw [hscreen] at hmove; cases hmove; exact h

/-- Every action. -/
theorem InRange.apply (h : InRange a running) {act : Action} {r : App × List Fetch}
    (happly : a.apply act = .ok r) : InRange r.1 (running ++ r.2) := by
  cases act with
  | quit | toggleHelp | toggleAutoPoll | none =>
      cases happly
      exact InRange.stay ⟨h.failed, h.clusters, h.inflight, h.limit, h.offset⟩
  | refreshNow => cases happly; exact h.spawn
  | nextTab | prevTab | selectScreen => cases happly; exact h.goto _
  | enter => cases happly; exact h.enter
  | up =>
      cases hup : a.onUp with
      | error p => rw [App.apply, hup] at happly; cases happly
      | ok up => rw [App.apply, hup] at happly; cases happly; exact (h.onMove hup).stay
  | down =>
      cases hdown : a.onDown with
      | error p => rw [App.apply, hdown] at happly; cases happly
      | ok down => rw [App.apply, hdown] at happly; cases happly; exact (h.onMove hdown).stay
  | back =>
      cases happly
      unfold App.onBack
      split
      · exact h.goto _
      · exact h.stay
  | cycleCategory =>
      cases happly
      split
      · refine h.refilter ?_ ⟨?_, ?_⟩
        · rfl
        · exact Int.le_refl _
        · exact Int.dvd_zero _
      · exact h.stay
  | cycleWindow =>
      cases happly
      split
      · refine h.refilter ?_ ⟨?_, ?_⟩
        · rfl
        · exact Int.le_refl _
        · exact Int.dvd_zero _
      · exact h.stay
  | nextPage =>
      cases happly
      split
      · exact h.next
      · exact h.stay
  | prevPage =>
      cases happly
      split
      · exact h.prev
      · exact h.stay

/-- Every answer: the fetch it comes from runs no more. -/
theorem InRange.ingest (h : InRange a running) {f : Fetch} (hrunning : f ∈ running)
    (msg : DataMsg) : InRange (a.ingest msg) (running.erase f) := by
  have hcount : a.inflight - 1 = (running.erase f).length := by
    rw [h.inflight, List.length_erase_of_mem hrunning]
  cases msg with
  | latestBlock r => exact ⟨h.failed, h.clusters, hcount, h.limit, h.offset⟩
  | analysis r => exact ⟨h.failed, h.clusters, hcount, h.limit, h.offset⟩
  | failedList r => exact ⟨clampWithin_selects _ _, h.clusters, hcount, h.limit, h.offset⟩
  | detail r => exact ⟨h.failed, h.clusters, hcount, h.limit, h.offset⟩
  | clusters r => exact ⟨h.failed, clampWithin_selects _ _, hcount, h.limit, h.offset⟩

theorem InRange.step {x x' : Running} {e : UiEvent} (h : InRange x.1 x.2) (hstep : AppStep x e x') :
    InRange x'.1 x'.2 := by
  cases hstep with
  | action happly => exact h.apply happly
  | ingest hrunning => exact h.ingest hrunning _
  | @tick a a' running spawned hpoll =>
      have hticked : InRange ({ a with tick := (a.tick + 1) % 2 ^ 64 } : App) running :=
        ⟨h.failed, h.clusters, h.inflight, h.limit, h.offset⟩
      split at hpoll
      · rw [Prod.ext_iff] at hpoll
        obtain ⟨rfl, rfl⟩ := hpoll
        exact hticked.spawn
      · cases hpoll
        exact hticked.stay

/-- `App::new`. -/
theorem InRange.new : InRange App.new [] := ⟨nofun, nofun, rfl, by decide, by decide⟩

/-! ## Any sequence of calls -/

/-- Only a loaded list has rows. -/
theorem exists_loaded {β γ : Type} {list : Loadable β} {rows : β → List γ} {i : Nat}
    (hlt : i < list.rowCount rows) : ∃ value, list = .loaded value ∧ i < (rows value).length := by
  cases list with
  | loaded value => exact ⟨value, rfl, hlt⟩
  | idle | loading | failed => exact absurd hlt (Nat.not_lt_zero i)

/-- Whatever is called, from `App::new`: a selected row is one of the loaded list, `inflight` is the
number of fetches whose message has not been taken in, and the offset is that of a page. -/
theorem ui_in_range {x : Running} (h : Reaches AppStep anyStep (App.new, []) x) :
    (∀ i ∈ x.1.tableSelected, ∃ p, x.1.failed = .loaded p ∧ i < p.data.length) ∧
    (∀ i ∈ x.1.clusterSelected, ∃ rows, x.1.clusters = .loaded rows ∧ i < rows.length) ∧
    x.1.inflight = x.2.length ∧
    0 ≤ x.1.filter.offset ∧ x.1.filter.limit ∣ x.1.filter.offset := by
  have hinv : InRange x.1 x.2 :=
    h.invariant (P := fun x => InRange x.1 x.2) (fun _ _ _ hP hstep _ => hP.step hstep) .new
  obtain ⟨hfailed, hclusters, hinflight, -, hoffset⟩ := hinv
  exact ⟨fun i hi => exists_loaded (hfailed i hi), fun i hi => exists_loaded (hclusters i hi),
    hinflight, hoffset⟩

/-- A page with two failed transactions. -/
def twoFailed : FailedTxPage where
  data := [⟨"0x1", .unknown, none, none, 21000, 0⟩, ⟨"0x2", .unknown, none, none, 21000, 0⟩]
  total := 2

/-- The list is opened. -/
def listOpened : App := (App.new.gotoScreen .failedTx).1

/-- Its two rows arrive. -/
def listLoaded : App := listOpened.ingest (.failedList (.ok twoFailed))

/-- The list is opened, two rows arrive, and the second is selected. -/
theorem ui_in_range_second_row : ∃ x : Running,
    Reaches AppStep anyStep (App.new, []) x ∧ x.1.tableSelected = some 1 ∧
    (∃ p, x.1.failed = .loaded p ∧ 1 < p.data.length) ∧ x.1.inflight = x.2.length := by
  have hopen : AppStep (App.new, []) (.action (.selectScreen .failedTx))
      (listOpened, [.failedList App.new.filter]) := .action rfl
  have hlisted : AppStep (listOpened, [.failedList App.new.filter])
      (.ingest (.failedList App.new.filter) (.failedList (.ok twoFailed))) (listLoaded, []) :=
    .ingest (List.mem_singleton.mpr rfl)
  have hdown : AppStep (listLoaded, []) (.action .down)
      ({ listLoaded with tableSelected := some 1 }, []) := .action rfl
  have hrun : Reaches AppStep anyStep (App.new, [])
      ({ listLoaded with tableSelected := some 1 }, []) :=
    .cons _ hopen trivial (.cons _ hlisted trivial (.cons _ hdown trivial .refl))
  obtain ⟨hfailed, -, hinflight, -⟩ := ui_in_range hrun
  exact ⟨_, hrun, rfl, hfailed 1 rfl, hinflight⟩

theorem InRange.onMove_defined (h : InRange a running)
    (hfailed : a.failed.rowCount FailedTxPage.data < 2 ^ 31)
    (hclusters : a.clusters.rowCount id < 2 ^ 31) {dir : Int} (hdir : dir = 1 ∨ dir = -1)
    (scroll : Nat) : ∃ a', Proofs.onMove a dir scroll = .ok a' := by
  obtain ⟨selected, hselected⟩ := moveWithin_defined h.failed hfailed hdir
  obtain ⟨cluster, hcluster⟩ := moveWithin_defined h.clusters hclusters hdir
  unfold Proofs.onMove App.moveSelection App.moveClusterSelection
  rw [hselected, hcluster]
  cases a.screen with
  | failedTx | detail | clusters | overview => exact ⟨_, rfl⟩

/-- While the lists have fewer than 2^31 rows no action panics. -/
theorem InRange.apply_defined (h : InRange a running)
    (hfailed : a.failed.rowCount FailedTxPage.data < 2 ^ 31)
    (hclusters : a.clusters.rowCount id < 2 ^ 31) (act : Action) : ∃ r, a.apply act = .ok r := by
  cases act with
  | up =>
      obtain ⟨up, hup⟩ := h.onMove_defined hfailed hclusters (.inr rfl) (a.detailScroll - 1)
      exact ⟨(up, []), by rw [App.apply, onUp_eq, hup]; rfl⟩
  | down =>
      obtain ⟨down, hdown⟩ :=
        h.onMove_defined hfailed hclusters (.inl rfl) (min (a.detailScroll + 1) 65535)
      exact ⟨(down, []), by rw [App.apply, onDown_eq, hdown]; rfl⟩
  | quit | toggleHelp | toggleAutoPoll | none | refreshNow | nextTab | prevTab | selectScreen |
    enter | back | cycleCategory | cycleWindow | nextPage | prevPage => exact ⟨_, rfl⟩

end TxIndexer.Proofs
