import TxIndexer.Indexer.RateAlerts
import TxIndexer.Indexer.AlertRuns

/-!
# Rate alerts are debounced

A send is recorded only after it has ended, and no claim keeps a second one from starting. One
dispatcher process is enough: a subscription is in a cycle at most once, the cycle ends after the
record, and the next `SELECT` that finds the subscription runs at least `debounce_secs` after it.
-/

namespace TxIndexer.Proofs

open Db Indexer

variable {κ : Type} {env : AlertEnv κ} {s s' init : RateState} {l : RateEvent}

/-- Each subscription is in the cycle at most once: waiting, or in one task. -/
structure OncePerCycle (s : RateState) : Prop where
  queue_nodup : (s.queue.map RateAlertMatch.subscriptionId).Nodup
  task_inj : ∀ i j t u, s.task i = some t → s.task j = some u →
    t.item.subscriptionId = u.item.subscriptionId → i = j
  queue_task : ∀ m ∈ s.queue, ∀ i t, s.task i = some t →
    t.item.subscriptionId ≠ m.subscriptionId

theorem OncePerCycle.idle (h : s.Idle) : OncePerCycle s where
  queue_nodup := by rw [h.1]; exact List.nodup_nil
  task_inj := fun i _ _ _ ht => nomatch (h.2 i).symm.trans ht
  queue_task := fun m hm => by rw [h.1] at hm; cases hm

theorem OncePerCycle.keysApart (h : OncePerCycle s) :
    Lib.KeysApart (fun task : RateTask => task.item.subscriptionId) s.task := h.task_inj

theorem OncePerCycle.step (h : OncePerCycle s) (hstep : RateStep env s l s') :
    OncePerCycle s' := by
  cases hstep with
  | find hidle _ hbatch =>
      exact {
        queue_nodup := hbatch.nodup
        task_inj := fun i _ _ _ ht => nomatch (hidle.2 i).symm.trans ht
        queue_task := fun _ _ i _ ht => nomatch (hidle.2 i).symm.trans ht }
  | @spawn i item rest hqueue hslot =>
      have hnodup := h.queue_nodup
      rw [hqueue, List.map_cons, List.nodup_cons] at hnodup
      have hitem : item ∈ s.queue := hqueue ▸ List.mem_cons_self
      refine ⟨hnodup.2, h.keysApart.update ?_, ?_⟩
      · intro t ht j _ u hu
        cases ht
        exact h.queue_task item hitem j u hu
      · intro m hm j t ht
        rcases Lib.slot_cases ht with ⟨-, hnew⟩ | ⟨-, hold⟩
        · cases hnew
          intro heq
          exact hnodup.1 (heq ▸ List.mem_map_of_mem hm)
        · exact h.queue_task m (hqueue ▸ List.mem_cons_of_mem item hm) j t hold
  | @task i task e dispatches next htask htstep =>
      have hnext : ∀ t, next = some t → t.item = task.item := fun t ht => htstep.next_item t ht
      refine ⟨h.queue_nodup, h.keysApart.replace htask fun t ht => ?_, ?_⟩
      · exact congrArg RateAlertMatch.subscriptionId (hnext t ht)
      · intro m hm j t ht
        rcases Lib.slot_cases ht with ⟨-, hnew⟩ | ⟨-, hold⟩
        · rw [hnext t hnew]
          exact h.queue_task m hm i task htask
        · exact h.queue_task m hm j t hold
  | tick | index | subscribe | deactivate | rotate => exact ⟨h.1, h.2, h.3⟩

/-- The cycle is done with a subscription whose task has ended. -/
theorem OncePerCycle.not_inCycle_of_done (h : OncePerCycle s) {i : Fin maxConcurrentPosts}
    {task : RateTask} (htask : s.task i = some task) (dispatches : RateDispatches) :
    ¬ { s with dispatches, task := Function.update s.task i none }.InCycle
      task.item.subscriptionId := by
  rintro ⟨m, hm | ⟨k, u, hu, rfl⟩, hmid⟩
  · exact h.queue_task m hm i task htask hmid.symm
  · rcases Lib.slot_cases hu with ⟨-, hnew⟩ | ⟨hki, hold⟩
    · cases hnew
    · exact hki (h.task_inj k i u task hold htask hmid)

/-- After a POST for the subscription at `t`: the debounce is over, or that send has still to be
recorded, or it is recorded and the cycle is done with the subscription. -/
def Debouncing (t debounce id : Int) (s : RateState) : Prop :=
  t ≤ s.now ∧ (t + debounce ≤ s.now ∨
    (∃ i task, s.task i = some task ∧ task.item.subscriptionId = id ∧ task.phase ≠ .spawned) ∨
    (¬ s.InCycle id ∧ ∃ d ∈ s.dispatches.values, d.subscriptionId = id ∧ t ≤ d.dispatchedAt))

/-- Each step keeps it, for the `debounce_secs` of the subscription. -/
theorem Debouncing.step {t id : Int} {sub : RateSubscription}
    (h : Debouncing t (seconds sub.debounceSecs) id s) (honce : OncePerCycle s)
    (hsub : ∃ sub', s.subscriptions.lookup id = some sub' ∧ sub'.debounceSecs = sub.debounceSecs)
    (hstep : RateStep env s l s') : Debouncing t (seconds sub.debounceSecs) id s' := by
  obtain ⟨hnow, hover | ⟨i, task, htask, hid, hphase⟩ | ⟨hout, d, hd, hdid, hat⟩⟩ := h
  · exact ⟨hnow.trans hstep.now_le, .inl (hover.trans hstep.now_le)⟩
  · refine ⟨hnow.trans hstep.now_le, ?_⟩
    cases hstep with
    | find hidle => cases (hidle.2 i).symm.trans htask
    | @spawn j item rest hqueue hslot =>
        have hij : i ≠ j := by
          rintro rfl
          cases hslot.symm.trans htask
        exact .inr (.inl ⟨i, task, (Function.update_of_ne hij ..).trans htask, hid, hphase⟩)
    | @task j task' e dispatches next htask' htstep =>
        by_cases hij : i = j
        · subst hij
          cases htask.symm.trans htask'
          cases htstep with
          | reject | post => exact absurd rfl hphase
          | respond =>
              exact .inr (.inl ⟨i, _, Function.update_self .., hid, nofun⟩)
          | record =>
              refine .inr (.inr ⟨?_, ?_⟩)
              · exact hid ▸ honce.not_inCycle_of_done htask _
              · rw [recordRateAlertDispatch, Lib.SerialTable.values_insert]
                exact ⟨_, List.mem_append_right _ List.mem_cons_self, hid, hnow⟩
        · exact .inr (.inl ⟨i, task, (Function.update_of_ne hij ..).trans htask, hid, hphase⟩)
    | tick | index | subscribe | deactivate | rotate => exact .inr (.inl ⟨i, task, htask, hid, hphase⟩)
  · refine ⟨hnow.trans hstep.now_le, ?_⟩
    have hrecord : ∃ d ∈ s'.dispatches.values, d.subscriptionId = id ∧ t ≤ d.dispatchedAt :=
      ⟨d, hstep.dispatches_subset hd, hdid, hat⟩
    by_cases hin : s'.InCycle id
    · left
      obtain ⟨m, hm, hmid⟩ := hin
      rcases hstep.carries_cases hm with hm | ⟨batch, rfl, hbatch⟩
      · exact absurd ⟨m, hm, hmid⟩ hout
      · cases hstep with
        | @find _ later hidle hlater hfound =>
            -- it is found again: its last dispatch is at least the debounce ago
            obtain ⟨sub', hlookup, hdebounce⟩ := hsub
            obtain ⟨found, hfoundsub, ⟨-, hdebounced, -⟩, -⟩ := hfound.due hbatch
            rw [hmid, hlookup, Option.some.injEq] at hfoundsub
            subst hfoundsub
            have hkey : sub'.subscriptionId = id :=
              (Lib.KeyedTable.lookup_eq_some.mp hlookup).2
            have hlate : ¬ s.now - seconds sub'.debounceSecs < d.dispatchedAt := by
              intro hlt
              exact hdebounced ⟨d, hd, hdid.trans hkey.symm, hlt⟩
            rw [hdebounce] at hlate
            show t + seconds sub.debounceSecs ≤ later
            omega
    · exact .inr (.inr ⟨hin, hrecord⟩)

/-! ## Runs -/

/-- What holds of a dispatcher that began between two cycles. -/
structure RateInv (s : RateState) : Prop where
  once : OncePerCycle s
  known : ∀ m, s.Carries m → ∃ sub, s.subscriptions.lookup m.subscriptionId = some sub

theorem RateInv.step (h : RateInv s) (hstep : RateStep env s l s') : RateInv s' where
  once := h.once.step hstep
  known := by
    intro m hm
    rcases hstep.carries_cases hm with hm | ⟨batch, rfl, hbatch⟩
    · obtain ⟨sub, hsub⟩ := h.known m hm
      obtain ⟨sub', hsub', -⟩ := hstep.subscription_kept hsub
      exact ⟨sub', hsub'⟩
    · cases hstep with
      | find _ _ hfound =>
          obtain ⟨sub, hsub, -, -⟩ := hfound.due hbatch
          exact ⟨sub, hsub⟩

/-- `s` is reached from `init` in a run of one dispatcher. -/
abbrev RateReaches (env : AlertEnv κ) : RateState → RateState → Prop :=
  Lib.Reaches (RateStep env) Lib.anyStep

/-- No `SELECT` runs. -/
def NoFind (_ : RateState) (l : RateEvent) (_ : RateState) : Prop := ∀ batch, l ≠ .find batch

/-- The task in slot `i` starts the POST for `m`. -/
def StartsPost (env : AlertEnv κ) (s : RateState) (i : Fin maxConcurrentPosts) (m : RateAlertMatch)
    (s' : RateState) : Prop :=
  s.task i = some ⟨m, .spawned⟩ ∧ ∃ request, RateStep env s (.task i (.post request)) s'

/-- The current cycle read `m` in the state `found`, in a run from `init`. -/
def SelectedAt (env : AlertEnv κ) (init s : RateState) (m : RateAlertMatch) (found : RateState) :
    Prop :=
  ∃ batch found', RateReaches env init found ∧ RateStep env found (.find batch) found' ∧
    m ∈ batch ∧ Lib.Reaches (RateStep env) NoFind found' s

theorem rateInv_of_reaches (hidle : init.Idle) (h : RateReaches env init s) : RateInv s := by
  have h0 : RateInv init := ⟨.idle hidle, fun m hm => absurd hm (hidle.not_carries m)⟩
  exact h.invariant (fun _ _ _ hinv hstep _ => hinv.step hstep) h0

/-- What a cycle carries it has read since it began. -/
theorem selected_of_reaches (hidle : init.Idle) (h : RateReaches env init s) :
    ∀ m, s.Carries m → ∃ found, SelectedAt env init s m found := by
  induction h with
  | refl => exact fun m hm => absurd hm (hidle.not_carries m)
  | @tail s s' hrun hlast ih =>
      obtain ⟨l, hstep, -⟩ := hlast
      intro m hm
      by_cases hfind : ∃ batch, l = .find batch
      · obtain ⟨batch, rfl⟩ := hfind
        rcases hstep.carries_cases hm with hbefore | ⟨batch', heq, hbatch⟩
        · cases hstep with
          | find hidle' => exact absurd hbefore (hidle'.not_carries m)
        · cases heq
          exact ⟨s, batch, s', hrun, hstep, hbatch, .refl⟩
      · have hnofind : NoFind s l s' := fun batch heq => hfind ⟨batch, heq⟩
        rcases hstep.carries_cases hm with hm | ⟨batch, heq, -⟩
        · obtain ⟨found, batch, found', hfound, hstep', hbatch, hsince⟩ := ih m hm
          exact ⟨found, batch, found', hfound, hstep', hbatch, hsince.tail ⟨l, hstep, hnofind⟩⟩
        · exact absurd ⟨batch, heq⟩ hfind

/-- A second POST for a subscription starts at least its `debounce_secs` after the first. -/
theorem posts_spaced (hidle : init.Idle) {s₁ s₁' s₂ s₂' : RateState} {i j : Fin maxConcurrentPosts}
    {m m' : RateAlertMatch} (h₁ : RateReaches env init s₁) (hpost : StartsPost env s₁ i m s₁')
    (h₂ : RateReaches env s₁' s₂) (hpost' : StartsPost env s₂ j m' s₂')
    (hsame : m'.subscriptionId = m.subscriptionId) :
    ∃ sub, s₁.subscriptions.lookup m.subscriptionId = some sub ∧
      s₁.now + seconds sub.debounceSecs ≤ s₂.now := by
  have hinv := rateInv_of_reaches hidle h₁
  obtain ⟨htask, request, hstep⟩ := hpost
  obtain ⟨sub, hsub⟩ := hinv.known m (.inr ⟨i, _, htask, rfl⟩)
  refine ⟨sub, hsub, ?_⟩
  -- the invariant of the run between the two POSTs
  let P : RateState → Prop := fun s => RateInv s ∧
    (∃ sub', s.subscriptions.lookup m.subscriptionId = some sub' ∧
      sub'.debounceSecs = sub.debounceSecs) ∧
    Debouncing s₁.now (seconds sub.debounceSecs) m.subscriptionId s
  have hstart : P s₁' := by
    refine ⟨hinv.step hstep, hstep.subscription_kept hsub, hstep.now_le, ?_⟩
    cases hstep with
    | task htask' htstep =>
        cases htask.symm.trans htask'
        cases htstep with
        | post => exact .inr (.inl ⟨i, _, Function.update_self .., rfl, nofun⟩)
  have hend : P s₂ := by
    refine h₂.invariant ?_ hstart
    rintro s l s' ⟨hinv, hkept, hdebouncing⟩ hstep -
    refine ⟨hinv.step hstep, ?_, hdebouncing.step hinv.once hkept hstep⟩
    obtain ⟨sub₀, hsub₀, heq₀⟩ := hkept
    obtain ⟨sub', hsub', heq'⟩ := hstep.subscription_kept hsub₀
    exact ⟨sub', hsub', heq'.trans heq₀⟩
  obtain ⟨hinv₂, -, -, hover | ⟨k, task, hk, hkid, hphase⟩ | ⟨hout, -⟩⟩ := hend
  · exact hover
  · have hkj := hinv₂.once.task_inj k j _ _ hk hpost'.1 (hkid.trans hsame.symm)
    subst hkj
    cases hk.symm.trans hpost'.1
    exact absurd rfl hphase
  · exact absurd ⟨m', .inr ⟨j, _, hpost'.1, rfl⟩, hsame⟩ hout

/-- In every run of one dispatcher process, two POSTs for one subscription start at least its
`debounce_secs` apart, and each POST is for a subscription that matched at least
`threshold_count` failures of the last `threshold_window_secs` when its cycle read it. -/
theorem rate_alerts_debounced (hidle : init.Idle) :
    (∀ s₁ i m s₁' s₂ j m' s₂', RateReaches env init s₁ → StartsPost env s₁ i m s₁' →
      RateReaches env s₁' s₂ → StartsPost env s₂ j m' s₂' →
      m'.subscriptionId = m.subscriptionId →
      ∃ sub, s₁.subscriptions.lookup m.subscriptionId = some sub ∧
        s₁.now + seconds sub.debounceSecs ≤ s₂.now) ∧
    ∀ s i m s', RateReaches env init s → StartsPost env s i m s' →
      ∃ found sub, SelectedAt env init s m found ∧
        found.subscriptions.lookup m.subscriptionId = some sub ∧
        sub.thresholdCount ≤ sub.matchCount found.db found.now := by
  refine ⟨fun _ _ _ _ _ _ _ _ h₁ hpost h₂ hpost' hsame =>
    posts_spaced hidle h₁ hpost h₂ hpost' hsame, ?_⟩
  intro s i m s' h hpost
  obtain ⟨found, hselected⟩ := selected_of_reaches hidle h m (.inr ⟨i, _, hpost.1, rfl⟩)
  obtain ⟨batch, found', hfound, hstep, hbatch, hsince⟩ := hselected
  have hdue : ∃ sub, found.subscriptions.lookup m.subscriptionId = some sub ∧
      sub.Due found.db found.dispatches found.now := by
    cases hstep with
    | find _ _ hselect =>
        obtain ⟨sub, hsub, hdue, -⟩ := hselect.due hbatch
        exact ⟨sub, hsub, hdue⟩
  obtain ⟨sub, hsub, -, -, hcount⟩ := hdue
  exact ⟨found, sub, ⟨batch, found', hfound, hstep, hbatch, hsince⟩, hsub, hcount⟩

/-! ## Two sends of one subscription -/

/-- A subscription to one failure a minute, silent for half a minute after a send. -/
def sampleRateSubscription : RateSubscription where
  subscriptionId := 1
  errorCategory := none
  toAddr := none
  webhookUrl := "https://example.com/hook"
  signingSecret := sampleSecret 0x0b
  active := true
  thresholdCount := 1
  thresholdWindowSecs := 60
  debounceSecs := 30
  thresholdCount_pos := by decide
  thresholdWindowSecs_pos := by decide
  debounceSecs_nonneg := by decide

/-- The environment that knows the signature of its payload. -/
def sampleRateEnv : AlertEnv Nat :=
  { sampleEnv with
    hmacSha256 := fun secret _ =>
      if secret = List.replicate 32 0x0b then
        [0x29, 0xbe, 0xa7, 0x92, 0x74, 0xac, 0x7f, 0x53, 0x50, 0xd9, 0xbf, 0xe1, 0x7c, 0xfe, 0x53,
          0x1b, 0x6d, 0xd9, 0x0a, 0x8d, 0x6b, 0x95, 0x85, 0xa9, 0x76, 0x6d, 0x6a, 0x4b, 0x4b, 0x2b,
          0xff, 0x07]
      else [] }

/-- An idle dispatcher over that subscription and a failure of 1700000000, at `now`. -/
def sampleRate (now : Int) (dispatches : RateDispatches) : RateState where
  now
  subscriptions := (∅ : RateSubscriptions).insertNew [sampleRateSubscription]
  db := (sampleAlerts [1]).db
  dispatches
  queue := []
  task := fun _ => none

/-- What the dispatcher reads of it. -/
def sampleRateMatch : RateAlertMatch where
  subscriptionId := 1
  webhookUrl := "https://example.com/hook"
  signingSecret := sampleSecret 0x0b
  matchCount := 1
  thresholdCount := 1
  thresholdWindowSecs := 60

/-- The state when the task in slot 0 has come to `phase`. -/
def sending (s : RateState) (phase : RateTaskPhase) : RateState :=
  { s with task := Function.update s.task 0 (some ⟨sampleRateMatch, phase⟩) }

/-- While the failure is in the window and no dispatch is in the debounce, the dispatcher finds
the subscription and begins its task. -/
theorem sampleRate_spawned {now : Int} {dispatches : RateDispatches}
    (hwindow : now - seconds 60 ≤ seconds 1700000000)
    (hquiet : ∀ d ∈ dispatches.values, d.dispatchedAt ≤ now - seconds 30) :
    RateReaches sampleRateEnv (sampleRate now dispatches)
      (sending (sampleRate now dispatches) .spawned) := by
  have hrows : (sampleAlerts [1]).db.failedTransaction.rows = [sampleFailed 1] :=
    Lib.KeyedTable.rows_insertNew_empty (List.nodup_singleton _)
  have hmatches : sampleRateSubscription.Matches (sampleAlerts [1]).db now (sampleFailed 1) :=
    ⟨.inl rfl, .inl rfl, hwindow⟩
  have hcount : sampleRateSubscription.matchCount (sampleAlerts [1]).db now = 1 := by
    rw [RateSubscription.matchCount, hrows, List.countP_singleton, if_pos (by simpa using hmatches)]
  have hdue : sampleRateSubscription.Due (sampleAlerts [1]).db dispatches now := by
    refine ⟨rfl, ?_, by rw [hcount]; decide⟩
    rintro ⟨d, hd, -, hlt⟩
    exact absurd hlt (Int.not_lt.mpr (hquiet d hd))
  have hmatch : rateMatch (sampleAlerts [1]).db now sampleRateSubscription = sampleRateMatch := by
    rw [rateMatch, hcount]
    rfl
  have hpending : pendingRateAlertMatches (sampleRate now dispatches).subscriptions
      (sampleRate now dispatches).db dispatches now = [sampleRateMatch] := by
    show ([sampleRateSubscription].filter fun s => s.Due (sampleAlerts [1]).db dispatches now).map
      (rateMatch (sampleAlerts [1]).db now) = _
    simp only [List.filter_cons, hdue, decide_true, if_true, List.filter_nil, List.map_singleton,
      hmatch]
  have hfind : FindPendingRateAlertMatches (sampleRate now dispatches).subscriptions
      (sampleRate now dispatches).db dispatches now dispatchBatch [sampleRateMatch] := by
    rw [FindPendingRateAlertMatches, hpending]
    exact ⟨[sampleRateMatch], .refl _, List.pairwise_singleton _ _, rfl⟩
  refine Lib.Reaches.cons _ (.find ⟨rfl, fun _ => rfl⟩ (Int.le_refl now) hfind) trivial ?_
  exact Lib.Reaches.cons _ (.spawn (i := 0) rfl rfl) trivial .refl

/-- The task posts. -/
theorem sampleRate_posts (now : Int) (dispatches : RateDispatches) :
    StartsPost sampleRateEnv (sending (sampleRate now dispatches) .spawned) 0 sampleRateMatch
      (sending (sampleRate now dispatches) .posting) := by
  have hkey : hexDecode sampleRateMatch.signingSecret.toList = some (List.replicate 32 0x0b) := by
    show hexDecode (String.ofList (bytesToHex (List.replicate 32 0x0b))).toList = _
    rw [String.toList_ofList, hexDecode_bytesToHex]
  have hurl : webhookUrlIsSafe sampleRateEnv.net sampleRateMatch.webhookUrl = .ok () := by rfl
  have hprepare : ∃ request, prepareRateRequest sampleRateEnv sampleRateMatch = .ok request := by
    simp only [prepareRateRequest, hurl, hkey]
    exact ⟨_, rfl⟩
  obtain ⟨request, hprepare⟩ := hprepare
  have hstep := RateStep.task (s := sending (sampleRate now dispatches) .spawned) (i := 0)
    rfl (.post hprepare)
  rw [sending, Function.update_idem] at hstep
  exact ⟨rfl, request, hstep⟩

/-- The send succeeds and is recorded, and the clock goes on to `later`. -/
theorem sampleRate_recorded {now later : Int} (dispatches : RateDispatches) (h : now ≤ later) :
    RateReaches sampleRateEnv (sending (sampleRate now dispatches) .posting)
      (sampleRate later (recordRateAlertDispatch dispatches now 1 1 true none)) := by
  have hrespond : RateTaskStep sampleRateEnv now dispatches ⟨sampleRateMatch, .posting⟩
      (.respond (.response 200 "200 OK")) dispatches
      (some ⟨sampleRateMatch, .recording true none⟩) := .respond
  refine Lib.Reaches.cons _ (.task (i := 0) rfl hrespond) trivial ?_
  rw [sending, Function.update_idem]
  refine Lib.Reaches.cons _ (.task (i := 0) rfl .record) trivial ?_
  rw [Function.update_idem]
  have hnone : Function.update (sampleRate now dispatches).task 0 none =
      (sampleRate now dispatches).task := Function.update_eq_self (0 : Fin maxConcurrentPosts) _
  rw [hnone]
  exact Lib.Reaches.cons _ (.tick h) trivial .refl

/-- The subscription is sent to again half a minute after the first send. -/
theorem sample_sends_spaced : ∃ s₁ s₁' s₂ s₂',
    RateReaches sampleRateEnv (sampleRate (seconds 1700000000) ∅) s₁ ∧
    StartsPost sampleRateEnv s₁ 0 sampleRateMatch s₁' ∧ RateReaches sampleRateEnv s₁' s₂ ∧
    StartsPost sampleRateEnv s₂ 0 sampleRateMatch s₂' ∧
    ∃ sub, s₁.subscriptions.lookup sampleRateMatch.subscriptionId = some sub ∧
      s₁.now + seconds sub.debounceSecs ≤ s₂.now := by
  have hfirst : RateReaches sampleRateEnv (sampleRate (seconds 1700000000) ∅) _ :=
    sampleRate_spawned (by decide) (by rintro d ⟨⟩)
  have hquiet : ∀ d ∈ (recordRateAlertDispatch ∅ (seconds 1700000000) 1 1 true none).values,
      d.dispatchedAt ≤ seconds 1700000030 - seconds 30 := by
    intro d hd
    rw [recordRateAlertDispatch, Lib.SerialTable.values_insert] at hd
    obtain rfl := List.mem_singleton.mp hd
    decide
  have hsecond : RateReaches sampleRateEnv (sending (sampleRate (seconds 1700000000) ∅) .posting) _ :=
    (sampleRate_recorded ∅ (by decide : seconds 1700000000 ≤ seconds 1700000030)).trans
      (sampleRate_spawned (by decide) hquiet)
  refine ⟨_, _, _, _, hfirst, sampleRate_posts _ _, hsecond, sampleRate_posts _ _, ?_⟩
  exact (rate_alerts_debounced ⟨rfl, fun _ => rfl⟩).1 _ _ _ _ _ _ _ _ hfirst (sampleRate_posts _ _)
    hsecond (sampleRate_posts _ _) rfl

end TxIndexer.Proofs
