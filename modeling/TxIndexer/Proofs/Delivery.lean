import TxIndexer.Indexer.AlertRuns

/-!
# Delivering an alert

Who may touch a row of the delivery ledger, and when. `record_alert_delivery` does not ask who
holds the claim, so a worker whose claim has gone stale still overwrites what its replacement
recorded.
-/

namespace TxIndexer.Proofs

open Db Indexer

variable {κ : Type} [LinearOrder κ] {env : AlertEnv κ} {s s' : AlertState} {l : AlertEvent}

/-! ## Claims that are recorded in time -/

/-- Nobody holds a claim for `CLAIM_STALE_AFTER_SECS`, and a task that holds one is not lost. -/
def Timely (s : AlertState) (l : AlertEvent) (s' : AlertState) : Prop :=
  (∀ j task since, s'.Holds j task since → s'.now < since + seconds claimStaleAfterSecs) ∧
  (∀ i, l = .task i .abort → ∀ task since, ¬ s.Holds i task since) ∧
  (∀ w, l = .crash w → ∀ n task since, ¬ s.Holds (w, n) task since)

/-- What links the ledger to the tasks: a pair has one holder at most, whose claim is the row and
is fresh, and a success is recorded or about to be. -/
structure ClaimInv (s : AlertState) : Prop where
  fresh : ∀ j task since, s.Holds j task since →
    s.now < since + seconds claimStaleAfterSecs
  row : ∀ j task since, s.Holds j task since →
    ∃ d, s.ledger task.item.key = some d ∧ d.status = .claimed ∧ d.createdAt = since
  unique : ∀ i j task task' since since', s.Holds i task since → s.Holds j task' since' →
    task.item.key = task'.item.key → i = j
  succeeded : ∀ key ∈ s.succeeded, s.Delivered key ∨
    ∃ i item since lastError, item.key = key ∧
      s.task i = some ⟨item, .recording since true lastError⟩
  once : s.succeeded.Nodup

namespace ClaimInv

/-- Nobody can claim a pair that is held. -/
theorem held (h : ClaimInv s) {j : Slot} {task : Task} {since : Int}
    (hj : s.Holds j task since) : s.claimWins task.item.key = false := by
  obtain ⟨d, hrow, hclaimed, hsince⟩ := h.row j task since hj
  apply tryClaimAlertMatch_held hrow hclaimed
  rw [hsince]
  exact (h.fresh j task since hj).le

/-- A pair that is held is not delivered. -/
theorem not_delivered (h : ClaimInv s) {j : Slot} {task : Task} {since : Int}
    (hj : s.Holds j task since) : ¬ s.Delivered task.item.key := by
  intro ⟨d, hrow, hdelivered⟩
  obtain ⟨d', hrow', hclaimed, -⟩ := h.row j task since hj
  rw [hrow, Option.some.injEq] at hrow'
  rw [hrow', hclaimed] at hdelivered
  cases hdelivered

/-- A pair that is delivered, or about to be recorded so, cannot be claimed. -/
theorem closed (h : ClaimInv s) {key : DeliveryKey} (hkey : key ∈ s.succeeded) :
    s.claimWins key = false := by
  rcases h.succeeded key hkey with ⟨d, hrow, hdelivered⟩ | ⟨i, item, since, lastError, rfl, hi⟩
  · exact tryClaimAlertMatch_delivered hrow hdelivered
  · exact h.held ⟨hi, rfl⟩

/-- The row of a claim that is held stays the holder's. -/
theorem row_step (h : ClaimInv s) (hstep : AlertStep env s l s') {j : Slot} {task : Task}
    {since : Int} (hj : s'.Holds j task since) :
    ∃ d, s'.ledger task.item.key = some d ∧ d.status = .claimed ∧ d.createdAt = since := by
  rcases hstep.holds_cases hj with ⟨task₀, hheld, hitem, -⟩ | ⟨-, rfl, -, hrow⟩
  · rw [← hitem]
    rcases hstep.row_cases task₀.item.key with hsame | ⟨-, -, -, -, hwins, -⟩ |
      ⟨i, item, since', delivered, lastError, d, -, hi, hkey, hgone, -⟩
    · rw [hsame]
      exact h.row j task₀ since hheld
    · rw [h.held hheld] at hwins
      cases hwins
    · -- the recording task is the holder, which is gone after the step
      have hij : i = j := h.unique i j _ task₀ since' since ⟨hi, rfl⟩ hheld hkey
      rw [hij, hj.1] at hgone
      cases hgone
  · exact hrow

/-- A claim is won only where nobody holds one. -/
theorem unique_step (h : ClaimInv s) (hstep : AlertStep env s l s') {i j : Slot}
    {task task' : Task} {since since' : Int} (hi : s'.Holds i task since)
    (hj : s'.Holds j task' since') (hkey : task.item.key = task'.item.key) : i = j := by
  rcases hstep.holds_cases hi with ⟨task₀, hheld, hitem, -⟩ | ⟨hli, -, hwins, -⟩
  · rcases hstep.holds_cases hj with ⟨task₀', hheld', hitem', -⟩ | ⟨-, -, hwins, -⟩
    · exact h.unique i j task₀ task₀' since since' hheld hheld' (by rw [hitem, hitem', hkey])
    · rw [← hkey, ← hitem, h.held hheld] at hwins
      cases hwins
  · rcases hstep.holds_cases hj with ⟨task₀', hheld', hitem', -⟩ | ⟨hlj, -⟩
    · rw [hkey, ← hitem', h.held hheld'] at hwins
      cases hwins
    · rw [hli] at hlj
      exact (AlertEvent.task.inj hlj).1

/-- What has succeeded is delivered, or a task that cannot be lost is about to record it. -/
theorem succeeded_step (h : ClaimInv s) (hstep : AlertStep env s l s') (hguard : Timely s l s')
    {key : DeliveryKey} (hkey : key ∈ s.succeeded) :
    s'.Delivered key ∨ ∃ i item since lastError, item.key = key ∧
      s'.task i = some ⟨item, .recording since true lastError⟩ := by
  rcases h.succeeded key hkey with ⟨d, hrow, hdelivered⟩ | ⟨i, item, since, lastError, rfl, hi⟩
  · left
    rcases hstep.row_cases key with hsame | ⟨-, -, -, -, hwins, -⟩ |
      ⟨i, item, since, delivered, lastError, d', -, hi, rfl, -⟩
    · exact ⟨d, hsame.trans hrow, hdelivered⟩
    · rw [h.closed hkey] at hwins
      cases hwins
    · exact absurd ⟨d, hrow, hdelivered⟩ (h.not_delivered ⟨hi, rfl⟩)
  · rcases hstep.recording_cases hi with hsame | ⟨-, hledger⟩ | rfl | rfl
    · exact .inr ⟨i, item, since, lastError, rfl, hsame⟩
    · left
      obtain ⟨d, hrow, hstatus⟩ :=
        recordAlertDelivery_status s.ledger s.now item.key true lastError
      exact ⟨d, hledger ▸ hrow, hstatus⟩
    · exact absurd ⟨hi, rfl⟩ (hguard.2.1 i rfl _ since)
    · exact absurd ⟨hi, rfl⟩ (hguard.2.2 i.1 rfl i.2 _ since)

/-- A POST under way is the first of its pair that can succeed. -/
theorem not_succeeded (h : ClaimInv s) {i : Slot} {item : AlertMatch} {since : Int}
    (hi : s.task i = some ⟨item, .posting since⟩) : item.key ∉ s.succeeded := by
  intro hkey
  rcases h.succeeded _ hkey with hdelivered | ⟨j, item', since', lastError, heq, hj⟩
  · exact h.not_delivered ⟨hi, rfl⟩ hdelivered
  · have hij : i = j := h.unique i j _ _ since since' ⟨hi, rfl⟩ ⟨hj, rfl⟩ heq.symm
    rw [← hij, hi] at hj
    cases hj

theorem step (h : ClaimInv s) (hstep : AlertStep env s l s') (hguard : Timely s l s') :
    ClaimInv s' := by
  have hold : ∀ key ∈ s.succeeded, s'.Delivered key ∨ ∃ i item since lastError,
      item.key = key ∧ s'.task i = some ⟨item, .recording since true lastError⟩ :=
    fun key hkey => h.succeeded_step hstep hguard hkey
  refine ⟨hguard.1, fun j task since hj => h.row_step hstep hj,
    fun i j task task' since since' hi hj hkey => h.unique_step hstep hi hj hkey, ?_, ?_⟩
  · intro key hkey
    rcases hstep.succeeded_cases with hsame | ⟨i, item, since, lastError, -, hi', hcons⟩
    · exact hold key (hsame ▸ hkey)
    · rw [hcons] at hkey
      rcases List.mem_cons.mp hkey with rfl | hkey
      · exact .inr ⟨i, item, since, lastError, rfl, hi'⟩
      · exact hold key hkey
  · rcases hstep.succeeded_cases with hsame | ⟨i, item, since, lastError, hi, -, hcons⟩
    · rw [hsame]
      exact h.once
    · rw [hcons]
      exact List.nodup_cons.mpr ⟨h.not_succeeded hi, h.once⟩

/-- Before any task has started there is nothing to link. -/
theorem start (htask : ∀ i, s.task i = none) (hlog : s.succeeded = []) : ClaimInv s := by
  have hnone : ∀ j task since, ¬ s.Holds j task since := by
    intro j task since hj
    have hcontra := hj.1
    rw [htask j] at hcontra
    cases hcontra
  refine ⟨fun j task since hj => absurd hj (hnone j task since),
    fun j task since hj => absurd hj (hnone j task since),
    fun i j task task' since since' hi => absurd hi (hnone i task since), ?_, ?_⟩
  · intro key hkey
    rw [hlog] at hkey
    cases hkey
  · rw [hlog]
    exact List.nodup_nil

end ClaimInv

/-- While every claim is recorded in time, a pair has at most one POST that succeeds and at most
one holder, and once a POST has succeeded no claim of the pair does. -/
theorem at_most_one_success (htask : ∀ i, s.task i = none) (hlog : s.succeeded = [])
    (hrun : Lib.Reaches (AlertStep env) Timely s s') :
    (∀ key, s'.succeeded.count key ≤ 1) ∧
    (∀ i j task task' since since', s'.Holds i task since → s'.Holds j task' since' →
      task.item.key = task'.item.key → i = j) ∧
    ∀ key ∈ s'.succeeded, s'.claimWins key = false := by
  have hinv : ClaimInv s' :=
    hrun.invariant (fun _ _ _ h hstep hguard => h.step hstep hguard) (.start htask hlog)
  refine ⟨fun key => ?_, hinv.unique, fun key hkey => hinv.closed hkey⟩
  exact List.nodup_iff_count_le_one.mp hinv.once key

/-- The state once dispatcher `w` has found the match, claimed it, and got an answer. -/
def answered (s : AlertState) (w : Worker) (answer : HttpAnswer) : AlertState :=
  (s.found w [sampleMatch 1]).recordingFirst (w, 0) (sampleMatch 1) []
    (recordOf (postSigned answer))

theorem answered_task (s : AlertState) (w : Worker) (answer : HttpAnswer) :
    (answered s w answer).task (w, 0) = some ⟨sampleMatch 1, .recording (s.now + 1)
      (recordOf (postSigned answer)).1 (recordOf (postSigned answer)).2⟩ :=
  Function.update_self (w, (0 : Fin maxConcurrentPosts)) _ s.task

theorem answered_task_other {w : Worker} {j : Slot} (answer : HttpAnswer) (hne : j.1 ≠ w) :
    (answered s w answer).task j = s.task j := by
  have hj : j ≠ (w, 0) := fun h => hne (congrArg Prod.fst h)
  exact Function.update_of_ne hj _ s.task

theorem answered_idle {v w : Worker} (answer : HttpAnswer) (hne : v ≠ w) (hidle : s.Idle v) :
    (answered s w answer).Idle v := by
  constructor
  · show Function.update (Function.update s.queue w [sampleMatch 1]) w [] v = []
    rw [Function.update_of_ne hne, Function.update_of_ne hne]
    exact hidle.1
  · intro n
    rw [answered_task_other answer hne]
    exact hidle.2 n

/-- The clock stands still and no task is lost. -/
def Prompt (_ : AlertState) (l : AlertEvent) (_ : AlertState) : Prop :=
  match l with
  | .tick | .find _ _ | .task _ .abort | .crash _ => False
  | _ => True

/-- A dispatcher that is idle gets there while the match is pending, in no time after its
`SELECT`. -/
theorem reaches_answered_sample {w : Worker} (answer : HttpAnswer)
    (hsubscriptions : s.subscriptions = (sampleAlerts [1]).subscriptions)
    (hdb : s.db = (sampleAlerts [1]).db) (hidle : s.Idle w)
    (hpending : Pending s.now claimStaleAfterSecs (s.ledger (sampleMatch 1).key)) :
    AlertStep sampleEnv s (.find w [sampleMatch 1]) (s.found w [sampleMatch 1]) ∧
      Lib.Reaches (AlertStep sampleEnv) Prompt (s.found w [sampleMatch 1])
        (answered s w answer) := by
  refine ⟨find_sampleMatch hsubscriptions hdb hidle hpending, ?_⟩
  have hqueue : (s.found w [sampleMatch 1]).queue w = [sampleMatch 1] := Function.update_self ..
  have hslot : (s.found w [sampleMatch 1]).task (w, 0) = none := hidle.2 0
  have hwins : (s.found w [sampleMatch 1]).claimWins (sampleMatch 1).key = true :=
    tryClaimAlertMatch_eq_true.mpr (hpending.reclaimable (Int.lt_succ s.now))
  exact reaches_answered hqueue hslot hwins (prepareRequest_sampleMatch 1) answer
    (fun _ => trivial) (fun _ _ => trivial) (fun _ _ => trivial) (fun _ _ _ => trivial)

/-- A fresh claim is recorded in time if the clock stands still. -/
theorem timely_of_prompt
    (hfresh : ∀ j task since, s.Holds j task since →
      s.now < since + seconds claimStaleAfterSecs)
    (hstep : AlertStep env s l s') (hprompt : Prompt s l s') :
    (∀ j task since, s'.Holds j task since → s'.now < since + seconds claimStaleAfterSecs) ∧
      Timely s l s' := by
  have hnow : s'.now = s.now := by
    apply hstep.now_eq
    · intro h; rw [h] at hprompt; exact hprompt
    · intro w batch h; rw [h] at hprompt; exact hprompt
  have hfresh' : ∀ j task since, s'.Holds j task since →
      s'.now < since + seconds claimStaleAfterSecs := by
    intro j task since hj
    rw [hnow]
    rcases hstep.holds_cases hj with ⟨task₀, hheld, -, -⟩ | ⟨-, hsince, -, -⟩
    · exact hfresh j task₀ since hheld
    · rw [hsince]
      simp only [seconds, claimStaleAfterSecs]
      omega
  refine ⟨hfresh', hfresh', ?_, ?_⟩
  · intro i h; rw [h] at hprompt; exact hprompt.elim
  · intro w h; rw [h] at hprompt; exact hprompt.elim

/-- Two dispatchers find one match. While the first, whose POST has succeeded, is about to record
that, the second tries to claim the match, and returns with nothing sent. -/
theorem at_most_one_success_sample :
    ∃ s', Lib.Reaches (AlertStep sampleEnv) Timely (sampleAlerts [1]) s' ∧
      s'.queue 1 = [] ∧ s'.task (1, 0) = none ∧ s'.succeeded = [(sampleMatch 1).key] ∧
      (∀ key, s'.succeeded.count key ≤ 1) ∧
      (∀ i j task task' since since', s'.Holds i task since → s'.Holds j task' since' →
        task.item.key = task'.item.key → i = j) ∧
      ∀ key ∈ s'.succeeded, s'.claimWins key = false := by
  let second := (sampleAlerts [1]).found 1 [sampleMatch 1]
  have hsecond : AlertStep sampleEnv (sampleAlerts [1]) (.find 1 [sampleMatch 1]) second :=
    find_sampleMatch rfl rfl ⟨rfl, fun _ => rfl⟩ nofun
  obtain ⟨hfind, hrun⟩ := reaches_answered_sample (s := second) (w := 0)
    (.response 200 "200 OK") rfl rfl ⟨rfl, fun _ => rfl⟩ nofun
  have hnone : ∀ j task since, ¬ (second.found 0 [sampleMatch 1]).Holds j task since :=
    fun j task since hj => nomatch hj.1
  -- the first has a claim, of this very moment
  let first := answered second 0 (.response 200 "200 OK")
  have hlost : first.claimWins (sampleMatch 1).key = false := by
    have hwon : (tryClaimAlertMatch second.ledger (second.now + 1) (sampleMatch 1).key
        claimStaleAfterSecs).2 = true := by decide +kernel
    obtain ⟨d, hrow, hclaimed, hsince⟩ := tryClaimAlertMatch_claimed hwon
    apply tryClaimAlertMatch_held hrow hclaimed
    rw [hsince]
    decide
  let racing : AlertState := { first with
    queue := Function.update first.queue 1 []
    task := Function.update first.task (1, 0) (some ⟨sampleMatch 1, .spawned⟩) }
  have hspawn : AlertStep sampleEnv first (.spawn (1, 0)) racing :=
    .spawn (rfl : first.queue 1 = [sampleMatch 1]) (rfl : first.task (1, 0) = none)
  have hskip : AlertStep sampleEnv racing (.task (1, 0) .claim)
      (racing.afterTask (1, 0) ⟨sampleMatch 1, .spawned⟩ .claim _ none) :=
    .task (Function.update_self (1, (0 : Fin maxConcurrentPosts)) _ first.task) (.skip hlost)
  have hboth : Lib.Reaches (AlertStep sampleEnv) Prompt (second.found 0 [sampleMatch 1]) _ :=
    (hrun.tail ⟨_, hspawn, trivial⟩).tail ⟨_, hskip, trivial⟩
  have htimely := hboth.change_guard
    (fun _ _ _ h hstep hprompt => timely_of_prompt h hstep hprompt)
    fun j task since hj => absurd hj (hnone j task since)
  have hreaches : Lib.Reaches (AlertStep sampleEnv) Timely (sampleAlerts [1]) _ := .cons _ hsecond
    ⟨fun j task since hj => (nomatch hj.1), nofun, nofun⟩
    (Lib.Reaches.cons _ hfind ⟨fun j task since hj => absurd hj (hnone j task since), nofun, nofun⟩
      htimely.1)
  exact ⟨_, hreaches, rfl, rfl, rfl,
    at_most_one_success (fun _ => rfl) rfl hreaches⟩

/-! ## Claims that go stale -/

/-- The pair is delivered, and whoever still holds a claim of it is about to record that. -/
def Closed (key : DeliveryKey) (s : AlertState) : Prop :=
  s.Delivered key ∧ ∀ j task since, s.Holds j task since → task.item.key = key →
    ∃ since' lastError, task.phase = .recording since' true lastError

/-- A closed pair stays closed, whatever happens. -/
theorem Closed.step {key : DeliveryKey} (h : Closed key s) (hstep : AlertStep env s l s') :
    Closed key s' := by
  obtain ⟨⟨d, hrow, hdelivered⟩, hholders⟩ := h
  have hlost : s.claimWins key = false := tryClaimAlertMatch_delivered hrow hdelivered
  constructor
  · rcases hstep.row_cases key with hsame | ⟨-, -, -, -, hwins, -⟩ |
      ⟨i, item, since, delivered, lastError, d', -, hi, hkey, -, hrow', hstatus⟩
    · exact ⟨d, hsame.trans hrow, hdelivered⟩
    · rw [hlost] at hwins
      cases hwins
    · obtain ⟨since', lastError', hphase⟩ := hholders i _ since ⟨hi, rfl⟩ hkey
      cases hphase
      exact ⟨d', hrow', hstatus⟩
  · intro j task since hj hkey
    rcases hstep.holds_cases hj with ⟨task₀, hheld, hitem, hsame⟩ | ⟨-, -, hwins, -⟩
    · obtain ⟨since', lastError, hphase⟩ := hholders j task₀ since hheld (by rw [hitem, hkey])
      rw [← hsame since' true lastError hphase]
      exact ⟨since', lastError, hphase⟩
    · rw [hkey, hlost] at hwins
      cases hwins

/-- Some run from here ends with the pair not delivered. -/
def CanUndeliver (env : AlertEnv κ) (key : DeliveryKey) (s : AlertState) : Prop :=
  ∃ s', Lib.Reaches (AlertStep env) Lib.anyStep s s' ∧ ¬ s'.Delivered key

theorem CanUndeliver.of_step {key : DeliveryKey} (hstep : AlertStep env s l s')
    (h : CanUndeliver env key s') : CanUndeliver env key s := by
  obtain ⟨s'', hrun, hnot⟩ := h
  exact ⟨s'', .cons l hstep trivial hrun, hnot⟩

/-- A task about to record a failure can take the pair back, -/
theorem canUndeliver_of_recording (env : AlertEnv κ) {j : Slot} {item : AlertMatch} {since : Int}
    {lastError : Option String}
    (hj : s.task j = some ⟨item, .recording since false lastError⟩) :
    CanUndeliver env item.key s := by
  obtain ⟨d, hrow, hstatus⟩ := recordAlertDelivery_status s.ledger s.now item.key false lastError
  apply CanUndeliver.of_step (.task hj .record)
  refine ⟨_, .refl, ?_⟩
  intro ⟨d', hrow', hdelivered⟩
  have heq : d = d' := Option.some.inj (hrow.symm.trans hrow')
  rw [← heq, hstatus] at hdelivered
  cases hdelivered

/-- so can one whose POST is under way, since that may fail, -/
theorem canUndeliver_of_posting (env : AlertEnv κ) {j : Slot} {item : AlertMatch} {since : Int}
    (hj : s.task j = some ⟨item, .posting since⟩) : CanUndeliver env item.key s := by
  have hstep : AlertStep env s (.task j (.respond (.error "")))
      (s.afterTask j _ _ _ _) := .task hj .respond
  exact .of_step hstep (canUndeliver_of_recording env (s.afterTask_self ..))

/-- and so can one that has claimed the pair and not got there yet. -/
theorem canUndeliver_of_claimed (env : AlertEnv κ) {j : Slot} {item : AlertMatch} {since : Int}
    (hj : s.task j = some ⟨item, .claimed since⟩) : CanUndeliver env item.key s := by
  cases hprepare : prepareRequest env item with
  | error e =>
      apply CanUndeliver.of_step (.task hj (.reject hprepare))
      exact canUndeliver_of_recording env (s.afterTask_self ..)
  | ok request =>
      apply CanUndeliver.of_step (.task hj (.post hprepare))
      exact canUndeliver_of_posting env (s.afterTask_self ..)

/-- A holder that is not about to record a delivery can take the pair back. -/
theorem canUndeliver_of_holder (env : AlertEnv κ) {j : Slot} {task : Task} {since : Int}
    (hj : s.Holds j task since)
    (hphase : ∀ since' lastError, task.phase ≠ .recording since' true lastError) :
    CanUndeliver env task.item.key s := by
  obtain ⟨htask, hsince⟩ := hj
  obtain ⟨item, phase⟩ := task
  cases phase with
  | spawned => cases hsince
  | claimed since' => exact canUndeliver_of_claimed env htask
  | posting since' => exact canUndeliver_of_posting env htask
  | recording since' delivered lastError =>
      cases delivered with
      | false => exact canUndeliver_of_recording env htask
      | true => exact absurd rfl (hphase since' lastError)

/-- When a worker records that it delivered a pair, the pair stays delivered and unclaimable in
every run from there if and only if every other worker that still holds a claim of the pair is
about to record a delivery as well. -/
theorem delivered_stays_iff {i : Slot} {item : AlertMatch} {since : Int}
    {lastError : Option String}
    (hi : s.task i = some ⟨item, .recording since true lastError⟩)
    (hstep : AlertStep env s (.task i .record) s') :
    (∀ s'', Lib.Reaches (AlertStep env) Lib.anyStep s' s'' →
      s''.Delivered item.key ∧ s''.claimWins item.key = false) ↔
    ∀ j task since', j ≠ i → s.Holds j task since' → task.item.key = item.key →
      ∃ since'' lastError', task.phase = .recording since'' true lastError' := by
  obtain ⟨task, ledger, next, htask, hrecord, rfl⟩ : ∃ task ledger next, s.task i = some task ∧
      TaskStep env s.now s.ledger task .record ledger next ∧
      s' = s.afterTask i task .record ledger next := by
    cases hstep with
    | task htask hrecord => exact ⟨_, _, _, htask, hrecord, rfl⟩
  rw [hi] at htask
  cases htask
  cases hrecord
  constructor
  · intro hstays j task since' hji hj hkey
    by_contra hnot
    have hj' : (s.afterTask i ⟨item, .recording since true lastError⟩ .record
        (recordAlertDelivery s.ledger s.now item.key true lastError) none).Holds j task since' :=
      ⟨(s.afterTask_other _ _ _ _ hji).trans hj.1, hj.2⟩
    obtain ⟨s'', hrun, hundelivered⟩ := canUndeliver_of_holder env hj'
      fun since'' lastError' hphase => hnot ⟨since'', lastError', hphase⟩
    rw [hkey] at hundelivered
    exact hundelivered (hstays s'' hrun).1
  · intro hothers s'' hrun
    have hclosed : Closed item.key s'' := by
      apply hrun.invariant fun _ _ _ h hstep _ => Closed.step h hstep
      refine ⟨recordAlertDelivery_status s.ledger s.now item.key true lastError, ?_⟩
      intro j task since' hj hkey
      by_cases hji : j = i
      · rw [hji] at hj
        have hgone := hj.1
        rw [AlertState.afterTask_self] at hgone
        cases hgone
      · rw [AlertState.Holds, s.afterTask_other _ _ _ _ hji] at hj
        exact hothers j task since' hji hj hkey
    obtain ⟨d, hrow, hdelivered⟩ := hclosed.1
    exact ⟨hclosed.1, tryClaimAlertMatch_delivered hrow hdelivered⟩

/-- Dispatcher 0 has claimed the pair and its POST has timed out; 70 seconds later it has not
recorded that. -/
def lateWorker : AlertState :=
  { answered (sampleAlerts [1]) 0 (.error "operation timed out") with now := 70000000 }

/-- By then dispatcher 1 has claimed the pair again, and its POST has succeeded. -/
def replacement : AlertState := answered lateWorker 1 (.response 200 "200 OK")

theorem reaches_replacement :
    Lib.Reaches (AlertStep sampleEnv) Lib.anyStep (sampleAlerts [1]) replacement := by
  obtain ⟨hfind, hrun⟩ := reaches_answered_sample (.error "operation timed out")
    (rfl : (sampleAlerts [1]).subscriptions = _) rfl ⟨rfl, fun _ => rfl⟩ nofun
  have htick : AlertStep sampleEnv (answered (sampleAlerts [1]) 0 (.error "operation timed out"))
      .tick lateWorker := .tick (by decide)
  have hidle : (answered (sampleAlerts [1]) 0 (.error "operation timed out")).Idle 1 :=
    answered_idle _ (by decide) ⟨rfl, fun _ => rfl⟩
  have hpending : Pending lateWorker.now claimStaleAfterSecs
      (lateWorker.ledger (sampleMatch 1).key) := by
    have hwon : ((sampleAlerts [1]).found 0 [sampleMatch 1]).claimWins (sampleMatch 1).key = true :=
      tryClaimAlertMatch_eq_true.mpr nofun
    obtain ⟨d, hrow, hstatus, hcreated⟩ := tryClaimAlertMatch_claimed hwon
    intro d' hd'
    have heq : d = d' := Option.some.inj (hrow.symm.trans hd')
    rw [← heq, hstatus, hcreated]
    simp [AlertState.found, sampleAlerts, lateWorker, seconds, claimStaleAfterSecs]
  obtain ⟨hfind', hrun'⟩ := reaches_answered_sample (.response 200 "200 OK")
    (rfl : lateWorker.subscriptions = _) rfl (show lateWorker.Idle 1 from hidle) hpending
  have hany : ∀ s l s', Prompt s l s' → Lib.anyStep s l s' := fun _ _ _ _ => trivial
  have hlater : Lib.Reaches (AlertStep sampleEnv) Lib.anyStep
      (answered (sampleAlerts [1]) 0 (.error "operation timed out")) replacement :=
    Lib.Reaches.cons _ htick trivial (Lib.Reaches.cons _ hfind' trivial (hrun'.mono hany))
  exact Lib.Reaches.cons _ hfind trivial ((hrun.mono hany).trans hlater)

theorem replacement_recording : replacement.task (1, 0) =
    some ⟨sampleMatch 1, .recording 70000001 true none⟩ :=
  answered_task lateWorker 1 (.response 200 "200 OK")

/-- What dispatcher 0 has still to record. -/
def lateError : Option String := (recordOf (postSigned (.error "operation timed out"))).2

theorem replacement_late : replacement.task (0, 0) =
    some ⟨sampleMatch 1, .recording 1 false lateError⟩ := by
  rw [replacement, answered_task_other _ (by decide)]
  exact answered_task (sampleAlerts [1]) 0 (.error "operation timed out")

/-- Dispatcher 1 has recorded its delivery. -/
def replacementRecorded : AlertState :=
  replacement.afterTask (1, 0) ⟨sampleMatch 1, .recording 70000001 true none⟩ .record
    (recordAlertDelivery replacement.ledger replacement.now (sampleMatch 1).key true none) none

/-- And then dispatcher 0 its failure. -/
def lateRecorded : AlertState :=
  replacementRecorded.afterTask (0, 0) ⟨sampleMatch 1, .recording 1 false lateError⟩ .record
    (recordAlertDelivery replacementRecorded.ledger replacementRecorded.now (sampleMatch 1).key
      false lateError) none

/-- Dispatcher 1 records its delivery, and dispatcher 0 overwrites it: the pair is claimable
again, and the webhook is sent once more. -/
theorem late_worker_undelivers :
    ∃ s₁ s₂ s₃ i item since lastError,
      Lib.Reaches (AlertStep sampleEnv) Lib.anyStep (sampleAlerts [1]) s₁ ∧
      s₁.task i = some ⟨item, .recording since true lastError⟩ ∧
      AlertStep sampleEnv s₁ (.task i .record) s₂ ∧ s₂.Delivered item.key ∧
      Lib.Reaches (AlertStep sampleEnv) Lib.anyStep s₂ s₃ ∧
      ¬ s₃.Delivered item.key ∧ s₃.claimWins item.key = true := by
  have hslot : ((0, 0) : Slot) ≠ (1, 0) := by decide
  have hlate : replacementRecorded.task (0, 0) =
      some ⟨sampleMatch 1, .recording 1 false lateError⟩ :=
    (replacement.afterTask_other _ _ _ _ hslot).trans replacement_late
  have hrun : Lib.Reaches (AlertStep sampleEnv) Lib.anyStep replacementRecorded lateRecorded :=
    Lib.Reaches.cons _ (.task hlate .record) trivial .refl
  obtain ⟨d, hrow, hfailed⟩ := recordAlertDelivery_status replacementRecorded.ledger
    replacementRecorded.now (sampleMatch 1).key false lateError
  refine ⟨replacement, replacementRecorded, lateRecorded, (1, 0), sampleMatch 1, 70000001, none,
    reaches_replacement, replacement_recording, .task replacement_recording .record, ?_, hrun,
    ?_, ?_⟩
  · exact recordAlertDelivery_status replacement.ledger replacement.now (sampleMatch 1).key true none
  · intro ⟨d', hrow', hdelivered⟩
    rw [Option.some.inj (hrow'.symm.trans hrow), hfailed] at hdelivered
    cases hdelivered
  · apply tryClaimAlertMatch_eq_true.mpr
    intro d' hd'
    rw [Option.some.inj (Eq.trans hd'.symm hrow)]
    exact .inl hfailed

/-- What `delivered_stays_iff` says of that record. -/
theorem delivered_stays_iff_replacement :
    (∀ s'', Lib.Reaches (AlertStep sampleEnv) Lib.anyStep replacementRecorded s'' →
      s''.Delivered (sampleMatch 1).key ∧ s''.claimWins (sampleMatch 1).key = false) ↔
    ∀ j task since', j ≠ (1, 0) → replacement.Holds j task since' →
      task.item.key = (sampleMatch 1).key →
      ∃ since'' lastError', task.phase = .recording since'' true lastError' :=
  delivered_stays_iff replacement_recording (.task replacement_recording .record)

end TxIndexer.Proofs
