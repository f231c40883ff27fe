import TxIndexer.Db.RateQueries
import TxIndexer.Indexer.Alerts

/-!
# The rate half of the dispatcher

`dispatch_rate_once` of `crates/indexer/src/alerts.rs` as a transition system: one dispatcher
process, the matches of the cycle it has still to spawn and up to `MAX_CONCURRENT_POSTS` tasks,
over the record of rate dispatches. There is no claim: a send is recorded when it has ended.
Statements succeed and the process goes on; the clock, the failures and the subscriptions are up
to the environment.
-/

namespace TxIndexer.Indexer

open Db

/-- `build_rate_payload` (`alerts.rs:195-204`). -/
def buildRatePayload (m : RateAlertMatch) : String :=
  "\x7b\"subscription_id\":" ++ toString m.subscriptionId ++
    ",\"sub_type\":\"rate_threshold\",\"match_count\":" ++ toString m.matchCount ++
    ",\"threshold_count\":" ++ toString m.thresholdCount ++
    ",\"threshold_window_secs\":" ++ toString m.thresholdWindowSecs ++ "\x7d"

/-- The part of `dispatch_rate_item` (`alerts.rs:406-446`) before the POST: the request, or the
error that is recorded instead. -/
def prepareRateRequest {κ : Type} (env : AlertEnv κ) (item : RateAlertMatch) :
    Except String WebhookRequest :=
  match webhookUrlIsSafe env.net item.webhookUrl with
  | .error reason => .error ("unsafe url: " ++ reason.debug)
  | .ok () =>
      match hexDecode item.signingSecret.toList with
      | none => .error "corrupt signing_secret (not hex)"
      | some key =>
          let body := buildRatePayload item
          .ok {
            url := item.webhookUrl
            signature := "sha256=" ++ signPayload env key body.toUTF8.toList
            body }

/-- How far `dispatch_rate_item` is: not begun, the POST under way, or about to record. -/
inductive RateTaskPhase where
  | spawned
  | posting
  | recording (delivered : Bool) (lastError : Option String)
  deriving DecidableEq, Repr

/-- A task of `dispatch_rate_once`. -/
structure RateTask where
  item : RateAlertMatch
  phase : RateTaskPhase
  deriving DecidableEq, Repr

/-- What a task does next. -/
inductive RateTaskEvent where
  | reject
  | post (request : WebhookRequest)
  | respond (answer : HttpAnswer)
  | record

/-- One step of `dispatch_rate_item` (`alerts.rs:399-481`), at the moment `now`. -/
inductive RateTaskStep {κ : Type} (env : AlertEnv κ) (now : Int) :
    RateDispatches → RateTask → RateTaskEvent → RateDispatches → Option RateTask → Prop
  | reject {dispatches item error} (hprepare : prepareRateRequest env item = .error error) :
      RateTaskStep env now dispatches ⟨item, .spawned⟩ .reject dispatches
        (some ⟨item, .recording false (some error)⟩)
  | post {dispatches item request} (hprepare : prepareRateRequest env item = .ok request) :
      RateTaskStep env now dispatches ⟨item, .spawned⟩ (.post request) dispatches
        (some ⟨item, .posting⟩)
  | respond {dispatches item answer} :
      RateTaskStep env now dispatches ⟨item, .posting⟩ (.respond answer) dispatches
        (some ⟨item, .recording (recordOf (postSigned answer)).1
          (recordOf (postSigned answer)).2⟩)
  | record {dispatches item delivered lastError} :
      RateTaskStep env now dispatches ⟨item, .recording delivered lastError⟩ .record
        (recordRateAlertDispatch dispatches now item.subscriptionId (asI32 item.matchCount)
          delivered lastError) none

/-- The clock of the database, its tables, and the dispatcher: the matches of this cycle it has
still to spawn, and its tasks. -/
structure RateState where
  now : Int
  subscriptions : RateSubscriptions
  db : Database
  dispatches : RateDispatches
  queue : List RateAlertMatch
  task : Fin maxConcurrentPosts → Option RateTask

/-- What happens in a step. -/
inductive RateEvent where
  | tick
  | index
  | subscribe (row : RateSubscription)
  | deactivate (subscriptionId : Int)
  | rotate (subscriptionId : Int) (newSecret : String)
  | find (batch : List RateAlertMatch)
  | spawn (i : Fin maxConcurrentPosts)
  | task (i : Fin maxConcurrentPosts) (e : RateTaskEvent)

namespace RateState

/-- The dispatcher is between two cycles. -/
def Idle (s : RateState) : Prop := s.queue = [] ∧ ∀ i, s.task i = none

/-- The cycle still has the match to send or to record. -/
def Carries (s : RateState) (m : RateAlertMatch) : Prop :=
  m ∈ s.queue ∨ ∃ i task, s.task i = some task ∧ task.item = m

/-- It has a match of the subscription. -/
def InCycle (s : RateState) (subscriptionId : Int) : Prop :=
  ∃ m, s.Carries m ∧ m.subscriptionId = subscriptionId

theorem Idle.not_carries {s : RateState} (h : s.Idle) (m : RateAlertMatch) : ¬ s.Carries m := by
  rintro (hm | ⟨i, task, htask, -⟩)
  · rw [h.1] at hm
    cases hm
  · rw [h.2 i] at htask
    cases htask

end RateState

/-- One step. A `SELECT` finds what is due when it begins; its answer comes later. -/
inductive RateStep {κ : Type} (env : AlertEnv κ) : RateState → RateEvent → RateState → Prop
  | tick {s later} (hlater : s.now ≤ later) : RateStep env s .tick { s with now := later }
  | index {s db} : RateStep env s .index { s with db := db }
  | subscribe {s row} (hfresh : row.subscriptionId ∉ s.subscriptions.keys) :
      RateStep env s (.subscribe row)
        { s with subscriptions := s.subscriptions.insertNew [row] }
  | deactivate {s id} : RateStep env s (.deactivate id)
      { s with subscriptions := deactivateRateSubscription s.subscriptions id }
  | rotate {s id newSecret} : RateStep env s (.rotate id newSecret)
      { s with subscriptions := rotateRateSubscriptionSecret s.subscriptions id newSecret }
  | find {s batch later} (hidle : s.Idle) (hlater : s.now ≤ later)
      (hbatch : FindPendingRateAlertMatches s.subscriptions s.db s.dispatches s.now
        dispatchBatch batch) :
      RateStep env s (.find batch) { s with now := later, queue := batch }
  | spawn {s i item rest} (hqueue : s.queue = item :: rest) (hslot : s.task i = none) :
      RateStep env s (.spawn i) { s with
        queue := rest
        task := Function.update s.task i (some ⟨item, .spawned⟩) }
  | task {s i task e dispatches next} (htask : s.task i = some task)
      (hstep : RateTaskStep env s.now s.dispatches task e dispatches next) :
      RateStep env s (.task i e)
        { s with dispatches, task := Function.update s.task i next }

/-! ## What a step keeps -/

variable {κ : Type} {env : AlertEnv κ} {s s' : RateState} {l : RateEvent}

/-- The clock does not go back. -/
theorem RateStep.now_le (h : RateStep env s l s') : s.now ≤ s'.now := by
  cases h with
  | tick hlater => exact hlater
  | find _ hlater => exact hlater
  | index | subscribe | deactivate | rotate | spawn | task => exact le_rfl

/-- A subscription stays, with its rate columns. -/
theorem RateStep.subscription_kept (h : RateStep env s l s') {id : Int} {sub : RateSubscription}
    (hsub : s.subscriptions.lookup id = some sub) :
    ∃ sub', s'.subscriptions.lookup id = some sub' ∧ sub'.debounceSecs = sub.debounceSecs := by
  cases h with
  | subscribe hfresh =>
      refine ⟨sub, ?_, rfl⟩
      rw [Lib.KeyedTable.lookup_insertNew, hsub, Option.some_or]
  | deactivate =>
      rw [deactivateRateSubscription, Lib.KeyedTable.lookup_modify, hsub]
      exact ⟨_, rfl, by dsimp only; split <;> rfl⟩
  | rotate =>
      rw [rotateRateSubscriptionSecret, Lib.KeyedTable.lookup_modify, hsub]
      exact ⟨_, rfl, by dsimp only; split <;> rfl⟩
  | tick | index | find | spawn | task => exact ⟨sub, hsub, rfl⟩

/-- Records are not taken back. -/
theorem RateStep.dispatches_subset (h : RateStep env s l s') :
    s.dispatches.values ⊆ s'.dispatches.values := by
  cases h with
  | task htask hstep =>
      cases hstep with
      | record =>
          rw [recordRateAlertDispatch, Lib.SerialTable.values_insert]
          exact List.subset_append_left _ _
      | reject | post | respond => exact List.Subset.refl _
  | tick | index | subscribe | deactivate | rotate | find | spawn => exact List.Subset.refl _

/-- A task that goes on works on the same match. -/
theorem RateTaskStep.next_item {now : Int} {dispatches dispatches' : RateDispatches}
    {task : RateTask} {e : RateTaskEvent} {next : Option RateTask}
    (h : RateTaskStep env now dispatches task e dispatches' next) :
    ∀ task' ∈ next, task'.item = task.item := by
  cases h with
  | reject | post | respond => rintro _ ⟨⟩; rfl
  | record => rintro _ ⟨⟩

/-- What the cycle carries after a step it carried before, or a `SELECT` has just found it. -/
theorem RateStep.carries_cases (h : RateStep env s l s') {m : RateAlertMatch}
    (hm : s'.Carries m) : s.Carries m ∨ ∃ batch, l = .find batch ∧ m ∈ batch := by
  cases h with
  | @find batch later hidle =>
      rcases hm with hm | ⟨i, task, htask, -⟩
      · exact .inr ⟨batch, rfl, hm⟩
      · cases (hidle.2 i).symm.trans htask
  | @spawn i item rest hqueue hslot =>
      left
      rcases hm with hm | ⟨j, task, htask, rfl⟩
      · exact .inl (hqueue ▸ List.mem_cons_of_mem item hm)
      · rcases Lib.slot_cases htask with ⟨-, hnew⟩ | ⟨-, hold⟩
        · cases hnew
          exact .inl (hqueue ▸ List.mem_cons_self)
        · exact .inr ⟨j, task, hold, rfl⟩
  | @task i task e dispatches next htask hstep =>
      left
      rcases hm with hm | ⟨j, task', htask', rfl⟩
      · exact .inl hm
      · rcases Lib.slot_cases htask' with ⟨-, hnew⟩ | ⟨-, hold⟩
        · exact .inr ⟨i, task, htask, (hstep.next_item task' hnew).symm⟩
        · exact .inr ⟨j, task', hold, rfl⟩
  | tick | index | subscribe | deactivate | rotate => exact .inl hm

end TxIndexer.Indexer
