import TxIndexer.Db.AlertQueries
import TxIndexer.Std.Num

/-!
# The rate alert queries

The statements of `crates/db/src/queries.rs` for `rate_threshold` subscriptions: which of them
have enough matching failures in their window and are not debounced, and the record of a send.
A row of `alert_subscription` that is of this type has all three rate columns.
-/

namespace TxIndexer.Db

/-- A `rate_threshold` row of `alert_subscription`, with the `CHECK` on its rate columns. -/
structure RateSubscription where
  subscriptionId : Int
  errorCategory : Option ErrorCategory
  toAddr : Option String
  webhookUrl : String
  signingSecret : String
  active : Bool
  thresholdCount : Int
  thresholdWindowSecs : Int
  debounceSecs : Int
  thresholdCount_pos : 0 < thresholdCount
  thresholdWindowSecs_pos : 0 < thresholdWindowSecs
  debounceSecs_nonneg : 0 ≤ debounceSecs

/-- The `rate_threshold` rows of `alert_subscription`. -/
abbrev RateSubscriptions := Lib.KeyedTable RateSubscription.subscriptionId

/-- A row of `alert_rate_dispatch`, without its generated `dispatch_id`. -/
structure RateDispatch where
  subscriptionId : Int
  dispatchedAt : Int
  matchCount : Int
  status : DeliveryStatus
  lastError : Option String
  deriving DecidableEq, Repr

/-- The table `alert_rate_dispatch`. -/
abbrev RateDispatches := Lib.SerialTable RateDispatch

/-- `RateAlertMatch` (`models.rs:643-650`). -/
structure RateAlertMatch where
  subscriptionId : Int
  webhookUrl : String
  signingSecret : String
  matchCount : Nat
  thresholdCount : Int
  thresholdWindowSecs : Int
  deriving DecidableEq, Repr

/-- The join conditions between a subscription and a failed transaction, as of `now`. Failures
are dated in seconds. -/
def RateSubscription.Matches (db : Database) (now : Int) (s : RateSubscription)
    (f : FailedTransaction) : Prop :=
  (s.errorCategory = none ∨ s.errorCategory = some f.errorCategory) ∧
  (s.toAddr = none ∨
    ∃ a ∈ s.toAddr, (db.transaction.lookup f.txHash).bind Transaction.toAddr = some a) ∧
  now - seconds s.thresholdWindowSecs ≤ seconds f.timestamp

instance (db : Database) (now : Int) (s : RateSubscription) (f : FailedTransaction) :
    Decidable (s.Matches db now f) := inferInstanceAs (Decidable (_ ∧ _))

/-- `COUNT(f.tx_hash)`: how many failures of the window a subscription matches. -/
def RateSubscription.matchCount (db : Database) (now : Int) (s : RateSubscription) : Nat :=
  db.failedTransaction.rows.countP fun f => s.Matches db now f

/-- The subscription was dispatched within its last `debounce_secs`. -/
def RateSubscription.Debounced (dispatches : RateDispatches) (now : Int) (s : RateSubscription) :
    Prop :=
  ∃ d ∈ dispatches.values, d.subscriptionId = s.subscriptionId ∧
    now - seconds s.debounceSecs < d.dispatchedAt

instance (dispatches : RateDispatches) (now : Int) (s : RateSubscription) :
    Decidable (s.Debounced dispatches now) :=
  inferInstanceAs (Decidable (∃ d ∈ dispatches.values, _))

/-- The `WHERE` and the `HAVING` of `find_pending_rate_alert_matches`. -/
def RateSubscription.Due (db : Database) (dispatches : RateDispatches) (now : Int)
    (s : RateSubscription) : Prop :=
  s.active = true ∧ ¬ s.Debounced dispatches now ∧ s.thresholdCount ≤ s.matchCount db now

instance (db : Database) (dispatches : RateDispatches) (now : Int) (s : RateSubscription) :
    Decidable (s.Due db dispatches now) := inferInstanceAs (Decidable (_ ∧ _))

/-- What the dispatcher reads of a subscription that is due. -/
def rateMatch (db : Database) (now : Int) (s : RateSubscription) : RateAlertMatch where
  subscriptionId := s.subscriptionId
  webhookUrl := s.webhookUrl
  signingSecret := s.signingSecret
  matchCount := s.matchCount db now
  thresholdCount := s.thresholdCount
  thresholdWindowSecs := s.thresholdWindowSecs

/-- The groups `find_pending_rate_alert_matches` orders by subscription and limits. -/
def pendingRateAlertMatches (subscriptions : RateSubscriptions) (db : Database)
    (dispatches : RateDispatches) (now : Int) : List RateAlertMatch :=
  (subscriptions.rows.filter fun s => s.Due db dispatches now).map (rateMatch db now)

/-- `find_pending_rate_alert_matches` (`queries.rs:1181-1212`). -/
def FindPendingRateAlertMatches (subscriptions : RateSubscriptions) (db : Database)
    (dispatches : RateDispatches) (now : Int) (limit : Nat) (out : List RateAlertMatch) : Prop :=
  Lib.OrderByLimit RateAlertMatch.subscriptionId limit
    (pendingRateAlertMatches subscriptions db dispatches now) out

/-- `record_rate_alert_dispatch` (`queries.rs:1219-1239`). -/
def recordRateAlertDispatch (dispatches : RateDispatches) (now : Int) (subscriptionId : Int)
    (matchCount : Int) (delivered : Bool) (lastError : Option String) : RateDispatches :=
  dispatches.insert [{
    subscriptionId
    dispatchedAt := now
    matchCount
    status := if delivered then .delivered else .failed
    lastError }]

/-- `deactivate_alert_subscription` on a rate subscription. -/
def deactivateRateSubscription (subscriptions : RateSubscriptions) (subscriptionId : Int) :
    RateSubscriptions :=
  subscriptions.modify (fun s => decide (s.subscriptionId = subscriptionId ∧ s.active = true))
    (fun s => { s with active := false }) fun _ => rfl

/-- `rotate_alert_subscription_secret` on a rate subscription. -/
def rotateRateSubscriptionSecret (subscriptions : RateSubscriptions) (subscriptionId : Int)
    (newSecret : String) : RateSubscriptions :=
  subscriptions.modify (fun s => decide (s.subscriptionId = subscriptionId ∧ s.active = true))
    (fun s => { s with signingSecret := newSecret }) fun _ => rfl

section Find

variable {subscriptions : RateSubscriptions} {db : Database} {dispatches : RateDispatches}
  {now : Int} {limit : Nat} {batch : List RateAlertMatch}

/-- A match of the batch is the group of a subscription that is due. -/
theorem FindPendingRateAlertMatches.due
    (h : FindPendingRateAlertMatches subscriptions db dispatches now limit batch)
    {m : RateAlertMatch} (hm : m ∈ batch) :
    ∃ s, subscriptions.lookup m.subscriptionId = some s ∧ s.Due db dispatches now ∧
      m = rateMatch db now s := by
  obtain ⟨s, hs, rfl⟩ := List.mem_map.mp (Lib.OrderByLimit.subset h hm)
  obtain ⟨hmem, hdue⟩ := List.mem_filter.mp hs
  exact ⟨s, Lib.KeyedTable.lookup_eq_some.mpr ⟨hmem, rfl⟩, by simpa using hdue, rfl⟩

/-- A subscription has at most one match in a batch. -/
theorem FindPendingRateAlertMatches.nodup
    (h : FindPendingRateAlertMatches subscriptions db dispatches now limit batch) :
    (batch.map RateAlertMatch.subscriptionId).Nodup := by
  obtain ⟨sorted, hperm, -, rfl⟩ := h
  have hids : (pendingRateAlertMatches subscriptions db dispatches now).map
      RateAlertMatch.subscriptionId =
      (subscriptions.rows.filter fun s => s.Due db dispatches now).map
        RateSubscription.subscriptionId := by
    rw [pendingRateAlertMatches, List.map_map]
    rfl
  have hnodup : ((pendingRateAlertMatches subscriptions db dispatches now).map
      RateAlertMatch.subscriptionId).Nodup := by
    rw [hids]
    exact subscriptions.nodup.sublist (List.filter_sublist.map _)
  have hsorted := (hperm.map RateAlertMatch.subscriptionId).nodup_iff.mpr hnodup
  exact hsorted.sublist ((List.take_sublist _ _).map _)

end Find

end TxIndexer.Db
