import TxIndexer.Db.Schema
import TxIndexer.Lib.OrderBy
import Mathlib.Logic.Function.Basic

/-!
# The alert queries

The statements of `crates/db/src/queries.rs` on `alert_subscription` and `alert_delivery`, for
per-event alerts. The delivery ledger has at most one row for a key. Each statement is atomic
and takes effect at one moment, which is its `NOW()`, in microseconds.
-/

namespace TxIndexer.Db

/-- The table `alert_delivery`. -/
abbrev Ledger := DeliveryKey → Option AlertDelivery

/-- The table `alert_subscription`. -/
abbrev Subscriptions := Lib.KeyedTable AlertSubscription.subscriptionId

/-- `$1 * INTERVAL '1 second'`. -/
def seconds (n : Int) : Int := n * 1000000

/-! ## Matching -/

/-- The join conditions between a subscription and a failed transaction. -/
def AlertSubscription.Matches (db : Database) (s : AlertSubscription) (f : FailedTransaction) :
    Prop :=
  (s.errorCategory = none ∨ s.errorCategory = some f.errorCategory) ∧
  s.active = true ∧ s.subType = .perEvent ∧
  (s.toAddr = none ∨
    ∃ a ∈ s.toAddr, (db.transaction.lookup f.txHash).bind Transaction.toAddr = some a)

instance (db : Database) (s : AlertSubscription) (f : FailedTransaction) :
    Decidable (s.Matches db f) := inferInstanceAs (Decidable (_ ∧ _))

/-- What the dispatcher reads of a matching pair. -/
def alertMatch (s : AlertSubscription) (f : FailedTransaction) : AlertMatch where
  subscriptionId := s.subscriptionId
  txHash := f.txHash
  webhookUrl := s.webhookUrl
  signingSecret := s.signingSecret

/-- The pairs of an active subscription and a failed transaction it matches. -/
def alertMatches (subscriptions : Subscriptions) (db : Database) : List AlertMatch :=
  subscriptions.rows.flatMap fun s =>
    (db.failedTransaction.rows.filter fun f => s.Matches db f).map (alertMatch s)

/-- The anti-join lets a pair with this row through: it is not delivered, and not claimed within
the last `staleAfterSecs`. -/
def Pending (now staleAfterSecs : Int) (delivery : Option AlertDelivery) : Prop :=
  ∀ d ∈ delivery, ¬ (d.status = .delivered ∨
    (d.status = .claimed ∧ now - seconds staleAfterSecs < d.createdAt))

instance (now staleAfterSecs : Int) (delivery : Option AlertDelivery) :
    Decidable (Pending now staleAfterSecs delivery) :=
  match delivery with
  | none => isTrue nofun
  | some d => decidable_of_iff (¬ (d.status = .delivered ∨
      (d.status = .claimed ∧ now - seconds staleAfterSecs < d.createdAt))) (by simp [Pending])

/-- The rows `find_pending_alert_matches` (`queries.rs:1019-1049`) orders by `tx_hash` and
limits. -/
def pendingAlertMatches (subscriptions : Subscriptions) (db : Database) (ledger : Ledger)
    (now staleAfterSecs : Int) : List AlertMatch :=
  (alertMatches subscriptions db).filter fun m => Pending now staleAfterSecs (ledger m.key)

/-- `find_pending_alert_matches`: `collate` orders texts as the database's collation does. -/
def FindPendingAlertMatches {κ : Type} [LinearOrder κ] (collate : String → κ)
    (subscriptions : Subscriptions) (db : Database) (ledger : Ledger) (now : Int) (limit : Nat)
    (staleAfterSecs : Int) (out : List AlertMatch) : Prop :=
  Lib.OrderByLimit (fun m : AlertMatch => collate m.txHash) limit
    (pendingAlertMatches subscriptions db ledger now staleAfterSecs) out

/-! ## The delivery ledger -/

/-- The `WHERE` of the claim's update. -/
def AlertDelivery.Reclaimable (d : AlertDelivery) (now staleAfterSecs : Int) : Prop :=
  d.status = .failed ∨ (d.status = .claimed ∧ d.createdAt < now - seconds staleAfterSecs)

instance (d : AlertDelivery) (now staleAfterSecs : Int) :
    Decidable (d.Reclaimable now staleAfterSecs) :=
  inferInstanceAs (Decidable (_ ∨ _))

/-- `try_claim_alert_match` (`queries.rs:1462-1489`). -/
def tryClaimAlertMatch (ledger : Ledger) (now : Int) (key : DeliveryKey) (staleAfterSecs : Int) :
    Ledger × Bool :=
  match ledger key with
  | none =>
      (Function.update ledger key (some {
        status := .claimed
        attempts := 1
        lastError := none
        deliveredAt := none
        createdAt := now }), true)
  | some d =>
      if d.Reclaimable now staleAfterSecs then
        (Function.update ledger key (some {
          status := .claimed
          attempts := d.attempts + 1
          lastError := none
          deliveredAt := none
          createdAt := now }), true)
      else (ledger, false)

/-- `record_alert_delivery` (`queries.rs:1056-1085`). -/
def recordAlertDelivery (ledger : Ledger) (now : Int) (key : DeliveryKey) (delivered : Bool)
    (lastError : Option String) : Ledger :=
  let status := if delivered then DeliveryStatus.delivered else .failed
  Function.update ledger key (some
    (match ledger key with
    | none => {
        status
        attempts := 1
        lastError
        deliveredAt := if delivered then some now else none
        createdAt := now }
    | some d => { d with
        status
        attempts := d.attempts + 1
        lastError
        deliveredAt := if delivered then some now else d.deliveredAt }))

/-! ## Subscriptions -/

/-- `deactivate_alert_subscription` (`queries.rs:993-1007`), with the number of rows updated. -/
def deactivateAlertSubscription (subscriptions : Subscriptions) (subscriptionId : Int) :
    Subscriptions × Nat :=
  let affected := fun s : AlertSubscription =>
    decide (s.subscriptionId = subscriptionId ∧ s.active = true)
  (subscriptions.modify affected (fun s => { s with active := false }) fun _ => rfl,
    subscriptions.rows.countP affected)

/-- `rotate_alert_subscription_secret` (`queries.rs:1101-1123`), with the row updated. -/
def rotateAlertSubscriptionSecret (subscriptions : Subscriptions) (subscriptionId : Int)
    (newSecret : String) : Subscriptions × Option AlertSubscription :=
  let affected := fun s : AlertSubscription =>
    decide (s.subscriptionId = subscriptionId ∧ s.active = true)
  let rotated := subscriptions.modify affected
    (fun s => { s with signingSecret := newSecret }) fun _ => rfl
  (rotated, rotated.rows.find? affected)

/-- A rotation writes the secret of the subscription it names, if that is active. -/
theorem rotateAlertSubscriptionSecret_lookup (subscriptions : Subscriptions)
    (subscriptionId : Int) (newSecret : String) (k : Int) :
    (rotateAlertSubscriptionSecret subscriptions subscriptionId newSecret).1.lookup k =
      (subscriptions.lookup k).map fun s =>
        if s.subscriptionId = subscriptionId ∧ s.active = true then
          { s with signingSecret := newSecret }
        else s := by
  rw [rotateAlertSubscriptionSecret, Lib.KeyedTable.lookup_modify]
  simp only [decide_eq_true_eq]

/-- A deactivation clears the flag of the subscription it names. -/
theorem deactivateAlertSubscription_lookup (subscriptions : Subscriptions)
    (subscriptionId k : Int) :
    (deactivateAlertSubscription subscriptions subscriptionId).1.lookup k =
      (subscriptions.lookup k).map fun s =>
        if s.subscriptionId = subscriptionId ∧ s.active = true then { s with active := false }
        else s := by
  rw [deactivateAlertSubscription, Lib.KeyedTable.lookup_modify]
  simp only [decide_eq_true_eq]

/-! ## What a claim and a record do -/

section Ledger

variable {ledger : Ledger} {now later staleAfterSecs : Int} {key key' : DeliveryKey}

/-- A claim wins unless the row is delivered or its claim is not stale. -/
theorem tryClaimAlertMatch_eq_true :
    (tryClaimAlertMatch ledger now key staleAfterSecs).2 = true ↔
      ∀ d ∈ ledger key, d.Reclaimable now staleAfterSecs := by
  unfold tryClaimAlertMatch
  cases hrow : ledger key with
  | none => simp
  | some d =>
      by_cases hd : d.Reclaimable now staleAfterSecs
      · simp [hd]
      · simp [hd]

/-- A claim that wins leaves the row claimed now. -/
theorem tryClaimAlertMatch_claimed
    (hwon : (tryClaimAlertMatch ledger now key staleAfterSecs).2 = true) :
    ∃ d, (tryClaimAlertMatch ledger now key staleAfterSecs).1 key = some d ∧
      d.status = .claimed ∧ d.createdAt = now := by
  have hreclaim := tryClaimAlertMatch_eq_true.mp hwon
  unfold tryClaimAlertMatch
  cases hrow : ledger key with
  | none => exact ⟨_, Function.update_self .., rfl, rfl⟩
  | some d =>
      rw [hrow] at hreclaim
      simp only [if_pos (hreclaim d rfl)]
      exact ⟨_, Function.update_self .., rfl, rfl⟩

/-- A claim that loses changes nothing. -/
theorem tryClaimAlertMatch_lost
    (hlost : (tryClaimAlertMatch ledger now key staleAfterSecs).2 = false) :
    (tryClaimAlertMatch ledger now key staleAfterSecs).1 = ledger := by
  unfold tryClaimAlertMatch at hlost ⊢
  cases hrow : ledger key with
  | none => rw [hrow] at hlost; cases hlost
  | some d =>
      rw [hrow] at hlost
      by_cases hd : d.Reclaimable now staleAfterSecs
      · simp [hd] at hlost
      · simp [hd]

/-- A claim touches no other row. -/
theorem tryClaimAlertMatch_other (hne : key' ≠ key) :
    (tryClaimAlertMatch ledger now key staleAfterSecs).1 key' = ledger key' := by
  unfold tryClaimAlertMatch
  cases hrow : ledger key with
  | none => exact Function.update_of_ne hne ..
  | some d =>
      by_cases hd : d.Reclaimable now staleAfterSecs
      · simp [hd, Function.update_of_ne hne]
      · simp [hd]

/-- The status a record leaves. -/
def recordedStatus (delivered : Bool) : DeliveryStatus :=
  if delivered then .delivered else .failed

/-- A record sets the status, whoever holds the claim. -/
theorem recordAlertDelivery_status (ledger : Ledger) (now : Int) (key : DeliveryKey)
    (delivered : Bool) (lastError : Option String) :
    ∃ d, recordAlertDelivery ledger now key delivered lastError key = some d ∧
      d.status = recordedStatus delivered := by
  unfold recordAlertDelivery
  cases ledger key with
  | none => exact ⟨_, Function.update_self .., rfl⟩
  | some d => exact ⟨_, Function.update_self .., rfl⟩

/-- A record touches no other row. -/
theorem recordAlertDelivery_other (delivered : Bool) (lastError : Option String)
    (hne : key' ≠ key) :
    recordAlertDelivery ledger now key delivered lastError key' = ledger key' :=
  Function.update_of_ne hne ..

/-- Nobody can claim a delivered pair. -/
theorem tryClaimAlertMatch_delivered {d : AlertDelivery} (hrow : ledger key = some d)
    (hdelivered : d.status = .delivered) :
    (tryClaimAlertMatch ledger now key staleAfterSecs).2 = false := by
  apply Bool.eq_false_iff.mpr
  intro hwon
  have hreclaim := tryClaimAlertMatch_eq_true.mp hwon d hrow
  simp [AlertDelivery.Reclaimable, hdelivered] at hreclaim

/-- A claim is exclusive until it is stale. -/
theorem tryClaimAlertMatch_held {d : AlertDelivery} (hrow : ledger key = some d)
    (hclaimed : d.status = .claimed) (hfresh : now ≤ d.createdAt + seconds staleAfterSecs) :
    (tryClaimAlertMatch ledger now key staleAfterSecs).2 = false := by
  apply Bool.eq_false_iff.mpr
  intro hwon
  have hreclaim := tryClaimAlertMatch_eq_true.mp hwon d hrow
  simp only [AlertDelivery.Reclaimable, hclaimed, reduceCtorEq, true_and, false_or] at hreclaim
  omega

/-- A pending pair stays pending while its row stays. -/
theorem Pending.mono {delivery : Option AlertDelivery}
    (h : Pending now staleAfterSecs delivery) (hle : now ≤ later) :
    Pending later staleAfterSecs delivery := by
  intro d hd hblocked
  apply h d hd
  apply hblocked.imp_right
  intro hclaimed
  exact ⟨hclaimed.1, by omega⟩

/-- A pending pair can be claimed at any later moment. At the same moment it need not be: a claim
exactly `staleAfterSecs` old is let through by the anti-join and refused by the claim. -/
theorem Pending.reclaimable {delivery : Option AlertDelivery}
    (h : Pending now staleAfterSecs delivery) (hlt : now < later) :
    ∀ d ∈ delivery, d.Reclaimable later staleAfterSecs := by
  intro d hd
  have hnot := h d hd
  cases hstatus : d.status with
  | delivered => exact absurd (.inl hstatus) hnot
  | failed => exact .inl hstatus
  | claimed =>
      right
      refine ⟨hstatus, ?_⟩
      by_contra hfresh
      exact hnot (.inr ⟨hstatus, by omega⟩)

end Ledger

/-! ## What is matched -/

theorem mem_alertMatches {subscriptions : Subscriptions} {db : Database} {m : AlertMatch} :
    m ∈ alertMatches subscriptions db ↔ ∃ s ∈ subscriptions, ∃ f ∈ db.failedTransaction,
      s.Matches db f ∧ alertMatch s f = m := by
  simp only [alertMatches, List.mem_flatMap, List.mem_map, List.mem_filter, decide_eq_true_eq,
    Lib.KeyedTable.mem_def, and_assoc]

/-- The match of an active subscription carries the row's URL and secret. -/
theorem lookup_of_mem_alertMatches {subscriptions : Subscriptions} {db : Database}
    {m : AlertMatch} (hm : m ∈ alertMatches subscriptions db) :
    ∃ s, subscriptions.lookup m.subscriptionId = some s ∧ s.active = true ∧
      m.webhookUrl = s.webhookUrl ∧ m.signingSecret = s.signingSecret := by
  obtain ⟨s, hs, f, -, ⟨-, hactive, -⟩, rfl⟩ := mem_alertMatches.mp hm
  exact ⟨s, Lib.KeyedTable.lookup_eq_some.mpr ⟨hs, rfl⟩, hactive, rfl, rfl⟩

/-- No two matches have the same key. -/
theorem alertMatches_keys_nodup (subscriptions : Subscriptions) (db : Database) :
    ((alertMatches subscriptions db).map AlertMatch.key).Nodup := by
  rw [alertMatches, List.map_flatMap, List.nodup_flatMap]
  constructor
  · intro s _
    rw [List.map_map]
    have hhash : ∀ rows : List FailedTransaction, (rows.map FailedTransaction.txHash).Nodup →
        (rows.map (AlertMatch.key ∘ alertMatch s)).Nodup := by
      intro rows hrows
      apply List.Nodup.of_map Prod.snd
      rw [List.map_map]
      exact hrows
    apply hhash
    exact db.failedTransaction.nodup.sublist (List.filter_sublist.map _)
  · have hids : subscriptions.rows.Pairwise fun s s' => s.subscriptionId ≠ s'.subscriptionId :=
      List.pairwise_map.mp subscriptions.nodup
    apply hids.imp
    intro s s' hne
    simp only [Function.onFun, List.disjoint_left, List.mem_map]
    intro k hk hk'
    obtain ⟨_, ⟨f, -, rfl⟩, rfl⟩ := hk
    obtain ⟨_, ⟨f', -, rfl⟩, heq⟩ := hk'
    exact hne (congrArg Prod.fst heq).symm

end TxIndexer.Db
