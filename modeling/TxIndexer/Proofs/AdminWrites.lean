import TxIndexer.Indexer.AlertRuns

/-!
# When an administrator's write reaches the dispatcher

A cycle reads URL, secret and active flag of its matches once and works through them afterwards,
so a subscription that is rotated or deactivated in between is still served from what was read. A
write takes effect at once exactly where no match of its subscription waits.
-/

namespace TxIndexer.Proofs

open Db Indexer

variable {κ : Type} [LinearOrder κ] {env : AlertEnv κ}

/-- The dispatchers, and as history, for each slot, whether the claim of its task was won while the
subscription was inactive. -/
structure Watched where
  alerts : AlertState
  late : Slot → Bool

/-- The subscription of the task in slot `i` is inactive. -/
def inactive (s : AlertState) (i : Slot) : Bool :=
  ((s.task i).bind fun task => s.subscriptions.lookup task.item.subscriptionId).any
    fun row => !row.active

/-- The history after a step. -/
def lateAfter (s : Watched) : AlertEvent → Slot → Bool
  | .task i .claim => Function.update s.late i (inactive s.alerts i)
  | _ => s.late

/-- A step of the dispatchers, with its history. -/
def WatchedStep (env : AlertEnv κ) (s : Watched) (l : AlertEvent) (s' : Watched) : Prop :=
  AlertStep env s.alerts l s'.alerts ∧ s'.late = lateAfter s l

theorem watchedStep_of {s : Watched} {l : AlertEvent} {alerts : AlertState}
    (h : AlertStep env s.alerts l alerts) : WatchedStep env s l ⟨alerts, lateAfter s l⟩ :=
  ⟨h, rfl⟩

/-- A POST is what the task sends with the secret its subscription has now. -/
def SignedNow (env : AlertEnv κ) (s : AlertState) (i : Slot) (request : WebhookRequest) : Prop :=
  ∃ task row, s.task i = some task ∧ s.subscriptions.lookup task.item.subscriptionId = some row ∧
    prepareRequest env { task.item with signingSecret := row.signingSecret } = .ok request

/-- Every POST is signed with the secret of the last rotation. -/
def RotationsTakeEffect (env : AlertEnv κ) (guard : Watched → AlertEvent → Watched → Prop)
    (start : Watched) : Prop :=
  ∀ s i request s', Lib.Reaches (WatchedStep env) guard start s →
    WatchedStep env s (.task i (.post request)) s' → SignedNow env s.alerts i request

/-- No match is claimed and sent after the deactivation of its subscription. -/
def DeactivationsTakeEffect (env : AlertEnv κ) (guard : Watched → AlertEvent → Watched → Prop)
    (start : Watched) : Prop :=
  ∀ s i request s', Lib.Reaches (WatchedStep env) guard start s →
    WatchedStep env s (.task i (.post request)) s' → s.late i = false

/-- The match was read and is still to be claimed. -/
def ToClaim (s : AlertState) (item : AlertMatch) : Prop :=
  (∃ w, item ∈ s.queue w) ∨ ∃ i, s.task i = some ⟨item, .spawned⟩

/-- The match was read and is still to be sent. -/
def ToPost (s : AlertState) (item : AlertMatch) : Prop :=
  ToClaim s item ∨ ∃ i since, s.task i = some ⟨item, .claimed since⟩

/-- A subscription is rotated only while no match of it is still to be sent, and deactivated only
while none is still to be claimed. -/
def NoneWaits (s : Watched) (l : AlertEvent) (_ : Watched) : Prop :=
  match l with
  | .rotate id _ => ∀ item, ToPost s.alerts item → item.subscriptionId ≠ id
  | .deactivate id => ∀ item, ToClaim s.alerts item → item.subscriptionId ≠ id
  | _ => True

/-- The match carries the secret its subscription has. -/
def SecretCurrent (s : AlertState) (item : AlertMatch) : Prop :=
  ∃ row, s.subscriptions.lookup item.subscriptionId = some row ∧
    row.signingSecret = item.signingSecret

/-- And the subscription is active. -/
def ReadCurrent (s : AlertState) (item : AlertMatch) : Prop :=
  ∃ row, s.subscriptions.lookup item.subscriptionId = some row ∧
    row.signingSecret = item.signingSecret ∧ row.active = true

/-- What waits is as it was read. -/
structure ReadInv (s : Watched) : Prop where
  toClaim : ∀ item, ToClaim s.alerts item → ReadCurrent s.alerts item
  claimed : ∀ i item since, s.alerts.task i = some ⟨item, .claimed since⟩ →
    SecretCurrent s.alerts item ∧ s.late i = false

theorem ReadCurrent.secret {s : AlertState} {item : AlertMatch} (h : ReadCurrent s item) :
    SecretCurrent s item := by
  obtain ⟨row, hrow, hsecret, -⟩ := h
  exact ⟨row, hrow, hsecret⟩

/-- Before any match is read nothing waits. -/
theorem ReadInv.start {s : Watched} (hidle : ∀ w, s.alerts.Idle w) : ReadInv s := by
  have htask : ∀ i, s.alerts.task i = none := fun i => (hidle i.1).2 i.2
  refine ⟨?_, ?_⟩
  · rintro item (⟨w, hw⟩ | ⟨i, hi⟩)
    · rw [(hidle w).1] at hw
      cases hw
    · rw [htask i] at hi
      cases hi
  · intro i item since hi
    rw [htask i] at hi
    cases hi

/-- Where neither queues nor tasks change, and rows that matter stay. -/
theorem ReadInv.of_subscriptions {s : Watched} (h : ReadInv s) {subscriptions : Subscriptions}
    (hclaim : ∀ item, ToClaim s.alerts item → ReadCurrent s.alerts item →
      ReadCurrent { s.alerts with subscriptions } item)
    (hpost : ∀ i item since, s.alerts.task i = some ⟨item, .claimed since⟩ →
      SecretCurrent s.alerts item → SecretCurrent { s.alerts with subscriptions } item) :
    ReadInv ⟨{ s.alerts with subscriptions }, s.late⟩ where
  toClaim item hitem := hclaim item hitem (h.toClaim item hitem)
  claimed i item since hi :=
    ⟨hpost i item since hi (h.claimed i item since hi).1, (h.claimed i item since hi).2⟩

theorem lookup_insertNew_of_some {subscriptions : Subscriptions} {row row' : AlertSubscription}
    {id : Int} (h : subscriptions.lookup id = some row) :
    (subscriptions.insertNew [row']).lookup id = some row := by
  rw [Lib.KeyedTable.lookup_insertNew, h]
  rfl

theorem ReadInv.subscribe {s : Watched} (h : ReadInv s) (row : AlertSubscription) :
    ReadInv ⟨{ s.alerts with subscriptions := s.alerts.subscriptions.insertNew [row] }, s.late⟩ := by
  apply h.of_subscriptions
  · rintro item - ⟨row', hrow, hrest⟩
    exact ⟨row', lookup_insertNew_of_some hrow, hrest⟩
  · rintro i item since - ⟨row', hrow, hsecret⟩
    exact ⟨row', lookup_insertNew_of_some hrow, hsecret⟩

/-- A deactivation keeps the secrets, and it is not that of a match that is still to be claimed. -/
theorem ReadInv.deactivate {s : Watched} (h : ReadInv s) {id : Int}
    (hguard : ∀ item, ToClaim s.alerts item → item.subscriptionId ≠ id) :
    ReadInv ⟨{ s.alerts with
      subscriptions := (deactivateAlertSubscription s.alerts.subscriptions id).1 }, s.late⟩ := by
  apply h.of_subscriptions
  · rintro item hitem ⟨row, hrow, hrest⟩
    have hid : row.subscriptionId = item.subscriptionId :=
      (Lib.KeyedTable.lookup_eq_some.mp hrow).2
    refine ⟨row, ?_, hrest⟩
    rw [deactivateAlertSubscription_lookup, hrow, Option.map_some, if_neg]
    rintro ⟨heq, -⟩
    exact hguard item hitem (hid ▸ heq)
  · rintro i item since - ⟨row, hrow, hsecret⟩
    have hlookup := deactivateAlertSubscription_lookup s.alerts.subscriptions id item.subscriptionId
    rw [hrow, Option.map_some] at hlookup
    refine ⟨_, hlookup, ?_⟩
    split
    · exact hsecret
    · exact hsecret

/-- A rotation is not that of a match that is still to be sent. -/
theorem ReadInv.rotate {s : Watched} (h : ReadInv s) {id : Int} {newSecret : String}
    (hguard : ∀ item, ToPost s.alerts item → item.subscriptionId ≠ id) :
    ReadInv ⟨{ s.alerts with
      subscriptions := (rotateAlertSubscriptionSecret s.alerts.subscriptions id newSecret).1 },
      s.late⟩ := by
  have hkept : ∀ (item : AlertMatch) (row : AlertSubscription), item.subscriptionId ≠ id →
      s.alerts.subscriptions.lookup item.subscriptionId = some row →
      (rotateAlertSubscriptionSecret s.alerts.subscriptions id newSecret).1.lookup
        item.subscriptionId = some row := by
    intro item row hne hrow
    have hid : row.subscriptionId = item.subscriptionId :=
      (Lib.KeyedTable.lookup_eq_some.mp hrow).2
    rw [rotateAlertSubscriptionSecret_lookup, hrow, Option.map_some, if_neg]
    rintro ⟨heq, -⟩
    exact hne (hid ▸ heq)
  apply h.of_subscriptions
  · rintro item hitem ⟨row, hrow, hrest⟩
    exact ⟨row, hkept item row (hguard item (.inl hitem)) hrow, hrest⟩
  · rintro i item since hi ⟨row, hrow, hsecret⟩
    exact ⟨row, hkept item row (hguard item (.inr ⟨i, since, hi⟩)) hrow, hsecret⟩

/-- Where the subscriptions stay, what is left waiting was waiting before. -/
theorem ReadInv.of_subset {s : Watched} (h : ReadInv s) {alerts : AlertState}
    (hsubscriptions : alerts.subscriptions = s.alerts.subscriptions)
    (hclaim : ∀ item, ToClaim alerts item → ReadCurrent s.alerts item)
    (hclaimed : ∀ i item since, alerts.task i = some ⟨item, .claimed since⟩ →
      s.alerts.task i = some ⟨item, .claimed since⟩) :
    ReadInv ⟨alerts, s.late⟩ := by
  refine ⟨fun item hitem => ?_, fun i item since hi => ?_⟩
  · obtain ⟨row, hrow, hrest⟩ := hclaim item hitem
    exact ⟨row, hsubscriptions ▸ hrow, hrest⟩
  · obtain ⟨⟨row, hrow, hsecret⟩, hlate⟩ := h.claimed i item since (hclaimed i item since hi)
    exact ⟨⟨row, hsubscriptions ▸ hrow, hsecret⟩, hlate⟩

/-- A `SELECT` reads rows as they are. -/
theorem ReadInv.find {s : Watched} (h : ReadInv s) {w : Worker} {batch : List AlertMatch}
    {later : Int}
    (hbatch : FindPendingAlertMatches env.collate s.alerts.subscriptions s.alerts.db
      s.alerts.ledger s.alerts.now dispatchBatch claimStaleAfterSecs batch) :
    ReadInv ⟨{ s.alerts with now := later, queue := Function.update s.alerts.queue w batch },
      s.late⟩ := by
  refine h.of_subset rfl ?_ fun _ _ _ hi => hi
  rintro item (⟨v, hv⟩ | hspawned)
  · by_cases hvw : v = w
    · subst hvw
      have hitem : item ∈ batch := (Function.update_self v batch s.alerts.queue) ▸ hv
      have hmatch := (List.mem_filter.mp (hbatch.subset hitem)).1
      obtain ⟨row, hrow, hactive, -, hsecret⟩ := lookup_of_mem_alertMatches hmatch
      exact ⟨row, hrow, hsecret.symm, hactive⟩
    · have hold : item ∈ s.alerts.queue v := (Function.update_of_ne hvw batch s.alerts.queue) ▸ hv
      exact h.toClaim item (.inl ⟨v, hold⟩)
  · exact h.toClaim item (.inr hspawned)

/-- A match that is spawned waits as it did. -/
theorem ReadInv.spawn {s : Watched} (h : ReadInv s) {i : Slot} {item : AlertMatch}
    {rest : List AlertMatch} (hqueue : s.alerts.queue i.1 = item :: rest) :
    ReadInv ⟨{ s.alerts with
      queue := Function.update s.alerts.queue i.1 rest
      task := Function.update s.alerts.task i (some ⟨item, .spawned⟩) }, s.late⟩ := by
  refine h.of_subset rfl ?_ ?_
  · rintro item' (⟨w, hw⟩ | ⟨j, hj⟩)
    · simp only [Function.update_apply] at hw
      by_cases hwi : w = i.1
      · rw [if_pos hwi] at hw
        exact h.toClaim item' (.inl ⟨i.1, hqueue ▸ List.mem_cons_of_mem item hw⟩)
      · rw [if_neg hwi] at hw
        exact h.toClaim item' (.inl ⟨w, hw⟩)
    · rcases Lib.slot_cases hj with ⟨-, hnew⟩ | ⟨-, hold⟩
      · cases hnew
        exact h.toClaim item (.inl ⟨i.1, hqueue ▸ List.mem_cons_self⟩)
      · exact h.toClaim item' (.inr ⟨j, hold⟩)
  · intro j item' since hj
    rcases Lib.slot_cases hj with ⟨-, hnew⟩ | ⟨-, hold⟩
    · cases hnew
    · exact hold

/-- A claim that is won is that of an active subscription. -/
theorem inactive_of_toClaim {s : Watched} (h : ReadInv s) {i : Slot} {item : AlertMatch}
    (hi : s.alerts.task i = some ⟨item, .spawned⟩) : inactive s.alerts i = false := by
  obtain ⟨row, hrow, -, hactive⟩ := h.toClaim item (.inr ⟨i, hi⟩)
  rw [inactive, hi, Option.bind_some, hrow]
  simp [hactive]

omit [LinearOrder κ] in
/-- A task that takes a step has nothing left to claim. -/
theorem ReadInv.task {s : Watched} (h : ReadInv s) {i : Slot} {task : Task} {e : TaskEvent}
    {ledger : Ledger} {next : Option Task} (htask : s.alerts.task i = some task)
    (hstep : TaskStep env s.alerts.now s.alerts.ledger task e ledger next) :
    ReadInv ⟨s.alerts.afterTask i task e ledger next, lateAfter s (.task i e)⟩ := by
  have hother : ∀ j, j ≠ i → (s.alerts.afterTask i task e ledger next).task j = s.alerts.task j :=
    fun j hji => AlertState.afterTask_other s.alerts task e ledger next hji
  have hlate : ∀ j, j ≠ i → lateAfter s (.task i e) j = s.late j := by
    intro j hji
    cases e with
    | claim => exact Function.update_of_ne hji ..
    | _ => rfl
  refine ⟨?_, ?_⟩
  · rintro item (⟨w, hw⟩ | ⟨j, hj⟩)
    · exact h.toClaim item (.inl ⟨w, hw⟩)
    · by_cases hji : j = i
      · subst hji
        rw [AlertState.afterTask_self] at hj
        cases hstep <;> cases hj
      · rw [hother j hji] at hj
        exact h.toClaim item (.inr ⟨j, hj⟩)
  · intro j item since hj
    by_cases hji : j = i
    · subst hji
      rw [AlertState.afterTask_self] at hj
      cases hstep with
      | claim hwon =>
          cases hj
          refine ⟨(h.toClaim item (.inr ⟨j, htask⟩)).secret, ?_⟩
          have hnow : lateAfter s (.task j .claim) j = inactive s.alerts j :=
            Function.update_self ..
          exact hnow.trans (inactive_of_toClaim h htask)
      | skip | reject | post | respond | record | abort => cases hj
    · rw [hother j hji] at hj
      obtain ⟨hsecret, hnot⟩ := h.claimed j item since hj
      exact ⟨hsecret, (hlate j hji).trans hnot⟩

theorem ReadInv.step {s s' : Watched} {l : AlertEvent} (h : ReadInv s)
    (hstep : WatchedStep env s l s') (hguard : NoneWaits s l s') : ReadInv s' := by
  obtain ⟨alerts, late⟩ := s'
  obtain ⟨hstep, hlate⟩ := hstep
  dsimp only at hstep hlate
  subst hlate
  cases hstep with
  | tick | index => exact ⟨h.toClaim, h.claimed⟩
  | subscribe => exact h.subscribe _
  | deactivate => exact h.deactivate hguard
  | rotate => exact h.rotate hguard
  | find hidle hlater hbatch => exact h.find hbatch
  | spawn hqueue hslot => exact h.spawn hqueue
  | task htask hstep => exact h.task htask hstep
  | @crash w =>
      refine h.of_subset rfl ?_ ?_
      · rintro item (⟨v, hv⟩ | ⟨j, hj⟩)
        · simp only [Function.update_apply] at hv
          by_cases hvw : v = w
          · rw [if_pos hvw] at hv
            cases hv
          · rw [if_neg hvw] at hv
            exact h.toClaim item (.inl ⟨v, hv⟩)
        · dsimp only at hj
          split at hj
          · cases hj
          · exact h.toClaim item (.inr ⟨j, hj⟩)
      · intro j item since hj
        dsimp only at hj
        split at hj
        · cases hj
        · exact hj

/-- In a run from idle dispatchers in which a subscription is rotated only while no match of it is
still to be sent, and deactivated only while none is still to be claimed, every POST is signed with
the secret of the moment, and none is claimed after a deactivation. -/
theorem admin_writes_take_effect {start : Watched} (hidle : ∀ w, start.alerts.Idle w) :
    RotationsTakeEffect env NoneWaits start ∧ DeactivationsTakeEffect env NoneWaits start := by
  have hposted : ∀ s i request s', Lib.Reaches (WatchedStep env) NoneWaits start s →
      WatchedStep env s (.task i (.post request)) s' →
      SignedNow env s.alerts i request ∧ s.late i = false := by
    intro s i request s' hrun hstep
    have hinv : ReadInv s :=
      hrun.invariant (fun _ _ _ h hstep hguard => h.step hstep hguard) (.start hidle)
    obtain ⟨alerts, late⟩ := s'
    obtain ⟨hstep, -⟩ := hstep
    dsimp only at hstep
    cases hstep with
    | task htask hstep =>
        cases hstep with
        | post hprepare =>
            obtain ⟨⟨row, hrow, hsecret⟩, hlate⟩ := hinv.claimed i _ _ htask
            refine ⟨⟨_, row, htask, hrow, ?_⟩, hlate⟩
            rw [hsecret]
            exact hprepare
  exact ⟨fun s i request s' hrun hstep => (hposted s i request s' hrun hstep).1,
    fun s i request s' hrun hstep => (hposted s i request s' hrun hstep).2⟩

/-! ## A write between the `SELECT` and the claim -/

/-- The deployment with one failed transaction, watched. -/
def watchedSample : Watched := ⟨sampleAlerts [1], fun _ => false⟩

/-- A match has been read, and then `alert_subscription` was written. -/
def writtenSample (item : AlertMatch) (subscriptions : Subscriptions) : Watched :=
  ⟨{ (sampleAlerts [1]).found 0 [item] with subscriptions }, fun _ => false⟩

theorem step_find : WatchedStep sampleEnv watchedSample (.find 0 [sampleMatch 1])
    (writtenSample (sampleMatch 1) (sampleAlerts [1]).subscriptions) :=
  watchedStep_of (find_sampleMatch rfl rfl ⟨rfl, fun _ => rfl⟩ nofun)

/-- What the match is sent with under a secret of 32 bytes. -/
def sampleRequest (b : UInt8) : WebhookRequest where
  url := "https://example.com/hook"
  signature := "sha256=" ++ signPayload sampleEnv (List.replicate 32 b)
    (buildPayload (sampleMatch 1)).toUTF8.toList
  body := buildPayload (sampleMatch 1)

/-- The secret is no part of what is sent. -/
theorem buildPayload_secret (item : AlertMatch) (secret : String) :
    buildPayload { item with signingSecret := secret } = buildPayload item := rfl

theorem prepareRequest_sampleSecret (b : UInt8) :
    prepareRequest sampleEnv { sampleMatch 1 with signingSecret := sampleSecret b } =
      .ok (sampleRequest b) := by
  have hurl : webhookUrlIsSafe sampleEnv.net "https://example.com/hook" = .ok () := rfl
  have hkey : hexDecode (sampleSecret b).toList = some (List.replicate 32 b) := by
    rw [sampleSecret, String.toList_ofList, hexDecode_bytesToHex]
  have hprepare := @prepareRequest_eq_ok _ sampleEnv
    { sampleMatch 1 with signingSecret := sampleSecret b } _ hurl hkey
  rw [buildPayload_secret (sampleMatch 1)] at hprepare
  exact hprepare

/-- The two secrets sign differently. -/
theorem sampleRequest_ne : sampleRequest 0x0c ≠ sampleRequest 0x0b := by
  intro heq
  have hsignature := congrArg WebhookRequest.signature heq
  have htext : signPayload sampleEnv (List.replicate 32 0x0c) _ =
      signPayload sampleEnv (List.replicate 32 0x0b) _ :=
    (String.append_right_inj "sha256=").mp hsignature
  have hbytes := bytesToHex_inj (String.ofList_injective htext)
  revert hbytes
  decide

/-- The match is spawned in the first slot. -/
def spawnedSample (item : AlertMatch) (subscriptions : Subscriptions) : Watched :=
  ⟨{ (writtenSample item subscriptions).alerts with
      queue := Function.update (writtenSample item subscriptions).alerts.queue 0 []
      task := Function.update (writtenSample item subscriptions).alerts.task (0, 0)
        (some ⟨item, .spawned⟩) },
    fun _ => false⟩

/-- And claimed. -/
def claimedSample (item : AlertMatch) (subscriptions : Subscriptions) : Watched :=
  ⟨(spawnedSample item subscriptions).alerts.afterTask (0, 0) ⟨item, .spawned⟩ .claim
      (tryClaimAlertMatch (fun _ => none) 1 item.key claimStaleAfterSecs).1
      (some ⟨item, .claimed 1⟩),
    lateAfter (spawnedSample item subscriptions) (.task (0, 0) .claim)⟩

theorem reaches_claimed {guard : Watched → AlertEvent → Watched → Prop} (item : AlertMatch)
    (subscriptions : Subscriptions) (hguard : ∀ s i e s', guard s (.task i e) s')
    (hspawn : ∀ s i s', guard s (.spawn i) s') :
    Lib.Reaches (WatchedStep sampleEnv) guard (writtenSample item subscriptions)
      (claimedSample item subscriptions) := by
  have hqueue : (writtenSample item subscriptions).alerts.queue 0 = [item] := rfl
  have hspawned : WatchedStep sampleEnv (writtenSample item subscriptions) (.spawn (0, 0))
      (spawnedSample item subscriptions) := ⟨.spawn hqueue rfl, rfl⟩
  have hwon : (tryClaimAlertMatch (fun _ => none) 1 item.key claimStaleAfterSecs).2 = true :=
    tryClaimAlertMatch_eq_true.mpr nofun
  have hclaimed : WatchedStep sampleEnv (spawnedSample item subscriptions) (.task (0, 0) .claim)
      (claimedSample item subscriptions) := ⟨.task rfl (.claim hwon), rfl⟩
  exact Lib.Reaches.cons _ hspawned (hspawn _ _ _)
    (Lib.Reaches.cons _ hclaimed (hguard _ _ _ _) .refl)

/-- It is sent as it was read. -/
theorem step_post {s : Watched} {item : AlertMatch} {request : WebhookRequest}
    (htask : s.alerts.task (0, 0) = some ⟨item, .claimed 1⟩)
    (hprepare : prepareRequest sampleEnv item = .ok request) :
    ∃ s', WatchedStep sampleEnv s (.task (0, 0) (.post request)) s' :=
  ⟨_, watchedStep_of (.task htask (.post hprepare))⟩

/-! ### Writes that no match waits for -/

/-- The subscription with another secret. -/
def rotatedSubscriptions : Subscriptions :=
  (rotateAlertSubscriptionSecret (sampleAlerts [1]).subscriptions 1 (sampleSecret 0x0c)).1

/-- Its match, read after the rotation. -/
def rotatedMatch : AlertMatch := { sampleMatch 1 with signingSecret := sampleSecret 0x0c }

/-- Rotated before the match is read. -/
def rotatedSample : Watched :=
  ⟨{ sampleAlerts [1] with subscriptions := rotatedSubscriptions }, fun _ => false⟩

/-- Deactivated after the match was claimed. -/
def deactivatedSample : Watched :=
  ⟨{ (claimedSample rotatedMatch rotatedSubscriptions).alerts with
      subscriptions := (deactivateAlertSubscription rotatedSubscriptions 1).1 },
    (claimedSample rotatedMatch rotatedSubscriptions).late⟩

theorem step_rotate : WatchedStep sampleEnv watchedSample (.rotate 1 (sampleSecret 0x0c))
    rotatedSample := ⟨.rotate, rfl⟩

theorem noneWaits_rotate :
    NoneWaits watchedSample (.rotate 1 (sampleSecret 0x0c)) rotatedSample := by
  rintro item ((⟨w, hw⟩ | ⟨i, hi⟩) | ⟨i, since, hi⟩)
  · cases hw
  · cases hi
  · cases hi

theorem step_find_rotated : WatchedStep sampleEnv rotatedSample (.find 0 [rotatedMatch])
    (writtenSample rotatedMatch rotatedSubscriptions) := by
  have hrows : alertMatches rotatedSubscriptions (sampleAlerts [1]).db = [rotatedMatch] := by
    decide +kernel
  have hbatch : FindPendingAlertMatches sampleEnv.collate rotatedSubscriptions
      (sampleAlerts [1]).db (fun _ => none) 0 dispatchBatch claimStaleAfterSecs [rotatedMatch] := by
    rw [FindPendingAlertMatches, pendingAlertMatches, hrows]
    exact ⟨[rotatedMatch], List.Perm.refl _, List.pairwise_singleton _ _, rfl⟩
  exact watchedStep_of (.find ⟨rfl, fun _ => rfl⟩ (Int.lt_succ 0) hbatch)

theorem step_deactivate : WatchedStep sampleEnv
    (claimedSample rotatedMatch rotatedSubscriptions) (.deactivate 1) deactivatedSample :=
  ⟨.deactivate, rfl⟩

theorem noneWaits_deactivate :
    NoneWaits (claimedSample rotatedMatch rotatedSubscriptions) (.deactivate 1)
      deactivatedSample := by
  rintro item (⟨w, hw⟩ | ⟨i, hi⟩)
  · by_cases hw0 : w = 0
    · subst hw0
      cases hw
    · have hqueue : (claimedSample rotatedMatch rotatedSubscriptions).alerts.queue w = [] :=
        (Function.update_of_ne hw0 _ _).trans (Function.update_of_ne hw0 _ _)
      rw [hqueue] at hw
      cases hw
  · rcases Lib.slot_cases hi with ⟨-, hnew⟩ | ⟨hne, hold⟩
    · cases hnew
    · rw [show (spawnedSample rotatedMatch rotatedSubscriptions).alerts.task i = none from
        Function.update_of_ne hne _ _] at hold
      cases hold

/-- The subscription is rotated before its match is read and deactivated after the match was
claimed. The POST is signed with the new secret, and its claim was not won too late. -/
theorem sample_signed_now :
    ∃ s', Lib.Reaches (WatchedStep sampleEnv) NoneWaits watchedSample s' ∧
      SignedNow sampleEnv s'.alerts (0, 0) (sampleRequest 0x0c) ∧
      inactive s'.alerts (0, 0) = true ∧ s'.late (0, 0) = false := by
  have hread : Lib.Reaches (WatchedStep sampleEnv) NoneWaits watchedSample
      (claimedSample rotatedMatch rotatedSubscriptions) :=
    Lib.Reaches.cons _ step_rotate noneWaits_rotate (Lib.Reaches.cons _ step_find_rotated trivial
      (reaches_claimed _ _ (fun _ _ _ _ => trivial) fun _ _ _ => trivial))
  have hrun : Lib.Reaches (WatchedStep sampleEnv) NoneWaits watchedSample deactivatedSample :=
    hread.tail ⟨_, step_deactivate, noneWaits_deactivate⟩
  obtain ⟨s', hpost⟩ := step_post (s := deactivatedSample) rfl (prepareRequest_sampleSecret 0x0c)
  have heffect : RotationsTakeEffect sampleEnv NoneWaits watchedSample ∧
      DeactivationsTakeEffect sampleEnv NoneWaits watchedSample :=
    admin_writes_take_effect fun _ => ⟨rfl, fun _ => rfl⟩
  exact ⟨_, hrun, heffect.1 _ _ _ _ hrun hpost, by decide +kernel,
    heffect.2 _ _ _ _ hrun hpost⟩

/-! ### Writes that come too late -/

/-- A rotation after the match was read: the POST is signed with the old secret. A deactivation
then: the match is claimed and sent all the same. -/
theorem admin_writes_come_late :
    ¬ RotationsTakeEffect sampleEnv Lib.anyStep watchedSample ∧
      ¬ DeactivationsTakeEffect sampleEnv Lib.anyStep watchedSample := by
  have hsent : ∀ subscriptions, ∃ s', WatchedStep sampleEnv
      (claimedSample (sampleMatch 1) subscriptions)
      (.task (0, 0) (.post (sampleRequest 0x0b))) s' :=
    fun _ => step_post rfl (prepareRequest_sampleMatch 1)
  constructor
  · intro hall
    have hrotate : WatchedStep sampleEnv
        (writtenSample (sampleMatch 1) (sampleAlerts [1]).subscriptions)
        (.rotate 1 (sampleSecret 0x0c)) (writtenSample (sampleMatch 1) rotatedSubscriptions) :=
      ⟨.rotate, rfl⟩
    have hrun : Lib.Reaches (WatchedStep sampleEnv) Lib.anyStep watchedSample _ :=
      Lib.Reaches.cons _ step_find trivial (Lib.Reaches.cons _ hrotate trivial
        (reaches_claimed _ _ (fun _ _ _ _ => trivial) fun _ _ _ => trivial))
    obtain ⟨s', hpost⟩ := hsent rotatedSubscriptions
    obtain ⟨task, row, htask, hrow, hrequest⟩ := hall _ _ _ _ hrun hpost
    have htask' : ⟨sampleMatch 1, .claimed 1⟩ = task := Option.some.inj htask
    subst htask'
    have hrow' : { sampleSubscription with signingSecret := sampleSecret 0x0c } = row :=
      Option.some.inj hrow
    subst hrow'
    have hsame := (prepareRequest_sampleSecret 0x0c).symm.trans hrequest
    exact sampleRequest_ne (Except.ok.inj hsame)
  · intro hall
    have hdeactivate : WatchedStep sampleEnv
        (writtenSample (sampleMatch 1) (sampleAlerts [1]).subscriptions)
        (.deactivate 1) (writtenSample (sampleMatch 1) _) := ⟨.deactivate, rfl⟩
    have hrun : Lib.Reaches (WatchedStep sampleEnv) Lib.anyStep watchedSample _ :=
      Lib.Reaches.cons _ step_find trivial (Lib.Reaches.cons _ hdeactivate trivial
        (reaches_claimed _ _ (fun _ _ _ _ => trivial) fun _ _ _ => trivial))
    obtain ⟨s', hpost⟩ := hsent (deactivateAlertSubscription (sampleAlerts [1]).subscriptions 1).1
    have hlate := hall _ _ _ _ hrun hpost
    revert hlate
    decide

end TxIndexer.Proofs
