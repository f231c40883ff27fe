import TxIndexer.Proofs.AdminTables
import TxIndexer.Indexer.AlertRuns
import TxIndexer.Indexer.RateAlerts
import TxIndexer.Client.Webhook

/-!
# The admin API and the dispatchers

The two halves of the dispatcher read one table, each the rows of its own type. What the admin
API does to the table is a step of each half's environment, so whatever holds of runs of the
dispatchers among arbitrary administrators holds of runs next to this API. And whoever verifies
webhooks with the secret the API last told accepts what the dispatchers send, and nothing else.
-/

namespace TxIndexer.Api.Admin

open Db Indexer Lib

/-! ## What each half reads -/

/-- A row as the per-event half reads it. -/
def perEventRow (r : SubscriptionRow) : AlertSubscription where
  subscriptionId := r.subscriptionId
  errorCategory := r.errorCategory
  toAddr := r.toAddr
  webhookUrl := r.webhookUrl
  signingSecret := r.signingSecret
  active := r.active
  subType := r.subType

/-- A `rate_threshold` row as the rate half reads it. -/
def rateRow (r : SubscriptionRow) : Option RateSubscription :=
  match r.subType, r.thresholdCount, r.thresholdWindowSecs, r.debounceSecs with
  | .rateThreshold, some count, some window, some debounce =>
      if h : 0 < count ∧ 0 < window ∧ 0 ≤ debounce then
        some {
          subscriptionId := r.subscriptionId
          errorCategory := r.errorCategory
          toAddr := r.toAddr
          webhookUrl := r.webhookUrl
          signingSecret := r.signingSecret
          active := r.active
          thresholdCount := count
          thresholdWindowSecs := window
          debounceSecs := debounce
          thresholdCount_pos := h.1
          thresholdWindowSecs_pos := h.2.1
          debounceSecs_nonneg := h.2.2 }
      else none
  | _, _, _, _ => none

theorem rateRow_eq_some {r : SubscriptionRow} {sub : RateSubscription}
    (h : rateRow r = some sub) :
    r.subType = .rateThreshold ∧ sub.subscriptionId = r.subscriptionId ∧
      sub.webhookUrl = r.webhookUrl ∧ sub.signingSecret = r.signingSecret ∧
      sub.active = r.active := by
  unfold rateRow at h
  split at h
  · next htype _ _ _ =>
      split at h
      · cases h
        exact ⟨htype, rfl, rfl, rfl, rfl⟩
      · cases h
  · cases h

/-- The `CHECK` lets the rate half read every row of its type. -/
theorem rateRow_isSome {r : SubscriptionRow} (hchk : r.RateFieldsChk)
    (htype : r.subType = .rateThreshold) : (rateRow r).isSome = true := by
  rcases hchk with ⟨hper, -⟩ | ⟨-, ⟨count, hcount, hcountPos⟩, ⟨window, hwindow, hwindowPos⟩,
    debounce, hdebounce, hdebounceNonneg⟩
  · rw [htype] at hper
    cases hper
  · have hcount := Option.mem_def.mp hcount
    have hwindow := Option.mem_def.mp hwindow
    have hdebounce := Option.mem_def.mp hdebounce
    simp [rateRow, htype, hcount, hwindow, hdebounce, hcountPos, hwindowPos, hdebounceNonneg]

/-- The table as the per-event half reads it. -/
def perEventTable (t : SubscriptionTable) : Subscriptions :=
  t.table.filterMapRows (fun r => some (perEventRow r)) fun r b h => by cases h; rfl

/-- The table as the rate half reads it. -/
def rateTable (t : SubscriptionTable) : RateSubscriptions :=
  t.table.filterMapRows rateRow fun _ _ h => (rateRow_eq_some h).2.1

/-! ## One request -/

theorem perEventTable_insert {t t' : SubscriptionTable} {now : Int} {new : NewSubscription}
    {row : SubscriptionRow} (h : t.insert now new = (t', some row)) :
    perEventTable t' = (perEventTable t).insertNew [perEventRow row] ∧
      row.subscriptionId ∉ (perEventTable t).keys := by
  obtain ⟨-, -, -, -, hfresh, htable, -⟩ := SubscriptionTable.insert_eq_some h
  refine ⟨?_, fun hmem => hfresh (KeyedTable.keys_filterMapRows_subset t.table hmem)⟩
  rw [perEventTable, perEventTable, htable]
  exact KeyedTable.filterMapRows_insertNew hfresh

theorem rateTable_insert {t t' : SubscriptionTable} {now : Int} {new : NewSubscription}
    {row : SubscriptionRow} (h : t.insert now new = (t', some row)) :
    rateTable t' = (rateTable t).insertNew (rateRow row).toList ∧
      row.subscriptionId ∉ (rateTable t).keys := by
  obtain ⟨-, -, -, -, hfresh, htable, -⟩ := SubscriptionTable.insert_eq_some h
  refine ⟨?_, fun hmem => hfresh (KeyedTable.keys_filterMapRows_subset t.table hmem)⟩
  rw [rateTable, rateTable, htable]
  exact KeyedTable.filterMapRows_insertNew hfresh

/-- An update of the active row with an id, as the per-event half sees it. -/
theorem perEventRow_update {f : SubscriptionRow → SubscriptionRow}
    {g : AlertSubscription → AlertSubscription} (hfg : ∀ r, perEventRow (f r) = g (perEventRow r))
    (id : Int) (r : SubscriptionRow) :
    some (perEventRow (if SubscriptionRow.isActive id r then f r else r)) =
      (some (perEventRow r)).map fun s =>
        if decide (s.subscriptionId = id ∧ s.active = true) then g s else s := by
  show _ = some (if SubscriptionRow.isActive id r then g (perEventRow r) else perEventRow r)
  split
  · rw [hfg]
  · rfl

theorem perEventTable_deactivate (t : SubscriptionTable) (id : Int) :
    perEventTable (t.deactivateAlertSubscription id).1 =
      (Db.deactivateAlertSubscription (perEventTable t) id).1 :=
  KeyedTable.filterMapRows_modify (by intro; rfl) (by intro; rfl)
    (perEventRow_update (fun _ => rfl) id)

theorem perEventTable_rotate (t : SubscriptionTable) (id : Int) (newSecret : String) :
    perEventTable (t.rotateAlertSubscriptionSecret id newSecret).1 =
      (Db.rotateAlertSubscriptionSecret (perEventTable t) id newSecret).1 :=
  KeyedTable.filterMapRows_modify (by intro; rfl) (by intro; rfl)
    (perEventRow_update (fun _ => rfl) id)

theorem rateRow_deactivate (r : SubscriptionRow) :
    rateRow r.deactivate = (rateRow r).map fun s => { s with active := false } := by
  unfold rateRow SubscriptionRow.deactivate
  simp only
  split
  · split
    · rfl
    · rfl
  · rfl

theorem rateRow_rotate (newSecret : String) (r : SubscriptionRow) :
    rateRow (r.rotate newSecret) =
      (rateRow r).map fun s => { s with signingSecret := newSecret } := by
  unfold rateRow SubscriptionRow.rotate
  simp only
  split
  · split
    · rfl
    · rfl
  · rfl

/-- An update of the active row with an id, as the rate half sees it. -/
theorem rateRow_update {f : SubscriptionRow → SubscriptionRow}
    {g : RateSubscription → RateSubscription} (hfg : ∀ r, rateRow (f r) = (rateRow r).map g)
    (id : Int) (r : SubscriptionRow) :
    rateRow (if SubscriptionRow.isActive id r then f r else r) =
      (rateRow r).map fun s =>
        if decide (s.subscriptionId = id ∧ s.active = true) then g s else s := by
  cases hr : rateRow r with
  | none =>
      split
      · rw [hfg, hr]
        rfl
      · rw [hr]
        rfl
  | some sub =>
      obtain ⟨-, hid, -, -, hactive⟩ := rateRow_eq_some hr
      simp only [SubscriptionRow.isActive, ← hid, ← hactive, Option.map_some]
      split
      · rw [hfg, hr]
        rfl
      · exact hr

theorem rateTable_deactivate (t : SubscriptionTable) (id : Int) :
    rateTable (t.deactivateAlertSubscription id).1 =
      deactivateRateSubscription (rateTable t) id :=
  KeyedTable.filterMapRows_modify (by intro; rfl) (by intro; rfl)
    (rateRow_update rateRow_deactivate id)

theorem rateTable_rotate (t : SubscriptionTable) (id : Int) (newSecret : String) :
    rateTable (t.rotateAlertSubscriptionSecret id newSecret).1 =
      rotateRateSubscriptionSecret (rateTable t) id newSecret :=
  KeyedTable.filterMapRows_modify (by intro; rfl) (by intro; rfl)
    (rateRow_update (rateRow_rotate newSecret) id)

/-- A step of an administrator. -/
def isAdminEvent : AlertEvent → Bool
  | .subscribe _ => true
  | .deactivate _ => true
  | .rotate _ _ => true
  | _ => false

@[inherit_doc isAdminEvent]
def isAdminRateEvent : RateEvent → Bool
  | .subscribe _ => true
  | .deactivate _ => true
  | .rotate _ _ => true
  | _ => false

section Drive

variable {κ : Type} [LinearOrder κ] {alerts : AlertEnv κ} {env : ApiEnv} {s s' : AdminState}
  {c : Call} {response : Response}

/-- What a request does is at most one step of an administrator next to the per-event half. -/
theorem Effect.alertSteps (h : Effect env s c s' response) {a : AlertState}
    (ha : a.subscriptions = perEventTable s.subscriptions) :
    Reaches (AlertStep alerts) (fun _ l _ => isAdminEvent l = true) a
      { a with subscriptions := perEventTable s'.subscriptions } := by
  have hquiet : Reaches (AlertStep alerts) (fun _ l _ => isAdminEvent l = true) a
      { a with subscriptions := perEventTable s.subscriptions } := by
    rw [← ha]
  cases h with
  | quiet => exact hquiet
  | labelled => exact hquiet
  | unlabelled => exact hquiet
  | @created t row body sub hreq hcheck hinsert =>
      obtain ⟨htable, hfresh⟩ := perEventTable_insert hinsert
      show Reaches _ _ a { a with subscriptions := perEventTable t }
      rw [htable, ← ha]
      rw [← ha] at hfresh
      exact .single ⟨.subscribe (perEventRow row), .subscribe hfresh, rfl⟩
  | @deactivated id hreq =>
      rw [perEventTable_deactivate, ← ha]
      exact .single ⟨.deactivate id, .deactivate, rfl⟩
  | @rotated id buf row hreq hentropy hrow =>
      rw [perEventTable_rotate, ← ha]
      exact .single ⟨.rotate id _, .rotate, rfl⟩

omit [LinearOrder κ] in
/-- And next to the rate half. -/
theorem Effect.rateSteps (h : Effect env s c s' response) {a : RateState}
    (ha : a.subscriptions = rateTable s.subscriptions) :
    Reaches (RateStep alerts) (fun _ l _ => isAdminRateEvent l = true) a
      { a with subscriptions := rateTable s'.subscriptions } := by
  have hquiet : Reaches (RateStep alerts) (fun _ l _ => isAdminRateEvent l = true) a
      { a with subscriptions := rateTable s.subscriptions } := by
    rw [← ha]
  cases h with
  | quiet => exact hquiet
  | labelled => exact hquiet
  | unlabelled => exact hquiet
  | @created t row body sub hreq hcheck hinsert =>
      obtain ⟨htable, hfresh⟩ := rateTable_insert hinsert
      show Reaches _ _ a { a with subscriptions := rateTable t }
      rw [htable]
      cases hrow : rateRow row with
      | none =>
          rw [Option.toList_none, KeyedTable.insertNew_nil]
          exact hquiet
      | some sub' =>
          rw [← (rateRow_eq_some hrow).2.1, ← ha] at hfresh
          rw [← ha]
          exact .single ⟨.subscribe sub', .subscribe hfresh, rfl⟩
  | @deactivated id hreq =>
      rw [rateTable_deactivate, ← ha]
      exact .single ⟨.deactivate id, .deactivate, rfl⟩
  | @rotated id buf row hreq hentropy hrow =>
      rw [rateTable_rotate, ← ha]
      exact .single ⟨.rotate id _, .rotate, rfl⟩

end Drive

/-- The admin API is one of the administrators the dispatchers are verified against: a run of it
on the one table is, next to either half of the dispatcher in any state, a run of subscribe,
deactivate and rotate steps of that half's environment, which ends in what the half reads of the
table; and the half reads every active row of its type. -/
theorem serve_drives_dispatchers {κ : Type} [LinearOrder κ] (alerts : AlertEnv κ) (env : ApiEnv)
    (key : String) {s : AdminState} (hs : s.Checked env.net) (calls : List Call) :
    (∀ a : AlertState, a.subscriptions = perEventTable s.subscriptions →
      Reaches (AlertStep alerts) (fun _ l _ => isAdminEvent l = true) a
        { a with subscriptions :=
            perEventTable (serve (handle env key) s calls).1.subscriptions }) ∧
    (∀ a : RateState, a.subscriptions = rateTable s.subscriptions →
      Reaches (RateStep alerts) (fun _ l _ => isAdminRateEvent l = true) a
        { a with subscriptions := rateTable (serve (handle env key) s calls).1.subscriptions }) ∧
    ∀ r ∈ (serve (handle env key) s calls).1.subscriptions.table,
      perEventRow r ∈ perEventTable (serve (handle env key) s calls).1.subscriptions ∧
      (r.subType = .rateThreshold → ∃ sub, rateRow r = some sub ∧
        sub ∈ rateTable (serve (handle env key) s calls).1.subscriptions) := by
  refine ⟨?_, ?_, ?_⟩
  · induction calls using List.reverseRecOn with
    | nil =>
        intro a ha
        rw [serve_nil, ← ha]
    | append_singleton calls c ih =>
        intro a ha
        rw [serve_concat]
        exact (ih a ha).trans
          ((handle_effect (serve_checked key hs calls).sequenced).alertSteps rfl)
  · induction calls using List.reverseRecOn with
    | nil =>
        intro a ha
        rw [serve_nil, ← ha]
    | append_singleton calls c ih =>
        intro a ha
        rw [serve_concat]
        exact (ih a ha).trans
          ((handle_effect (serve_checked key hs calls).sequenced).rateSteps rfl)
  · intro r hr
    refine ⟨KeyedTable.mem_filterMapRows.mpr ⟨r, hr, rfl⟩, ?_⟩
    intro htype
    have hsome := rateRow_isSome
      ((serve (handle env key) s calls).1.subscriptions.rateFieldsChk r hr) htype
    obtain ⟨sub, hsub⟩ := Option.isSome_iff_exists.mp hsome
    exact ⟨sub, hsub, KeyedTable.mem_filterMapRows.mpr ⟨r, hr, hsub⟩⟩

theorem serve_drives_dispatchers_sample :
    Reaches (AlertStep Indexer.sampleEnv) (fun _ l _ => isAdminEvent l = true)
      ⟨0, perEventTable .empty, .empty, fun _ => none, fun _ => [], fun _ => none, []⟩
      ⟨0, perEventTable (serve (handle sampleApiEnv "key") ⟨.empty, ∅⟩ sampleCalls).1.subscriptions,
        .empty, fun _ => none, fun _ => [], fun _ => none, []⟩ :=
  (serve_drives_dispatchers Indexer.sampleEnv sampleApiEnv "key" (checked_empty _) sampleCalls).1 _ rfl

/-! ## What a receiver accepts -/

section Receiver

open Client

variable {κ : Type} {alerts : AlertEnv κ} {key : Vector UInt8 32} {secret : String}

/-- The secrets the API draws are ones a receiver takes. -/
theorem isSigningSecret_of_drawn (hsecret : secret = String.ofList (bytesToHex key.toList)) :
    isSigningSecret secret = true ∧ bufferFromHex secret.toList = key.toList := by
  rw [hsecret, isSigningSecret_iff, String.toList_ofList, length_bytesToHex]
  refine ⟨⟨?_, isHexDigit_bytesToHex⟩, bufferFromHex_of_hexDecode (hexDecode_bytesToHex _)⟩
  rw [Vector.length_toList]

/-- The digits of a signature. -/
theorem signatureDigits_signPayload (hmac : ∀ key body, (alerts.hmacSha256 key body).length = 32)
    (bytes payload : Bytes) :
    signatureDigits (some ("sha256=" ++ signPayload alerts bytes payload)) =
      some (bytesToHex (alerts.hmacSha256 bytes payload)) := by
  rw [signatureDigits_eq_some]
  refine ⟨?_, ?_, isHexDigit_bytesToHex⟩
  · have hprefix : String.ofList signaturePrefix = "sha256=" := String.ofList_toList
    rw [signPayload, String.ofList_append, hprefix]
  · intro hnil
    have hlength := congrArg List.length hnil
    rw [length_bytesToHex, hmac] at hlength
    cases hlength

/-- Both receivers take the signature of one text for another exactly if their codes agree. -/
theorem verify_signPayload (hmac : ∀ key body, (alerts.hmacSha256 key body).length = 32)
    (hsecret : secret = String.ofList (bytesToHex key.toList)) (payload body : Bytes) :
    (verifyAlertSignatureTs alerts.hmacSha256 body
        (some ("sha256=" ++ signPayload alerts key.toList payload)) secret = true ↔
      alerts.hmacSha256 key.toList body = alerts.hmacSha256 key.toList payload) ∧
    (verifyAlertSignaturePy alerts.hmacSha256 body
        (some ("sha256=" ++ signPayload alerts key.toList payload)) secret = true ↔
      alerts.hmacSha256 key.toList body = alerts.hmacSha256 key.toList payload) := by
  obtain ⟨hok, hkey⟩ := isSigningSecret_of_drawn hsecret
  have hdecode := hexDecode_bytesToHex (alerts.hmacSha256 key.toList payload)
  rw [verifyAlertSignatureTs_eq_true, verifyAlertSignaturePy_eq_true,
    signatureDigits_signPayload hmac]
  simp only [hok, hkey, true_and, Option.some.injEq, exists_eq_left', hdecode,
    bufferFromHex_of_hexDecode hdecode]
  exact ⟨eq_comm, eq_comm⟩

end Receiver

/-- A match of the per-event half comes from a row. -/
theorem mem_of_alertMatches {t : SubscriptionTable} {db : Database} {m : AlertMatch}
    (hm : m ∈ alertMatches (perEventTable t) db) :
    ∃ r ∈ t.table, m.subscriptionId = r.subscriptionId ∧ m.webhookUrl = r.webhookUrl ∧
      m.signingSecret = r.signingSecret := by
  obtain ⟨s, hs, f, -, -, rfl⟩ := mem_alertMatches.mp hm
  obtain ⟨r, hr, hrow⟩ := KeyedTable.mem_filterMapRows.mp hs
  cases hrow
  exact ⟨r, hr, rfl, rfl, rfl⟩

/-- A match of the rate half comes from a row. -/
theorem mem_of_rateMatches {t : SubscriptionTable} {db : Database} {dispatches : RateDispatches}
    {now : Int} {m : RateAlertMatch}
    (hm : m ∈ pendingRateAlertMatches (rateTable t) db dispatches now) :
    ∃ r ∈ t.table, m.subscriptionId = r.subscriptionId ∧ m.webhookUrl = r.webhookUrl ∧
      m.signingSecret = r.signingSecret := by
  obtain ⟨s, hs, rfl⟩ := List.mem_map.mp hm
  obtain ⟨r, hr, hrow⟩ := KeyedTable.mem_filterMapRows.mp (List.mem_filter.mp hs).1
  obtain ⟨-, hid, hurl, hsecret, -⟩ := rateRow_eq_some hrow
  exact ⟨r, hr, hid, hurl, hsecret⟩

/-- The request a match of either half is sent as carries the signature of its body. -/
theorem signed_of_prepared {κ : Type} {alerts : AlertEnv κ} {net : NetText} {t : SubscriptionTable}
    {db : Database} {dispatches : RateDispatches} {now subscriptionId : Int}
    {request : WebhookRequest} (hrows : ∀ r ∈ t.table, CheckedRow net r)
    (hsend : (∃ m ∈ alertMatches (perEventTable t) db,
        m.subscriptionId = subscriptionId ∧ prepareRequest alerts m = .ok request) ∨
      ∃ m ∈ pendingRateAlertMatches (rateTable t) db dispatches now,
        m.subscriptionId = subscriptionId ∧ prepareRateRequest alerts m = .ok request) :
    ∃ r ∈ t.table, r.subscriptionId = subscriptionId ∧ ∃ key : Vector UInt8 32,
      r.signingSecret = String.ofList (bytesToHex key.toList) ∧
      request.signature =
        "sha256=" ++ signPayload alerts key.toList request.body.toUTF8.toList := by
  rcases hsend with ⟨m, hm, rfl, hprepare⟩ | ⟨m, hm, rfl, hprepare⟩
  · obtain ⟨r, hr, hid, -, hsecret⟩ := mem_of_alertMatches hm
    obtain ⟨key, hkey⟩ := (hrows r hr).secret
    refine ⟨r, hr, hid.symm, key, hkey, ?_⟩
    have hdecode : hexDecode m.signingSecret.toList = some key.toList := by
      rw [hsecret, hkey, String.toList_ofList, hexDecode_bytesToHex]
    unfold prepareRequest at hprepare
    split at hprepare
    · cases hprepare
    · rw [hdecode] at hprepare
      cases hprepare
      rfl
  · obtain ⟨r, hr, hid, -, hsecret⟩ := mem_of_rateMatches hm
    obtain ⟨key, hkey⟩ := (hrows r hr).secret
    refine ⟨r, hr, hid.symm, key, hkey, ?_⟩
    have hdecode : hexDecode m.signingSecret.toList = some key.toList := by
      rw [hsecret, hkey, String.toList_ofList, hexDecode_bytesToHex]
    unfold prepareRateRequest at hprepare
    split at hprepare
    · cases hprepare
    · rw [hdecode] at hprepare
      cases hprepare
      rfl

/-- Whoever keeps the secret the API last told for a subscription verifies its webhooks. In every
run from empty tables, the request for every match that either half of the dispatcher reads at
its end is accepted under that secret by both receivers, and another body is accepted with the
same signature exactly if its code under that secret is the same. -/
theorem serve_webhooks_verify {κ : Type} (alerts : AlertEnv κ)
    (hmac : ∀ key body, (alerts.hmacSha256 key body).length = 32) (env : ApiEnv) (key : String)
    {labels : LabelTable} (hs : AdminState.Checked env.net ⟨.empty, labels⟩) (calls : List Call)
    (db : Database) (dispatches : RateDispatches) (now subscriptionId : Int)
    (request : WebhookRequest)
    (hsend : (∃ m ∈ alertMatches
        (perEventTable (serve (handle env key) ⟨.empty, labels⟩ calls).1.subscriptions) db,
        m.subscriptionId = subscriptionId ∧ prepareRequest alerts m = .ok request) ∨
      ∃ m ∈ pendingRateAlertMatches
        (rateTable (serve (handle env key) ⟨.empty, labels⟩ calls).1.subscriptions) db dispatches
        now, m.subscriptionId = subscriptionId ∧ prepareRateRequest alerts m = .ok request) :
    ∃ secret, lastTold subscriptionId (serve (handle env key) ⟨.empty, labels⟩ calls).2 =
        some secret ∧
      ∀ body,
        (Client.verifyAlertSignatureTs alerts.hmacSha256 body (some request.signature) secret =
          true ↔ alerts.hmacSha256 (Client.bufferFromHex secret.toList) body =
            alerts.hmacSha256 (Client.bufferFromHex secret.toList) request.body.toUTF8.toList) ∧
        (Client.verifyAlertSignaturePy alerts.hmacSha256 body (some request.signature) secret =
          true ↔ alerts.hmacSha256 (Client.bufferFromHex secret.toList) body =
            alerts.hmacSha256 (Client.bufferFromHex secret.toList)
              request.body.toUTF8.toList) := by
  obtain ⟨r, hr, rfl, secretKey, hsecret, hsignature⟩ :=
    signed_of_prepared (serve_checked key hs calls).subscriptions hsend
  have htold : lastTold r.subscriptionId (serve (handle env key) ⟨.empty, labels⟩ calls).2 =
      some r.signingSecret := by
    rcases serve_known env key hs calls r hr with htold | ⟨-, r₀, hr₀, -⟩
    · exact htold
    · exact absurd hr₀ List.not_mem_nil
  refine ⟨r.signingSecret, htold, ?_⟩
  intro body
  rw [hsignature, (isSigningSecret_of_drawn hsecret).2]
  exact verify_signPayload hmac hsecret _ body

/-- The sample dispatchers, every code of theirs with its 32 bytes. -/
def paddedEnv : AlertEnv Nat :=
  { sampleEnv with
    hmacSha256 := fun secret body =>
      if (sampleEnv.hmacSha256 secret body).length = 32 then sampleEnv.hmacSha256 secret body
      else List.replicate 32 0 }

theorem length_hmacSha256_paddedEnv (secret body : Bytes) :
    (paddedEnv.hmacSha256 secret body).length = 32 := by
  show (if _ then _ else _ : Bytes).length = 32
  split
  · assumption
  · exact List.length_replicate

/-- What the administrator leaves behind. -/
def sampleRow : SubscriptionRow where
  subscriptionId := 1
  errorCategory := none
  toAddr := none
  webhookUrl := "https://example.com/hook"
  signingSecret := sampleSecret 0x0c
  active := true
  createdAt := 10
  subType := .perEvent
  thresholdCount := none
  thresholdWindowSecs := none
  debounceSecs := none

theorem rows_sampleCalls :
    (serve (handle sampleApiEnv "key") ⟨.empty, ∅⟩ sampleCalls).1.subscriptions.table.rows =
      [sampleRow] := by
  decide +kernel

/-- The match of that row and the failed transaction of the sample dispatchers. -/
def sampleRowMatch : AlertMatch := alertMatch (perEventRow sampleRow) (sampleFailed 1)

/-- The request it is sent as. -/
def sampleRowRequest : WebhookRequest where
  url := "https://example.com/hook"
  signature := "sha256=" ++ signPayload paddedEnv (List.replicate 32 0x0c)
    (buildPayload sampleRowMatch).toUTF8.toList
  body := buildPayload sampleRowMatch

theorem sampleRowMatch_mem : sampleRowMatch ∈ alertMatches
    (perEventTable (serve (handle sampleApiEnv "key") ⟨.empty, ∅⟩ sampleCalls).1.subscriptions)
    (sampleAlerts [1]).db := by
  have hrows : (sampleAlerts [1]).db.failedTransaction.rows = [sampleFailed 1] :=
    KeyedTable.rows_insertNew_empty (List.nodup_singleton _)
  refine mem_alertMatches.mpr ⟨perEventRow sampleRow, ?_, sampleFailed 1, ?_, ?_, rfl⟩
  · refine KeyedTable.mem_filterMapRows.mpr ⟨sampleRow, ?_, rfl⟩
    rw [KeyedTable.mem_def, rows_sampleCalls]
    exact List.mem_singleton_self _
  · rw [KeyedTable.mem_def, hrows]
    exact List.mem_singleton_self _
  · exact ⟨.inl rfl, rfl, rfl, .inl rfl⟩

theorem prepareRequest_sampleRowMatch :
    prepareRequest paddedEnv sampleRowMatch = .ok sampleRowRequest := by
  apply prepareRequest_eq_ok
  · rfl
  · show hexDecode (String.ofList (bytesToHex (List.replicate 32 0x0c))).toList = _
    rw [String.toList_ofList, hexDecode_bytesToHex]

theorem serve_webhooks_verify_sample :
    ∃ secret, lastTold 1 (serve (handle sampleApiEnv "key") ⟨.empty, ∅⟩ sampleCalls).2 =
        some secret ∧
      ∀ body,
        (Client.verifyAlertSignatureTs paddedEnv.hmacSha256 body
            (some sampleRowRequest.signature) secret = true ↔
          paddedEnv.hmacSha256 (Client.bufferFromHex secret.toList) body =
            paddedEnv.hmacSha256 (Client.bufferFromHex secret.toList)
              sampleRowRequest.body.toUTF8.toList) ∧
        (Client.verifyAlertSignaturePy paddedEnv.hmacSha256 body
            (some sampleRowRequest.signature) secret = true ↔
          paddedEnv.hmacSha256 (Client.bufferFromHex secret.toList) body =
            paddedEnv.hmacSha256 (Client.bufferFromHex secret.toList)
              sampleRowRequest.body.toUTF8.toList) :=
  serve_webhooks_verify paddedEnv length_hmacSha256_paddedEnv sampleApiEnv "key" (checked_empty _)
    sampleCalls (sampleAlerts [1]).db ∅ 0 1 sampleRowRequest
    (.inl ⟨sampleRowMatch, sampleRowMatch_mem, rfl, prepareRequest_sampleRowMatch⟩)

end TxIndexer.Api.Admin
