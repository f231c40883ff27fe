import TxIndexer.Indexer.Alerts

/-!
# Runs of the alert dispatcher

What becomes of one match when nothing interferes, and a small deployment to run it on.
-/

namespace TxIndexer.Indexer

open Db

variable {κ : Type} [LinearOrder κ] {env : AlertEnv κ} {s : AlertState}

/-! ## One match on its own -/

namespace AlertState

/-- The state once the first match of a queue has been spawned in slot `i`, claimed, and worked on
up to its record. -/
def recordingFirst (s : AlertState) (i : Slot) (item : AlertMatch) (rest : List AlertMatch)
    (result : Bool × Option String) : AlertState :=
  { s with
    ledger := (tryClaimAlertMatch s.ledger s.now item.key claimStaleAfterSecs).1
    queue := Function.update s.queue i.1 rest
    task := Function.update s.task i (some ⟨item, .recording s.now result.1 result.2⟩)
    succeeded := if result.1 then item.key :: s.succeeded else s.succeeded }

end AlertState

section OneMatch

variable {guard : AlertState → AlertEvent → AlertState → Prop} {i : Slot} {item : AlertMatch}
  {rest : List AlertMatch}

/-- A match that is sent, and answered. -/
theorem reaches_answered (hqueue : s.queue i.1 = item :: rest) (hslot : s.task i = none)
    (hwins : s.claimWins item.key = true) {request : WebhookRequest}
    (hprepare : prepareRequest env item = .ok request) (answer : HttpAnswer)
    (hspawn : ∀ s', guard s (.spawn i) s')
    (hclaim : ∀ s₁ s', guard s₁ (.task i .claim) s')
    (hpost : ∀ s₁ s', guard s₁ (.task i (.post request)) s')
    (hrespond : ∀ s₁ s', s₁.task i = some ⟨item, .posting s.now⟩ →
      guard s₁ (.task i (.respond answer)) s') :
    Lib.Reaches (AlertStep env) guard s
      (s.recordingFirst i item rest (recordOf (postSigned answer))) := by
  refine .cons _ (.spawn hqueue hslot) (hspawn _) ?_
  refine .cons _ (.task (Function.update_self ..) (.claim hwins)) (hclaim _ _) ?_
  refine .cons _ (.task (AlertState.afterTask_self ..) (.post hprepare)) (hpost _ _) ?_
  refine .cons _ (.task (AlertState.afterTask_self ..) .respond)
    (hrespond _ _ (AlertState.afterTask_self ..)) ?_
  simp only [AlertState.afterTask, Function.update_idem]
  exact .refl

/-- A match that cannot be sent. -/
theorem reaches_rejected (hqueue : s.queue i.1 = item :: rest) (hslot : s.task i = none)
    (hwins : s.claimWins item.key = true) {error : String}
    (hprepare : prepareRequest env item = .error error)
    (hspawn : ∀ s', guard s (.spawn i) s')
    (hclaim : ∀ s₁ s', guard s₁ (.task i .claim) s')
    (hreject : ∀ s₁ s', guard s₁ (.task i .reject) s') :
    Lib.Reaches (AlertStep env) guard s (s.recordingFirst i item rest (false, some error)) := by
  refine .cons _ (.spawn hqueue hslot) (hspawn _) ?_
  refine .cons _ (.task (Function.update_self ..) (.claim hwins)) (hclaim _ _) ?_
  refine .cons _ (.task (AlertState.afterTask_self ..) (.reject hprepare)) (hreject _ _) ?_
  simp only [AlertState.afterTask, Function.update_idem]
  exact .refl

end OneMatch

/-! ## One subscription and one failed transaction -/

/-- An environment that knows one webhook URL, orders hashes by their value, and knows the
signatures of the body `{"subscription_id":1,"tx_hash":"0x0…01"}` under two secrets. -/
def sampleEnv : AlertEnv Nat where
  collate hash := (hexNat (stripHexPrefix hash.toList)).getD 0
  net := {
    parseUrl := fun input =>
      if input = "https://example.com/hook" then some ⟨"https", some "example.com"⟩ else none
    parseIp := fun _ => none }
  hmacSha256 secret _ :=
    if secret = List.replicate 32 0x0b then
      [0xa1, 0x74, 0xad, 0x32, 0x7d, 0x8e, 0x01, 0x73, 0xba, 0xf0, 0x73, 0xc6, 0x3e, 0xd1, 0xd8,
        0x46, 0x5a, 0x41, 0xeb, 0x63, 0x7f, 0x00, 0x4b, 0x6b, 0x3e, 0x5e, 0xec, 0xa4, 0x70, 0xc7,
        0xae, 0x58]
    else if secret = List.replicate 32 0x0c then
      [0xeb, 0x50, 0x41, 0xd6, 0x59, 0x2c, 0x7c, 0x90, 0x1c, 0xcb, 0x3f, 0x7c, 0x19, 0x52, 0x4b,
        0x87, 0xbc, 0x34, 0xd3, 0xff, 0x97, 0xd2, 0xb2, 0xe3, 0xbc, 0x94, 0xdb, 0x35, 0xd6, 0xc6,
        0x78, 0x68]
    else []

/-- A secret of 32 bytes `b`, as the API stores it. -/
def sampleSecret (b : UInt8) : String := String.ofList (bytesToHex (List.replicate 32 b))

/-- A subscription to every failed transaction. -/
def sampleSubscription : AlertSubscription where
  subscriptionId := 1
  errorCategory := none
  toAddr := none
  webhookUrl := "https://example.com/hook"
  signingSecret := sampleSecret 0x0b
  active := true
  subType := .perEvent

/-- A failed transaction of block 1. -/
def sampleTransaction (hash : B256) : Transaction where
  txHash := hashHex hash
  fromAddr := addressHex 1
  toAddr := none
  blockNumber := 1
  gasUsed := 21000
  gasPrice := 0
  value := 0
  status := 0
  inputData := none

/-- Its row in `failed_transaction`, its trace not being available. -/
def sampleFailed (hash : B256) : FailedTransaction where
  txHash := hashHex hash
  errorCategory := .unknown
  revertReason := none
  failingFunction := none
  gasUsed := 21000
  timestamp := 1700000000

/-- Idle dispatchers over that subscription, some failed transactions and an empty ledger. -/
def sampleAlerts (hashes : List B256) : AlertState where
  now := 0
  subscriptions := (∅ : Subscriptions).insertNew [sampleSubscription]
  db := { Database.empty with
    block := (∅ : Lib.KeyedTable Block.blockNumber).insertNew
      [⟨1, 1700000000, 21000, none, none⟩]
    transaction := (∅ : Lib.KeyedTable Transaction.txHash).insertNew
      (hashes.map sampleTransaction)
    failedTransaction := (∅ : Lib.KeyedTable FailedTransaction.txHash).insertNew
      (hashes.map sampleFailed) }
  ledger := fun _ => none
  queue := fun _ => []
  task := fun _ => none
  succeeded := []

/-- The match of the subscription and a failed transaction. -/
def sampleMatch (hash : B256) : AlertMatch := alertMatch sampleSubscription (sampleFailed hash)

theorem prepareRequest_sampleMatch (hash : B256) :
    prepareRequest sampleEnv (sampleMatch hash) = .ok {
      url := "https://example.com/hook"
      signature := "sha256=" ++ signPayload sampleEnv (List.replicate 32 0x0b)
        (buildPayload (sampleMatch hash)).toUTF8.toList
      body := buildPayload (sampleMatch hash) } := by
  apply prepareRequest_eq_ok
  · rfl
  · show hexDecode (String.ofList (bytesToHex (List.replicate 32 0x0b))).toList = _
    rw [String.toList_ofList, hexDecode_bytesToHex]

/-- The subscription matches every failed transaction. -/
theorem alertMatches_sampleAlerts {hashes : List B256} (h : hashes.Nodup) :
    alertMatches (sampleAlerts hashes).subscriptions (sampleAlerts hashes).db =
      hashes.map sampleMatch := by
  have hrows : (sampleAlerts hashes).db.failedTransaction.rows = hashes.map sampleFailed := by
    apply Lib.KeyedTable.rows_insertNew_empty
    rw [List.map_map]
    exact h.map fun a b hab => hashHex_inj hab
  have hall : ∀ f, sampleSubscription.Matches (sampleAlerts hashes).db f :=
    fun f => ⟨.inl rfl, rfl, rfl, .inl rfl⟩
  show [sampleSubscription].flatMap _ = _
  rw [List.flatMap_singleton, hrows, List.filter_eq_self.mpr fun f _ => decide_eq_true (hall f),
    List.map_map]
  rfl

/-- The state once dispatcher `w` has read `batch`. -/
def AlertState.found (s : AlertState) (w : Worker) (batch : List AlertMatch) : AlertState :=
  { s with now := s.now + 1, queue := Function.update s.queue w batch }

/-- With one failed transaction, a dispatcher finds it while it is pending. -/
theorem find_sampleMatch {s : AlertState} {w : Worker} {hash : B256}
    (hsubscriptions : s.subscriptions = (sampleAlerts [hash]).subscriptions)
    (hdb : s.db = (sampleAlerts [hash]).db) (hidle : s.Idle w)
    (hpending : Pending s.now claimStaleAfterSecs (s.ledger (sampleMatch hash).key)) :
    AlertStep sampleEnv s (.find w [sampleMatch hash]) (s.found w [sampleMatch hash]) := by
  apply AlertStep.find hidle (Int.lt_succ s.now)
  have hrows : pendingAlertMatches s.subscriptions s.db s.ledger s.now claimStaleAfterSecs =
      [sampleMatch hash] := by
    rw [pendingAlertMatches, hsubscriptions, hdb, alertMatches_sampleAlerts (List.nodup_singleton _)]
    exact List.filter_eq_self.mpr fun m hm => by
      rw [List.mem_singleton.mp hm]
      exact decide_eq_true hpending
  rw [FindPendingAlertMatches, hrows]
  exact ⟨[sampleMatch hash], List.Perm.refl _, List.pairwise_singleton _ _, rfl⟩

end TxIndexer.Indexer
