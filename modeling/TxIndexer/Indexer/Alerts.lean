import TxIndexer.Lib.Slots
import TxIndexer.Lib.Transition
import TxIndexer.Std.Hex
import TxIndexer.Db.AlertQueries
import TxIndexer.Db.Validators

/-!
# The alert dispatcher

The per-event half of `crates/indexer/src/alerts.rs` as a transition system: any number of
dispatcher processes, each with the matches it has read and up to `MAX_CONCURRENT_POSTS` tasks,
over one delivery ledger, while the admin API and the indexer write their own tables. What a
receiver answers, and when, is up to the environment.
-/

namespace TxIndexer.Indexer

open Db

/-- `DISPATCH_BATCH`. -/
def dispatchBatch : Nat := 100

/-- `CLAIM_STALE_AFTER_SECS`. -/
def claimStaleAfterSecs : Int := 60

/-- `MAX_CONCURRENT_POSTS`. -/
abbrev maxConcurrentPosts : Nat := 10

instance : NeZero maxConcurrentPosts := ⟨by decide⟩

/-- The database's collation, the URL parser and HMAC-SHA256. -/
structure AlertEnv (κ : Type) where
  collate : String → κ
  net : NetText
  hmacSha256 : Bytes → Bytes → Bytes

/-! ## The request -/

/-- `sign_payload` (`alerts.rs:94-102`). -/
def signPayload {κ : Type} (env : AlertEnv κ) (secret body : Bytes) : String :=
  String.ofList (bytesToHex (env.hmacSha256 secret body))

/-- How `serde_json` writes one character of a string. -/
def jsonEscape (c : Char) : List Char :=
  match c.toNat with
  | 0x22 => ['\x5c', '\x22']
  | 0x5c => ['\x5c', '\x5c']
  | 0x08 => ['\x5c', 'b']
  | 0x09 => ['\x5c', 't']
  | 0x0a => ['\x5c', 'n']
  | 0x0c => ['\x5c', 'f']
  | 0x0d => ['\x5c', 'r']
  | n => if n < 0x20 then '\x5c' :: 'u' :: '0' :: '0' :: hexFixed 2 n else [c]

/-- `build_payload` (`alerts.rs:174-182`). -/
def buildPayload (m : AlertMatch) : String :=
  "\x7b\"subscription_id\":" ++ toString m.subscriptionId ++ ",\"tx_hash\":\"" ++
    String.ofList (m.txHash.toList.flatMap jsonEscape) ++ "\"\x7d"

/-- What one POST sends. -/
structure WebhookRequest where
  url : String
  signature : String
  body : String
  deriving DecidableEq, Repr

/-- The part of `dispatch_item` (`alerts.rs:258-297`) between the claim and the POST: the request,
or the error that is recorded instead. -/
def prepareRequest {κ : Type} (env : AlertEnv κ) (item : AlertMatch) :
    Except String WebhookRequest :=
  match webhookUrlIsSafe env.net item.webhookUrl with
  | .error reason => .error ("unsafe url: " ++ reason.debug)
  | .ok () =>
      match hexDecode item.signingSecret.toList with
      | none => .error "corrupt signing_secret (not hex)"
      | some key =>
          let body := buildPayload item
          .ok {
            url := item.webhookUrl
            signature := "sha256=" ++ signPayload env key body.toUTF8.toList
            body }

/-- A match whose URL is safe and whose secret is hexadecimal is sent. -/
theorem prepareRequest_eq_ok {κ : Type} {env : AlertEnv κ} {item : AlertMatch}
    {key : Bytes}
    (hurl : webhookUrlIsSafe env.net item.webhookUrl = .ok ())
    (hkey : hexDecode item.signingSecret.toList = some key) :
    prepareRequest env item = .ok {
      url := item.webhookUrl
      signature := "sha256=" ++ signPayload env key (buildPayload item).toUTF8.toList
      body := buildPayload item } := by
  simp only [prepareRequest, hurl, hkey]

/-! ## The answer -/

/-- What `send` gives: a response, as its status code and how that displays, or an error. -/
inductive HttpAnswer where
  | response (status : Nat) (display : String)
  | error (e : String)
  deriving DecidableEq, Repr

/-- `post_signed` (`alerts.rs:206-225`). -/
def postSigned : HttpAnswer → Except String Unit
  | .response status display =>
      if 200 ≤ status ∧ status < 300 then .ok () else .error ("http status " ++ display)
  | .error e => .error ("http: " ++ e)

/-- `char::is_ascii_whitespace`. -/
def isAsciiWhitespace (c : Char) : Bool := c.toNat ∈ [0x20, 0x09, 0x0a, 0x0c, 0x0d]

/-- The text before the first `http://` or `https://`, and the text from there. -/
def splitAtUrl : List Char → Option (List Char × List Char)
  | [] => none
  | c :: cs =>
      if "https://".toList <+: c :: cs ∨ "http://".toList <+: c :: cs then some ([], c :: cs)
      else (splitAtUrl cs).map fun (before, after) => (c :: before, after)

theorem length_splitAtUrl {input before after : List Char}
    (h : splitAtUrl input = some (before, after)) :
    (after.dropWhile fun c => !isAsciiWhitespace c).length < input.length := by
  induction input generalizing before with
  | nil => cases h
  | cons c cs ih =>
      unfold splitAtUrl at h
      split at h
      · next hscheme =>
          -- the URL begins with an `h`, which the terminating whitespace is not
          cases h
          have hfirst : c = 'h' := by
            rcases hscheme with hscheme | hscheme <;> exact (List.cons_prefix_cons.mp hscheme).1.symm
          rw [hfirst, List.dropWhile_cons_of_pos (by rfl)]
          exact Nat.lt_succ_of_le (List.dropWhile_sublist _).length_le
      · obtain ⟨⟨before', after'⟩, hsplit, heq⟩ := Option.map_eq_some_iff.mp h
        cases heq
        exact Nat.lt_succ_of_lt (ih hsplit)

/-- `redact_urls` (`alerts.rs:104-139`). -/
def redactUrls (input : List Char) : List Char :=
  match _hsplit : splitAtUrl input with
  | none => input
  | some (before, after) =>
      before ++ "<redacted-url>".toList ++ redactUrls (after.dropWhile fun c => !isAsciiWhitespace c)
termination_by input.length
decreasing_by exact length_splitAtUrl ‹_›

/-- What is recorded after the POST (`alerts.rs:298-337`): whether it delivered, and the error. -/
def recordOf (result : Except String Unit) : Bool × Option String :=
  match result with
  | .ok () => (true, none)
  | .error e => (false, some (String.ofList ((redactUrls e.toList).take 500)))

/-! ## The transition system -/

/-- A dispatcher process. -/
abbrev Worker := Nat

/-- A place for one of the tasks a dispatcher runs at a time. -/
abbrev Slot := Worker × Fin maxConcurrentPosts

/-- How far `dispatch_item` is, with the moment of its claim from the claim on: about to claim;
claimed; the POST under way; and about to record its result. -/
inductive TaskPhase where
  | spawned
  | claimed (since : Int)
  | posting (since : Int)
  | recording (since : Int) (delivered : Bool) (lastError : Option String)
  deriving DecidableEq, Repr

/-- The moment of the claim. -/
def TaskPhase.claimedAt : TaskPhase → Option Int
  | .spawned => none
  | .claimed since => some since
  | .posting since => some since
  | .recording since _ _ => some since

/-- A task of `dispatch_once`. -/
structure Task where
  item : AlertMatch
  phase : TaskPhase
  deriving DecidableEq, Repr

/-- What a task does next. -/
inductive TaskEvent where
  | claim
  | reject
  | post (request : WebhookRequest)
  | respond (answer : HttpAnswer)
  | record
  | abort

/-- A POST returns success. -/
def TaskEvent.succeeds : TaskEvent → Bool
  | .respond answer => (recordOf (postSigned answer)).1
  | _ => false

/-- One step of `dispatch_item` (`alerts.rs:236-338`), at the moment `now`: what becomes of the
ledger and of the task, which is `none` once it has returned. A statement that fails and a panic
end it anywhere. -/
inductive TaskStep {κ : Type} (env : AlertEnv κ) (now : Int) :
    Ledger → Task → TaskEvent → Ledger → Option Task → Prop
  | claim {ledger item}
      (hwon : (tryClaimAlertMatch ledger now item.key claimStaleAfterSecs).2 = true) :
      TaskStep env now ledger ⟨item, .spawned⟩ .claim
        (tryClaimAlertMatch ledger now item.key claimStaleAfterSecs).1
        (some ⟨item, .claimed now⟩)
  | skip {ledger item}
      (hlost : (tryClaimAlertMatch ledger now item.key claimStaleAfterSecs).2 = false) :
      TaskStep env now ledger ⟨item, .spawned⟩ .claim
        (tryClaimAlertMatch ledger now item.key claimStaleAfterSecs).1 none
  | reject {ledger item since error} (hprepare : prepareRequest env item = .error error) :
      TaskStep env now ledger ⟨item, .claimed since⟩ .reject ledger
        (some ⟨item, .recording since false (some error)⟩)
  | post {ledger item since request} (hprepare : prepareRequest env item = .ok request) :
      TaskStep env now ledger ⟨item, .claimed since⟩ (.post request) ledger
        (some ⟨item, .posting since⟩)
  | respond {ledger item since answer} :
      TaskStep env now ledger ⟨item, .posting since⟩ (.respond answer) ledger
        (some ⟨item, .recording since (recordOf (postSigned answer)).1
          (recordOf (postSigned answer)).2⟩)
  | record {ledger item since delivered lastError} :
      TaskStep env now ledger ⟨item, .recording since delivered lastError⟩ .record
        (recordAlertDelivery ledger now item.key delivered lastError) none
  | abort {ledger task} : TaskStep env now ledger task .abort ledger none

/-- The clock of the database, its tables, and the dispatchers: the matches each has still to
spawn, and its tasks. `succeeded` is history: a key for each POST that returned success. -/
structure AlertState where
  now : Int
  subscriptions : Subscriptions
  db : Database
  ledger : Ledger
  queue : Worker → List AlertMatch
  task : Slot → Option Task
  succeeded : List DeliveryKey

/-- What happens in a step. -/
inductive AlertEvent where
  | tick
  | index
  | subscribe (row : AlertSubscription)
  | deactivate (subscriptionId : Int)
  | rotate (subscriptionId : Int) (newSecret : String)
  | find (w : Worker) (batch : List AlertMatch)
  | spawn (i : Slot)
  | task (i : Slot) (e : TaskEvent)
  | crash (w : Worker)

namespace AlertState

/-- Dispatcher `w` is between two cycles. -/
def Idle (s : AlertState) (w : Worker) : Prop :=
  s.queue w = [] ∧ ∀ n, s.task (w, n) = none

/-- The pairs a `SELECT` would find now. -/
def pending (s : AlertState) : List AlertMatch :=
  pendingAlertMatches s.subscriptions s.db s.ledger s.now claimStaleAfterSecs

/-- Whether a claim of the pair would win now. -/
def claimWins (s : AlertState) (key : DeliveryKey) : Bool :=
  (tryClaimAlertMatch s.ledger s.now key claimStaleAfterSecs).2

/-- The pair is recorded as delivered. -/
def Delivered (s : AlertState) (key : DeliveryKey) : Prop :=
  ∃ d, s.ledger key = some d ∧ d.status = .delivered

/-- The task in slot `i` is one that won a claim at `since` and has not recorded a result yet. -/
def Holds (s : AlertState) (i : Slot) (task : Task) (since : Int) : Prop :=
  s.task i = some task ∧ task.phase.claimedAt = some since

/-- The state after the task in slot `i` has taken a step. -/
def afterTask (s : AlertState) (i : Slot) (task : Task) (e : TaskEvent) (ledger : Ledger)
    (next : Option Task) : AlertState :=
  { s with
    ledger
    task := Function.update s.task i next
    succeeded := if e.succeeds then task.item.key :: s.succeeded else s.succeeded }

@[simp] theorem afterTask_self (s : AlertState) (i : Slot) (task : Task) (e : TaskEvent)
    (ledger : Ledger) (next : Option Task) :
    (s.afterTask i task e ledger next).task i = next := Function.update_self ..

theorem afterTask_other (s : AlertState) {i j : Slot} (task : Task) (e : TaskEvent)
    (ledger : Ledger) (next : Option Task) (hne : j ≠ i) :
    (s.afterTask i task e ledger next).task j = s.task j := Function.update_of_ne hne ..

end AlertState

/-- One step. A `SELECT` finds what is pending when it begins; its answer comes later. The
indexer may write anything into its tables at any moment. A dispatcher that crashes takes its
tasks along and leaves the ledger as it is. -/
inductive AlertStep {κ : Type} [LinearOrder κ] (env : AlertEnv κ) :
    AlertState → AlertEvent → AlertState → Prop
  | tick {s later} (hlater : s.now ≤ later) : AlertStep env s .tick { s with now := later }
  | index {s db} : AlertStep env s .index { s with db := db }
  | subscribe {s row} (hfresh : row.subscriptionId ∉ s.subscriptions.keys) :
      AlertStep env s (.subscribe row)
        { s with subscriptions := s.subscriptions.insertNew [row] }
  | deactivate {s id} : AlertStep env s (.deactivate id)
      { s with subscriptions := (deactivateAlertSubscription s.subscriptions id).1 }
  | rotate {s id newSecret} : AlertStep env s (.rotate id newSecret)
      { s with subscriptions := (rotateAlertSubscriptionSecret s.subscriptions id newSecret).1 }
  | find {s w batch later} (hidle : s.Idle w) (hlater : s.now < later)
      (hbatch : FindPendingAlertMatches env.collate s.subscriptions s.db s.ledger s.now
        dispatchBatch claimStaleAfterSecs batch) :
      AlertStep env s (.find w batch)
        { s with now := later, queue := Function.update s.queue w batch }
  | spawn {s i item rest} (hqueue : s.queue i.1 = item :: rest) (hslot : s.task i = none) :
      AlertStep env s (.spawn i) { s with
        queue := Function.update s.queue i.1 rest
        task := Function.update s.task i (some ⟨item, .spawned⟩) }
  | task {s i task e ledger next} (htask : s.task i = some task)
      (hstep : TaskStep env s.now s.ledger task e ledger next) :
      AlertStep env s (.task i e) (s.afterTask i task e ledger next)
  | crash {s w} : AlertStep env s (.crash w) { s with
      queue := Function.update s.queue w []
      task := fun i => if i.1 = w then none else s.task i }

/-! ## What a step does to the ledger and to the tasks -/

variable {κ : Type} {env : AlertEnv κ} {now : Int} {ledger ledger' : Ledger} {task : Task}
  {e : TaskEvent} {next : Option Task}

/-- A task that goes on works on the same match and keeps the moment of its claim. -/
theorem TaskStep.next_item (h : TaskStep env now ledger task e ledger' next) {task' : Task}
    (hnext : next = some task') :
    task'.item = task.item ∧ (∀ since d err, task.phase ≠ .recording since d err) ∧
      (task'.phase.claimedAt = task.phase.claimedAt ∨
        (e = .claim ∧ task'.phase = .claimed now ∧
          (tryClaimAlertMatch ledger now task.item.key claimStaleAfterSecs).2 = true ∧
          ∃ d, ledger' task.item.key = some d ∧ d.status = .claimed ∧ d.createdAt = now)) := by
  cases h with
  | claim hwon =>
      cases hnext
      exact ⟨rfl, nofun, .inr ⟨rfl, rfl, hwon, tryClaimAlertMatch_claimed hwon⟩⟩
  | skip => cases hnext
  | reject => cases hnext; exact ⟨rfl, nofun, .inl rfl⟩
  | post => cases hnext; exact ⟨rfl, nofun, .inl rfl⟩
  | respond => cases hnext; exact ⟨rfl, nofun, .inl rfl⟩
  | record => cases hnext
  | abort => cases hnext

/-- A task writes no row but that of its own match. -/
theorem TaskStep.ledger_other (h : TaskStep env now ledger task e ledger' next)
    {key : DeliveryKey} (hkey : key ≠ task.item.key) : ledger' key = ledger key := by
  cases h with
  | claim => exact tryClaimAlertMatch_other hkey
  | skip => exact tryClaimAlertMatch_other hkey
  | record => exact recordAlertDelivery_other _ _ hkey
  | reject | post | respond | abort => rfl

/-- Only a winning claim and a record write at all. -/
theorem TaskStep.ledger_cases (h : TaskStep env now ledger task e ledger' next) :
    ledger' = ledger ∨
    (task.phase = .spawned ∧ next = some ⟨task.item, .claimed now⟩ ∧
      (tryClaimAlertMatch ledger now task.item.key claimStaleAfterSecs).2 = true ∧
      ledger' = (tryClaimAlertMatch ledger now task.item.key claimStaleAfterSecs).1) ∨
    ∃ since delivered lastError, task.phase = .recording since delivered lastError ∧
      e = .record ∧ next = none ∧
      ledger' = recordAlertDelivery ledger now task.item.key delivered lastError := by
  cases h with
  | claim hwon => exact .inr (.inl ⟨rfl, rfl, hwon, rfl⟩)
  | skip hlost => exact .inl (tryClaimAlertMatch_lost hlost)
  | record => exact .inr (.inr ⟨_, _, _, rfl, rfl, rfl, rfl⟩)
  | reject | post | respond | abort => exact .inl rfl

variable [LinearOrder κ] {s s' : AlertState} {l : AlertEvent}

/-- Either a task takes a step, or the ledger and the history stay as they are and every task
left was there before or has just been spawned. -/
theorem AlertStep.task_cases (h : AlertStep env s l s') :
    (s'.ledger = s.ledger ∧ s'.succeeded = s.succeeded ∧ (∀ i e, l ≠ .task i e) ∧
      ∀ i task, s'.task i = some task → s.task i = some task ∨ task.phase = .spawned) ∨
    ∃ i task e ledger next, l = .task i e ∧ s.task i = some task ∧
      TaskStep env s.now s.ledger task e ledger next ∧
      s' = s.afterTask i task e ledger next := by
  cases h with
  | task htask hstep => exact .inr ⟨_, _, _, _, _, rfl, htask, hstep, rfl⟩
  | @spawn i item rest hqueue hslot =>
      left
      refine ⟨rfl, rfl, nofun, ?_⟩
      intro j task hj
      rcases Lib.slot_cases hj with ⟨-, hnew⟩ | ⟨-, hold⟩
      · cases hnew
        exact .inr rfl
      · exact .inl hold
  | @crash w =>
      left
      refine ⟨rfl, rfl, nofun, ?_⟩
      intro j task hj
      by_cases hjw : j.1 = w
      · cases (if_pos hjw).symm.trans hj
      · exact .inl ((if_neg hjw).symm.trans hj)
  | tick | index | subscribe | deactivate | rotate | find =>
      left
      exact ⟨rfl, rfl, nofun, fun i task hi => .inl hi⟩

/-- The clock moves only when it ticks or a `SELECT` runs. -/
theorem AlertStep.now_eq (h : AlertStep env s l s') (htick : l ≠ .tick)
    (hfind : ∀ w batch, l ≠ .find w batch) : s'.now = s.now := by
  cases h with
  | tick => exact absurd rfl htick
  | find => exact absurd rfl (hfind _ _)
  | index | subscribe | deactivate | rotate | spawn | task | crash => rfl

/-- A claim held after a step was held before, unless the step has just won it. A task that was
about to record then is so still. -/
theorem AlertStep.holds_cases (h : AlertStep env s l s') {j : Slot} {task : Task} {since : Int}
    (hj : s'.Holds j task since) :
    (∃ task₀, s.Holds j task₀ since ∧ task₀.item = task.item ∧
      ∀ since' d err, task₀.phase = .recording since' d err → task₀ = task) ∨
    (l = .task j .claim ∧ since = s.now ∧ s.claimWins task.item.key = true ∧
      ∃ d, s'.ledger task.item.key = some d ∧ d.status = .claimed ∧ d.createdAt = s.now) := by
  obtain ⟨htask, hsince⟩ := hj
  rcases h.task_cases with ⟨-, -, -, hsame⟩ |
    ⟨i, task₀, e, ledger, next, rfl, htask₀, hstep, rfl⟩
  · rcases hsame j task htask with hsame | hspawned
    · exact .inl ⟨task, ⟨hsame, hsince⟩, rfl, fun _ _ _ _ => rfl⟩
    · rw [hspawned] at hsince
      cases hsince
  · by_cases hji : j = i
    · subst hji
      rw [AlertState.afterTask_self] at htask
      obtain ⟨hitem, hnot, hclaim⟩ := hstep.next_item htask
      rcases hclaim with hsame | ⟨rfl, hphase, hwon, hrow⟩
      · left
        refine ⟨task₀, ⟨htask₀, hsame.symm.trans hsince⟩, hitem.symm, ?_⟩
        intro since' d err hphase
        exact absurd hphase (hnot since' d err)
      · right
        rw [hphase] at hsince
        rw [hitem]
        exact ⟨rfl, (Option.some.inj hsince).symm, hwon, hrow⟩
    · rw [AlertState.afterTask_other s _ _ _ _ hji] at htask
      exact .inl ⟨task, ⟨htask, hsince⟩, rfl, fun _ _ _ _ => rfl⟩

/-- The row of a pair changes only when a claim of it wins or a holder of it records. -/
theorem AlertStep.row_cases (h : AlertStep env s l s') (key : DeliveryKey) :
    s'.ledger key = s.ledger key ∨
    (∃ i task, s'.Holds i task s.now ∧ task.item.key = key ∧ s.claimWins key = true ∧
      ∃ d, s'.ledger key = some d ∧ d.status = .claimed ∧ d.createdAt = s.now) ∨
    ∃ i item since delivered lastError d, l = .task i .record ∧
      s.task i = some ⟨item, .recording since delivered lastError⟩ ∧ item.key = key ∧
      s'.task i = none ∧ s'.ledger key = some d ∧ d.status = recordedStatus delivered := by
  rcases h.task_cases with ⟨hledger, -⟩ | ⟨i, task, e, ledger, next, rfl, htask, hstep, rfl⟩
  · exact .inl (congrFun hledger key)
  · by_cases hkey : key = task.item.key
    · subst hkey
      rcases hstep.ledger_cases with hsame | ⟨-, rfl, hwon, rfl⟩ | ⟨since, delivered, lastError,
        hphase, rfl, rfl, rfl⟩
      · exact .inl (congrFun hsame _)
      · right; left
        refine ⟨i, ⟨task.item, .claimed s.now⟩, ⟨s.afterTask_self .., rfl⟩, rfl, hwon, ?_⟩
        exact tryClaimAlertMatch_claimed hwon
      · right; right
        obtain ⟨d, hrow, hstatus⟩ :=
          recordAlertDelivery_status s.ledger s.now task.item.key delivered lastError
        refine ⟨i, task.item, since, delivered, lastError, d, rfl, ?_, rfl,
          s.afterTask_self .., hrow, hstatus⟩
        rw [htask, ← hphase]
    · exact .inl (hstep.ledger_other hkey)

/-- A task about to record does so, unless it is lost. -/
theorem AlertStep.recording_cases (h : AlertStep env s l s') {i : Slot} {item : AlertMatch}
    {since : Int} {delivered : Bool} {lastError : Option String}
    (hi : s.task i = some ⟨item, .recording since delivered lastError⟩) :
    s'.task i = some ⟨item, .recording since delivered lastError⟩ ∨
    (l = .task i .record ∧
      s'.ledger = recordAlertDelivery s.ledger s.now item.key delivered lastError) ∨
    l = .task i .abort ∨ l = .crash i.1 := by
  cases h with
  | @task j task e ledger next htask hstep =>
      by_cases hij : i = j
      · subst hij
        rw [hi] at htask
        cases htask
        cases hstep with
        | record => exact .inr (.inl ⟨rfl, rfl⟩)
        | abort => exact .inr (.inr (.inl rfl))
      · rw [AlertState.afterTask_other s _ _ _ _ hij]
        exact .inl hi
  | @spawn j item' rest hqueue hslot =>
      left
      have hij : i ≠ j := by
        intro heq
        subst heq
        rw [hi] at hslot
        cases hslot
      exact (Function.update_of_ne hij ..).trans hi
  | @crash w =>
      by_cases hw : i.1 = w
      · subst hw
        exact .inr (.inr (.inr rfl))
      · exact .inl ((if_neg hw).trans hi)
  | tick | index | subscribe | deactivate | rotate | find => exact .inl hi

/-- A success is that of a POST under way, and is recorded next. -/
theorem AlertStep.succeeded_cases (h : AlertStep env s l s') :
    s'.succeeded = s.succeeded ∨
    ∃ i item since lastError, s.task i = some ⟨item, .posting since⟩ ∧
      s'.task i = some ⟨item, .recording since true lastError⟩ ∧
      s'.succeeded = item.key :: s.succeeded := by
  rcases h.task_cases with ⟨-, hsame, -⟩ | ⟨i, task, e, ledger, next, rfl, htask, hstep, rfl⟩
  · exact .inl hsame
  · cases hstep with
    | @respond item since answer =>
        cases hok : (recordOf (postSigned answer)).1 with
        | false =>
            left
            show (if (recordOf (postSigned answer)).1 then item.key :: s.succeeded
              else s.succeeded) = s.succeeded
            rw [hok]
            rfl
        | true =>
            right
            exact ⟨i, item, since, (recordOf (postSigned answer)).2, htask,
              s.afterTask_self .., if_pos hok⟩
    | claim | skip | reject | post | record | abort => exact .inl rfl

end TxIndexer.Indexer
