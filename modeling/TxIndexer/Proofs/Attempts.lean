import TxIndexer.Indexer.AlertRuns

/-!
# What `attempts` counts

A delivery attempt is a claim and then a record, and each of the two statements inserts the row
with `attempts` 1 or adds 1 to it. The history of a pair is how many claims of it were won and how
many results were recorded; in turn, each claim is recorded before the next one is won.
-/

namespace TxIndexer.Proofs

open Db Indexer Lib

variable {κ : Type} [LinearOrder κ] {env : AlertEnv κ} {s s' : AlertState} {l : AlertEvent}
  {key : DeliveryKey}

/-- The claims of a pair that were won, and the results that were recorded for it. -/
structure AttemptCount where
  claims : Nat
  records : Nat
  deriving DecidableEq, Repr

/-- The task in slot `i` works on the pair. -/
def OnPair (s : AlertState) (i : Slot) (key : DeliveryKey) : Prop :=
  (s.task i).map (fun task => task.item.key) = some key

instance (s : AlertState) (i : Slot) (key : DeliveryKey) : Decidable (OnPair s i key) :=
  inferInstanceAs (Decidable (_ = _))

/-- The count after a step that begins in `s`. -/
def AttemptCount.after (c : AttemptCount) (key : DeliveryKey) (s : AlertState) :
    AlertEvent → AttemptCount
  | .task i .claim =>
      if OnPair s i key ∧ s.claimWins key = true then { c with claims := c.claims + 1 } else c
  | .task i .record => if OnPair s i key then { c with records := c.records + 1 } else c
  | _ => c

/-- The dispatcher, with the count of one pair as history. -/
def CountedStep (env : AlertEnv κ) (key : DeliveryKey) (s : AlertState × AttemptCount)
    (l : AlertEvent) (s' : AlertState × AttemptCount) : Prop :=
  AlertStep env s.1 l s'.1 ∧ s'.2 = s.2.after key s.1 l

/-- A claim of the pair is won only when the one before it has been recorded. -/
def InTurn (key : DeliveryKey) (s : AlertState × AttemptCount) (l : AlertEvent)
    (_ : AlertState × AttemptCount) : Prop :=
  ∀ i, l = .task i .claim → OnPair s.1 i key → s.1.claimWins key = true →
    s.2.claims = s.2.records

/-- `attempts` of a row, 0 where there is none. -/
def attemptsOf (row : Option AlertDelivery) : Int := row.elim 0 AlertDelivery.attempts

/-- A row is delivered exactly if `delivered_at` is set, and then it has no error. -/
def DeliveredLaws (row : Option AlertDelivery) : Prop :=
  ∀ d ∈ row, (d.status = .delivered ↔ d.deliveredAt.isSome = true) ∧
    (d.status = .delivered → d.lastError = none)

/-! ## What a step does to the row and to the count -/

theorem onPair_of_task {i : Slot} {task : Task} (htask : s.task i = some task) :
    OnPair s i key ↔ task.item.key = key := by
  rw [OnPair, htask]
  exact Option.some_inj

/-- A step of a task that wins no claim of the pair and records nothing for it. -/
theorem AttemptCount.after_task {c : AttemptCount} {i : Slot} {task : Task} {e : TaskEvent}
    (htask : s.task i = some task) (hclaim : e = .claim → task.item.key = key →
      s.claimWins key = false) (hrecord : e = .record → task.item.key ≠ key) :
    c.after key s (.task i e) = c := by
  cases e with
  | claim =>
      apply if_neg
      rintro ⟨hpair, hwins⟩
      rw [hclaim rfl ((onPair_of_task htask).mp hpair)] at hwins
      cases hwins
  | record => exact if_neg fun hpair => hrecord rfl ((onPair_of_task htask).mp hpair)
  | reject | post | respond | abort => rfl

/-- After such a step a task that holds the pair held it before. -/
theorem holds_of_task {i j : Slot} {task task' : Task} {e : TaskEvent} {ledger : Ledger}
    {next : Option Task} {since : Int} (htask : s.task i = some task)
    (hstep : TaskStep env s.now s.ledger task e ledger next)
    (hclaim : e = .claim → task.item.key = key → s.claimWins key = false)
    (hj : (s.afterTask i task e ledger next).Holds j task' since) (hkey : task'.item.key = key) :
    ∃ task₀, s.Holds j task₀ since ∧ task₀.item.key = key := by
  rcases (AlertStep.task htask hstep).holds_cases hj with ⟨task₀, hold, hitem, -⟩ |
    ⟨hl, -, hwins, -⟩
  · exact ⟨task₀, hold, hitem ▸ hkey⟩
  · cases hl
    have hnext : next = some task' := by
      rw [← hj.1, AlertState.afterTask_self]
    have hitem := (hstep.next_item hnext).1
    rw [hkey, hclaim rfl (hitem ▸ hkey)] at hwins
    cases hwins

/-- A step wins a claim of the pair, or records a result of it, or leaves its row, its count and
the tasks that hold it as they were, up to those that are lost. -/
theorem attempt_cases (h : AlertStep env s l s') (key : DeliveryKey) (c : AttemptCount) :
    (s'.ledger key = s.ledger key ∧ c.after key s l = c ∧
      ∀ j task since, s'.Holds j task since → task.item.key = key →
        ∃ task₀, s.Holds j task₀ since ∧ task₀.item.key = key) ∨
    (∃ i task, l = .task i .claim ∧ s.task i = some task ∧ task.item.key = key ∧
      s.claimWins key = true ∧
      s'.ledger key = (tryClaimAlertMatch s.ledger s.now key claimStaleAfterSecs).1 key) ∨
    ∃ i item since delivered lastError, l = .task i .record ∧
      s.task i = some ⟨item, .recording since delivered lastError⟩ ∧ item.key = key ∧
      s'.task = Function.update s.task i none ∧
      s'.ledger key = recordAlertDelivery s.ledger s.now key delivered lastError key := by
  rcases h.task_cases with ⟨hledger, -, hnot, hsame⟩ |
    ⟨i, task, e, ledger, next, rfl, htask, hstep, rfl⟩
  · left
    refine ⟨congrFun hledger key, ?_, ?_⟩
    · cases l with
      | task i e => exact absurd rfl (hnot i e)
      | tick | index | subscribe | deactivate | rotate | find | spawn | crash => rfl
    · intro j task since ⟨hj, hsince⟩ hkey
      rcases hsame j task hj with hold | hspawned
      · exact ⟨task, ⟨hold, hsince⟩, hkey⟩
      · rw [hspawned] at hsince
        cases hsince
  · have hidle : (e = .claim → task.item.key = key → s.claimWins key = false) →
        (e = .record → task.item.key ≠ key) → ledger key = s.ledger key →
        (s.afterTask i task e ledger next).ledger key = s.ledger key ∧
          c.after key s (.task i e) = c ∧
          ∀ j task' since, (s.afterTask i task e ledger next).Holds j task' since →
            task'.item.key = key → ∃ task₀, s.Holds j task₀ since ∧ task₀.item.key = key :=
      fun hclaim hrecord hrow => ⟨hrow, AttemptCount.after_task htask hclaim hrecord,
        fun _ _ _ hj hkey => holds_of_task htask hstep hclaim hj hkey⟩
    by_cases hkey : task.item.key = key
    · cases hstep with
      | claim hwon =>
          subst hkey
          exact .inr (.inl ⟨i, _, rfl, htask, rfl, hwon, rfl⟩)
      | skip hlost =>
          subst hkey
          exact .inl (hidle (fun _ _ => hlost) nofun (congrFun (tryClaimAlertMatch_lost hlost) _))
      | record =>
          subst hkey
          exact .inr (.inr ⟨i, _, _, _, _, rfl, htask, rfl, rfl, rfl⟩)
      | reject | post | respond | abort => exact .inl (hidle nofun nofun rfl)
    · exact .inl (hidle (fun _ h => absurd h hkey) (fun _ => hkey)
        (hstep.ledger_other (Ne.symm hkey)))

/-! ## The invariant -/

/-- A task that is about to record a success records no error. -/
def SuccessesClean (s : AlertState) : Prop :=
  ∀ i item since lastError, s.task i = some ⟨item, .recording since true lastError⟩ →
    lastError = none

theorem recordOf_true {result : Except String Unit} (h : (recordOf result).1 = true) :
    (recordOf result).2 = none := by
  cases result with
  | ok => rfl
  | error e => cases h

theorem SuccessesClean.step (h : SuccessesClean s) (hstep : AlertStep env s l s') :
    SuccessesClean s' := by
  intro j item since lastError hj
  rcases hstep.task_cases with ⟨-, -, -, hsame⟩ | ⟨i, task, e, ledger, next, rfl, htask, ht, rfl⟩
  · rcases hsame j _ hj with hold | hspawned
    · exact h j item since lastError hold
    · cases hspawned
  · rcases slot_cases hj with ⟨rfl, hnew⟩ | ⟨-, hold⟩
    · cases ht with
      | respond =>
          simp only [Option.some.injEq, Task.mk.injEq, TaskPhase.recording.injEq] at hnew
          obtain ⟨-, -, hsuccess, rfl⟩ := hnew
          exact recordOf_true hsuccess
      | claim | skip | reject | post | record | abort => cases hnew
    · exact h j item since lastError hold

/-- What a run in turn keeps, for one pair. -/
structure AttemptInv (key : DeliveryKey) (s : AlertState) (c : AttemptCount) : Prop where
  attempts : attemptsOf (s.ledger key) = c.claims + c.records
  row : s.ledger key = none ↔ c.claims = 0
  turn : c.records ≤ c.claims ∧ c.claims ≤ c.records + 1
  holder : ∀ i task since, s.Holds i task since → task.item.key = key →
    c.claims = c.records + 1 ∧
      ∃ d, s.ledger key = some d ∧ d.status = .claimed ∧ d.deliveredAt = none
  unique : ∀ i j task task' since since', s.Holds i task since → s.Holds j task' since' →
    task.item.key = key → task'.item.key = key → i = j
  clean : SuccessesClean s
  laws : DeliveredLaws (s.ledger key)

namespace AttemptInv

variable {c : AttemptCount}

/-- With every claim recorded nobody holds the pair. -/
theorem not_holds (h : AttemptInv key s c) (hturn : c.claims = c.records) {i : Slot} {task : Task}
    {since : Int} (hi : s.Holds i task since) (hkey : task.item.key = key) : False := by
  have hopen := (h.holder i task since hi hkey).1
  omega

/-- A claim that is won leaves a row with one attempt more. -/
theorem claim_attempts (h : AttemptInv key s c) (hwins : s.claimWins key = true) :
    ∃ d, (tryClaimAlertMatch s.ledger s.now key claimStaleAfterSecs).1 key = some d ∧
      d.status = .claimed ∧ d.deliveredAt = none ∧ d.attempts = c.claims + 1 + c.records := by
  have hattempts := h.attempts
  have hreclaim := tryClaimAlertMatch_eq_true.mp hwins
  unfold tryClaimAlertMatch
  cases hrow : s.ledger key with
  | none =>
      have hclaims := h.row.mp hrow
      have hturn := h.turn
      refine ⟨_, Function.update_self .., rfl, rfl, ?_⟩
      simp only
      omega
  | some d =>
      rw [hrow] at hreclaim hattempts
      simp only [if_pos (hreclaim d rfl)]
      refine ⟨_, Function.update_self .., rfl, rfl, ?_⟩
      have hrow : d.attempts = c.claims + c.records := hattempts
      simp only
      omega

/-- A step that changes neither the row nor the count. -/
theorem keep (h : AttemptInv key s c) (hstep : AlertStep env s l s')
    (hrow : s'.ledger key = s.ledger key)
    (hholds : ∀ j task since, s'.Holds j task since → task.item.key = key →
      ∃ task₀, s.Holds j task₀ since ∧ task₀.item.key = key) : AttemptInv key s' c where
  attempts := by rw [hrow]; exact h.attempts
  row := by rw [hrow]; exact h.row
  turn := h.turn
  holder := by
    intro i task since hi hkey
    obtain ⟨task₀, hold, hkey₀⟩ := hholds i task since hi hkey
    rw [hrow]
    exact h.holder i task₀ since hold hkey₀
  unique := by
    intro i j task task' since since' hi hj hkey hkey'
    obtain ⟨task₀, hold, hkey₀⟩ := hholds i task since hi hkey
    obtain ⟨task₀', hold', hkey₀'⟩ := hholds j task' since' hj hkey'
    exact h.unique i j task₀ task₀' since since' hold hold' hkey₀ hkey₀'
  clean := h.clean.step hstep
  laws := by rw [hrow]; exact h.laws

/-- A claim won in turn. -/
theorem claim (h : AttemptInv key s c) {i : Slot} (hstep : AlertStep env s (.task i .claim) s')
    (hturn : c.claims = c.records) (hwins : s.claimWins key = true)
    (hrow : s'.ledger key = (tryClaimAlertMatch s.ledger s.now key claimStaleAfterSecs).1 key) :
    AttemptInv key s' { c with claims := c.claims + 1 } := by
  obtain ⟨d, hd, hstatus, hdelivered, hattempts⟩ := h.claim_attempts hwins
  rw [hd] at hrow
  have hnew : ∀ j task since, s'.Holds j task since → task.item.key = key → i = j := by
    intro j task since hj hkey
    rcases hstep.holds_cases hj with ⟨task₀, hold, hitem, -⟩ | ⟨hl, -⟩
    · exact (h.not_holds hturn hold (hitem ▸ hkey)).elim
    · cases hl
      rfl
  constructor
  case attempts =>
    rw [hrow]
    exact_mod_cast hattempts
  case row => simp [hrow]
  case turn => exact ⟨by simp only; omega, by simp only; omega⟩
  case holder =>
    intro j task since hj hkey
    exact ⟨by simp only; omega, d, hrow, hstatus, hdelivered⟩
  case unique =>
    intro j k task task' since since' hj hk hkey hkey'
    exact (hnew j task since hj hkey).symm.trans (hnew k task' since' hk hkey')
  case clean => exact h.clean.step hstep
  case laws =>
    rw [hrow]
    rintro _ ⟨⟩
    simp [hstatus, hdelivered]

/-- A record by the task that holds the pair. -/
theorem record (h : AttemptInv key s c) {i : Slot} {item : AlertMatch} {since : Int}
    {delivered : Bool} {lastError : Option String} (hstep : AlertStep env s (.task i .record) s')
    (htask : s.task i = some ⟨item, .recording since delivered lastError⟩) (hkey : item.key = key)
    (htasks : s'.task = Function.update s.task i none)
    (hrow : s'.ledger key = recordAlertDelivery s.ledger s.now key delivered lastError key) :
    AttemptInv key s' { c with records := c.records + 1 } := by
  have hi : s.Holds i ⟨item, .recording since delivered lastError⟩ since := ⟨htask, rfl⟩
  obtain ⟨hopen, d, hd, hstatus, hdelivered⟩ := h.holder i _ since hi hkey
  have hattempts := h.attempts
  rw [recordAlertDelivery, Function.update_self, hd] at hrow
  rw [hd] at hattempts
  have hnone : ∀ j task since', s'.Holds j task since' → task.item.key = key → False := by
    intro j task since' ⟨hj, hsince⟩ hkey'
    rw [htasks] at hj
    rcases slot_cases hj with ⟨-, hnew⟩ | ⟨hne, hold⟩
    · cases hnew
    · exact hne (h.unique j i task _ since' since ⟨hold, hsince⟩ hi hkey' hkey)
  constructor
  case attempts =>
    have hold : d.attempts = c.claims + c.records := hattempts
    rw [hrow]
    show d.attempts + 1 = (c.claims : Int) + ((c.records + 1 : Nat) : Int)
    omega
  case row =>
    rw [hrow]
    simp only [reduceCtorEq, false_iff]
    omega
  case turn => exact ⟨by simp only; omega, by simp only; omega⟩
  case holder => exact fun j task since' hj hkey' => (hnone j task since' hj hkey').elim
  case unique => exact fun j _ task _ since' _ hj _ hkey' _ => (hnone j task since' hj hkey').elim
  case clean => exact h.clean.step hstep
  case laws =>
    rw [hrow]
    rintro _ ⟨⟩
    cases delivered with
    | true => simp [h.clean i item since lastError htask]
    | false => simp [hdelivered]

theorem step (h : AttemptInv key s c) (hstep : AlertStep env s l s')
    (hturn : InTurn key (s, c) l (s', c.after key s l)) :
    AttemptInv key s' (c.after key s l) := by
  rcases attempt_cases hstep key c with ⟨hrow, hcount, hholds⟩ |
    ⟨i, task, rfl, htask, hkey, hwins, hrow⟩ |
    ⟨i, item, since, delivered, lastError, rfl, htask, hkey, htasks, hrow⟩
  · rw [hcount]
    exact h.keep hstep hrow hholds
  · have hpair : OnPair s i key := (onPair_of_task htask).mpr hkey
    rw [show c.after key s (.task i .claim) = { c with claims := c.claims + 1 } from
      if_pos ⟨hpair, hwins⟩]
    exact h.claim hstep (hturn i rfl hpair hwins) hwins hrow
  · have hpair : OnPair s i key := (onPair_of_task htask).mpr hkey
    rw [show c.after key s (.task i .record) = { c with records := c.records + 1 } from
      if_pos hpair]
    exact h.record hstep htask hkey htasks hrow

/-- Before the first claim. -/
theorem start (hrow : s.ledger key = none) (htask : ∀ i, s.task i = none) :
    AttemptInv key s ⟨0, 0⟩ where
  attempts := by rw [hrow]; rfl
  row := by simp [hrow]
  turn := ⟨le_rfl, Nat.zero_le _⟩
  holder := fun i _ _ hi => by cases (htask i).symm.trans hi.1
  unique := fun i _ _ _ _ _ hi => by cases (htask i).symm.trans hi.1
  clean := fun i _ _ _ hi => by cases (htask i).symm.trans hi
  laws := by rw [hrow]; exact nofun

end AttemptInv

/-- In a run whose claims of a pair are won in turn, from a state without a row and without tasks,
`attempts` is the number of claims and of records, so it is the number of recorded attempts only
before the first; a row is delivered exactly if `delivered_at` is set, and then has no error. -/
theorem attempts_iff {s₀ s : AlertState} {c : AttemptCount} (hrow : s₀.ledger key = none)
    (htask : ∀ i, s₀.task i = none)
    (h : Reaches (CountedStep env key) (InTurn key) (s₀, ⟨0, 0⟩) (s, c)) :
    (attemptsOf (s.ledger key) = c.records ↔ c.claims = 0) ∧
    (c.claims = c.records → attemptsOf (s.ledger key) = 2 * c.records) ∧
    c.records ≤ c.claims ∧ c.claims ≤ c.records + 1 ∧ DeliveredLaws (s.ledger key) := by
  have hinv : AttemptInv key s c := by
    apply h.invariant (P := fun x => AttemptInv key x.1 x.2) _ (AttemptInv.start hrow htask)
    rintro ⟨s₁, c₁⟩ l ⟨s₂, c₂⟩ hinv ⟨hstep, hcount⟩ hturn
    simp only at hstep hcount
    subst hcount
    exact hinv.step hstep hturn
  have hattempts := hinv.attempts
  obtain ⟨hle, hlt⟩ := hinv.turn
  refine ⟨?_, ?_, hle, hlt, hinv.laws⟩
  · omega
  · omega

/-! ## One attempt -/

theorem countedTask {i : Slot} {task : Task} {e : TaskEvent} {ledger : Ledger} {next : Option Task}
    {c c' : AttemptCount} (htask : s.task i = some task)
    (hstep : TaskStep env s.now s.ledger task e ledger next)
    (hcount : c.after key s (.task i e) = c') (hturn : e = .claim → c.claims = c.records) :
    GuardedStep (CountedStep env key) (InTurn key) (s, c)
      (s.afterTask i task e ledger next, c') := by
  refine ⟨.task i e, ⟨.task htask hstep, hcount.symm⟩, ?_⟩
  intro j hl _ _
  cases hl
  exact hturn rfl

/-- The state once the first match of a queue has been spawned in slot `i`. -/
def spawned (s : AlertState) (i : Slot) (item : AlertMatch) (rest : List AlertMatch) : AlertState :=
  { s with
    queue := Function.update s.queue i.1 rest
    task := Function.update s.task i (some ⟨item, .spawned⟩) }

/-- A match that is spawned, claimed, sent and recorded: one claim and one record, each of which
writes the row. -/
theorem reaches_attempt {i : Slot} {item : AlertMatch} {rest : List AlertMatch} {c : AttemptCount}
    {request : WebhookRequest} (hqueue : s.queue i.1 = item :: rest) (hslot : s.task i = none)
    (hwins : s.claimWins item.key = true) (hprepare : prepareRequest env item = .ok request)
    (answer : HttpAnswer) (hturn : c.claims = c.records) :
    ∃ s', Reaches (CountedStep env item.key) (InTurn item.key) (s, c)
        (s', ⟨c.claims + 1, c.records + 1⟩) ∧
      s'.ledger = recordAlertDelivery
        (tryClaimAlertMatch s.ledger s.now item.key claimStaleAfterSecs).1 s.now item.key
        (recordOf (postSigned answer)).1 (recordOf (postSigned answer)).2 := by
  have hspawn : GuardedStep (CountedStep env item.key) (InTurn item.key) (s, c)
      (spawned s i item rest, c) := ⟨.spawn i, ⟨.spawn hqueue hslot, rfl⟩, nofun⟩
  have htask : (spawned s i item rest).task i = some ⟨item, .spawned⟩ := Function.update_self ..
  have hclaimed : c.after item.key (spawned s i item rest) (.task i .claim) =
      { c with claims := c.claims + 1 } := if_pos ⟨(onPair_of_task htask).mpr rfl, hwins⟩
  have hstep : TaskStep env s.now s.ledger ⟨item, .spawned⟩ .claim
      (tryClaimAlertMatch s.ledger s.now item.key claimStaleAfterSecs).1
      (some ⟨item, .claimed s.now⟩) := .claim hwins
  have hclaim := countedTask htask hstep hclaimed fun _ => hturn
  apply Exists.intro
  constructor
  · apply Relation.ReflTransGen.head hspawn
    apply Relation.ReflTransGen.head hclaim
    apply Relation.ReflTransGen.head
      (countedTask (AlertState.afterTask_self ..) (.post hprepare) rfl nofun)
    apply Relation.ReflTransGen.head
      (countedTask (AlertState.afterTask_self ..) (@TaskStep.respond κ env _ _ _ _ answer) rfl nofun)
    refine .single (countedTask (AlertState.afterTask_self ..) .record (if_pos ?_) nofun)
    exact (onPair_of_task (AlertState.afterTask_self ..)).mpr rfl
  · rfl

/-- A dispatcher finds a failed transaction, and its POST is answered with an error. -/
theorem reaches_attempt_sample : ∃ s,
    Reaches (CountedStep sampleEnv (sampleMatch 1).key) (InTurn (sampleMatch 1).key)
      (sampleAlerts [1], ⟨0, 0⟩) (s, ⟨1, 1⟩) ∧
    attemptsOf (s.ledger (sampleMatch 1).key) = 2 := by
  have hfind : AlertStep sampleEnv (sampleAlerts [1]) (.find 0 [sampleMatch 1])
      ((sampleAlerts [1]).found 0 [sampleMatch 1]) :=
    find_sampleMatch rfl rfl ⟨rfl, fun _ => rfl⟩ nofun
  have hfirst : GuardedStep (CountedStep sampleEnv (sampleMatch 1).key) (InTurn (sampleMatch 1).key)
      (sampleAlerts [1], ⟨0, 0⟩) ((sampleAlerts [1]).found 0 [sampleMatch 1], ⟨0, 0⟩) :=
    ⟨.find 0 [sampleMatch 1], ⟨hfind, rfl⟩, nofun⟩
  have hqueue : ((sampleAlerts [1]).found 0 [sampleMatch 1]).queue 0 = [sampleMatch 1] := rfl
  obtain ⟨s, hrun, hledger⟩ := reaches_attempt (i := (0, 0)) (c := ⟨0, 0⟩) hqueue rfl
    (tryClaimAlertMatch_eq_true.mpr nofun) (prepareRequest_sampleMatch 1)
    (.response 500 "500 Internal Server Error") rfl
  refine ⟨s, .head hfirst hrun, ?_⟩
  rw [hledger, recordAlertDelivery, Function.update_self]
  simp [tryClaimAlertMatch, AlertState.found, sampleAlerts, attemptsOf]

/-- The count of one attempt. -/
theorem attempts_iff_sample : ∃ s,
    Reaches (CountedStep sampleEnv (sampleMatch 1).key) (InTurn (sampleMatch 1).key)
      (sampleAlerts [1], ⟨0, 0⟩) (s, ⟨1, 1⟩) ∧
    (attemptsOf (s.ledger (sampleMatch 1).key) = (1 : Nat) ↔ 1 = 0) ∧
    DeliveredLaws (s.ledger (sampleMatch 1).key) := by
  obtain ⟨s, hrun, -⟩ := reaches_attempt_sample
  obtain ⟨hiff, -, -, -, hlaws⟩ := attempts_iff rfl (fun _ => rfl) hrun
  exact ⟨s, hrun, hiff, hlaws⟩

/-- After one recorded attempt `attempts` is 2. -/
theorem one_attempt_counts_two : ∃ s,
    Reaches (CountedStep sampleEnv (sampleMatch 1).key) (InTurn (sampleMatch 1).key)
      (sampleAlerts [1], ⟨0, 0⟩) (s, ⟨1, 1⟩) ∧
    attemptsOf (s.ledger (sampleMatch 1).key) ≠ (1 : Nat) := by
  obtain ⟨s, hrun, htwo⟩ := reaches_attempt_sample
  refine ⟨s, hrun, ?_⟩
  rw [htwo]
  decide

end TxIndexer.Proofs
