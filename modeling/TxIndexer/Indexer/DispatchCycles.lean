import TxIndexer.Indexer.AlertRuns
import TxIndexer.Lib.BatchRounds

/-!
# Cycles of one dispatcher

`dispatch_once` (`alerts.rs:347-397`) as a stretch of a run: one dispatcher reads a batch, works
on each of its matches in a task, ten at a time, and returns when all of them have. Nothing else
happens meanwhile, no statement fails, and what a receiver answers is fixed for each pair.
-/

namespace TxIndexer.Indexer

open Db

variable {κ : Type} {env : AlertEnv κ} {outcome : DeliveryKey → HttpAnswer}
  {w : Worker} {s₀ s s' : AlertState} {batch : List AlertMatch} {l : AlertEvent}

/-- Only dispatcher `w` takes steps, besides the clock, and the POST of a pair is answered as
`outcome` says. -/
def Solo (w : Worker) (outcome : DeliveryKey → HttpAnswer) (s : AlertState) (l : AlertEvent)
    (_ : AlertState) : Prop :=
  match l with
  | .tick => True
  | .spawn i => i.1 = w
  | .task _ .abort => False
  | .task i (.respond answer) =>
      i.1 = w ∧ ∀ task, s.task i = some task → answer = outcome task.item.key
  | .task i _ => i.1 = w
  | _ => False

/-- Every attempt on the pair delivers it: it is sent, and answered with success. -/
def delivers (env : AlertEnv κ) (outcome : DeliveryKey → HttpAnswer)
    (item : AlertMatch) : Bool :=
  match prepareRequest env item with
  | .ok _ => (recordOf (postSigned (outcome item.key))).1
  | .error _ => false

/-! ## What a cycle does to the ledger -/

/-- The row an attempt leaves. -/
def Attempted (env : AlertEnv κ) (outcome : DeliveryKey → HttpAnswer) (ledger : Ledger)
    (item : AlertMatch) : Prop :=
  ∃ d, ledger item.key = some d ∧ d.status = recordedStatus (delivers env outcome item)

/-- How far a task is with its match, whose row was `old`. -/
def OnTheWay (env : AlertEnv κ) (outcome : DeliveryKey → HttpAnswer)
    (old : Option AlertDelivery) (ledger : Ledger) (item : AlertMatch) : TaskPhase → Prop
  | .spawned => ledger item.key = old
  | .claimed _ => True
  | .posting _ => ∃ request, prepareRequest env item = .ok request
  | .recording _ delivered _ => delivered = delivers env outcome item

/-- In the middle of a cycle that began in `s₀`: each match of the batch is queued, in one task,
or attempted. -/
structure Working (env : AlertEnv κ) (outcome : DeliveryKey → HttpAnswer) (w : Worker)
    (s₀ : AlertState) (batch : List AlertMatch) (s : AlertState) : Prop where
  subscriptions : s.subscriptions = s₀.subscriptions
  db : s.db = s₀.db
  now : s₀.now < s.now
  other : ∀ key ∉ batch.map AlertMatch.key, s.ledger key = s₀.ledger key
  queue : ∀ item ∈ s.queue w, item ∈ batch ∧ s.ledger item.key = s₀.ledger item.key
  task : ∀ n item phase, s.task (w, n) = some ⟨item, phase⟩ →
    item ∈ batch ∧ OnTheWay env outcome (s₀.ledger item.key) s.ledger item phase
  nodup : ((s.queue w).map AlertMatch.key).Nodup
  apart : ∀ n task, s.task (w, n) = some task → task.item.key ∉ (s.queue w).map AlertMatch.key
  unique : ∀ n m task task', s.task (w, n) = some task → s.task (w, m) = some task' →
    task.item.key = task'.item.key → n = m
  placed : ∀ item ∈ batch, item ∈ s.queue w ∨ (∃ n phase, s.task (w, n) = some ⟨item, phase⟩) ∨
    Attempted env outcome s.ledger item

section Slots

variable {tasks : Slot → Option Task} {n m : Fin maxConcurrentPosts} {next : Option Task}
  {task : Task}

/-- The slots of `w` after slot `n` of it has changed. -/
theorem task_update (next : Option Task) : Function.update tasks (w, n) next (w, m) =
    Function.update (fun m => tasks (w, m)) n next m :=
  congrFun (Lib.update_part (Prod.mk w) (Prod.mk_right_injective w) n next) m

theorem task_update_cases (h : Function.update tasks (w, n) next (w, m) = some task) :
    (m = n ∧ next = some task) ∨ (m ≠ n ∧ tasks (w, m) = some task) := by
  rw [task_update] at h
  exact Lib.slot_cases h

theorem task_update_of_ne (hm : m ≠ n) (next : Option Task) :
    Function.update tasks (w, n) next (w, m) = tasks (w, m) := by
  rw [task_update]
  exact Function.update_of_ne hm ..

end Slots

/-- No two tasks of the cycle have matches of one key. -/
theorem Working.keysApart (h : Working env outcome w s₀ batch s) :
    Lib.KeysApart (fun task : Task => task.item.key) fun m => s.task (w, m) := h.unique

/-- The first match of the queue goes into a free slot. -/
theorem Working.spawn (h : Working env outcome w s₀ batch s) {n : Fin maxConcurrentPosts}
    {item : AlertMatch} {rest : List AlertMatch} (hqueue : s.queue w = item :: rest)
    (hslot : s.task (w, n) = none) : Working env outcome w s₀ batch
      { s with
        queue := Function.update s.queue w rest
        task := Function.update s.task (w, n) (some ⟨item, .spawned⟩) } := by
  have hrest : Function.update s.queue w rest w = rest := Function.update_self ..
  have hnodup := h.nodup
  have hapart := h.apart
  rw [hqueue, List.map_cons] at hapart
  rw [hqueue, List.map_cons, List.nodup_cons] at hnodup
  refine ⟨h.subscriptions, h.db, h.now, h.other, ?_, ?_, ?_, ?_, ?_, ?_⟩
  · intro item' hitem'
    dsimp only at hitem'
    rw [hrest] at hitem'
    exact h.queue item' (hqueue ▸ List.mem_cons_of_mem item hitem')
  · intro m item' phase htask
    rcases task_update_cases htask with ⟨-, hnew⟩ | ⟨-, hold⟩
    · cases hnew
      exact h.queue item (hqueue ▸ List.mem_cons_self)
    · exact h.task m item' phase hold
  · dsimp only
    rw [hrest]
    exact hnodup.2
  · intro m task htask
    dsimp only
    rw [hrest]
    rcases task_update_cases htask with ⟨-, hnew⟩ | ⟨-, hold⟩
    · cases hnew
      exact hnodup.1
    · exact fun hmem => hapart m task hold (List.mem_cons_of_mem item.key hmem)
  · intro m m' task task' htask htask'
    refine h.keysApart.update ?_ m m' task task' ((task_update _).symm.trans htask)
      ((task_update _).symm.trans htask')
    intro task hnew m _ task' hold heq
    cases hnew
    exact hapart m task' hold (heq ▸ List.mem_cons_self)
  · intro item' hitem'
    dsimp only
    rw [hrest]
    rcases h.placed item' hitem' with hmem | ⟨m, phase, htask⟩ | hattempted
    · rw [hqueue] at hmem
      rcases List.mem_cons.mp hmem with rfl | hmem
      · exact .inr (.inl ⟨n, .spawned, Function.update_self ..⟩)
      · exact .inl hmem
    · have hm : m ≠ n := by
        intro heq
        rw [heq, hslot] at htask
        cases htask
      exact .inr (.inl ⟨m, phase, (task_update_of_ne hm _).trans htask⟩)
    · exact .inr (.inr hattempted)

theorem OnTheWay.congr {old : Option AlertDelivery} {ledger ledger' : Ledger} {item : AlertMatch}
    {phase : TaskPhase} (h : OnTheWay env outcome old ledger item phase)
    (hrow : ledger' item.key = ledger item.key) : OnTheWay env outcome old ledger' item phase := by
  cases phase with
  | spawned => exact hrow.trans h
  | claimed | posting | recording => exact h

/-- A task goes on with its match, or has attempted it; no other row changes. -/
theorem Working.update (h : Working env outcome w s₀ batch s)
    (hkeys : (batch.map AlertMatch.key).Nodup) {n : Fin maxConcurrentPosts} {item : AlertMatch}
    {phase : TaskPhase} (htask : s.task (w, n) = some ⟨item, phase⟩) {ledger : Ledger}
    {next : Option Task} {succeeded : List DeliveryKey}
    (hrows : ∀ key, key ≠ item.key → ledger key = s.ledger key)
    (hnext : ∀ task, next = some task → task.item = item ∧
      OnTheWay env outcome (s₀.ledger item.key) ledger item task.phase)
    (hnone : next = none → Attempted env outcome ledger item) :
    Working env outcome w s₀ batch { s with
      ledger, succeeded
      task := Function.update s.task (w, n) next } := by
  have hitem : item ∈ batch := (h.task n item phase htask).1
  have hmine : ∀ task, next = some task → task.item.key = item.key :=
    fun task heq => congrArg AlertMatch.key (hnext task heq).1
  -- the match is with the task, or attempted
  have hplaced : (∃ m phase, Function.update s.task (w, n) next (w, m) = some ⟨item, phase⟩) ∨
      Attempted env outcome ledger item := by
    cases hcase : next with
    | none => exact .inr (hnone hcase)
    | some task =>
        obtain ⟨rfl, -⟩ := hnext task hcase
        exact .inl ⟨n, task.phase, Function.update_self ..⟩
  refine ⟨h.subscriptions, h.db, h.now, ?_, ?_, ?_, h.nodup, ?_, ?_, ?_⟩
  · intro key hkey
    have hne : key ≠ item.key := fun heq => hkey (heq ▸ List.mem_map_of_mem hitem)
    exact (hrows key hne).trans (h.other key hkey)
  · intro item' hmem
    obtain ⟨hbatch, hrow⟩ := h.queue item' hmem
    have hne : item'.key ≠ item.key :=
      fun heq => h.apart n _ htask (heq ▸ List.mem_map_of_mem hmem)
    exact ⟨hbatch, (hrows _ hne).trans hrow⟩
  · intro m item' phase' htask'
    rcases task_update_cases htask' with ⟨-, hnew⟩ | ⟨hm, hold⟩
    · obtain ⟨rfl, hway⟩ := hnext _ hnew
      exact ⟨hitem, hway⟩
    · obtain ⟨hbatch, hway⟩ := h.task m item' phase' hold
      have hne : item'.key ≠ item.key := fun heq => hm (h.unique m n _ _ hold htask heq)
      exact ⟨hbatch, hway.congr (hrows _ hne)⟩
  · intro m task htask'
    rcases task_update_cases htask' with ⟨-, hnew⟩ | ⟨-, hold⟩
    · rw [hmine task hnew]
      exact h.apart n _ htask
    · exact h.apart m task hold
  · intro m m' task task' hm hm'
    exact h.keysApart.replace htask hmine m m' task task' ((task_update _).symm.trans hm)
      ((task_update _).symm.trans hm')
  · intro item' hitem'
    by_cases hkey : item'.key = item.key
    · obtain rfl : item' = item := List.inj_on_of_nodup_map hkeys hitem' hitem hkey
      exact .inr hplaced
    · rcases h.placed item' hitem' with hmem | ⟨m, phase', htask'⟩ | ⟨d, hrow, hstatus⟩
      · exact .inl hmem
      · have hm : m ≠ n := by
          intro heq
          rw [heq, htask] at htask'
          cases htask'
          exact hkey rfl
        exact .inr (.inl ⟨m, phase', (task_update_of_ne hm _).trans htask'⟩)
      · exact .inr (.inr ⟨d, (hrows _ hkey).trans hrow, hstatus⟩)

theorem Working.attempted (h : Working env outcome w s₀ batch s) (hidle : s.Idle w)
    {item : AlertMatch} (hitem : item ∈ batch) : Attempted env outcome s.ledger item := by
  rcases h.placed item hitem with hmem | ⟨n, phase, htask⟩ | hattempted
  · rw [hidle.1] at hmem
    cases hmem
  · rw [hidle.2 n] at htask
    cases htask
  · exact hattempted

/-- After an attempt a pair is pending unless it was delivered. -/
theorem Attempted.pending_iff {ledger : Ledger} {item : AlertMatch}
    (h : Attempted env outcome ledger item) (now : Int) :
    Pending now claimStaleAfterSecs (ledger item.key) ↔ delivers env outcome item = false := by
  obtain ⟨d, hrow, hstatus⟩ := h
  rw [hrow]
  cases hdelivers : delivers env outcome item with
  | true => simp [Pending, hstatus, hdelivers, recordedStatus]
  | false => simp [Pending, hstatus, hdelivers, recordedStatus]

/-- Every matched pair is pending or delivered: nobody holds a claim. -/
def Unclaimed (s : AlertState) : Prop :=
  ∀ m ∈ alertMatches s.subscriptions s.db, m ∈ s.pending ∨ s.Delivered m.key

theorem mem_pending {m : AlertMatch} : m ∈ s.pending ↔
    m ∈ alertMatches s.subscriptions s.db ∧ Pending s.now claimStaleAfterSecs (s.ledger m.key) := by
  simp [AlertState.pending, pendingAlertMatches]

/-! ## Cycles -/

variable [LinearOrder κ]

/-- One cycle of `w`, which reads `batch`. -/
structure DispatchOnce (env : AlertEnv κ) (outcome : DeliveryKey → HttpAnswer) (w : Worker)
    (s : AlertState) (batch : List AlertMatch) (s' : AlertState) : Prop where
  run : ∃ found, AlertStep env s (.find w batch) found ∧
    Lib.Reaches (AlertStep env) (Solo w outcome) found s'
  idle : s'.Idle w

/-- One cycle after another, with the batches they read. -/
inductive DispatchLoop (env : AlertEnv κ) (outcome : DeliveryKey → HttpAnswer) (w : Worker) :
    AlertState → List (List AlertMatch) → AlertState → Prop
  | nil {s : AlertState} : DispatchLoop env outcome w s [] s
  | cons {s s₁ s' : AlertState} {batch : List AlertMatch} {batches : List (List AlertMatch)}
      (hcycle : DispatchOnce env outcome w s batch s₁)
      (hrest : DispatchLoop env outcome w s₁ batches s') :
      DispatchLoop env outcome w s (batch :: batches) s'

theorem Working.found (hidle : s₀.Idle w) (hnodup : (batch.map AlertMatch.key).Nodup)
    (hfind : AlertStep env s₀ (.find w batch) s) : Working env outcome w s₀ batch s := by
  cases hfind with
  | @find _ _ later _ hlater hbatch =>
      have hqueue : Function.update s₀.queue w batch w = batch := Function.update_self ..
      have hnone : ∀ n task, s₀.task (w, n) ≠ some task := by
        intro n task htask
        rw [hidle.2 n] at htask
        cases htask
      exact {
        subscriptions := rfl
        db := rfl
        now := hlater
        other := fun _ _ => rfl
        queue := fun item hitem => ⟨hqueue ▸ hitem, rfl⟩
        task := fun n item phase htask => absurd htask (hnone n _)
        nodup := by
          show ((Function.update s₀.queue w batch w).map AlertMatch.key).Nodup
          rw [hqueue]
          exact hnodup
        apart := fun n task htask => absurd htask (hnone n task)
        unique := fun n _ task _ htask => absurd htask (hnone n task)
        placed := fun item hitem => .inl (by
          show item ∈ Function.update s₀.queue w batch w
          rw [hqueue]
          exact hitem) }

/-- A step of the cycle. -/
theorem Working.step (h : Working env outcome w s₀ batch s)
    (hkeys : (batch.map AlertMatch.key).Nodup)
    (hpending : ∀ item ∈ batch, Pending s₀.now claimStaleAfterSecs (s₀.ledger item.key))
    (hstep : AlertStep env s l s') (hsolo : Solo w outcome s l s') :
    Working env outcome w s₀ batch s' := by
  cases hstep with
  | tick hlater => exact { h with now := h.now.trans_le hlater }
  | @spawn i item rest hqueue hslot =>
      obtain ⟨v, n⟩ := i
      obtain rfl : v = w := hsolo
      exact h.spawn hqueue hslot
  | @task i task e ledger next htask hstep =>
      obtain ⟨v, n⟩ := i
      cases hstep with
      | @claim item hwon =>
          obtain rfl : v = w := hsolo
          refine h.update hkeys htask (fun key hkey => tryClaimAlertMatch_other hkey) ?_ nofun
          rintro _ ⟨⟩
          exact ⟨rfl, trivial⟩
      | @skip item hlost =>
          -- the pair was pending, and the claim comes later
          obtain rfl : v = w := hsolo
          obtain ⟨hbatch, hrow⟩ := h.task n item .spawned htask
          have hreclaim := (hpending item hbatch).reclaimable h.now
          rw [← show s.ledger item.key = s₀.ledger item.key from hrow] at hreclaim
          rw [tryClaimAlertMatch_eq_true.mpr hreclaim] at hlost
          cases hlost
      | @reject item since error hprepare =>
          obtain rfl : v = w := hsolo
          refine h.update hkeys htask (fun _ _ => rfl) ?_ nofun
          rintro _ ⟨⟩
          refine ⟨rfl, ?_⟩
          show false = delivers env outcome item
          rw [delivers, hprepare]
      | @post item since request hprepare =>
          obtain rfl : v = w := hsolo
          refine h.update hkeys htask (fun _ _ => rfl) ?_ nofun
          rintro _ ⟨⟩
          exact ⟨rfl, request, hprepare⟩
      | @respond item since answer =>
          obtain ⟨rfl, hanswer⟩ := hsolo
          obtain ⟨request, hprepare⟩ := (h.task n item _ htask).2
          obtain rfl : answer = outcome item.key := hanswer _ htask
          refine h.update hkeys htask (fun _ _ => rfl) ?_ nofun
          rintro _ ⟨⟩
          refine ⟨rfl, ?_⟩
          show (recordOf (postSigned (outcome item.key))).1 = delivers env outcome item
          rw [delivers, hprepare]
      | @record item since delivered lastError =>
          obtain rfl : v = w := hsolo
          obtain rfl : delivered = delivers env outcome item := (h.task n item _ htask).2
          refine h.update hkeys htask (fun key hkey => recordAlertDelivery_other _ _ hkey) nofun ?_
          intro _
          exact recordAlertDelivery_status s.ledger s.now item.key _ lastError
      | abort => exact hsolo.elim
  | index | subscribe | deactivate | rotate | find | crash => exact hsolo.elim

theorem keys_nodup_of_batch (hbatch : FindPendingAlertMatches env.collate s.subscriptions s.db
    s.ledger s.now dispatchBatch claimStaleAfterSecs batch) :
    (batch.map AlertMatch.key).Nodup := by
  have hkeys : (s.pending.map AlertMatch.key).Nodup :=
    (alertMatches_keys_nodup s.subscriptions s.db).sublist (List.filter_sublist.map _)
  refine (hbatch.nodup (List.Nodup.of_map _ hkeys)).map_on fun a ha b hb heq => ?_
  exact List.inj_on_of_nodup_map hkeys (hbatch.subset ha) (hbatch.subset hb) heq

/-- A cycle attempts its batch and touches nothing else. -/
theorem DispatchOnce.working (h : DispatchOnce env outcome w s batch s') (hidle : s.Idle w) :
    FindPendingAlertMatches env.collate s.subscriptions s.db s.ledger s.now dispatchBatch
      claimStaleAfterSecs batch ∧ Working env outcome w s batch s' := by
  obtain ⟨found, hfind, hrun⟩ := h.run
  have hbatch : FindPendingAlertMatches env.collate s.subscriptions s.db s.ledger s.now
      dispatchBatch claimStaleAfterSecs batch := by
    cases hfind
    assumption
  have hkeys := keys_nodup_of_batch hbatch
  refine ⟨hbatch, hrun.invariant (fun _ _ _ hworking hstep hsolo => ?_)
    (Working.found hidle hkeys hfind)⟩
  exact hworking.step hkeys (fun item hitem => (mem_pending.mp (hbatch.subset hitem)).2) hstep hsolo

/-- What is pending after a cycle: what was, without the pairs the cycle delivered. -/
theorem DispatchOnce.pending_eq (h : DispatchOnce env outcome w s batch s') (hidle : s.Idle w)
    (hunclaimed : Unclaimed s) :
    s'.pending = Lib.remaining (delivers env outcome) s.pending batch ∧ Unclaimed s' := by
  obtain ⟨hbatch, hworking⟩ := h.working hidle
  have hkeys := alertMatches_keys_nodup s.subscriptions s.db
  have hpending : ∀ m ∈ alertMatches s.subscriptions s.db,
      (Pending s'.now claimStaleAfterSecs (s'.ledger m.key) ↔
        m ∈ s.pending ∧ ¬ (m ∈ batch ∧ delivers env outcome m = true)) ∧
      (m ∉ s.pending ∨ delivers env outcome m = true ∧ m ∈ batch → s'.Delivered m.key) := by
    intro m hm
    by_cases hin : m ∈ batch
    · have hattempted := hworking.attempted h.idle hin
      have hold : m ∈ s.pending := hbatch.subset hin
      refine ⟨?_, ?_⟩
      · rw [hattempted.pending_iff]
        simp [hin, hold]
      · rintro (hnot | ⟨hdelivers, -⟩)
        · exact absurd hold hnot
        · obtain ⟨d, hrow, hstatus⟩ := hattempted
          exact ⟨d, hrow, by rw [hstatus, hdelivers]; rfl⟩
    · have hrow : s'.ledger m.key = s.ledger m.key := by
        apply hworking.other
        intro hmem
        obtain ⟨b, hb, heq⟩ := List.mem_map.mp hmem
        have hball := (mem_pending.mp (hbatch.subset hb)).1
        exact hin (List.inj_on_of_nodup_map hkeys hball hm heq ▸ hb)
      rw [hrow]
      rcases hunclaimed m hm with hold | ⟨d, hd, hdelivered⟩
      · have hlater := (mem_pending.mp hold).2.mono hworking.now.le
        exact ⟨by simp [hold, hin, hlater], by simp [hold, hin]⟩
      · have hnot : ∀ now, ¬ Pending now claimStaleAfterSecs (s.ledger m.key) :=
          fun now hpending => hpending d hd (.inl hdelivered)
        have hold : m ∉ s.pending := fun hmem => hnot _ (mem_pending.mp hmem).2
        exact ⟨by simp [hold, hnot], fun _ => ⟨d, hrow.trans hd, hdelivered⟩⟩
  constructor
  · rw [AlertState.pending, pendingAlertMatches, hworking.subscriptions, hworking.db,
      Lib.remaining, AlertState.pending, pendingAlertMatches, List.filter_filter]
    refine List.filter_congr fun m hm => ?_
    have hin : m ∈ s.pending ↔ Pending s.now claimStaleAfterSecs (s.ledger m.key) := by
      rw [mem_pending, and_iff_right hm]
    have hiff := (hpending m hm).1
    rw [hin] at hiff
    rw [Bool.eq_iff_iff, decide_eq_true_eq, hiff]
    by_cases hbatch : m ∈ batch
    · simp [hbatch, and_comm]
    · simp [hbatch]
  · intro m hm
    rw [hworking.subscriptions, hworking.db] at hm
    obtain ⟨hiff, hdelivered⟩ := hpending m hm
    by_cases hleft : m ∈ s.pending ∧ ¬ (m ∈ batch ∧ delivers env outcome m = true)
    · left
      refine mem_pending.mpr ⟨?_, hiff.mpr hleft⟩
      rw [hworking.subscriptions, hworking.db]
      exact hm
    · right
      apply hdelivered
      by_cases hold : m ∈ s.pending
      · right
        by_contra hnot
        exact hleft ⟨hold, fun h => hnot ⟨h.2, h.1⟩⟩
      · exact .inl hold

/-! ## A cycle that runs -/

/-- One match is taken from the queue, attempted and recorded. -/
theorem reaches_recorded (h : Working env outcome w s₀ batch s)
    (hpending : ∀ item ∈ batch, Pending s₀.now claimStaleAfterSecs (s₀.ledger item.key))
    (hfree : ∀ n, s.task (w, n) = none) {item : AlertMatch} {rest : List AlertMatch}
    (hqueue : s.queue w = item :: rest) :
    ∃ s', Lib.Reaches (AlertStep env) (Solo w outcome) s s' ∧ (∀ n, s'.task (w, n) = none) ∧
      s'.queue w = rest := by
  obtain ⟨hbatch, hrow⟩ := h.queue item (hqueue ▸ List.mem_cons_self)
  have hwins : s.claimWins item.key = true := by
    refine tryClaimAlertMatch_eq_true.mpr ?_
    rw [hrow]
    exact (hpending item hbatch).reclaimable h.now
  -- from the state in which its result is to be recorded
  have hrecord : ∀ result : Bool × Option String,
      Lib.Reaches (AlertStep env) (Solo w outcome) s (s.recordingFirst (w, 0) item rest result) →
      ∃ s', Lib.Reaches (AlertStep env) (Solo w outcome) s s' ∧ (∀ n, s'.task (w, n) = none) ∧
        s'.queue w = rest := by
    intro result hrun
    have htask : (s.recordingFirst (w, 0) item rest result).task (w, 0) =
        some ⟨item, .recording s.now result.1 result.2⟩ := Function.update_self ..
    refine ⟨_, hrun.tail ⟨.task (w, 0) .record, .task htask .record, rfl⟩, fun n => ?_,
      Function.update_self ..⟩
    by_cases hn : n = 0
    · rw [hn]
      exact AlertState.afterTask_self ..
    · have hne : (w, n) ≠ (w, 0) := fun heq => hn (congrArg Prod.snd heq)
      rw [AlertState.afterTask_other _ _ _ _ _ hne]
      exact (Function.update_of_ne hne ..).trans (hfree n)
  cases hprepare : prepareRequest env item with
  | ok request =>
      refine hrecord _ (reaches_answered hqueue (hfree 0) hwins hprepare (outcome item.key)
        (fun _ => rfl) (fun _ _ => rfl) (fun _ _ => rfl) fun s₁ _ htask => ⟨rfl, ?_⟩)
      intro task htask'
      rw [htask] at htask'
      cases htask'
      rfl
  | error error =>
      exact hrecord _ (reaches_rejected hqueue (hfree 0) hwins hprepare (fun _ => rfl)
        (fun _ _ => rfl) fun _ _ => rfl)

/-- So is the whole queue, one match after another. -/
theorem reaches_idle (hkeys : (batch.map AlertMatch.key).Nodup)
    (hpending : ∀ item ∈ batch, Pending s₀.now claimStaleAfterSecs (s₀.ledger item.key))
    {items : List AlertMatch} (h : Working env outcome w s₀ batch s)
    (hfree : ∀ n, s.task (w, n) = none) (hqueue : s.queue w = items) :
    ∃ s', Lib.Reaches (AlertStep env) (Solo w outcome) s s' ∧ s'.Idle w := by
  induction items generalizing s with
  | nil => exact ⟨s, .refl, hqueue, hfree⟩
  | cons item rest ih =>
      obtain ⟨s₁, hrun, hfree₁, hqueue₁⟩ := reaches_recorded h hpending hfree hqueue
      have hworking : Working env outcome w s₀ batch s₁ :=
        hrun.invariant (fun _ _ _ h hstep hsolo => h.step hkeys hpending hstep hsolo) h
      obtain ⟨s', hrun', hidle⟩ := ih hworking hfree₁ hqueue₁
      exact ⟨s', hrun.trans hrun', hidle⟩

/-- Any batch that the `SELECT` may find is that of some cycle. -/
theorem exists_dispatchOnce (hidle : s.Idle w)
    (hbatch : FindPendingAlertMatches env.collate s.subscriptions s.db s.ledger s.now dispatchBatch
      claimStaleAfterSecs batch) : ∃ s', DispatchOnce env outcome w s batch s' := by
  have hfind : AlertStep env s (.find w batch) (s.found w batch) :=
    .find hidle (Int.lt_succ s.now) hbatch
  have hkeys := keys_nodup_of_batch hbatch
  have hworking : Working env outcome w s batch (s.found w batch) :=
    Working.found hidle hkeys hfind
  obtain ⟨s', hrun, hidle'⟩ := reaches_idle hkeys
    (fun item hitem => (mem_pending.mp (hbatch.subset hitem)).2) hworking hidle.2 rfl
  exact ⟨s', ⟨_, hfind, hrun⟩, hidle'⟩

/-! ## Cycles are rounds -/

theorem DispatchLoop.rounds {batches : List (List AlertMatch)}
    (h : DispatchLoop env outcome w s batches s') (hidle : s.Idle w) (hunclaimed : Unclaimed s) :
    Lib.Rounds (fun m : AlertMatch => env.collate m.txHash) dispatchBatch (delivers env outcome)
      s.pending batches s'.pending := by
  induction h with
  | nil => exact .nil
  | cons hcycle hrest ih =>
      obtain ⟨heq, hunclaimed'⟩ := hcycle.pending_eq hidle hunclaimed
      have hrounds := ih hcycle.idle hunclaimed'
      rw [heq] at hrounds
      exact .cons (hcycle.working hidle).1 hrounds

theorem exists_dispatchLoop {rows final : List AlertMatch} {batches : List (List AlertMatch)}
    (h : Lib.Rounds (fun m : AlertMatch => env.collate m.txHash) dispatchBatch
      (delivers env outcome) rows batches final)
    (hidle : s.Idle w) (hunclaimed : Unclaimed s) (hrows : s.pending = rows) :
    ∃ s', DispatchLoop env outcome w s batches s' := by
  induction h generalizing s with
  | nil => exact ⟨s, .nil⟩
  | cons hbatch hrest ih =>
      subst hrows
      obtain ⟨s₁, hcycle⟩ : ∃ s₁, DispatchOnce env outcome w s _ s₁ :=
        exists_dispatchOnce hidle hbatch
      obtain ⟨heq, hunclaimed'⟩ := hcycle.pending_eq hidle hunclaimed
      obtain ⟨s', hloop⟩ := ih hcycle.idle hunclaimed' heq
      exact ⟨s', .cons hcycle hloop⟩

end TxIndexer.Indexer
