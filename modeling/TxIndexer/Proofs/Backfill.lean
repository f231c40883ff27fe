import TxIndexer.Indexer.Invocations

/-!
# What a backfill that succeeds has indexed

The checkpoint is one number for the whole chain, and a run over a range takes every block up to
it for indexed. A run that succeeds has processed its own chunks, so its range is indexed exactly
if the blocks of the range outside these chunks were processed before it started.
-/

namespace TxIndexer.Proofs

open Db Indexer Lib

variable {parent : B256 → B256}

/-- Each block of the range was processed before the run or is in one of its chunks. -/
def Covered (r : RangeRun) : Prop :=
  ∀ toBlock ∈ r.toBlock, ∀ n, r.fromBlock ≤ n → n ≤ toBlock →
    n ∈ r.before ∨ InChunks r.cfg.batchSize r.resume r.lastBlock n

/-- Where no chunk's end wraps, a run is covered if the blocks of its range below the one it starts
at were processed before. -/
theorem covered_iff {r : RangeRun} (hbatch : 0 < r.cfg.batchSize)
    (hto : ∀ toBlock ∈ r.toBlock, toBlock + r.cfg.batchSize ≤ 2 ^ 64) :
    Covered r ↔ ∀ toBlock ∈ r.toBlock, ∀ n, r.fromBlock ≤ n → n ≤ toBlock → n < r.resume →
      n ∈ r.before := by
  have hchunks : ∀ toBlock ∈ r.toBlock, ∀ n,
      InChunks r.cfg.batchSize r.resume r.lastBlock n ↔ r.resume ≤ n ∧ n ≤ toBlock := by
    intro toBlock hmem n
    rw [RangeRun.lastBlock, Option.mem_def.mp hmem]
    exact inChunks_iff hbatch (hto toBlock hmem)
  constructor
  · intro h toBlock hmem n hlow hhigh hbelow
    refine (h toBlock hmem n hlow hhigh).resolve_right fun hchunk => ?_
    exact Nat.not_le_of_lt hbelow ((hchunks toBlock hmem n).mp hchunk).1
  · intro h toBlock hmem n hlow hhigh
    by_cases hbelow : n < r.resume
    · exact .inl (h toBlock hmem n hlow hhigh hbelow)
    · exact .inr ((hchunks toBlock hmem n).mpr ⟨Nat.not_lt.mp hbelow, hhigh⟩)

/-- The runs that are started are covered. -/
def StartsCovered (_ : Invocations parent) : InvocationEvent parent → Invocations parent → Prop
  | .rangeStarted r, _ => Covered r
  | _, _ => True

/-- Every block of the range is fully processed. -/
def RangeIndexed (r : RangeRun) (s : Invocations parent) : Prop :=
  ∀ toBlock ∈ r.toBlock, ∀ n, r.fromBlock ≤ n → n ≤ toBlock → n ∈ s.follow.processed

/-- The blocks that `index_range` has still to process. -/
def Remaining (batchSize : Nat) : Phase → Nat → Prop
  | .boundary next toBlock, n => InChunks batchSize next toBlock n
  | .chunk start stop toBlock _, n =>
      (start ≤ n ∧ n ≤ stop) ∨ InChunks batchSize (start + batchSize) toBlock n
  | _, _ => False

/-- Block `n` is in the chunk that is being indexed. -/
def InChunk : Phase → Nat → Prop
  | .chunk start stop _ _, n => start ≤ n ∧ n ≤ stop
  | _, _ => False

/-- What a run over a range keeps: with those that remain, the blocks that are processed are those
that were and those of its chunks. -/
structure RangeInv (r : RangeRun) (f : Follow parent) : Prop where
  blocks : ∀ n, n ∈ f.processed ∨ Remaining r.cfg.batchSize f.phase n ↔
    n ∈ r.before ∨ InChunks r.cfg.batchSize r.resume r.lastBlock n
  tasks : ∀ n t, f.phase.task n = some t → InChunk f.phase n
  done : ∀ n, f.phase.task n = some .done → n ∈ f.processed

theorem RangeInv.started (f : Follow parent) (cfg : FollowConfig) (fromBlock : Nat)
    (toBlock : Option Nat) : RangeInv (rangeRun f cfg fromBlock toBlock)
      { f with phase := (rangeRun f cfg fromBlock toBlock).startPhase } :=
  ⟨fun _ => Iff.rfl, nofun, nofun⟩

variable {r : RangeRun} {f f' : Follow parent}

/-- One task of a chunk changes, and a block that was to be processed may become so. -/
theorem RangeInv.update (h : RangeInv r f) {start stop toBlock n : Nat}
    {tasks : Nat → Option BlockTask} {t : BlockTask} {db : Database} {processed : Finset Nat}
    (hphase : f.phase = .chunk start stop toBlock tasks) (hn : start ≤ n ∧ n ≤ stop)
    (hprocessed : ∀ m, m ∈ processed ↔ m ∈ f.processed ∨ t = .done ∧ m = n) :
    RangeInv r ({ f with
      db := db, processed := processed
      phase := .chunk start stop toBlock (Function.update tasks n (some t)) } : Follow parent) := by
  have hblocks := h.blocks
  have htasks := h.tasks
  have hdone := h.done
  rw [hphase] at hblocks htasks hdone
  refine ⟨fun m => ?_, fun m t' ht' => ?_, fun m hm => ?_⟩
  · rw [← hblocks m]
    constructor
    · rintro (hmem | hrest)
      · rcases (hprocessed m).mp hmem with hold | ⟨-, rfl⟩
        · exact .inl hold
        · exact .inr (.inl hn)
      · exact .inr hrest
    · rintro (hmem | hrest)
      · exact .inl ((hprocessed m).mpr (.inl hmem))
      · exact .inr hrest
  · simp only [Phase.task, Function.update_apply] at ht'
    by_cases hm : m = n
    · rw [hm]
      exact hn
    · rw [if_neg hm] at ht'
      exact htasks m t' ht'
  · simp only [Phase.task, Function.update_apply] at hm
    by_cases hmn : m = n
    · rw [if_pos hmn, Option.some.injEq] at hm
      exact (hprocessed m).mpr (.inr ⟨hm, hmn⟩)
    · rw [if_neg hmn] at hm
      exact (hprocessed m).mpr (.inl (hdone m hm))

/-- A step of `index_range` keeps it. -/
theorem RangeInv.step (h : RangeInv r f) {e : FollowEvent parent}
    (hstep : FollowStep r.cfg f e f') (hindexing : e.isIndexing = true) : RangeInv r f' := by
  have hblocks := h.blocks
  have htasks := h.tasks
  have hdone := h.done
  cases hstep with
  | nextChunk hphase hnext hbatch =>
      refine ⟨fun n => ?_, nofun, nofun⟩
      rw [hphase] at hblocks
      rw [← hblocks n]
      exact or_congr Iff.rfl (inChunks_iff_first hnext).symm
  | fetch hphase hstart hstop hnew hserved hplan =>
      exact h.update hphase ⟨hstart, hstop⟩ fun m => by simp
  | exec hphase htask hexec =>
      rw [hphase] at htasks
      exact h.update hphase (htasks _ _ htask) fun m => by simp
  | complete hphase htask =>
      rw [hphase] at htasks
      refine h.update hphase (htasks _ _ htask) fun m => ?_
      rw [Finset.mem_insert, or_comm]
      simp
  | checkpoint hphase hall =>
      refine ⟨fun n => ?_, nofun, nofun⟩
      rw [hphase] at hblocks hdone
      rw [← hblocks n]
      constructor
      · rintro (hmem | hrest)
        · exact .inl hmem
        · exact .inr (.inr hrest)
      · rintro (hmem | ⟨hlow, hhigh⟩ | hrest)
        · exact .inl hmem
        · exact .inl (hdone n (hall n hlow hhigh))
        · exact .inr hrest
  | start | stop | clean | rollback | idle | target | rangeDone | replaceChain => cases hindexing

/-- What every invocation keeps. -/
def InvocationInv (s : Invocations parent) : Prop := ∀ r, s.mode = .range r → RangeInv r s.follow

theorem InvocationInv.step {s s' : Invocations parent} {e : InvocationEvent parent}
    (h : InvocationInv s) (hstep : InvocationStep s e s') : InvocationInv s' := by
  cases hstep with
  | followStarted | follow | succeeded | ended => nofun
  | @rangeStarted f cfg fromBlock toBlock =>
      rintro _ ⟨⟩
      exact RangeInv.started f cfg fromBlock toBlock
  | index hstep hindexing =>
      rintro _ ⟨⟩
      exact (h _ rfl).step hstep hindexing
  | replaceChain =>
      intro r hmode
      obtain ⟨hblocks, htasks, hdone⟩ := h r hmode
      exact ⟨hblocks, htasks, hdone⟩

theorem invocationInv_fresh (chain : HashChain parent) :
    InvocationInv (Invocations.fresh chain) := nofun

/-- A run that succeeds has indexed its range exactly if it was covered. -/
theorem rangeIndexed_iff {s s' : Invocations parent} (h : InvocationInv s)
    (hstep : InvocationStep s (.succeeded r) s') : RangeIndexed r s' ↔ Covered r := by
  cases hstep with
  | succeeded hphase hnext =>
      have hblocks := (h r rfl).blocks
      rw [hphase] at hblocks
      have hprocessed : ∀ n, n ∈ _ ↔ n ∈ r.before ∨ _ :=
        fun n => (or_iff_left (not_inChunks hnext)).symm.trans (hblocks n)
      simp only [RangeIndexed, Covered, hprocessed]

/-- A run that was started covered is. -/
theorem covered_step {s s' : Invocations parent} {e : InvocationEvent parent}
    (h : ∀ r, s.mode = .range r → Covered r) (hstep : InvocationStep s e s')
    (hguard : StartsCovered s e s') : ∀ r, s'.mode = .range r → Covered r := by
  cases hstep with
  | followStarted | follow | succeeded | ended => nofun
  | rangeStarted =>
      rintro _ ⟨⟩
      exact hguard
  | index => exact h
  | replaceChain => exact h

/-- Over any sequence of invocations: a run over a range that succeeds leaves its range indexed if
it was started covered, and only then. -/
theorem backfill_indexes_iff (chain : HashChain parent) :
    (∀ s r s', Reaches InvocationStep StartsCovered (.fresh chain) s →
      InvocationStep s (.succeeded r) s' → RangeIndexed r s') ∧
    ∀ s r s', Reaches InvocationStep anyStep (.fresh chain) s →
      InvocationStep s (.succeeded r) s' → (RangeIndexed r s' ↔ Covered r) := by
  have hinv : ∀ s, Reaches InvocationStep anyStep (.fresh chain) s → InvocationInv s :=
    fun s hrun => hrun.invariant (fun _ _ _ h hstep _ => h.step hstep) (invocationInv_fresh chain)
  constructor
  · intro s r s' hrun hstep
    have hcovered : ∀ r, s.mode = .range r → Covered r :=
      hrun.invariant (P := fun s => ∀ r, s.mode = .range r → Covered r)
        (fun _ _ _ h hstep hguard => covered_step h hstep hguard) nofun
    refine (rangeIndexed_iff (hinv s (hrun.mono fun _ _ _ _ => trivial)) hstep).mpr ?_
    cases hstep with
    | succeeded => exact hcovered r rfl
  · intro s r s' hrun hstep
    exact rangeIndexed_iff (hinv s hrun) hstep

/-! ## Two runs, one after the other -/

/-- The steps of a run over a range are steps of its process. -/
theorem reaches_index
    {guard : Invocations parent → InvocationEvent parent → Invocations parent → Prop}
    (hguard : ∀ s e s', guard s (.index e) s')
    (h : Reaches (FollowStep r.cfg) (fun _ e _ => e.isIndexing = true) f f') :
    Reaches InvocationStep guard ⟨f, .range r⟩ ⟨f', .range r⟩ := by
  induction h with
  | refl => exact .refl
  | tail _ hs ih =>
      obtain ⟨e, hstep, hindexing⟩ := hs
      exact ih.tail ⟨.index e, .index hstep hindexing, hguard _ _ _⟩

/-- What a run leaves that had block `n`, which is empty, left of its range. -/
def lastIndexed (f : Follow sampleParent) (n : Nat) (hash parentHash : B256) :
    Follow sampleParent where
  db := updateCheckpoint (storeBlock f.db n (emptyHeader hash parentHash)) (asI64 n)
  chain := f.chain
  processed := insert n f.processed
  phase := .boundary (n + 2) n

/-- A run that has one block left of its range. -/
theorem reaches_lastIndexed {guard : Invocations sampleParent → InvocationEvent sampleParent →
      Invocations sampleParent → Prop} {f : Follow sampleParent} {fromBlock n : Nat}
    {hash parentHash : B256} (hresume : resumeFrom (getLastCheckpoint f.db) fromBlock = n)
    (hend : chunkEnd 2 n n = n)
    (hserved : Served f.chain n (emptyBlockAnswers (emptyHeader hash parentHash)))
    (hstarted : ∀ s s', guard s
      (.rangeStarted (rangeRun f (sampleConfig 2) fromBlock (some n))) s')
    (hguard : ∀ s e s', guard s (.index e) s') :
    Reaches InvocationStep guard ⟨f, .down⟩ ⟨lastIndexed f n hash parentHash,
      .range (rangeRun f (sampleConfig 2) fromBlock (some n))⟩ := by
  have hphase : (rangeRun f (sampleConfig 2) fromBlock (some n)).startPhase = .boundary n n := by
    rw [RangeRun.startPhase, rangeRun, hresume]
    rfl
  refine Reaches.cons _ .rangeStarted (hstarted _ _) (reaches_index hguard ?_)
  rw [hphase]
  have hchunk : FollowStep (sampleConfig 2) { f with phase := .boundary n n } .nextChunk
      { f with phase := .chunk n n n fun _ => none } := by
    have hstep : FollowStep (sampleConfig 2) { f with phase := .boundary n n } .nextChunk
      { f with phase := .chunk n (chunkEnd 2 n n) n fun _ => none } :=
      .nextChunk rfl le_rfl (by decide)
    rwa [hend] at hstep
  have hblock : Reaches (FollowStep (sampleConfig 2)) (fun _ e _ => e.isIndexing = true)
      { f with phase := .chunk n n n fun _ => none } _ :=
    reaches_emptyBlock rfl le_rfl le_rfl rfl hserved (fun _ => rfl) (fun _ _ => rfl)
      (fun _ _ => rfl)
  refine (Reaches.cons _ hchunk rfl hblock).tail ⟨.checkpoint, .checkpoint rfl fun m hlow hhigh => ?_,
    rfl⟩
  obtain rfl : m = n := le_antisymm hhigh hlow
  exact Function.update_self ..

/-- Nothing is stored yet. -/
def emptyTables : Follow sampleParent := (Invocations.fresh sampleChain).follow

/-- Block `n` was indexed by a run over it alone. -/
def onlyBlock (n : Nat) : Follow sampleParent :=
  { lastIndexed emptyTables n (.ofNat 256 (n + 1)) (.ofNat 256 n) with phase := .stopped }

theorem reaches_onlyBlock {guard : Invocations sampleParent → InvocationEvent sampleParent →
      Invocations sampleParent → Prop} {n : Nat} (hn : n = 1 ∨ n = 2)
    (hguard : ∀ s e s', StartsCovered s e s' → guard s e s') :
    Reaches InvocationStep guard (.fresh sampleChain) ⟨onlyBlock n, .down⟩ := by
  have hend : chunkEnd 2 n n = n := by rcases hn with rfl | rfl <;> decide
  have hcovered : Covered (rangeRun emptyTables (sampleConfig 2) n (some n)) := by
    have hbatch : 0 < (sampleConfig 2).batchSize := by decide
    refine (covered_iff hbatch ?_).mpr ?_
    · rintro _ ⟨⟩
      rcases hn with rfl | rfl <;> decide
    · rintro _ ⟨⟩ m hlow hhigh hbelow
      exact absurd hbelow (Nat.not_lt.mpr hlow)
  have hresume : resumeFrom (getLastCheckpoint emptyTables.db) n = n := rfl
  have hindex : Reaches InvocationStep guard ⟨emptyTables, .down⟩
      ⟨lastIndexed emptyTables n _ _, .range (rangeRun emptyTables (sampleConfig 2) n (some n))⟩ :=
    reaches_lastIndexed hresume hend (served_sampleChain n hn)
      (fun _ _ => hguard _ _ _ hcovered) fun _ _ _ => hguard _ _ _ trivial
  exact hindex.tail ⟨_, .succeeded rfl (by omega), hguard _ _ _ trivial⟩

/-- Block 1 is indexed, and then the range of the blocks 1 and 2, of which block 2 is left. -/
theorem resumed_range_indexed : ∃ r s, Reaches InvocationStep StartsCovered (.fresh sampleChain) s ∧
    r.fromBlock = 1 ∧ r.toBlock = some 2 ∧ r.resume = 2 ∧ RangeIndexed r s := by
  have hresume : resumeFrom (getLastCheckpoint (onlyBlock 1).db) 1 = 2 := by decide
  have hcovered : Covered (rangeRun (onlyBlock 1) (sampleConfig 2) 1 (some 2)) := by
    have hbatch : 0 < (sampleConfig 2).batchSize := by decide
    refine (covered_iff hbatch ?_).mpr ?_
    · rintro _ ⟨⟩
      decide
    · rintro _ ⟨⟩ m hlow hhigh hbelow
      obtain rfl : m = 1 := by
        have hlt : m < 2 := hbelow.trans_eq hresume
        have hge : 1 ≤ m := hlow
        omega
      decide
  have hrun : Reaches InvocationStep StartsCovered (.fresh sampleChain) _ :=
    (reaches_onlyBlock (.inl rfl) fun _ _ _ h => h).trans
      (reaches_lastIndexed hresume (by decide) (served_sampleChain 2 (.inr rfl))
        (fun _ _ => hcovered) fun _ _ _ => trivial)
  have hsucceeded := InvocationStep.succeeded (r := rangeRun (onlyBlock 1) (sampleConfig 2) 1
    (some 2)) (f := lastIndexed (onlyBlock 1) 2 3 2) rfl (by decide)
  exact ⟨_, _, hrun.tail ⟨_, hsucceeded, trivial⟩, rfl, rfl, hresume,
    (backfill_indexes_iff sampleChain).1 _ _ _ hrun hsucceeded⟩

/-- Block 2 is indexed, and then a run over block 1 finds the checkpoint above it and succeeds. -/
theorem range_below_checkpoint_skipped :
    ¬ ∀ s r s', Reaches InvocationStep anyStep (.fresh sampleChain) s →
      InvocationStep s (.succeeded r) s' → RangeIndexed r s' := by
  intro hall
  have hrun : Reaches InvocationStep anyStep (.fresh sampleChain) ⟨onlyBlock 2, .down⟩ :=
    reaches_onlyBlock (.inr rfl) fun _ _ _ _ => trivial
  have hstarted : InvocationStep ⟨onlyBlock 2, .down⟩
      (.rangeStarted (rangeRun (onlyBlock 2) (sampleConfig 2) 1 (some 1))) _ := .rangeStarted
  have hindexed := hall _ _ _ (hrun.tail ⟨_, hstarted, trivial⟩)
    (.succeeded rfl (by decide)) 1 rfl 1 le_rfl le_rfl
  revert hindexed
  decide

end TxIndexer.Proofs
