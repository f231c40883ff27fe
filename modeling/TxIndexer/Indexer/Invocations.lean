import TxIndexer.Indexer.Follow

/-!
# Invocations of the indexer

`main` of `crates/indexer/src/main.rs`, one invocation after another on one database: a follow
session, or a run over a fixed range, which resumes after the stored checkpoint when that is not
below the range and then indexes what is left in chunks. A run over a range has the chunk steps of
a follow session and no others: it looks for no reorg and ends after its last chunk.
-/

namespace TxIndexer.Indexer

open Db

/-- Where a run over a range starts (`main.rs:134-145`), the sum wrapping as `i64` does. -/
def resumeFrom (lastCheckpoint : Option Int) (fromBlock : Nat) : Nat :=
  match lastCheckpoint with
  | some last => if asI64 fromBlock ≤ last then asU64 (last + 1) else fromBlock
  | none => fromBlock

/-- A run over a fixed range: how it is set up, the range it was asked for, where it starts, and,
as history, the blocks that were fully processed when it was started. -/
structure RangeRun where
  cfg : FollowConfig
  fromBlock : Nat
  toBlock : Option Nat
  resume : Nat
  before : Finset Nat

/-- The last block of a run, by default the one it starts at (`main.rs:147`). -/
def RangeRun.lastBlock (r : RangeRun) : Nat := r.toBlock.getD r.resume

/-- The phase a run starts in. -/
def RangeRun.startPhase (r : RangeRun) : Phase := .boundary r.resume r.lastBlock

/-- What is running. -/
inductive Mode where
  | down
  | following (cfg : FollowConfig)
  | range (r : RangeRun)

/-- The state of the process and what it works on, and which kind of process it is. -/
structure Invocations (parent : B256 → B256) where
  follow : Follow parent
  mode : Mode

/-- What happens in a step. -/
inductive InvocationEvent (parent : B256 → B256) where
  | followStarted (cfg : FollowConfig)
  | follow (e : FollowEvent parent)
  | rangeStarted (r : RangeRun)
  | index (e : FollowEvent parent)
  | succeeded (r : RangeRun)
  | ended
  | replaceChain (chain : Lib.HashChain parent)

/-- The steps of `index_range`. -/
def FollowEvent.isIndexing {parent : B256 → B256} : FollowEvent parent → Bool
  | .nextChunk | .fetch _ _ | .exec _ | .complete _ | .checkpoint => true
  | _ => false

variable {parent : B256 → B256}

/-- The run that `--from-block` and `--to-block` ask for in the state `f`. -/
def rangeRun (f : Follow parent) (cfg : FollowConfig) (fromBlock : Nat) (toBlock : Option Nat) :
    RangeRun where
  cfg
  fromBlock
  toBlock
  resume := resumeFrom (getLastCheckpoint f.db) fromBlock
  before := f.processed

/-- One step. A process may end at any moment, by a signal or by something that fails. One that
is asked for a range whose blocks are all at or below the checkpoint has no chunk to index, and
succeeds at once. -/
inductive InvocationStep : Invocations parent → InvocationEvent parent → Invocations parent → Prop
  | followStarted {f cfg} :
      InvocationStep ⟨f, .down⟩ (.followStarted cfg) ⟨f, .following cfg⟩
  | follow {f f' e cfg} (hstep : FollowStep cfg f e f') :
      InvocationStep ⟨f, .following cfg⟩ (.follow e) ⟨f', .following cfg⟩
  | rangeStarted {f cfg fromBlock toBlock} :
      InvocationStep ⟨f, .down⟩ (.rangeStarted (rangeRun f cfg fromBlock toBlock))
        ⟨{ f with phase := (rangeRun f cfg fromBlock toBlock).startPhase },
          .range (rangeRun f cfg fromBlock toBlock)⟩
  | index {f f' e r} (hstep : FollowStep r.cfg f e f') (hindexing : e.isIndexing = true) :
      InvocationStep ⟨f, .range r⟩ (.index e) ⟨f', .range r⟩
  | succeeded {f r next toBlock} (hphase : f.phase = .boundary next toBlock)
      (hnext : toBlock < next) :
      InvocationStep ⟨f, .range r⟩ (.succeeded r) ⟨{ f with phase := .stopped }, .down⟩
  | ended {f mode} : InvocationStep ⟨f, mode⟩ .ended ⟨{ f with phase := .stopped }, .down⟩
  | replaceChain {f mode chain} :
      InvocationStep ⟨f, mode⟩ (.replaceChain chain) ⟨{ f with chain := chain }, mode⟩

/-- Empty tables and no process. -/
def Invocations.fresh (chain : Lib.HashChain parent) : Invocations parent where
  follow := { db := .empty, chain, processed := ∅, phase := .stopped }
  mode := .down

/-! ## The chunks of a range -/

/-- Block `n` is in a chunk of the range from `next` to `toBlock`. -/
def InChunks (batchSize next toBlock n : Nat) : Prop :=
  ∃ k, next + k * batchSize ≤ toBlock ∧ next + k * batchSize ≤ n ∧
    n ≤ chunkEnd batchSize (next + k * batchSize) toBlock

theorem not_inChunks {batchSize next toBlock n : Nat} (h : toBlock < next) :
    ¬ InChunks batchSize next toBlock n := by
  rintro ⟨k, hle, -, -⟩
  have hnext : next ≤ next + k * batchSize := Nat.le_add_right _ _
  omega

/-- The blocks of a range are those of its first chunk and those of the chunks after it. -/
theorem inChunks_iff_first {batchSize next toBlock n : Nat} (h : next ≤ toBlock) :
    InChunks batchSize next toBlock n ↔
      (next ≤ n ∧ n ≤ chunkEnd batchSize next toBlock) ∨
        InChunks batchSize (next + batchSize) toBlock n := by
  have hshift : ∀ k, next + (k + 1) * batchSize = next + batchSize + k * batchSize := by
    intro k
    rw [Nat.succ_mul]
    omega
  constructor
  · rintro ⟨k, hle, hlow, hhigh⟩
    cases k with
    | zero => exact .inl ⟨by simpa using hlow, by simpa using hhigh⟩
    | succ k =>
        rw [hshift] at hle hlow hhigh
        exact .inr ⟨k, hle, hlow, hhigh⟩
  · rintro (⟨hlow, hhigh⟩ | ⟨k, hle, hlow, hhigh⟩)
    · exact ⟨0, by simpa using h, by simpa using hlow, by simpa using hhigh⟩
    · exact ⟨k + 1, by rw [hshift]; exact hle, by rw [hshift]; exact hlow,
        by rw [hshift]; exact hhigh⟩

/-- Where no chunk's end wraps, the chunks are the whole range. -/
theorem inChunks_iff {batchSize next toBlock n : Nat} (hbatch : 0 < batchSize)
    (hto : toBlock + batchSize ≤ 2 ^ 64) :
    InChunks batchSize next toBlock n ↔ next ≤ n ∧ n ≤ toBlock := by
  constructor
  · rintro ⟨k, -, hlow, hhigh⟩
    have hnext : next ≤ next + k * batchSize := Nat.le_add_right _ _
    exact ⟨hnext.trans hlow, hhigh.trans (chunkEnd_le _ _ _)⟩
  · rintro ⟨hlow, hhigh⟩
    have hdiv : (n - next) / batchSize * batchSize ≤ n - next := Nat.div_mul_le_self _ _
    have hrest : n - next < (n - next) / batchSize * batchSize + batchSize :=
      Nat.lt_div_mul_add hbatch
    refine ⟨(n - next) / batchSize, by omega, by omega, ?_⟩
    rw [chunkEnd, Nat.mod_eq_of_lt (by omega)]
    omega

end TxIndexer.Indexer
