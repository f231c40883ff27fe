import TxIndexer.Indexer.Follow

/-!
# The ranges that are indexed

`index_range` and the cycles of `follow` of `crates/indexer/src/worker.rs` as functions, for runs in
which nothing fails and there is no reorg: which chunks are processed, in order, and the checkpoint
after each of them. The chunks are those of the transition system of `Indexer.Follow`.
-/

namespace TxIndexer.Indexer

open Db

/-- `(from..=to).step_by(size)`. -/
def stepBy (size fromBlock toBlock : Nat) : List Nat :=
  if fromBlock ≤ toBlock then List.range' fromBlock ((toBlock - fromBlock) / size + 1) size else []

/-- A chunk that was processed, and the checkpoint written after it. -/
structure ChunkDone where
  start : Nat
  stop : Nat
  checkpoint : Int
  deriving DecidableEq, Repr

/-- The blocks of a chunk, `from..=to` in `process_chunk`. -/
def ChunkDone.blocks (c : ChunkDone) : List Nat := List.range' c.start (c.stop + 1 - c.start)

/-- The `cancel` flag when the `i`-th chunk is about to begin, where the signal comes before chunk
`cancelAt`, if it comes. -/
def cancelFlag (cancelAt : Option Nat) (i : Nat) : Bool := cancelAt.any (· ≤ i)

/-- The loop of `index_range` (`worker.rs:66-84`) over the chunk starts that are left, of which the
first is the `i`-th. -/
def indexChunks (batchSize toBlock : Nat) (cancelAt : Option Nat) : Nat → List Nat → List ChunkDone
  | _, [] => []
  | i, chunkStart :: rest =>
      if cancelFlag cancelAt i then []
      else
        let stop := chunkEnd batchSize chunkStart toBlock
        ⟨chunkStart, stop, asI64 stop⟩ :: indexChunks batchSize toBlock cancelAt (i + 1) rest

/-- `index_range` (`worker.rs:55-88`). -/
def indexRange (batchSize fromBlock toBlock : Nat) (cancelAt : Option Nat) : List ChunkDone :=
  indexChunks batchSize toBlock cancelAt 0 (stepBy batchSize fromBlock toBlock)

/-- The checkpoint after these chunks. -/
def checkpointAfter (checkpoint : Option Int) (done : List ChunkDone) : Option Int :=
  done.foldl (fun _ c => some c.checkpoint) checkpoint

/-- The blocks that were processed, chunk by chunk. -/
def blocksOf (done : List ChunkDone) : List Nat := done.flatMap ChunkDone.blocks

/-! ## Cycles -/

/-- How `follow` is set up; its cap is `FOLLOW_CYCLE_BLOCK_CAP`. -/
structure CycleConfig where
  confirmations : Nat
  cap : Nat
  batchSize : Nat

/-- What a cycle finds: the head of the chain, and when the signal to stop comes, if it comes before
the cycle is over. -/
structure CycleInput where
  head : Nat
  cancelAt : Option Nat

/-- A cycle that is over. -/
structure CycleDone where
  head : Nat
  done : List ChunkDone

/-- The stored checkpoint, and whether the loop goes on; the cycles are history. -/
structure Cycles where
  checkpoint : Option Int
  running : Bool
  cycles : List CycleDone

/-- The chunks a cycle processes (`worker.rs:166-182`). -/
def cycleChunks (cfg : CycleConfig) (checkpoint : Option Int) (input : CycleInput) :
    List ChunkDone :=
  match nextTarget input.head cfg.confirmations checkpoint with
  | some (fromBlock, toBlock) =>
      let (fromBlock, toBlock) := capRangeTo fromBlock toBlock cfg.cap
      indexRange cfg.batchSize fromBlock toBlock input.cancelAt
  | none => []

/-- One cycle of `follow` (`worker.rs:156-236`) in which no reorg is found. -/
def Cycles.cycle (cfg : CycleConfig) (s : Cycles) (input : CycleInput) : Cycles where
  checkpoint := checkpointAfter s.checkpoint (cycleChunks cfg s.checkpoint input)
  running := input.cancelAt.isNone
  cycles := s.cycles ++ [⟨input.head, cycleChunks cfg s.checkpoint input⟩]

/-- The loop takes a cycle unless it has been told to stop. -/
def CycleStep (cfg : CycleConfig) (s : Cycles) (input : CycleInput) (s' : Cycles) : Prop :=
  s.running = true ∧ s' = s.cycle cfg input

/-- The blocks of all cycles, in the order of their chunks. -/
def Cycles.blocks (s : Cycles) : List Nat := s.cycles.flatMap fun c => blocksOf c.done

/-! ## Chunk starts -/

theorem stepBy_of_lt {size fromBlock toBlock : Nat} (h : toBlock < fromBlock) :
    stepBy size fromBlock toBlock = [] := if_neg (Nat.not_le.mpr h)

theorem stepBy_cons {size fromBlock toBlock : Nat} (hsize : 0 < size) (h : fromBlock ≤ toBlock) :
    stepBy size fromBlock toBlock = fromBlock :: stepBy size (fromBlock + size) toBlock := by
  rw [stepBy, if_pos h, List.range'_succ]
  by_cases hnext : fromBlock + size ≤ toBlock
  · have hdiv : (toBlock - fromBlock) / size = (toBlock - (fromBlock + size)) / size + 1 := by
      rw [← Nat.sub_sub, Nat.div_eq_sub_div hsize (by omega)]
    rw [stepBy, if_pos hnext, hdiv]
  · have hdiv : (toBlock - fromBlock) / size = 0 := Nat.div_eq_of_lt (by omega)
    rw [stepBy, if_neg hnext, hdiv, List.range'_zero]

theorem cancelFlag_eq_true {cancelAt : Option Nat} {i : Nat} :
    cancelFlag cancelAt i = true ↔ ∃ c ∈ cancelAt, c ≤ i := by
  cases cancelAt with
  | none => simp [cancelFlag]
  | some c => simp [cancelFlag]

/-! ## The chunks of the transition system -/

/-- The chunks of a range that was not cancelled. -/
def rangeChunks (batchSize next toBlock : Nat) : List (Nat × Nat) :=
  (stepBy batchSize next toBlock).map fun start => (start, chunkEnd batchSize start toBlock)

/-- The chunks that the process has still to finish. -/
def Phase.chunksLeft (batchSize : Nat) : Phase → List (Nat × Nat)
  | .boundary next toBlock => rangeChunks batchSize next toBlock
  | .chunk start stop toBlock _ => (start, stop) :: rangeChunks batchSize (start + batchSize) toBlock
  | _ => []

theorem indexChunks_none (batchSize toBlock i : Nat) (starts : List Nat) :
    (indexChunks batchSize toBlock none i starts).map (fun c => (c.start, c.stop)) =
      starts.map fun start => (start, chunkEnd batchSize start toBlock) := by
  induction starts generalizing i with
  | nil => rfl
  | cons start rest ih =>
      rw [indexChunks, if_neg (by simp [cancelFlag])]
      simp only [List.map_cons, ih]

/-- Without a signal `index_range` processes the chunks of the range. -/
theorem indexRange_none (batchSize fromBlock toBlock : Nat) :
    (indexRange batchSize fromBlock toBlock none).map (fun c => (c.start, c.stop)) =
      rangeChunks batchSize fromBlock toBlock := indexChunks_none ..

theorem rangeChunks_of_lt {batchSize next toBlock : Nat} (h : toBlock < next) :
    rangeChunks batchSize next toBlock = [] := by
  rw [rangeChunks, stepBy_of_lt h, List.map_nil]

theorem rangeChunks_cons {batchSize next toBlock : Nat} (hbatch : 0 < batchSize)
    (h : next ≤ toBlock) :
    rangeChunks batchSize next toBlock =
      (next, chunkEnd batchSize next toBlock) ::
        rangeChunks batchSize (next + batchSize) toBlock := by
  rw [rangeChunks, stepBy_cons hbatch h, List.map_cons, rangeChunks]

variable {parent : B256 → B256} {cfg : FollowConfig} {s s' : Follow parent}
  {e : FollowEvent parent}

/-- What a step of the process does to the chunks that are left: a poll sets them to those of the
capped target, a checkpoint takes the first of them off and is its end, a stop drops them. -/
theorem FollowStep.chunksLeft (hstep : FollowStep cfg s e s') :
    (∃ head, e = .poll head ∧ s'.phase.chunksLeft cfg.batchSize =
      match nextTarget head cfg.confirmations (getLastCheckpoint s.db) with
      | some (fromBlock, toBlock) =>
          let (fromBlock, toBlock) := capRangeTo fromBlock toBlock followCycleBlockCap
          rangeChunks cfg.batchSize fromBlock toBlock
      | none => []) ∨
    (∃ start stop, e = .checkpoint ∧ s'.db = updateCheckpoint s.db (asI64 stop) ∧
      s.phase.chunksLeft cfg.batchSize = (start, stop) :: s'.phase.chunksLeft cfg.batchSize) ∨
    e = .stop ∨ s'.phase.chunksLeft cfg.batchSize = s.phase.chunksLeft cfg.batchSize := by
  cases hstep with
  | idle hphase htarget => exact .inl ⟨_, rfl, by rw [htarget]; rfl⟩
  | target hphase htarget => exact .inl ⟨_, rfl, by rw [htarget]; rfl⟩
  | checkpoint hphase hdone => exact .inr (.inl ⟨_, _, rfl, rfl, by rw [hphase]; rfl⟩)
  | stop => exact .inr (.inr (.inl rfl))
  | nextChunk hphase hnext hbatch =>
      refine .inr (.inr (.inr ?_))
      rw [hphase]
      exact (rangeChunks_cons (Nat.pos_of_ne_zero hbatch) hnext).symm
  | rangeDone hphase hnext =>
      refine .inr (.inr (.inr ?_))
      rw [hphase]
      exact (rangeChunks_of_lt hnext).symm
  | start hphase => exact .inr (.inr (.inr (by rw [hphase]; rfl)))
  | clean hphase hfork => exact .inr (.inr (.inr (by rw [hphase]; rfl)))
  | rollback hphase hfork hrolled => exact .inr (.inr (.inr rfl))
  | fetch hphase hstart hstop hnew hserved hplan => exact .inr (.inr (.inr (by rw [hphase]; rfl)))
  | exec hphase htask hexec => exact .inr (.inr (.inr (by rw [hphase]; rfl)))
  | complete hphase htask => exact .inr (.inr (.inr (by rw [hphase]; rfl)))
  | replaceChain => exact .inr (.inr (.inr rfl))

end TxIndexer.Indexer
