import TxIndexer.Indexer.IndexRange
import TxIndexer.Lib.Tiling

/-!
# Follow cycles tile the chain

The chunks of `index_range` tile the range that it is given, up to where it was cancelled, and each
leaves its last block as the checkpoint. The next cycle resumes there, so the chunks of all cycles
tile one interval. The end of a chunk is computed by an addition that wraps: a batch size for which
it does leaves the first chunk without blocks and the checkpoint before it.
-/

namespace TxIndexer.Proofs

open Indexer Lib

/-! ## One range -/

/-- The chunks cover the blocks from `lo` up to, not including, `hi`, one after the other, and the
checkpoint after each is its last block. -/
structure Covers (lo : Nat) (done : List ChunkDone) (hi : Nat) : Prop where
  tiles : Tiles ChunkDone.start ChunkDone.stop lo done hi
  checkpoints : ∀ c ∈ done, c.checkpoint = c.stop

/-- Whenever the signal comes, a first part of the range is covered, and all of it where the signal
comes after the last chunk began. -/
def RangeCovered (batchSize fromBlock toBlock : Nat) : Prop :=
  ∀ cancelAt, ∃ k ≤ toBlock + 1,
    Covers fromBlock (indexRange batchSize fromBlock toBlock cancelAt) k ∧
      ((∀ i ∈ cancelAt, (stepBy batchSize fromBlock toBlock).length ≤ i) → k = toBlock + 1)

variable {lo mid hi : Nat} {done done' : List ChunkDone}

theorem Covers.nil (lo : Nat) : Covers lo [] lo := ⟨.nil lo, nofun⟩

theorem Covers.cons {c : ChunkDone} (hstart : c.start = lo) (hle : lo ≤ c.stop)
    (hcheckpoint : c.checkpoint = c.stop) (h : Covers (c.stop + 1) done hi) :
    Covers lo (c :: done) hi where
  tiles := .cons hstart hle h.tiles
  checkpoints := List.forall_mem_cons.mpr ⟨hcheckpoint, h.checkpoints⟩

theorem Covers.append (h : Covers lo done mid) (h' : Covers mid done' hi) :
    Covers lo (done ++ done') hi where
  tiles := h.tiles.append h'.tiles
  checkpoints := List.forall_mem_append.mpr ⟨h.checkpoints, h'.checkpoints⟩

theorem Covers.blocksOf (h : Covers lo done hi) : blocksOf done = List.range' lo (hi - lo) :=
  h.tiles.flatMap_range'

/-- The checkpoint, if there is one, is the block before `next`. -/
def LastBlock (checkpoint : Option Int) (next : Nat) : Prop :=
  ∀ c ∈ checkpoint, ∃ block : Nat, c = block ∧ block + 1 = next

theorem Covers.checkpointAfter (h : Covers lo done hi) {checkpoint : Option Int}
    (hbefore : LastBlock checkpoint lo) : LastBlock (checkpointAfter checkpoint done) hi := by
  rw [Indexer.checkpointAfter]
  cases hlast : done.getLast? with
  | none =>
      obtain rfl := List.getLast?_eq_none_iff.mp hlast
      cases h.tiles
      exact hbefore
  | some c =>
      obtain ⟨front, rfl⟩ := List.getLast?_eq_some_iff.mp hlast
      rw [List.foldl_append]
      rintro _ ⟨⟩
      exact ⟨c.stop, h.checkpoints c (by simp), h.tiles.getLast? c hlast⟩

variable {batchSize fromBlock toBlock : Nat}

/-- A chunk whose end is computed without wrapping. -/
theorem chunkEnd_of_le {start : Nat} (hfits : start + batchSize ≤ 2 ^ 64) :
    chunkEnd batchSize start toBlock = min (start + batchSize - 1) toBlock := by
  rw [chunkEnd, Nat.mod_eq_of_lt (by omega)]

/-- Where the addition wraps, the chunk ends before it starts. -/
theorem chunkEnd_lt {start : Nat} (hwraps : 2 ^ 64 < start + batchSize)
    (hstart : start < 2 ^ 64) (hbatch : batchSize < 2 ^ 64) :
    chunkEnd batchSize start toBlock < start := by
  have hmod : (start + batchSize - 1) % 2 ^ 64 = start + batchSize - 1 - 2 ^ 64 := by omega
  rw [chunkEnd, hmod]
  omega

/-- The chunks from `next` on, of which the first is the `i`-th: one chunk is split off, which ends
the range or leaves the next start right after it. -/
theorem indexChunks_covers (hbatch : 0 < batchSize) (hto : toBlock < 2 ^ 63)
    (cancelAt : Option Nat) (starts : List Nat) (i next : Nat)
    (hstarts : stepBy batchSize next toBlock = starts) (hnext : next ≤ toBlock)
    (hfits : next + batchSize ≤ 2 ^ 64) :
    ∃ k ≤ toBlock + 1, Covers next (indexChunks batchSize toBlock cancelAt i starts) k ∧
      ((∀ c ∈ cancelAt, i + starts.length ≤ c) → k = toBlock + 1) := by
  induction starts generalizing i next with
  | nil =>
      rw [stepBy_cons hbatch hnext] at hstarts
      cases hstarts
  | cons start rest ih =>
      rw [stepBy_cons hbatch hnext] at hstarts
      obtain ⟨rfl, hrest⟩ := List.cons.inj hstarts
      rw [indexChunks]
      by_cases hcancel : cancelFlag cancelAt i = true
      · -- the signal came: nothing more is processed
        rw [if_pos hcancel]
        refine ⟨next, by omega, .nil next, fun hlate => ?_⟩
        obtain ⟨c, hc, hle⟩ := cancelFlag_eq_true.mp hcancel
        have hlate' := hlate c hc
        rw [List.length_cons] at hlate'
        omega
      · rw [if_neg hcancel]
        have hstop : chunkEnd batchSize next toBlock = min (next + batchSize - 1) toBlock :=
          chunkEnd_of_le hfits
        have hi64 : asI64 (chunkEnd batchSize next toBlock) = chunkEnd batchSize next toBlock :=
          asI64_of_lt (by omega)
        by_cases hlast : next + batchSize ≤ toBlock
        · obtain ⟨k, hk, hcovers, hall⟩ := ih (i + 1) (next + batchSize) hrest hlast (by omega)
          have hstart : chunkEnd batchSize next toBlock + 1 = next + batchSize := by omega
          refine ⟨k, hk, .cons rfl (by simp only; omega) hi64 (by simp only; rwa [hstart]), ?_⟩
          intro hlate
          refine hall fun c hc => ?_
          have hlate' := hlate c hc
          rw [List.length_cons] at hlate'
          omega
        · rw [stepBy_of_lt (Nat.not_le.mp hlast)] at hrest
          subst hrest
          have hstop' : chunkEnd batchSize next toBlock = toBlock := by omega
          refine ⟨toBlock + 1, le_rfl, ?_, fun _ => rfl⟩
          rw [hstop'] at hi64 ⊢
          exact .cons rfl hnext hi64 (.nil _)

theorem rangeCovered_of_le (hbatch : 0 < batchSize) (hle : fromBlock ≤ toBlock)
    (hto : toBlock < 2 ^ 63) (hfits : fromBlock + batchSize ≤ 2 ^ 64) :
    RangeCovered batchSize fromBlock toBlock := by
  intro cancelAt
  have hcovers := indexChunks_covers hbatch hto cancelAt _ 0 fromBlock rfl hle hfits
  simp only [Nat.zero_add] at hcovers
  exact hcovers

/-- A range is covered exactly when the end of its first chunk is computed without wrapping. -/
theorem rangeCovered_iff (hbatch : 0 < batchSize) (husize : batchSize < 2 ^ 64)
    (hle : fromBlock ≤ toBlock) (hto : toBlock < 2 ^ 63) :
    RangeCovered batchSize fromBlock toBlock ↔ fromBlock + batchSize ≤ 2 ^ 64 := by
  refine ⟨fun h => ?_, rangeCovered_of_le hbatch hle hto⟩
  by_contra hwraps
  obtain ⟨k, hk, hcovers, -⟩ := h none
  have hlt : chunkEnd batchSize fromBlock toBlock < fromBlock :=
    chunkEnd_lt (Nat.not_le.mp hwraps) (by omega) husize
  have htiles := hcovers.tiles
  rw [indexRange, stepBy_cons hbatch hle, indexChunks, if_neg (by simp [cancelFlag])] at htiles
  cases htiles with
  | cons hfirst hnonempty htail =>
      simp only at hnonempty
      omega

/-! ## One cycle -/

variable {head confirmations cap : Nat} {checkpoint : Option Int}

theorem nextTarget_safe (h : nextTarget head confirmations checkpoint = some (fromBlock, toBlock)) :
    toBlock = head - confirmations := by
  obtain ⟨-, hsome⟩ := Option.ite_none_left_eq_some.mp h
  exact (Prod.mk.inj (Option.some.inj hsome)).2.symm

theorem nextTarget_none :
    nextTarget head confirmations none = some (head - confirmations, head - confirmations) :=
  if_neg (Nat.lt_irrefl _)

/-- A capped range is not empty, and no longer than the cap. -/
theorem capRangeTo_bounds (hle : fromBlock ≤ toBlock) (hto : toBlock < 2 ^ 63) :
    fromBlock ≤ (capRangeTo fromBlock toBlock cap).2 ∧
      (cap ≠ 0 → (capRangeTo fromBlock toBlock cap).2 < fromBlock + cap) := by
  unfold capRangeTo
  by_cases hoff : cap = 0 ∨ toBlock < fromBlock
  · rw [if_pos hoff]
    exact ⟨hle, fun hcap => by omega⟩
  · rw [if_neg hoff]
    by_cases hspan : saturatingAdd (toBlock - fromBlock) 1 ≤ cap
    · simp only [if_pos hspan]
      simp only [saturatingAdd, u64Max] at hspan
      exact ⟨hle, fun _ => by omega⟩
    · simp only [if_neg hspan]
      simp only [saturatingAdd, u64Max] at hspan ⊢
      exact ⟨by omega, fun _ => by omega⟩

variable {cfg : CycleConfig} {input : CycleInput} {next : Nat}

/-- The safe head of the cycle is an `i64`, and the end of its first chunk, if it has one, is
computed without wrapping. -/
def CycleFits (cfg : CycleConfig) (s : Cycles) (input : CycleInput) (_ : Cycles) : Prop :=
  input.head - cfg.confirmations < 2 ^ 63 ∧
    ∀ fromBlock toBlock,
      nextTarget input.head cfg.confirmations s.checkpoint = some (fromBlock, toBlock) →
        fromBlock + cfg.batchSize ≤ 2 ^ 64

/-- What a cycle processes stays below the cap and the safe head. -/
structure CycleBounded (cfg : CycleConfig) (c : CycleDone) : Prop where
  length_le : cfg.cap ≠ 0 → (blocksOf c.done).length ≤ cfg.cap
  confirmed : ∀ n ∈ blocksOf c.done, n ≤ c.head - cfg.confirmations

/-- The chunks that cover a part of a capped range are bounded by it. -/
theorem CycleBounded.of_covers (hcovers : Covers fromBlock done hi)
    (hhi : hi ≤ (capRangeTo fromBlock (head - cfg.confirmations) cfg.cap).2 + 1)
    (hle : fromBlock ≤ head - cfg.confirmations) (hto : head - cfg.confirmations < 2 ^ 63) :
    CycleBounded cfg ⟨head, done⟩ where
  length_le hcap := by
    have hlt := (capRangeTo_bounds hle hto).2 hcap
    rw [hcovers.blocksOf, List.length_range']
    omega
  confirmed n hn := by
    have hcapped := capRangeTo_snd_le fromBlock (head - cfg.confirmations) cfg.cap
    rw [hcovers.blocksOf] at hn
    have := List.mem_range'_1.mp hn
    simp only
    omega

/-- A cycle covers blocks from its resume point on, some of them if it is not interrupted and has
no checkpoint yet. -/
theorem cycleChunks_covers (hbatch : 0 < cfg.batchSize) (hnext : next ≤ 2 ^ 63)
    (hresume : LastBlock checkpoint next)
    (hfresh : checkpoint = none → next = input.head - cfg.confirmations)
    (hsafe : input.head - cfg.confirmations < 2 ^ 63)
    (hfits : ∀ fromBlock toBlock,
      nextTarget input.head cfg.confirmations checkpoint = some (fromBlock, toBlock) →
        fromBlock + cfg.batchSize ≤ 2 ^ 64) :
    ∃ k ≤ 2 ^ 63, Covers next (cycleChunks cfg checkpoint input) k ∧
      CycleBounded cfg ⟨input.head, cycleChunks cfg checkpoint input⟩ ∧
      (checkpoint = none → input.cancelAt = none → next < k) := by
  rw [cycleChunks]
  cases htarget : nextTarget input.head cfg.confirmations checkpoint with
  | none =>
      refine ⟨next, hnext, .nil next, ⟨fun _ => Nat.zero_le _, nofun⟩, ?_⟩
      rintro rfl
      rw [nextTarget_none] at htarget
      cases htarget
  | some target =>
      obtain ⟨fromBlock, toBlock⟩ := target
      obtain rfl := nextTarget_safe htarget
      have hle := (nextTarget_eq_some htarget).2.1
      have hfrom : fromBlock = next := by
        cases checkpoint with
        | none =>
            rw [nextTarget_none] at htarget
            rw [hfresh rfl]
            cases htarget
            rfl
        | some c =>
            obtain ⟨block, rfl, rfl⟩ := hresume c rfl
            exact nextTarget_resume (by omega) htarget
      subst hfrom
      have hfst := capRangeTo_fst fromBlock (input.head - cfg.confirmations) cfg.cap
      have hsnd := capRangeTo_snd_le fromBlock (input.head - cfg.confirmations) cfg.cap
      have hcapped : fromBlock ≤
          (capRangeTo fromBlock (input.head - cfg.confirmations) cfg.cap).2 :=
        (capRangeTo_bounds hle hsafe).1
      obtain ⟨k, hk, hcovers, hall⟩ :=
        (rangeCovered_of_le hbatch hcapped (by omega) (hfits _ _ htarget)) input.cancelAt
      simp only [hfst]
      refine ⟨k, by omega, hcovers, .of_covers hcovers hk hle hsafe, ?_⟩
      intro _ hrunning
      rw [hall (by rw [hrunning]; nofun)]
      omega

/-! ## All cycles -/

variable {initial : Option Int} {s s' : Cycles} {first : Nat}

/-- Where the first cycle starts: after the initial checkpoint, or at the safe head it finds. -/
def StartsAt (cfg : CycleConfig) (initial : Option Int) (s : Cycles) (first : Nat) : Prop :=
  match initial with
  | some c => (first : Int) = c + 1
  | none => ∀ c ∈ s.cycles.head?, first = c.head - cfg.confirmations

/-- The chunks of all cycles cover the blocks from `first` up to, not including, `next`, and the
next cycle resumes there. -/
structure Tiled (cfg : CycleConfig) (initial : Option Int) (s : Cycles) (first next : Nat) :
    Prop where
  starts : StartsAt cfg initial s first
  covers : Covers first (s.cycles.flatMap CycleDone.done) next
  bounded : ∀ c ∈ s.cycles, CycleBounded cfg c
  next_le : next ≤ 2 ^ 63
  checkpoint : LastBlock s.checkpoint next
  fresh : s.checkpoint = none → initial = none ∧ (s.running = true → s.cycles = [])
  begun : initial = none → s.cycles = [] → s.checkpoint = none

theorem StartsAt.append (hstarts : StartsAt cfg initial s first)
    (hcycles : initial = none → s.cycles ≠ []) : StartsAt cfg initial (s.cycle cfg input) first := by
  cases initial with
  | some c => exact hstarts
  | none =>
      intro c hc
      refine hstarts c ?_
      rwa [Cycles.cycle, List.head?_append_of_ne_nil _ (hcycles rfl)] at hc

/-- Nothing was processed where there is still no checkpoint. -/
theorem Covers.of_checkpointAfter (h : Covers lo done hi)
    (hnone : Indexer.checkpointAfter checkpoint done = none) : checkpoint = none ∧ lo = hi := by
  cases hlast : done.getLast? with
  | none =>
      obtain rfl := List.getLast?_eq_none_iff.mp hlast
      cases h.tiles
      exact ⟨hnone, rfl⟩
  | some c =>
      obtain ⟨front, rfl⟩ := List.getLast?_eq_some_iff.mp hlast
      rw [Indexer.checkpointAfter, List.foldl_append] at hnone
      cases hnone

/-- The cycle that resumes at `next`. -/
theorem Tiled.cycle (h : Tiled cfg initial s first next) (hbatch : 0 < cfg.batchSize)
    (hfits : CycleFits cfg s input (s.cycle cfg input))
    (hfresh : s.checkpoint = none → next = input.head - cfg.confirmations)
    (hstarts : StartsAt cfg initial (s.cycle cfg input) first) :
    ∃ next', Tiled cfg initial (s.cycle cfg input) first next' := by
  obtain ⟨k, hk, hcovers, hbounded, hsome⟩ :=
    cycleChunks_covers hbatch h.next_le h.checkpoint hfresh hfits.1 hfits.2
  refine ⟨k, hstarts, ?_, ?_, hk, hcovers.checkpointAfter h.checkpoint, ?_, ?_⟩
  · rw [Cycles.cycle, List.flatMap_append, List.flatMap_singleton]
    exact h.covers.append hcovers
  · exact List.forall_mem_append.mpr ⟨h.bounded, List.forall_mem_singleton.mpr hbounded⟩
  · intro hnone
    obtain ⟨hcheckpoint, hempty⟩ := hcovers.of_checkpointAfter hnone
    refine ⟨(h.fresh hcheckpoint).1, fun hgoes => ?_⟩
    have hlt := hsome hcheckpoint (Option.isNone_iff_eq_none.mp hgoes)
    omega
  · intro _ hcycles
    exact absurd hcycles (by simp [Cycles.cycle])

/-- What every cycle keeps. Where there is no checkpoint yet this is the first cycle, which starts
at the safe head that it finds. -/
theorem Tiled.step (hbatch : 0 < cfg.batchSize) (h : Tiled cfg initial s first next)
    (hstep : CycleStep cfg s input s') (hfits : CycleFits cfg s input s') :
    ∃ first' next', Tiled cfg initial s' first' next' := by
  obtain ⟨hrunning, rfl⟩ := hstep
  cases hcheckpoint : s.checkpoint with
  | some c =>
      have hcycles : initial = none → s.cycles ≠ [] := by
        intro hinitial hnil
        rw [h.begun hinitial hnil] at hcheckpoint
        cases hcheckpoint
      exact ⟨first, h.cycle hbatch hfits (by simp [hcheckpoint]) (h.starts.append hcycles)⟩
  | none =>
      obtain ⟨rfl, hcycles⟩ := h.fresh hcheckpoint
      have hnil := hcycles hrunning
      have htiled : Tiled cfg none s (input.head - cfg.confirmations)
          (input.head - cfg.confirmations) :=
        { starts := by intro c hc; rw [hnil] at hc; cases hc
          covers := by rw [hnil]; exact .nil _
          bounded := h.bounded
          next_le := Nat.le_of_lt hfits.1
          checkpoint := by rw [hcheckpoint]; nofun
          fresh := h.fresh
          begun := h.begun }
      have hstarts : StartsAt cfg none (s.cycle cfg input) (input.head - cfg.confirmations) := by
        intro c hc
        rw [Cycles.cycle, hnil] at hc
        cases hc
        rfl
      exact ⟨_, htiled.cycle hbatch hfits (fun _ => rfl) hstarts⟩

theorem tiled_start (hinitial : ∀ c ∈ initial, 0 ≤ c ∧ c < 2 ^ 63) :
    ∃ first, Tiled cfg initial ⟨initial, true, []⟩ first first := by
  cases initial with
  | none =>
      exact ⟨0, nofun, .nil 0, nofun, Nat.zero_le _, nofun, fun _ => ⟨rfl, fun _ => rfl⟩,
        fun _ _ => rfl⟩
  | some c =>
      obtain ⟨h0, hlt⟩ := hinitial c rfl
      refine ⟨c.toNat + 1, ?_, .nil _, nofun, by omega, ?_, nofun, nofun⟩
      · simp only [StartsAt]
        omega
      · rintro _ ⟨⟩
        exact ⟨c.toNat, by omega, rfl⟩

theorem Tiled.reaches (hbatch : 0 < cfg.batchSize)
    (hrun : Reaches (CycleStep cfg) (CycleFits cfg) s s') (h : Tiled cfg initial s first next) :
    ∃ first' next', Tiled cfg initial s' first' next' := by
  refine hrun.invariant (P := fun s => ∃ first next, Tiled cfg initial s first next) ?_
    ⟨first, next, h⟩
  rintro _ _ _ ⟨_, _, h⟩ hstep hfits
  exact h.step hbatch hstep hfits

/-- A batch size of up to half the range of `u64` never makes the addition wrap. -/
theorem CycleFits.of_batchSize (hbatch : cfg.batchSize ≤ 2 ^ 63)
    (hsafe : input.head - cfg.confirmations < 2 ^ 63) : CycleFits cfg s input s' := by
  refine ⟨hsafe, fun fromBlock toBlock htarget => ?_⟩
  have hto := nextTarget_safe htarget
  have hle := (nextTarget_eq_some htarget).2.1
  omega

theorem Cycles.blocks_eq (h : Tiled cfg initial s first next) :
    s.blocks = List.range' first (next - first) := by
  rw [← h.covers.blocksOf, Cycles.blocks, blocksOf, List.flatMap_assoc]
  rfl

/-- A range is covered, chunk by chunk, exactly when its start and the batch size add up to at most
`2 ^ 64`; and over cycles which meet this the blocks processed are one interval, which starts after
the initial checkpoint or at the first safe head, each cycle staying below the cap and its own safe
head. -/
theorem follow_tiles_iff {batchSize : Nat} (hbatch : 0 < batchSize) (husize : batchSize < 2 ^ 64) :
    (∀ fromBlock toBlock, fromBlock ≤ toBlock → toBlock < 2 ^ 63 →
      (RangeCovered batchSize fromBlock toBlock ↔ fromBlock + batchSize ≤ 2 ^ 64)) ∧
    ∀ confirmations cap initial s, (∀ c ∈ initial, 0 ≤ c ∧ c < 2 ^ 63) →
      Reaches (CycleStep ⟨confirmations, cap, batchSize⟩)
        (CycleFits ⟨confirmations, cap, batchSize⟩) ⟨initial, true, []⟩ s →
      ∃ first n, StartsAt ⟨confirmations, cap, batchSize⟩ initial s first ∧
        s.blocks = List.range' first n ∧
        ∀ c ∈ s.cycles, CycleBounded ⟨confirmations, cap, batchSize⟩ c := by
  refine ⟨fun fromBlock toBlock => rangeCovered_iff hbatch husize, ?_⟩
  intro confirmations cap initial s hinitial hrun
  obtain ⟨start, hstart⟩ := tiled_start hinitial
  obtain ⟨first, next, htiled⟩ := hstart.reaches hbatch hrun
  exact ⟨first, next - first, htiled.starts, Cycles.blocks_eq htiled, htiled.bounded⟩

/-- Ten blocks in chunks of four; then a cycle from block 11, cancelled before its second chunk, and
none after it. -/
theorem follow_tiles_iff_four :
    RangeCovered 4 1 10 ∧
    ∃ first n, StartsAt ⟨2, 500, 4⟩ (some 10)
        ((⟨some 10, true, []⟩ : Cycles).cycle ⟨2, 500, 4⟩ ⟨22, some 1⟩) first ∧
      ((⟨some 10, true, []⟩ : Cycles).cycle ⟨2, 500, 4⟩ ⟨22, some 1⟩).blocks =
        List.range' first n ∧
      ∀ c ∈ ((⟨some 10, true, []⟩ : Cycles).cycle ⟨2, 500, 4⟩ ⟨22, some 1⟩).cycles,
        CycleBounded ⟨2, 500, 4⟩ c := by
  have hfour : 0 < 4 ∧ 4 < 2 ^ 64 := by decide
  obtain ⟨hrange, hruns⟩ := follow_tiles_iff hfour.1 hfour.2
  refine ⟨(hrange 1 10 (by decide) (by decide)).mpr (by decide), hruns 2 500 (some 10) _ ?_ ?_⟩
  · rintro _ ⟨⟩
    decide
  · exact .single ⟨⟨22, some 1⟩, ⟨rfl, rfl⟩, .of_batchSize (by decide) (by decide)⟩

/-- A batch as large as `usize` allows: the range is one chunk that ends at block 0, nothing is
processed and the checkpoint falls back to 0. -/
theorem largest_batch_not_covered :
    indexRange (2 ^ 64 - 1) 2 10 none = [⟨2, 0, 0⟩] ∧
      blocksOf (indexRange (2 ^ 64 - 1) 2 10 none) = [] ∧
      ¬ RangeCovered (2 ^ 64 - 1) 2 10 := by
  have hrange : indexRange (2 ^ 64 - 1) 2 10 none = [⟨2, 0, 0⟩] := by decide
  refine ⟨hrange, by rw [hrange]; rfl, ?_⟩
  rw [rangeCovered_iff (by decide) (by decide) (by decide) (by decide)]
  decide

end TxIndexer.Proofs
