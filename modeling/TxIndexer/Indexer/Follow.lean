import TxIndexer.Lib.HashChain
import TxIndexer.Lib.Transition
import TxIndexer.Db.Rollback
import TxIndexer.Indexer.BlockPlan
import TxIndexer.Indexer.Fork
import Mathlib.Data.Finset.Filter
import Mathlib.Data.Finset.Insert

/-!
# Following the chain

`follow`, `index_range` and `process_chunk` of `crates/indexer/src/worker.rs` as a transition
system. A cycle checks for a reorg, asks for the head, and indexes a range in chunks; the blocks
of a chunk are tasks whose `INSERT`s interleave, and the checkpoint moves once all of them are
done. Whatever fails (a fetch, a statement, a task) ends the process, which may be started
again. The chain that the RPC node serves may be replaced at any moment.
-/

namespace TxIndexer.Indexer

open Db

/-! ## Ranges -/

/-- `next_target` (`worker.rs:733-753`). -/
def nextTarget (head confirmations : Nat) (lastCheckpoint : Option Int) : Option (Nat × Nat) :=
  let safe := head - confirmations
  let resume := match lastCheckpoint with
    | some c => saturatingAdd (asU64 (max c 0)) 1
    | none => safe
  if safe < resume then none else some (resume, safe)

/-- `cap_range_to` (`worker.rs:716-731`). -/
def capRangeTo (fromBlock toBlock capBlocks : Nat) : Nat × Nat :=
  if capBlocks = 0 ∨ toBlock < fromBlock then (fromBlock, toBlock)
  else
    let span := saturatingAdd (toBlock - fromBlock) 1
    if span ≤ capBlocks then (fromBlock, toBlock)
    else (fromBlock, saturatingAdd fromBlock capBlocks - 1)

/-- `FOLLOW_CYCLE_BLOCK_CAP`. -/
def followCycleBlockCap : Nat := 500

/-- `REORG_SCAN_CAP`. -/
def reorgScanCap : Nat := 4096

/-- The end of the chunk that starts at `chunkStart`, in a release build, where the sum wraps as
`u64` does. With overflow checks `chunk_start + batch_size` panics from `2 ^ 64` on. -/
def chunkEnd (batchSize chunkStart toBlock : Nat) : Nat :=
  min ((chunkStart + batchSize - 1) % 2 ^ 64) toBlock

/-- The stored hashes that `detect_fork` looks at. -/
def localHashes (db : Database) : List (Nat × String) :=
  (recentBlockHashes db reorgScanCap).map fun (n, h) => (asU64 n, h)

/-! ## The transition system -/

/-- How the process is set up. -/
structure FollowConfig where
  triggers : Triggers
  decoders : Decoders
  batchSize : Nat
  confirmations : Nat

/-- The task of a block that has been fetched: the `INSERT`s still to run and the panic that
follows them, if any. -/
inductive BlockTask where
  | running (rest : List Insert) (panic : Option Panic)
  | done

/-- Where the process is: not running; about to check for a reorg, to ask for the head, or to
start the chunk at `next` of a range up to `toBlock`; or in the middle of a chunk. -/
inductive Phase where
  | stopped
  | check
  | poll
  | boundary (next toBlock : Nat)
  | chunk (start stop toBlock : Nat) (tasks : Nat → Option BlockTask)

/-- The task of block `n`, in the middle of a chunk. -/
def Phase.task : Phase → Nat → Option BlockTask
  | .chunk _ _ _ tasks, n => tasks n
  | _, _ => none

/-- The database, the chain the RPC node serves, the blocks that were fully processed and not
rolled back since, and the process. -/
structure Follow (parent : B256 → B256) where
  db : Database
  chain : Lib.HashChain parent
  processed : Finset Nat
  phase : Phase

/-- What happens in a step, with what the RPC node answers. -/
inductive FollowEvent (parent : B256 → B256) where
  | start
  | stop
  | check (rpc : Nat → Option B256)
  | poll (head : Nat)
  | nextChunk
  | fetch (n : Nat) (answers : BlockAnswers)
  | exec (n : Nat)
  | complete (n : Nat)
  | checkpoint
  | rangeDone
  | replaceChain (chain : Lib.HashChain parent)

variable {parent : B256 → B256}

/-- The block answered at height `n` is the one the chain has there. -/
def Served (chain : Lib.HashChain parent) (n : Nat) (answers : BlockAnswers) : Prop :=
  ∀ block ∈ answers.block, chain.hashAt n = some block.header.hash ∧
    (n ≠ 0 → block.header.parentHash = parent block.header.hash)

/-- One step. A task takes a permit of the semaphore while it runs; since the tasks of a chunk
may interleave in any way, this only leaves out some of the runs. -/
inductive FollowStep (cfg : FollowConfig) : Follow parent → FollowEvent parent → Follow parent → Prop
  | start {s} (hphase : s.phase = .stopped) : FollowStep cfg s .start { s with phase := .check }
  | stop {s} : FollowStep cfg s .stop { s with phase := .stopped }
  | clean {s rpc} (hphase : s.phase = .check) (hfork : detectFork (localHashes s.db) rpc = none) :
      FollowStep cfg s (.check rpc) { s with phase := .poll }
  | rollback {s rpc fork db' rolled} (hphase : s.phase = .check)
      (hfork : detectFork (localHashes s.db) rpc = some fork)
      (hrolled : rollbackFromBlock s.db (asI64 fork) = .ok (db', rolled)) :
      FollowStep cfg s (.check rpc)
        { s with db := db', processed := s.processed.filter fun n => n < fork }
  | idle {s head} (hphase : s.phase = .poll)
      (htarget : nextTarget head cfg.confirmations (getLastCheckpoint s.db) = none) :
      FollowStep cfg s (.poll head) { s with phase := .check }
  | target {s head fromBlock toBlock} (hphase : s.phase = .poll)
      (htarget : nextTarget head cfg.confirmations (getLastCheckpoint s.db) =
        some (fromBlock, toBlock)) :
      FollowStep cfg s (.poll head) { s with
        phase := .boundary (capRangeTo fromBlock toBlock followCycleBlockCap).1
          (capRangeTo fromBlock toBlock followCycleBlockCap).2 }
  | nextChunk {s next toBlock} (hphase : s.phase = .boundary next toBlock) (hnext : next ≤ toBlock)
      (hbatch : cfg.batchSize ≠ 0) :
      FollowStep cfg s .nextChunk { s with
        phase := .chunk next (chunkEnd cfg.batchSize next toBlock) toBlock fun _ => none }
  | fetch {s start stop toBlock tasks n answers plan} (hphase : s.phase = .chunk start stop toBlock tasks)
      (hstart : start ≤ n) (hstop : n ≤ stop) (hnew : tasks n = none)
      (hserved : Served s.chain n answers)
      (hplan : blockPlan cfg.decoders n answers = some plan) :
      FollowStep cfg s (.fetch n answers) { s with
        phase := .chunk start stop toBlock
          (Function.update tasks n (some (.running plan.inserts plan.panic))) }
  | exec {s start stop toBlock tasks n i rest panic db'}
      (hphase : s.phase = .chunk start stop toBlock tasks)
      (htask : tasks n = some (.running (i :: rest) panic))
      (hexec : i.exec cfg.triggers s.db = .ok db') :
      FollowStep cfg s (.exec n) { s with
        db := db'
        phase := .chunk start stop toBlock (Function.update tasks n (some (.running rest panic))) }
  | complete {s start stop toBlock tasks n} (hphase : s.phase = .chunk start stop toBlock tasks)
      (htask : tasks n = some (.running [] none)) :
      FollowStep cfg s (.complete n) { s with
        processed := insert n s.processed
        phase := .chunk start stop toBlock (Function.update tasks n (some .done)) }
  | checkpoint {s start stop toBlock tasks} (hphase : s.phase = .chunk start stop toBlock tasks)
      (hdone : ∀ n, start ≤ n → n ≤ stop → tasks n = some .done) :
      FollowStep cfg s .checkpoint { s with
        db := updateCheckpoint s.db (asI64 stop)
        phase := .boundary (start + cfg.batchSize) toBlock }
  | rangeDone {s next toBlock} (hphase : s.phase = .boundary next toBlock) (hnext : toBlock < next) :
      FollowStep cfg s .rangeDone { s with phase := .check }
  | replaceChain {s chain} : FollowStep cfg s (.replaceChain chain) { s with chain := chain }

/-! ## Ranges of the cycle -/

theorem nextTarget_eq_some {head confirmations fromBlock toBlock : Nat} {c : Option Int}
    (h : nextTarget head confirmations c = some (fromBlock, toBlock)) :
    toBlock ≤ head ∧ fromBlock ≤ toBlock ∧
      ∀ c' ∈ c, fromBlock = saturatingAdd (asU64 (max c' 0)) 1 := by
  unfold nextTarget at h
  cases c with
  | none =>
      rw [if_neg (Nat.lt_irrefl _)] at h
      cases h
      exact ⟨Nat.sub_le _ _, le_rfl, nofun⟩
  | some c' =>
      simp only at h
      by_cases hlt : head - confirmations < saturatingAdd (asU64 (max c' 0)) 1
      · rw [if_pos hlt] at h
        cases h
      · rw [if_neg hlt, Option.some.injEq, Prod.mk.injEq] at h
        obtain ⟨rfl, rfl⟩ := h
        refine ⟨Nat.sub_le _ _, Nat.not_lt.mp hlt, ?_⟩
        rintro _ ⟨⟩
        rfl

/-- A cycle resumes right after its checkpoint. -/
theorem nextTarget_resume {head confirmations fromBlock toBlock c : Nat} (hc : c < 2 ^ 63)
    (h : nextTarget head confirmations (some (c : Int)) = some (fromBlock, toBlock)) :
    fromBlock = c + 1 := by
  rw [(nextTarget_eq_some h).2.2 _ rfl, Int.max_eq_left (Int.natCast_nonneg c),
    asU64_of_nonneg (Int.natCast_nonneg c) (by exact_mod_cast hc), Int.toNat_natCast]
  exact saturatingAdd_of_le (by unfold u64Max; omega)

theorem capRangeTo_fst (fromBlock toBlock capBlocks : Nat) :
    (capRangeTo fromBlock toBlock capBlocks).1 = fromBlock := by
  unfold capRangeTo
  split
  · rfl
  · simp only
    split <;> rfl

theorem capRangeTo_snd_le (fromBlock toBlock capBlocks : Nat) :
    (capRangeTo fromBlock toBlock capBlocks).2 ≤ toBlock := by
  unfold capRangeTo
  split
  · exact le_rfl
  · next hcap =>
      simp only
      split
      · exact le_rfl
      · next hspan =>
          simp only [saturatingAdd] at hspan ⊢
          omega

theorem chunkEnd_le (batchSize chunkStart toBlock : Nat) :
    chunkEnd batchSize chunkStart toBlock ≤ toBlock := Nat.min_le_right _ _

/-! ## The hashes a check looks at -/

theorem mem_recentBlockHashes {db : Database} {limit : Nat} {x : Int × String}
    (hx : x ∈ recentBlockHashes db limit) :
    ∃ b ∈ db.block, b.blockNumber = x.1 ∧ b.blockHash = some x.2 := by
  have hsorted := List.mem_of_mem_take hx
  rw [(List.perm_insertionSort _ _).mem_iff, List.mem_filterMap] at hsorted
  obtain ⟨b, hb, hsome⟩ := hsorted
  obtain ⟨hash, hhash, rfl⟩ := Option.map_eq_some_iff.mp hsome
  exact ⟨b, hb, rfl, hhash⟩

/-- A height that is looked at is the number of a stored block, with its hash. -/
theorem mem_localHashes {db : Database}
    (hrows : ∀ b ∈ db.block, 0 ≤ b.blockNumber ∧ b.blockNumber < 2 ^ 63) {x : Nat × String}
    (hx : x ∈ localHashes db) :
    x.1 < 2 ^ 63 ∧ ∃ b ∈ db.block, b.blockNumber = (x.1 : Int) ∧ b.blockHash = some x.2 := by
  obtain ⟨⟨n, hash⟩, hrecent, rfl⟩ := List.mem_map.mp hx
  obtain ⟨b, hb, rfl, hhash⟩ := mem_recentBlockHashes hrecent
  obtain ⟨h0, hlt⟩ := hrows b hb
  simp only [asU64_of_nonneg h0 hlt]
  exact ⟨by omega, b, hb, by omega, hhash⟩

/-- The highest block comes first. -/
theorem localHashes_pairwise {db : Database}
    (hrows : ∀ b ∈ db.block, 0 ≤ b.blockNumber ∧ b.blockNumber < 2 ^ 63) :
    (localHashes db).Pairwise fun x y => y.1 ≤ x.1 := by
  have htotal : Std.Total fun a b : Int × String => b.1 ≤ a.1 := ⟨fun a b => le_total b.1 a.1⟩
  have htrans : IsTrans (Int × String) fun a b => b.1 ≤ a.1 := ⟨fun _ _ _ h h' => le_trans h' h⟩
  have hsorted := (List.pairwise_insertionSort (fun a b : Int × String => b.1 ≤ a.1)
    (db.block.rows.filterMap fun b => b.blockHash.map fun hash => (b.blockNumber, hash))).take
      (i := reorgScanCap)
  rw [localHashes, List.pairwise_map]
  refine hsorted.imp_of_mem fun {x y} hx hy hle => ?_
  have hfits : ∀ z ∈ recentBlockHashes db reorgScanCap, 0 ≤ z.1 ∧ z.1 < 2 ^ 63 := by
    intro z hz
    obtain ⟨b, hb, heq, -⟩ := mem_recentBlockHashes hz
    exact heq ▸ hrows b hb
  obtain ⟨hx0, hxlt⟩ := hfits x hx
  obtain ⟨hy0, hylt⟩ := hfits y hy
  show asU64 y.1 ≤ asU64 x.1
  rw [asU64_of_nonneg hx0 hxlt, asU64_of_nonneg hy0 hylt]
  omega

/-- The first is the tip. -/
theorem localHashes_le_tip {db : Database}
    (hrows : ∀ b ∈ db.block, 0 ≤ b.blockNumber ∧ b.blockNumber < 2 ^ 63) :
    ∀ tip ∈ (localHashes db).head?, ∀ x ∈ localHashes db, x.1 ≤ tip.1 := by
  have hpairwise := localHashes_pairwise hrows
  intro tip htip x hx
  cases hlocal : localHashes db with
  | nil => rw [hlocal] at hx; cases hx
  | cons tip' rest =>
      rw [hlocal] at htip hx hpairwise
      obtain rfl := Option.mem_some_iff.mp htip
      rcases List.mem_cons.mp hx with rfl | hx
      · exact le_rfl
      · exact (List.pairwise_cons.mp hpairwise).1 x hx

/-! ## What a block's task does to the `block` table -/

/-- None of the statements inserts into `block`. -/
def NoBlockRows (is : List Insert) : Prop := ∀ i ∈ is, i.blockRows = []

/-- A task first inserts the row of its block, and nothing after that inserts into `block`. -/
def TaskShaped (db : Database) (n : Nat) : BlockTask → Prop
  | .running rest _ =>
      (∃ header tail, rest = .blocks [blockRow n header] :: tail ∧ NoBlockRows tail) ∨
        ((n : Int) ∈ db.block.keys ∧ NoBlockRows rest)
  | .done => True

theorem blockPlan_blockRow {dec : Decoders} {n : Nat} {answers : BlockAnswers} {plan : BlockPlan}
    (h : blockPlan dec n answers = some plan) :
    ∃ block tail, answers.block = some block ∧
      plan.inserts = .blocks [blockRow n block.header] :: tail ∧ NoBlockRows tail := by
  obtain ⟨block, receipts, hblock, -, rfl⟩ := blockPlan_eq_some.mp h
  have htail : ∀ {α : Type} (insert : List α → Insert) (rows : List α),
      (∀ rows, (insert rows).blockRows = []) → NoBlockRows (unlessEmpty insert rows) := by
    intro α insert rows hnone i hi
    obtain ⟨-, rfl⟩ := mem_unlessEmpty.mp hi
    exact hnone rows
  have happend : ∀ {is js : List Insert}, NoBlockRows is → NoBlockRows js →
      NoBlockRows (is ++ js) :=
    fun his hjs i hi => (List.mem_append.mp hi).elim (his i) (hjs i)
  refine ⟨block, ?_⟩
  unfold planOf
  split
  · refine ⟨_, hblock, by
      simp only [eventInserts, List.append_assoc, List.cons_append, List.nil_append]
      rfl, ?_⟩
    exact happend (htail _ _ fun _ => rfl) (happend (htail _ _ fun _ => rfl)
      (happend (htail _ _ fun _ => rfl) (htail _ _ fun _ => rfl)))
  · refine ⟨_, hblock, by
      simp only [eventInserts, List.append_assoc, List.cons_append, List.nil_append]
      rfl, ?_⟩
    exact happend (htail _ _ fun _ => rfl) (happend (htail _ _ fun _ => rfl)
      (happend (htail _ _ fun _ => rfl) (happend (htail _ _ fun _ => rfl)
        (happend (htail _ _ fun _ => rfl) (htail _ _ fun _ => rfl)))))

variable {triggers : Triggers} {db db' : Database} {n : Nat} {i : Insert} {rest : List Insert}
  {panic : Option Panic}

/-- A statement of a task leaves its block stored: the first inserts it unless it was stored
before, the others do not touch the table. -/
theorem exec_blockRow (htask : TaskShaped db n (.running (i :: rest) panic)) (hn : n < 2 ^ 63)
    (hexec : i.exec triggers db = .ok db') :
    (n : Int) ∈ db'.block.keys ∧ NoBlockRows rest ∧
      ((∃ header, i = .blocks [blockRow n header] ∧
        db'.block = db.block.insertNew [blockRow n header]) ∨ db'.block = db.block) := by
  have hblock := i.exec_block hexec
  rcases htask with ⟨header, tail, heq, htail⟩ | ⟨hstored, hnone⟩
  · obtain ⟨rfl, rfl⟩ := List.cons.inj heq
    refine ⟨?_, htail, .inl ⟨header, rfl, hblock⟩⟩
    have hmem := db.block.mem_keys_insertNew [blockRow n header] _ List.mem_cons_self
    rw [hblock, ← asI64_of_lt hn]
    exact hmem
  · rw [hnone i List.mem_cons_self, Lib.KeyedTable.insertNew_nil] at hblock
    exact ⟨hblock ▸ hstored, fun j hj => hnone j (List.mem_cons_of_mem _ hj), .inr hblock⟩

theorem TaskShaped.mono {t : BlockTask} (h : TaskShaped db n t)
    (hkeys : db.block.keys ⊆ db'.block.keys) : TaskShaped db' n t := by
  cases t with
  | running rest panic => exact h.imp_right fun ⟨hstored, hnone⟩ => ⟨hkeys hstored, hnone⟩
  | done => trivial

/-! ## What every run keeps -/

/-- The head that the node reports is an `i64`, the type of a `BIGINT` column. -/
def HeadFits : FollowEvent parent → Prop
  | .poll head => head < 2 ^ 63
  | _ => True

/-- The blocks of a range are `i64`s. -/
def Phase.RangeFits : Phase → Prop
  | .boundary _ toBlock => toBlock < 2 ^ 63
  | .chunk _ stop toBlock _ => stop < 2 ^ 63 ∧ toBlock < 2 ^ 63
  | _ => True

/-- The stored blocks and the ones being stored have `i64` numbers, and each task inserts the
row of its block first. -/
structure Shaped (s : Follow parent) : Prop where
  rows : ∀ b ∈ s.db.block, 0 ≤ b.blockNumber ∧ b.blockNumber < 2 ^ 63
  range : s.phase.RangeFits
  tasks : ∀ n t, s.phase.task n = some t → n < 2 ^ 63 ∧ TaskShaped s.db n t

variable {cfg : FollowConfig} {s s' : Follow parent} {e : FollowEvent parent}

/-- A phase without tasks. -/
theorem Shaped.of_no_task (hrows : ∀ b ∈ s.db.block, 0 ≤ b.blockNumber ∧ b.blockNumber < 2 ^ 63)
    (hrange : s.phase.RangeFits) (htask : ∀ n, s.phase.task n = none) : Shaped s :=
  ⟨hrows, hrange, fun n t ht => by rw [htask n] at ht; cases ht⟩

/-- The tasks of a chunk after one of them changed. -/
theorem Shaped.update {start stop toBlock : Nat} {tasks : Nat → Option BlockTask} {t : BlockTask}
    (h : Shaped s) (hphase : s.phase = .chunk start stop toBlock tasks) {db' : Database}
    {processed : Finset Nat}
    (hrows : ∀ b ∈ db'.block, 0 ≤ b.blockNumber ∧ b.blockNumber < 2 ^ 63)
    (hkeys : s.db.block.keys ⊆ db'.block.keys) (hn : n < 2 ^ 63) (ht : TaskShaped db' n t) :
    Shaped ({ s with
      db := db', processed := processed
      phase := .chunk start stop toBlock (Function.update tasks n (some t)) } : Follow parent) := by
  refine ⟨hrows, ?_, ?_⟩
  · have hrange := h.range
    rw [hphase] at hrange
    exact hrange
  · intro m t' htask
    simp only [Phase.task, Function.update_apply] at htask
    by_cases hm : m = n
    · subst hm
      rw [if_pos rfl, Option.some.injEq] at htask
      exact htask ▸ ⟨hn, ht⟩
    · rw [if_neg hm] at htask
      obtain ⟨hlt, hshaped⟩ := h.tasks m t' (by rw [hphase]; exact htask)
      exact ⟨hlt, hshaped.mono hkeys⟩

theorem Shaped.step (h : Shaped s) (hstep : FollowStep cfg s e s') (hhead : HeadFits e) :
    Shaped s' := by
  cases hstep with
  | start hphase => exact .of_no_task h.rows trivial fun _ => rfl
  | stop => exact .of_no_task h.rows trivial fun _ => rfl
  | clean hphase hfork => exact .of_no_task h.rows trivial fun _ => rfl
  | rollback hphase hfork hrolled =>
      rw [rollbackFromBlock_eq, Except.ok.injEq, Prod.mk.injEq] at hrolled
      obtain ⟨rfl, -⟩ := hrolled
      refine .of_no_task (fun b hb => h.rows b (Lib.KeyedTable.mem_deleteWhere.mp hb).1) ?_ ?_ <;>
        simp [hphase, Phase.RangeFits, Phase.task]
  | idle hphase htarget => exact .of_no_task h.rows trivial fun _ => rfl
  | target hphase htarget =>
      refine .of_no_task h.rows ?_ fun _ => rfl
      have hle := (nextTarget_eq_some htarget).1
      exact Nat.lt_of_le_of_lt ((capRangeTo_snd_le _ _ _).trans hle) hhead
  | nextChunk hphase hnext hbatch =>
      have hrange := h.range
      rw [hphase] at hrange
      exact .of_no_task h.rows ⟨Nat.lt_of_le_of_lt (chunkEnd_le _ _ _) hrange, hrange⟩ fun _ => rfl
  | fetch hphase hstart hstop hnew hserved hplan =>
      obtain ⟨block, tail, -, hinserts, htail⟩ := blockPlan_blockRow hplan
      have hrange := h.range
      rw [hphase] at hrange
      exact h.update hphase h.rows (List.Subset.refl _) (Nat.lt_of_le_of_lt hstop hrange.1)
        (.inl ⟨block.header, tail, hinserts, htail⟩)
  | exec hphase htask hexec =>
      obtain ⟨hn, hshaped⟩ := h.tasks _ _ (by rw [hphase]; exact htask)
      obtain ⟨hstored, hnone, hblock⟩ := exec_blockRow hshaped hn hexec
      refine h.update hphase ?_ (Insert.exec_grows hexec).block hn (.inr ⟨hstored, hnone⟩)
      rcases hblock with ⟨header, -, hblock⟩ | hblock
      · intro b hb
        rw [hblock] at hb
        rcases Lib.KeyedTable.mem_of_mem_insertNew hb with hb | hb
        · exact h.rows b hb
        · obtain rfl := List.mem_singleton.mp hb
          simp only [blockRow, asI64_of_lt hn]
          omega
      · rw [hblock]
        exact h.rows
  | complete hphase htask =>
      obtain ⟨hn, -⟩ := h.tasks _ _ (by rw [hphase]; exact htask)
      exact h.update hphase h.rows (List.Subset.refl _) hn trivial
  | checkpoint hphase hdone =>
      have hrange := h.range
      rw [hphase] at hrange
      exact .of_no_task h.rows hrange.2 fun _ => rfl
  | rangeDone hphase hnext => exact .of_no_task h.rows trivial fun _ => rfl
  | replaceChain => exact ⟨h.rows, h.range, h.tasks⟩

/-! ## Blocks without transactions -/

/-- The header of a block without transactions. -/
def emptyHeader (hash parentHash : B256) : RpcHeader where
  hash
  parentHash
  timestamp := 1700000000
  gasUsed := 0

/-- The answers for a block without transactions. -/
def emptyBlockAnswers (header : RpcHeader) : BlockAnswers where
  block := some { header, transactions := [] }
  receipts := some none
  trace := fun _ => .rpcError

/-- The database with the row of one more block. -/
def storeBlock (db : Database) (n : Nat) (header : RpcHeader) : Database :=
  { db with block := db.block.insertNew [blockRow n header] }

theorem exec_blockRow_empty (triggers : Triggers) (db : Database) (n : Nat) (hash parentHash : B256) :
    (Insert.blocks [blockRow n (emptyHeader hash parentHash)]).exec triggers db =
      .ok (storeBlock db n (emptyHeader hash parentHash)) := by
  refine insertBlocks_eq_ok.mpr ⟨?_, fun _ _ => trivial, rfl⟩
  intro b hb
  rw [List.mem_singleton.mp hb]
  have hgas : (0 : Int) ≤ asI64 0 := by decide
  exact ⟨hgas, (nullable_some _ _).mpr (hashHex_fits hash).2,
    (nullable_some _ _).mpr (hashHex_fits parentHash).2⟩

/-- The task of a block without transactions, from its fetch to its end. -/
theorem reaches_emptyBlock {guard : Follow parent → FollowEvent parent → Follow parent → Prop}
    {start stop toBlock n : Nat} {tasks : Nat → Option BlockTask} {hash parentHash : B256}
    (hphase : s.phase = .chunk start stop toBlock tasks) (hstart : start ≤ n) (hstop : n ≤ stop)
    (hnew : tasks n = none)
    (hserved : Served s.chain n (emptyBlockAnswers (emptyHeader hash parentHash)))
    (hfetch : ∀ s', guard s (.fetch n (emptyBlockAnswers (emptyHeader hash parentHash))) s')
    (hexec : ∀ s s', guard s (.exec n) s') (hcomplete : ∀ s s', guard s (.complete n) s') :
    Lib.Reaches (FollowStep cfg) guard s { s with
      db := storeBlock s.db n (emptyHeader hash parentHash)
      processed := insert n s.processed
      phase := .chunk start stop toBlock (Function.update tasks n (some .done)) } := by
  refine .cons _ (.fetch hphase hstart hstop hnew hserved rfl) (hfetch _) ?_
  refine .cons _ (.exec rfl (Function.update_self ..) (exec_blockRow_empty _ _ _ _ _)) (hexec _ _) ?_
  refine .cons _ (.complete rfl (Function.update_self ..)) (hcomplete _ _) ?_
  simp only [Function.update_idem]
  exact .refl

/-- The parents in some chains: blocks 0, 1, 2 are 1, 2, 3 in one, 1, 2, 4 in another and 1, 5, 6
in a third. -/
def sampleParent (h : B256) : B256 := if h = 4 then 2 else if h = 5 then 1 else h - 1

/-- The first of these chains. -/
def sampleChain : Lib.HashChain sampleParent := .ofList [1, 2, 3] (by decide)

/-- Its blocks 1 and 2 are served. -/
theorem served_sampleChain (n : Nat) (hn : n = 1 ∨ n = 2) : Served sampleChain n
    (emptyBlockAnswers (emptyHeader (.ofNat 256 (n + 1)) (.ofNat 256 n))) := by
  rcases hn with rfl | rfl <;>
  · rintro _ ⟨⟩
    exact ⟨rfl, fun _ => rfl⟩

/-- A process that indexes `batchSize` blocks at a time. -/
def sampleConfig (batchSize : Nat) : FollowConfig where
  triggers := ⟨false⟩
  decoders := sampleDecoders
  batchSize
  confirmations := 0

end TxIndexer.Indexer
