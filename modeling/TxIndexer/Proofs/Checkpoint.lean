import TxIndexer.Indexer.Follow

/-!
# What the checkpoint promises

`indexer_checkpoint.last_processed_block` is meant as the last block up to which everything is
indexed. Chunks keep that, since a chunk resumes right after the checkpoint and moves it only
once all its blocks are done. A rollback assigns it: the checkpoint goes to the block below the
fork, which is above the old one when a failed chunk left blocks behind a gap.
-/

namespace TxIndexer.Proofs

open Db Indexer Lib

variable {parent : B256 → B256} {cfg : FollowConfig} {first : Nat} {s s' : Follow parent}
  {e : FollowEvent parent}

/-- Every block from `first` up to the checkpoint is fully processed, not rolled back since, and
stored. -/
def Sound (first : Nat) (s : Follow parent) : Prop :=
  ∀ c ∈ s.db.indexerCheckpoint, ∀ n : Nat, first ≤ n → (n : Int) ≤ c →
    n ∈ s.processed ∧ (n : Int) ∈ s.db.block.keys

/-- A run starts with the process down and a checkpoint up to which all blocks from `first` are
processed. -/
structure Started (first : Nat) (s : Follow parent) : Prop where
  phase : s.phase = .stopped
  rows : ∀ b ∈ s.db.block, 0 ≤ b.blockNumber ∧ b.blockNumber < 2 ^ 63
  stored : ∀ n ∈ s.processed, (n : Int) ∈ s.db.block.keys
  checkpoint : ∃ c₀ : Nat, c₀ < 2 ^ 63 ∧ s.db.indexerCheckpoint = some (c₀ : Int) ∧
    ∀ n, first ≤ n → n ≤ c₀ → n ∈ s.processed

/-- Where a check finds a fork at `f`, rolling back from there uncovers no gap: the blocks between
the checkpoint and `f` are processed, and there is a block below `f` for the checkpoint to go back
to. -/
def NoGap (first : Nat) (s : Follow parent) : FollowEvent parent → Prop
  | .check rpc => ∀ f ∈ detectFork (localHashes s.db) rpc, (f = 0 → 0 < first) ∧
      ∀ c ∈ s.db.indexerCheckpoint, ∀ n : Nat, first ≤ n → c < (n : Int) → n < f →
        n ∈ s.processed
  | _ => True

/-- The next chunk starts right after the checkpoint `c`. -/
def Resumes (cfg : FollowConfig) (c : Nat) : Phase → Prop
  | .boundary next toBlock => next ≤ toBlock → next = c + 1
  | .chunk start stop toBlock _ =>
      start = c + 1 ∧ start ≤ toBlock ∧ stop = chunkEnd cfg.batchSize start toBlock
  | _ => True

/-- What a run whose rollbacks uncover no gap keeps. -/
structure CheckpointInv (cfg : FollowConfig) (first : Nat) (s : Follow parent) : Prop where
  shaped : Shaped s
  stored : ∀ n ∈ s.processed, (n : Int) ∈ s.db.block.keys
  done : ∀ n, s.phase.task n = some .done → n ∈ s.processed
  checkpoint : ∃ c : Nat, c < 2 ^ 63 ∧ s.db.indexerCheckpoint = some (c : Int) ∧
    Resumes cfg c s.phase ∧ ∀ n, first ≤ n → n ≤ c → n ∈ s.processed

theorem CheckpointInv.sound (h : CheckpointInv cfg first s) : Sound first s := by
  obtain ⟨c, -, hc, -, hprocessed⟩ := h.checkpoint
  intro c' hc' n hfirst hle
  rw [hc, Option.mem_some_iff] at hc'
  subst hc'
  have hmem := hprocessed n hfirst (by exact_mod_cast hle)
  exact ⟨hmem, h.stored n hmem⟩

/-! ## Rollbacks -/

/-- A fork is the number of a stored block. -/
theorem forkFloor_stored (hrows : ∀ b ∈ s.db.block, 0 ≤ b.blockNumber ∧ b.blockNumber < 2 ^ 63)
    {chainHashAt : Nat → Option String} {f : Nat}
    (hf : forkFloor (localHashes s.db) chainHashAt = some f) :
    f < 2 ^ 63 ∧ (f : Int) ∈ s.db.block.keys := by
  obtain ⟨x, hx, rfl⟩ := Option.map_eq_some_iff.mp hf
  obtain ⟨hlt, b, hb, hnumber, -⟩ := mem_localHashes hrows
    ((List.takeWhile_sublist _).subset (List.mem_of_getLast? hx))
  exact ⟨hlt, hnumber ▸ List.mem_map_of_mem hb⟩

theorem mem_keys_rolledBack {db : Database} {f n : Nat} (hn : n < f)
    (hmem : (n : Int) ∈ db.block.keys) : (n : Int) ∈ (rolledBack db f).block.keys := by
  obtain ⟨b, hb, hnumber⟩ := List.mem_map.mp hmem
  refine List.mem_map.mpr ⟨b, ?_, hnumber⟩
  refine KeyedTable.mem_deleteWhere.mpr ⟨hb, ?_⟩
  rw [hnumber]
  simpa using hn

/-- A rollback keeps the promise of the checkpoint exactly when it uncovers no gap. -/
theorem rollback_sound_iff (h : CheckpointInv cfg first s) {f : Nat} (hf : f < 2 ^ 63)
    {processed : Finset Nat} (hprocessed : processed = s.processed.filter fun n => n < f) :
    Sound first ({ s with
        db := rolledBack s.db (asI64 f), processed := processed } : Follow parent) ↔
      (f = 0 → 0 < first) ∧ ∀ c ∈ s.db.indexerCheckpoint, ∀ n : Nat, first ≤ n → c < (n : Int) →
        n < f → n ∈ s.processed := by
  obtain ⟨c, -, hc, -, hcovered⟩ := h.checkpoint
  have hresume : (rolledBack s.db f).indexerCheckpoint = some (max ((f : Int) - 1) 0) := by
    simp [rolledBack, hc]
  subst hprocessed
  rw [asI64_of_lt hf]
  simp only [Sound, hresume, hc, Option.mem_some_iff, forall_eq', Finset.mem_filter]
  constructor
  · intro hsound
    refine ⟨fun hzero => ?_, fun n hfirst _ hlt => ?_⟩
    · by_contra hfirst
      have hlt := (hsound 0 (by omega) (by simp)).1.2
      omega
    · exact (hsound n hfirst (by omega)).1.1
  · rintro ⟨hzero, hgap⟩ n hfirst hle
    have hlt : n < f := by
      by_contra hge
      have := hzero (by omega)
      omega
    have hmem : n ∈ s.processed := by
      by_cases hcn : n ≤ c
      · exact hcovered n hfirst hcn
      · exact hgap n hfirst (by omega) hlt
    exact ⟨⟨hmem, hlt⟩, mem_keys_rolledBack hlt (h.stored n hmem)⟩

/-! ## Runs -/

theorem CheckpointInv.of_started (h : Started first s) : CheckpointInv cfg first s where
  shaped := .of_no_task h.rows (by rw [h.phase]; trivial) (fun n => by rw [h.phase]; rfl)
  stored := h.stored
  done n hn := by rw [h.phase] at hn; cases hn
  checkpoint := by
    obtain ⟨c, hlt, hc, hprocessed⟩ := h.checkpoint
    exact ⟨c, hlt, hc, by rw [h.phase]; trivial, hprocessed⟩

/-- Another phase without tasks. -/
theorem CheckpointInv.enter (h : CheckpointInv cfg first s) {phase : Phase}
    (hshaped : Shaped { s with phase := phase }) (htask : ∀ n, phase.task n = none)
    (hresumes : ∀ c : Nat, c < 2 ^ 63 → s.db.indexerCheckpoint = some (c : Int) →
      Resumes cfg c s.phase → Resumes cfg c phase) :
    CheckpointInv cfg first { s with phase := phase } where
  shaped := hshaped
  stored := h.stored
  done n hn := by rw [htask n] at hn; cases hn
  checkpoint := by
    obtain ⟨c, hlt, hc, hphase, hprocessed⟩ := h.checkpoint
    exact ⟨c, hlt, hc, hresumes c hlt hc hphase, hprocessed⟩

/-- One task of a chunk changes, and more blocks may become stored and processed. -/
theorem CheckpointInv.update (h : CheckpointInv cfg first s) {start stop toBlock n : Nat}
    {tasks : Nat → Option BlockTask} {t : BlockTask} {db' : Database} {processed : Finset Nat}
    (hphase : s.phase = .chunk start stop toBlock tasks)
    (hshaped : Shaped ({ s with
      db := db', processed := processed
      phase := .chunk start stop toBlock (Function.update tasks n (some t)) } : Follow parent))
    (hcheckpoint : db'.indexerCheckpoint = s.db.indexerCheckpoint)
    (hkeys : s.db.block.keys ⊆ db'.block.keys) (hprocessed : s.processed ⊆ processed)
    (hnew : ∀ m ∈ processed, m ∉ s.processed → (m : Int) ∈ db'.block.keys)
    (hdone : t = .done → n ∈ processed) :
    CheckpointInv cfg first ({ s with
      db := db', processed := processed
      phase := .chunk start stop toBlock (Function.update tasks n (some t)) } : Follow parent) where
  shaped := hshaped
  stored m hm := by
    by_cases hold : m ∈ s.processed
    · exact hkeys (h.stored m hold)
    · exact hnew m hm hold
  done m hm := by
    simp only [Phase.task, Function.update_apply] at hm
    by_cases heq : m = n
    · rw [if_pos heq, Option.some.injEq] at hm
      exact heq ▸ hdone hm
    · rw [if_neg heq] at hm
      exact hprocessed (h.done m (by rw [hphase]; exact hm))
  checkpoint := by
    obtain ⟨c, hlt, hc, hresumes, hcovered⟩ := h.checkpoint
    rw [hphase] at hresumes
    exact ⟨c, hlt, hcheckpoint.trans hc, hresumes, fun m hfirst hle =>
      hprocessed (hcovered m hfirst hle)⟩

/-- The chunk after one that ended at `chunkEnd` starts right after it, if there is one. -/
theorem resumes_after_chunk {batchSize start toBlock : Nat} (hto : toBlock < 2 ^ 63)
    (hnext : start + batchSize ≤ toBlock) (hstart : 0 < start) :
    start + batchSize = chunkEnd batchSize start toBlock + 1 := by
  rw [chunkEnd, Nat.mod_eq_of_lt (by omega)]
  omega

theorem CheckpointInv.step (h : CheckpointInv cfg first s) (hstep : FollowStep cfg s e s')
    (hgap : NoGap first s e) (hhead : HeadFits e) : CheckpointInv cfg first s' := by
  have hshaped := h.shaped.step hstep hhead
  cases hstep with
  | start hphase => exact h.enter hshaped (fun _ => rfl) fun _ _ _ _ => trivial
  | stop => exact h.enter hshaped (fun _ => rfl) fun _ _ _ _ => trivial
  | clean hphase hfork => exact h.enter hshaped (fun _ => rfl) fun _ _ _ _ => trivial
  | idle hphase htarget => exact h.enter hshaped (fun _ => rfl) fun _ _ _ _ => trivial
  | rangeDone hphase hnext => exact h.enter hshaped (fun _ => rfl) fun _ _ _ _ => trivial
  | @rollback rpc fork db' rolled hphase hfork hrolled =>
      rw [rollbackFromBlock_eq, Except.ok.injEq, Prod.mk.injEq] at hrolled
      obtain ⟨rfl, -⟩ := hrolled
      have hfloor := detectFork_eq_some hfork
      obtain ⟨hlt, -⟩ := forkFloor_stored h.shaped.rows hfloor
      have hsound := (rollback_sound_iff h hlt rfl).mpr (hgap fork hfork)
      obtain ⟨c, -, hc, -, -⟩ := h.checkpoint
      have hresume : (rolledBack s.db (asI64 fork)).indexerCheckpoint =
          some ((fork - 1 : Nat) : Int) := by
        simp only [rolledBack, hc, Option.map_some, asI64_of_lt hlt, Option.some.injEq]
        omega
      refine ⟨hshaped, fun n hn => ?_, fun n hn => ?_, fork - 1, by omega, hresume, ?_, ?_⟩
      · obtain ⟨hmem, hbelow⟩ := Finset.mem_filter.mp hn
        rw [asI64_of_lt hlt]
        exact mem_keys_rolledBack hbelow (h.stored n hmem)
      · rw [hphase] at hn
        cases hn
      · rw [hphase]
        trivial
      · intro n hfirst hle
        exact (hsound _ (by rw [hresume]; rfl) n hfirst (by exact_mod_cast hle)).1
  | target hphase htarget =>
      refine h.enter hshaped (fun _ => rfl) fun c hlt hc _ _ => ?_
      rw [getLastCheckpoint, hc] at htarget
      rw [capRangeTo_fst, nextTarget_resume hlt htarget]
  | nextChunk hphase hnext hbatch =>
      refine h.enter hshaped (fun _ => rfl) fun c _ _ hresumes => ?_
      rw [hphase] at hresumes
      exact ⟨hresumes hnext, hnext, rfl⟩
  | fetch hphase hstart hstop hnew hserved hplan =>
      exact h.update hphase hshaped rfl (List.Subset.refl _) (Finset.Subset.refl _)
        (fun m hm hold => absurd hm hold) nofun
  | exec hphase htask hexec =>
      exact h.update hphase hshaped (Insert.exec_checkpoint hexec) (Insert.exec_grows hexec).block
        (Finset.Subset.refl _) (fun m hm hold => absurd hm hold) nofun
  | complete hphase htask =>
      -- a task without statements left has stored its block
      obtain ⟨-, hstored⟩ := h.shaped.tasks _ _ (by rw [hphase]; exact htask)
      have hkey := hstored.resolve_left (by rintro ⟨header, tail, heq, -⟩; cases heq)
      refine h.update hphase hshaped rfl (List.Subset.refl _) (Finset.subset_insert _ _)
        (fun m hm hold => ?_) fun _ => Finset.mem_insert_self _ _
      rcases Finset.mem_insert.mp hm with rfl | hm
      · exact hkey.1
      · exact absurd hm hold
  | @checkpoint start stop toBlock tasks hphase hdone =>
      obtain ⟨c, -, -, hresumes, hcovered⟩ := h.checkpoint
      have hrange := h.shaped.range
      rw [hphase] at hresumes hrange
      obtain ⟨hstart, -, hstop⟩ := hresumes
      refine ⟨hshaped, h.stored, nofun, stop, hrange.1, ?_, fun hnext => ?_, ?_⟩
      · simp only [updateCheckpoint, asI64_of_lt hrange.1]
      · rw [hstop]
        exact resumes_after_chunk hrange.2 hnext (by omega)
      · intro n hfirst hle
        by_cases hold : n ≤ c
        · exact hcovered n hfirst hold
        · exact h.done n (by rw [hphase]; exact hdone n (by omega) hle)
  | replaceChain => exact ⟨hshaped, h.stored, h.done, h.checkpoint⟩

/-- In a run none of whose rollbacks uncovers a gap, every block up to the checkpoint is fully
processed, not rolled back since, and stored. -/
theorem checkpoint_sound (cfg : FollowConfig) (first : Nat) (hstarted : Started first s)
    (hrun : Reaches (FollowStep cfg) (fun s e _ => NoGap first s e ∧ HeadFits e) s s') :
    Sound first s' := by
  have hinv : CheckpointInv cfg first s' :=
    hrun.invariant (fun _ _ _ h hstep hguard => h.step hstep hguard.1 hguard.2)
      (.of_started hstarted)
  exact hinv.sound

/-! ## A run that keeps the promise and one that breaks it -/

/-- The process is down, block 0 is stored, and the checkpoint is at it. -/
def genesisStored : Follow sampleParent where
  db := { storeBlock .empty 0 (emptyHeader 1 0) with indexerCheckpoint := some 0 }
  chain := sampleChain
  processed := {0}
  phase := .stopped

theorem started_genesisStored : Started 0 genesisStored := by
  refine ⟨rfl, by decide, by decide, 0, by decide, rfl, fun n _ hn => ?_⟩
  rw [Nat.le_zero.mp hn]
  decide

/-- The chain after its block 2 was replaced. -/
def shortReorg : HashChain sampleParent := .ofList [1, 2, 4] (by decide)

theorem forkFloor_genesisStored :
    forkFloor (localHashes genesisStored.db) (rendered sampleChain.hashAt) = none := by
  have hlocal : localHashes genesisStored.db = [(0, hashHex 1)] := rfl
  simp [hlocal, forkFloor, mismatchRun, differs, rendered, sampleChain, HashChain.ofList]

theorem detectFork_genesisStored :
    detectFork (localHashes genesisStored.db) sampleChain.hashAt = none := by
  have hlocal : localHashes genesisStored.db = [(0, hashHex 1)] := rfl
  rw [detectFork_eq (by simp [hlocal, sampleChain, HashChain.ofList]), forkFloor_genesisStored]

/-- From the start to the chunk of blocks 1 and 2, without a reorg. -/
theorem reaches_first_chunk {guard : Follow sampleParent → FollowEvent sampleParent →
      Follow sampleParent → Prop}
    (hguard : ∀ s e s', NoGap 0 s e ∧ HeadFits e → guard s e s') :
    Reaches (FollowStep (sampleConfig 2)) guard genesisStored
      { genesisStored with phase := .chunk 1 2 2 fun _ => none } := by
  have htarget : nextTarget 2 (sampleConfig 2).confirmations
      (getLastCheckpoint genesisStored.db) = some (1, 2) := by decide
  refine Reaches.cons _ (.start rfl) (hguard _ _ _ ⟨trivial, trivial⟩) ?_
  refine Reaches.cons (.check sampleChain.hashAt) (.clean rfl detectFork_genesisStored)
    (hguard _ _ _ ⟨fun f hf => ?_, trivial⟩) ?_
  · rw [detectFork_genesisStored] at hf
    cases hf
  refine Reaches.cons (.poll 2) (.target rfl htarget) (hguard _ _ _ ⟨trivial, show 2 < 2 ^ 63 by decide⟩) ?_
  exact Reaches.cons _ (.nextChunk rfl (by decide) (by decide)) (hguard _ _ _ ⟨trivial, trivial⟩)
    .refl

/-- A reorg check found block 2 stale after block 1 had failed and block 2 had been stored. -/
def rolledBackOverGap : Follow sampleParent where
  db := rolledBack (storeBlock genesisStored.db 2 (emptyHeader 3 2)) (asI64 2)
  chain := shortReorg
  processed := (insert 2 {0} : Finset Nat).filter fun n => n < 2
  phase := .check

/-- A chunk that stored block 2 and failed on block 1, and a reorg of block 2 before the next
check: the checkpoint goes to block 1, which was never processed. -/
theorem checkpoint_over_gap : Started 0 genesisStored ∧
    Reaches (FollowStep (sampleConfig 2)) anyStep genesisStored rolledBackOverGap ∧
    ¬ Sound 0 rolledBackOverGap := by
  have hfork : detectFork (localHashes (storeBlock genesisStored.db 2 (emptyHeader 3 2)))
      shortReorg.hashAt = some 2 := by
    have hlocal : localHashes (storeBlock genesisStored.db 2 (emptyHeader 3 2)) =
        [(2, hashHex 3), (0, hashHex 1)] := rfl
    rw [hlocal, detectFork_eq (by simp [shortReorg, HashChain.ofList])]
    simp [forkFloor, mismatchRun, differs, rendered, shortReorg, HashChain.ofList]
  refine ⟨started_genesisStored, ?_, fun hsound => ?_⟩
  · refine ((reaches_first_chunk fun _ _ _ _ => trivial).trans (reaches_emptyBlock rfl (by decide)
      (by decide) rfl (served_sampleChain 2 (.inr rfl)) (fun _ => trivial) (fun _ _ => trivial)
      fun _ _ => trivial)).trans ?_
    refine Reaches.cons _ .stop trivial ?_
    refine Reaches.cons _ (.start rfl) trivial ?_
    refine Reaches.cons (.replaceChain shortReorg) .replaceChain trivial ?_
    exact Reaches.cons (.check shortReorg.hashAt) (.rollback rfl hfork (rollbackFromBlock_eq _ _))
      trivial .refl
  · have hmem := (hsound 1 rfl 1 (by decide) (by decide)).1
    revert hmem
    decide

/-- The chunk of blocks 1 and 2 went through, and then block 2 was replaced. -/
def chunkStored : Follow sampleParent where
  db := updateCheckpoint (storeBlock (storeBlock genesisStored.db 1 (emptyHeader 2 1))
    2 (emptyHeader 3 2)) (asI64 2)
  chain := shortReorg
  processed := insert 2 (insert 1 {0})
  phase := .check

theorem reaches_chunkStored : Reaches (FollowStep (sampleConfig 2))
    (fun s e _ => NoGap 0 s e ∧ HeadFits e) genesisStored chunkStored := by
  refine (reaches_first_chunk fun _ _ _ h => h).trans ?_
  refine (reaches_emptyBlock rfl (by decide) (by decide) rfl (served_sampleChain 1 (.inl rfl))
    (fun _ => ⟨trivial, trivial⟩) (fun _ _ => ⟨trivial, trivial⟩)
    fun _ _ => ⟨trivial, trivial⟩).trans ?_
  refine (reaches_emptyBlock rfl (by decide) (by decide) rfl (served_sampleChain 2 (.inr rfl))
    (fun _ => ⟨trivial, trivial⟩) (fun _ _ => ⟨trivial, trivial⟩)
    fun _ _ => ⟨trivial, trivial⟩).trans ?_
  refine Reaches.cons _ (.checkpoint rfl fun n hstart hstop => ?_) ⟨trivial, trivial⟩ ?_
  · obtain rfl | rfl : n = 1 ∨ n = 2 := by omega
    · rfl
    · rfl
  refine Reaches.cons _ (.rangeDone rfl (by decide)) ⟨trivial, trivial⟩ ?_
  exact Reaches.cons (.replaceChain shortReorg) .replaceChain ⟨trivial, trivial⟩ .refl

theorem forkFloor_chunkStored :
    forkFloor (localHashes chunkStored.db) (rendered shortReorg.hashAt) = some 2 := by
  have hlocal : localHashes chunkStored.db =
      [(2, hashHex 3), (1, hashHex 2), (0, hashHex 1)] := rfl
  simp [hlocal, forkFloor, mismatchRun, differs, rendered, shortReorg, HashChain.ofList]

/-- The rollback of the last block of a chunk that went through. -/
theorem checkpoint_sound_tip : Sound 0
    { chunkStored with
      db := rolledBack chunkStored.db (asI64 2)
      processed := chunkStored.processed.filter fun n => n < 2 } := by
  have hlocal : localHashes chunkStored.db =
      [(2, hashHex 3), (1, hashHex 2), (0, hashHex 1)] := rfl
  have hfork : detectFork (localHashes chunkStored.db) shortReorg.hashAt = some 2 := by
    rw [detectFork_eq (by simp [hlocal, shortReorg, HashChain.ofList]), forkFloor_chunkStored]
  have hgap : NoGap 0 chunkStored (.check shortReorg.hashAt) := by
    intro f hf
    rw [hfork, Option.mem_some_iff] at hf
    subst hf
    refine ⟨by decide, ?_⟩
    intro c hc n _ hlow hhigh
    have hcheckpoint : c = asI64 2 := (Option.mem_some_iff.mp hc).symm
    rw [hcheckpoint, asI64_of_lt (by decide)] at hlow
    omega
  exact checkpoint_sound (sampleConfig 2) 0 started_genesisStored
    (reaches_chunkStored.tail ⟨.check shortReorg.hashAt,
      .rollback rfl hfork (rollbackFromBlock_eq _ _), hgap, trivial⟩)

end TxIndexer.Proofs
