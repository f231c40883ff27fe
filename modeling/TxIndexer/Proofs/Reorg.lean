import TxIndexer.Indexer.Follow

/-!
# What a clean reorg check promises

`detect_fork` stops at the first hash that agrees, trusting that the blocks below it are linked
to it. A new block is stored without a look at the block below it, so the stored blocks are one
chain only as long as every block is fetched from a chain that holds the stored ones.
-/

namespace TxIndexer.Proofs

open Db Indexer Lib

variable {parent : B256 → B256} {cfg : FollowConfig} {s s' : Follow parent}
  {e : FollowEvent parent}

/-- Every hash that the check looks at is the chain's. -/
def Canonical (s : Follow parent) : Prop :=
  ∀ x ∈ localHashes s.db, rendered s.chain.hashAt x.1 = some x.2

/-- A check that can have every hash finds no fork. -/
def CheckedClean (s : Follow parent) : Prop :=
  (∀ x ∈ localHashes s.db, s.chain.hashAt x.1 ≠ none) ∧
    detectFork (localHashes s.db) s.chain.hashAt = none

/-- Block `n` with hash `h` is stored, or about to be. -/
def Held (s : Follow parent) (n : Nat) (h : B256) : Prop :=
  (∃ b ∈ s.db.block, b.blockNumber = (n : Int) ∧ b.blockHash = some (hashHex h)) ∨
    ((n : Int) ∉ s.db.block.keys ∧ ∃ header tail panic,
      s.phase.task n = some (.running (.blocks [blockRow n header] :: tail) panic) ∧
      header.hash = h)

/-- A block that will be stored is fetched from a chain that holds the stored blocks below it
and the ones being stored, and lies below the others on theirs. -/
def FetchLinked (s : Follow parent) : FollowEvent parent → Prop
  | .fetch n answers => (n : Int) ∉ s.db.block.keys → ∀ block ∈ answers.block,
      ∀ m h, Held s m h → Linked parent m h n block.header.hash
  | _ => True

/-- Stored hashes are renderings of hashes. -/
def HashesRendered (s : Follow parent) : Prop :=
  ∀ b ∈ s.db.block, ∀ text ∈ b.blockHash, ∃ h, text = hashHex h

/-- A run starts with the process down and stored blocks that are one chain. -/
structure StartedLinked (s : Follow parent) : Prop where
  phase : s.phase = .stopped
  rows : ∀ b ∈ s.db.block, 0 ≤ b.blockNumber ∧ b.blockNumber < 2 ^ 63
  rendered : HashesRendered s
  linked : ∀ m h n h', Held s m h → Held s n h' → Linked parent m h n h'

/-- What a run keeps whose fetches are linked. -/
structure LinkedInv (s : Follow parent) : Prop where
  shaped : Shaped s
  rendered : HashesRendered s
  linked : ∀ m h n h', Held s m h → Held s n h' → Linked parent m h n h'

/-! ## A clean check -/

/-- The tip that a clean check looked at is the chain's. -/
theorem CheckedClean.tip (h : CheckedClean s) :
    ∀ tip ∈ (localHashes s.db).head?, rendered s.chain.hashAt tip.1 = some tip.2 := by
  obtain ⟨havailable, hnone⟩ := h
  rw [detectFork_eq havailable] at hnone
  intro tip htip
  rw [forkFloor, Option.map_eq_none_iff, List.getLast?_eq_none_iff] at hnone
  have hagrees : ((localHashes s.db).takeWhile (differs (rendered s.chain.hashAt))).head? =
      none := by
    rw [← mismatchRun, hnone]
    rfl
  rw [List.head?_takeWhile, Option.mem_def.mp htip] at hagrees
  simpa [differs] using hagrees

/-- Every hash that the check looks at is that of an ancestor of the tip. -/
def OneChain (s : Follow parent) : Prop :=
  ∀ tip ∈ (localHashes s.db).head?, ∀ h, tip.2 = hashHex h →
    ∀ x ∈ localHashes s.db, x.2 = hashHex (parent^[tip.1 - x.1] h)

/-- Where the tip agrees with the chain, so do its ancestors. -/
theorem Canonical.of_oneChain
    (hrows : ∀ b ∈ s.db.block, 0 ≤ b.blockNumber ∧ b.blockNumber < 2 ^ 63)
    (hrendered : HashesRendered s) (hone : OneChain s) (hclean : CheckedClean s) : Canonical s := by
  intro x hx
  cases hhead : (localHashes s.db).head? with
  | none =>
      rw [List.head?_eq_none_iff.mp hhead] at hx
      cases hx
  | some tip =>
      obtain ⟨-, b, hb, -, hhash⟩ := mem_localHashes hrows (List.mem_of_mem_head? hhead)
      obtain ⟨h, htext⟩ := hrendered b hb tip.2 hhash
      have hagrees := hclean.tip tip hhead
      rw [rendered, htext, Option.map_eq_some_iff] at hagrees
      obtain ⟨h', hchain, heq⟩ := hagrees
      rw [hashHex_inj heq] at hchain
      have hle := localHashes_le_tip hrows tip hhead x hx
      rw [rendered, s.chain.hashAt_below hchain hle, Option.map_some, hone tip hhead h htext x hx]

theorem LinkedInv.oneChain (hinv : LinkedInv s) : OneChain s := by
  have hheld : ∀ y ∈ localHashes s.db, ∃ h, y.2 = hashHex h ∧ Held s y.1 h := by
    intro y hy
    obtain ⟨-, b, hb, hnumber, hhash⟩ := mem_localHashes hinv.shaped.rows hy
    obtain ⟨h, htext⟩ := hinv.rendered b hb y.2 hhash
    exact ⟨h, htext, .inl ⟨b, hb, hnumber, htext ▸ hhash⟩⟩
  intro tip htip h htext x hx
  obtain ⟨hx', hxtext, hxheld⟩ := hheld x hx
  obtain ⟨htip', htiptext, htipheld⟩ := hheld tip (List.mem_of_mem_head? htip)
  obtain rfl : h = htip' := hashHex_inj (htext.symm.trans htiptext)
  have hle := localHashes_le_tip hinv.shaped.rows tip htip x hx
  rw [(hinv.linked x.1 hx' tip.1 h hxheld htipheld).1 hle, hxtext]

/-- In any state, a clean check is right about every chain exactly when the hashes it looks at
are one chain. -/
theorem clean_check_right_iff
    (hrows : ∀ b ∈ s.db.block, 0 ≤ b.blockNumber ∧ b.blockNumber < 2 ^ 63)
    (hrendered : HashesRendered s) :
    (∀ chain : HashChain parent, CheckedClean { s with chain := chain } →
      Canonical { s with chain := chain }) ↔ OneChain s := by
  constructor
  · intro hright tip htip h htext x hx
    have hle := localHashes_le_tip hrows tip htip
    -- the chain that ends with the tip
    have hat : ∀ y ∈ localHashes s.db,
        (HashChain.ofTip parent tip.1 h).hashAt y.1 = some (parent^[tip.1 - y.1] h) :=
      fun y hy => if_pos (hle y hy)
    have havailable : ∀ y ∈ localHashes s.db,
        (HashChain.ofTip parent tip.1 h).hashAt y.1 ≠ none := by
      intro y hy
      rw [hat y hy]
      nofun
    have hclean : CheckedClean { s with chain := .ofTip parent tip.1 h } := by
      refine ⟨havailable, ?_⟩
      rw [detectFork_eq havailable]
      have htipped := hat tip (List.mem_of_mem_head? htip)
      cases hlocal : localHashes s.db with
      | nil => rfl
      | cons tip' rest =>
          rw [hlocal] at htip
          obtain rfl := Option.mem_some_iff.mp htip
          simp [forkFloor, mismatchRun, differs, rendered, htipped, htext]
    have hcanonical := hright _ hclean x hx
    rw [rendered, hat x hx, Option.map_some, Option.some.injEq] at hcanonical
    exact hcanonical.symm
  · intro hone chain hclean
    exact .of_oneChain (s := { s with chain := chain }) hrows hrendered hone hclean

/-! ## Runs -/

/-- What is stored, or about to be, after a step was so before, or was just fetched. -/
theorem held_step {n : Nat} {h : B256} (hshaped : Shaped s) (hstep : FollowStep cfg s e s')
    (hheld : Held s' n h) : Held s n h ∨ ∃ answers block, e = .fetch n answers ∧
      block ∈ answers.block ∧ h = block.header.hash ∧ (n : Int) ∉ s.db.block.keys := by
  have hsame : s'.db.block = s.db.block → (∀ m, s'.phase.task m = none) → Held s n h := by
    intro hblock htask
    rcases hheld with ⟨b, hb, hnumber, hhash⟩ | ⟨-, _, _, _, hnew, -⟩
    · exact .inl ⟨b, hblock ▸ hb, hnumber, hhash⟩
    · rw [htask n] at hnew
      cases hnew
  cases hstep with
  | start hphase => exact .inl (hsame rfl fun _ => rfl)
  | stop => exact .inl (hsame rfl fun _ => rfl)
  | clean hphase hfork => exact .inl (hsame rfl fun _ => rfl)
  | idle hphase htarget => exact .inl (hsame rfl fun _ => rfl)
  | target hphase htarget => exact .inl (hsame rfl fun _ => rfl)
  | nextChunk hphase hnext hbatch => exact .inl (hsame rfl fun _ => rfl)
  | checkpoint hphase hdone => exact .inl (hsame rfl fun _ => rfl)
  | rangeDone hphase hnext => exact .inl (hsame rfl fun _ => rfl)
  | replaceChain => exact .inl hheld
  | rollback hphase hfork hrolled =>
      rw [rollbackFromBlock_eq, Except.ok.injEq, Prod.mk.injEq] at hrolled
      obtain ⟨rfl, -⟩ := hrolled
      rcases hheld with ⟨b, hb, hnumber, hhash⟩ | ⟨-, _, _, _, hnew, -⟩
      · exact .inl (.inl ⟨b, (KeyedTable.mem_deleteWhere.mp hb).1, hnumber, hhash⟩)
      · simp only [hphase] at hnew
        cases hnew
  | @fetch start stop toBlock tasks k answers plan hphase hstart hstop hnew hserved hplan =>
      rcases hheld with hrow | ⟨hkey, header, tail, panic, htask, hhash⟩
      · exact .inl (.inl hrow)
      · simp only [Phase.task, Function.update_apply] at htask
        by_cases heq : n = k
        · subst heq
          rw [if_pos rfl, Option.some.injEq, BlockTask.running.injEq] at htask
          obtain ⟨block, tail', hblock, hinserts, -⟩ := blockPlan_blockRow hplan
          rw [hinserts, List.cons.injEq, Insert.blocks.injEq, List.cons.injEq] at htask
          have htext := congrArg Block.blockHash htask.1.1.1
          simp only [blockRow, Option.some.injEq, hashHex_inj_iff] at htext
          exact .inr ⟨answers, block, rfl, hblock, hhash ▸ htext.symm, hkey⟩
        · rw [if_neg heq] at htask
          exact .inl (.inr ⟨hkey, header, tail, panic, by rw [hphase]; exact htask, hhash⟩)
  | @exec start stop toBlock tasks k i rest panic db' hphase htask hexec =>
      obtain ⟨hk, hshape⟩ := hshaped.tasks k _ (by rw [hphase]; exact htask)
      obtain ⟨hstored, hnone, hblock⟩ := exec_blockRow hshape hk hexec
      have hkeys := (Insert.exec_grows hexec).block
      left
      rcases hheld with ⟨b, hb, hnumber, hhash⟩ | ⟨hkey, header, tail, panic', hnew, hhash⟩
      · rcases hblock with ⟨header, rfl, hblock⟩ | hblock
        · -- the row that was just inserted was about to be
          rw [hblock] at hb
          rcases KeyedTable.mem_insertNew.mp hb with hb | hb
          · exact .inl ⟨b, hb, hnumber, hhash⟩
          · have hfresh := (freshRows_keys _ _ _).2 b hb
            obtain rfl := List.mem_singleton.mp (freshRows_subset _ _ _ hb)
            have hnk : n = k := by
              simp only [blockRow, asI64_of_lt hk] at hnumber
              omega
            subst hnk
            rw [hnumber] at hfresh
            simp only [blockRow, Option.some.injEq, hashHex_inj_iff] at hhash
            exact .inr ⟨hfresh, header, rest, panic, by rw [hphase]; exact htask, hhash⟩
        · exact .inl ⟨b, hblock ▸ hb, hnumber, hhash⟩
      · simp only [Phase.task, Function.update_apply] at hnew
        by_cases heq : n = k
        · exact absurd (heq ▸ hstored) hkey
        · rw [if_neg heq] at hnew
          exact .inr ⟨fun hmem => hkey (hkeys hmem), header, tail, panic',
            by rw [hphase]; exact hnew, hhash⟩
  | @complete start stop toBlock tasks k hphase htask =>
      rcases hheld with hrow | ⟨hkey, header, tail, panic, hnew, hhash⟩
      · exact .inl (.inl hrow)
      · simp only [Phase.task, Function.update_apply] at hnew
        by_cases heq : n = k
        · rw [if_pos heq] at hnew
          cases hnew
        · rw [if_neg heq] at hnew
          exact .inl (.inr ⟨hkey, header, tail, panic, by rw [hphase]; exact hnew, hhash⟩)

theorem hashesRendered_step (h : LinkedInv s) (hstep : FollowStep cfg s e s') :
    HashesRendered s' := by
  cases hstep with
  | rollback hphase hfork hrolled =>
      rw [rollbackFromBlock_eq, Except.ok.injEq, Prod.mk.injEq] at hrolled
      obtain ⟨rfl, -⟩ := hrolled
      exact fun b hb => h.rendered b (KeyedTable.mem_deleteWhere.mp hb).1
  | exec hphase htask hexec =>
      obtain ⟨hk, hshape⟩ := h.shaped.tasks _ _ (by rw [hphase]; exact htask)
      obtain ⟨-, -, ⟨header, -, hblock⟩ | hblock⟩ := exec_blockRow hshape hk hexec
      · intro b hb text htext
        rw [hblock] at hb
        rcases KeyedTable.mem_of_mem_insertNew hb with hb | hb
        · exact h.rendered b hb text htext
        · obtain rfl := List.mem_singleton.mp hb
          exact ⟨header.hash, (Option.mem_some_iff.mp htext).symm⟩
      · exact fun b hb => h.rendered b (hblock ▸ hb)
  | _ => exact h.rendered

theorem LinkedInv.step (h : LinkedInv s) (hstep : FollowStep cfg s e s') (hfetch : FetchLinked s e)
    (hhead : HeadFits e) : LinkedInv s' := by
  refine ⟨h.shaped.step hstep hhead, hashesRendered_step h hstep, fun m hm n hn hheld hheld' => ?_⟩
  rcases held_step h.shaped hstep hheld with hold | ⟨answers, block, rfl, hblock, rfl, hkey⟩
  · rcases held_step h.shaped hstep hheld' with hold' | ⟨answers, block, rfl, hblock, rfl, hkey⟩
    · exact h.linked m hm n hn hold hold'
    · exact hfetch hkey block hblock m hm hold
  · rcases held_step h.shaped hstep hheld' with hold' | ⟨answers', block', heq, hblock', rfl, -⟩
    · exact (hfetch hkey block hblock n hn hold').symm
    · -- both are the block that was just fetched
      obtain ⟨rfl, rfl⟩ := FollowEvent.fetch.inj heq
      rw [Option.mem_unique hblock hblock']
      exact .refl parent m _

/-- In a run whose fetches are linked to what is stored, a clean reorg check means that every
hash it could look at is the chain's. -/
theorem clean_check_canonical (cfg : FollowConfig) (hstarted : StartedLinked s)
    (hrun : Reaches (FollowStep cfg) (fun s e _ => FetchLinked s e ∧ HeadFits e) s s')
    (hclean : CheckedClean s') : Canonical s' := by
  have hinv : LinkedInv s' := by
    refine hrun.invariant (fun _ _ _ h hstep hguard => h.step hstep hguard.1 hguard.2)
      ⟨.of_no_task hstarted.rows ?_ fun n => ?_, hstarted.rendered, hstarted.linked⟩
    · rw [hstarted.phase]; trivial
    · rw [hstarted.phase]; rfl
  exact .of_oneChain hinv.shaped.rows hinv.rendered hinv.oneChain hclean

/-! ## A reorg between the check and the fetch -/

/-- The process is down, and blocks 0 and 1 are stored. -/
def tipStored : Follow sampleParent where
  db := { storeBlock (storeBlock .empty 0 (emptyHeader 1 0)) 1 (emptyHeader 2 1) with
    indexerCheckpoint := some 1 }
  chain := sampleChain
  processed := {0, 1}
  phase := .stopped

theorem localHashes_tipStored : localHashes tipStored.db = [(1, hashHex 2), (0, hashHex 1)] := rfl

theorem held_tipStored {n : Nat} {h : B256} (hheld : Held tipStored n h) :
    n = 0 ∧ h = 1 ∨ n = 1 ∧ h = 2 := by
  rcases hheld with ⟨b, hb, hnumber, hhash⟩ | ⟨-, _, _, _, htask, -⟩
  · have hrows : b ∈ [blockRow 0 (emptyHeader 1 0), blockRow 1 (emptyHeader 2 1)] := hb
    simp only [List.mem_cons, List.not_mem_nil, or_false] at hrows
    rcases hrows with rfl | rfl
    · simp only [blockRow, asI64_of_lt (show 0 < 2 ^ 63 by decide)] at hnumber
      exact .inl ⟨by omega, (hashHex_inj (Option.some.inj hhash)).symm⟩
    · simp only [blockRow, asI64_of_lt (show 1 < 2 ^ 63 by decide)] at hnumber
      exact .inr ⟨by omega, (hashHex_inj (Option.some.inj hhash)).symm⟩
  · cases htask

theorem started_tipStored : StartedLinked tipStored where
  phase := rfl
  rows := by decide
  rendered := by
    intro b hb text htext
    have hrows : b ∈ [blockRow 0 (emptyHeader 1 0), blockRow 1 (emptyHeader 2 1)] := hb
    simp only [List.mem_cons, List.not_mem_nil, or_false] at hrows
    rcases hrows with rfl | rfl
    · exact ⟨1, (Option.mem_some_iff.mp htext).symm⟩
    · exact ⟨2, (Option.mem_some_iff.mp htext).symm⟩
  linked := by
    intro m h n h' hheld hheld'
    obtain ⟨rfl, rfl⟩ | ⟨rfl, rfl⟩ := held_tipStored hheld <;>
    obtain ⟨rfl, rfl⟩ | ⟨rfl, rfl⟩ := held_tipStored hheld' <;>
    exact ⟨by decide, by decide⟩

/-- A clean check, then the chain served is `chain`, then block 2 is indexed from it. -/
def nextStored (chain : HashChain sampleParent) (header : RpcHeader) : Follow sampleParent where
  db := updateCheckpoint (storeBlock tipStored.db 2 header) (asI64 2)
  chain := chain
  processed := insert 2 {0, 1}
  phase := .check

theorem reaches_nextStored {guard : Follow sampleParent → FollowEvent sampleParent →
      Follow sampleParent → Prop} (chain : HashChain sampleParent) {hash parentHash : B256}
    (hserved : Served chain 2 (emptyBlockAnswers (emptyHeader hash parentHash)))
    (hguard : ∀ s e s', FetchLinked s e ∧ HeadFits e → guard s e s')
    (hfetch : ∀ s', guard { tipStored with chain, phase := .chunk 2 2 2 fun _ => none }
      (.fetch 2 (emptyBlockAnswers (emptyHeader hash parentHash))) s') :
    Reaches (FollowStep (sampleConfig 1)) guard tipStored
      (nextStored chain (emptyHeader hash parentHash)) := by
  have hclean : detectFork (localHashes tipStored.db) sampleChain.hashAt = none := by
    rw [localHashes_tipStored, detectFork_eq (by simp [sampleChain, HashChain.ofList])]
    simp [forkFloor, mismatchRun, differs, rendered, sampleChain, HashChain.ofList]
  have htarget : nextTarget 2 (sampleConfig 1).confirmations (getLastCheckpoint tipStored.db) =
      some (2, 2) := by decide
  have hchunk : Reaches (FollowStep (sampleConfig 1)) guard tipStored
      { tipStored with chain, phase := .chunk 2 2 2 fun _ => none } := by
    refine Reaches.cons _ (.start rfl) (hguard _ _ _ ⟨trivial, trivial⟩) ?_
    refine Reaches.cons (.check sampleChain.hashAt) (.clean rfl hclean)
      (hguard _ _ _ ⟨trivial, trivial⟩) ?_
    refine Reaches.cons (.replaceChain chain) .replaceChain (hguard _ _ _ ⟨trivial, trivial⟩) ?_
    refine Reaches.cons (.poll 2) (.target rfl htarget)
      (hguard _ _ _ ⟨trivial, show 2 < 2 ^ 63 by decide⟩) ?_
    exact Reaches.cons _ (.nextChunk rfl (by decide) (by decide)) (hguard _ _ _ ⟨trivial, trivial⟩)
      .refl
  refine (hchunk.trans (reaches_emptyBlock rfl (by decide) (by decide) rfl hserved hfetch
    (fun _ _ => hguard _ _ _ ⟨trivial, trivial⟩)
    fun _ _ => hguard _ _ _ ⟨trivial, trivial⟩)).trans ?_
  refine Reaches.cons _ (.checkpoint rfl fun n hstart hstop => ?_)
    (hguard _ _ _ ⟨trivial, trivial⟩) ?_
  · obtain rfl : n = 2 := by omega
    rfl
  exact Reaches.cons _ (.rangeDone rfl (by decide)) (hguard _ _ _ ⟨trivial, trivial⟩) .refl

/-- The chain after its blocks from 1 on were replaced. -/
def longReorg : HashChain sampleParent := .ofList [1, 5, 6] (by decide)

theorem served_longReorg : Served longReorg 2 (emptyBlockAnswers (emptyHeader 6 5)) := by
  rintro _ ⟨⟩
  exact ⟨rfl, fun _ => rfl⟩

/-- Blocks 1 and 2 are replaced right after a check: block 2 is stored from the new chain, the
next check finds its tip canonical, and block 1 stays that of the old chain. -/
theorem stale_below_clean_check : StartedLinked tipStored ∧
    Reaches (FollowStep (sampleConfig 1)) anyStep tipStored
      (nextStored longReorg (emptyHeader 6 5)) ∧
    CheckedClean (nextStored longReorg (emptyHeader 6 5)) ∧
    ¬ Canonical (nextStored longReorg (emptyHeader 6 5)) := by
  have hlocal : localHashes (nextStored longReorg (emptyHeader 6 5)).db =
      [(2, hashHex 6), (1, hashHex 2), (0, hashHex 1)] := rfl
  have havailable : ∀ x ∈ localHashes (nextStored longReorg (emptyHeader 6 5)).db,
      (nextStored longReorg (emptyHeader 6 5)).chain.hashAt x.1 ≠ none := by
    rw [hlocal]
    simp [nextStored, longReorg, HashChain.ofList]
  refine ⟨started_tipStored, ?_, ⟨havailable, ?_⟩, fun hcanonical => ?_⟩
  · exact reaches_nextStored longReorg served_longReorg (fun _ _ _ _ => trivial) fun _ => trivial
  · rw [detectFork_eq havailable, hlocal]
    simp [forkFloor, mismatchRun, differs, rendered, nextStored, longReorg, HashChain.ofList]
  · have hone := hcanonical (1, hashHex 2) (by rw [hlocal]; simp)
    simp [rendered, nextStored, longReorg, HashChain.ofList] at hone

/-- Block 2 is indexed from the chain that holds block 1. -/
theorem clean_check_canonical_next : Canonical (nextStored sampleChain (emptyHeader 3 2)) := by
  have hlocal : localHashes (nextStored sampleChain (emptyHeader 3 2)).db =
      [(2, hashHex 3), (1, hashHex 2), (0, hashHex 1)] := rfl
  have havailable : ∀ x ∈ localHashes (nextStored sampleChain (emptyHeader 3 2)).db,
      (nextStored sampleChain (emptyHeader 3 2)).chain.hashAt x.1 ≠ none := by
    rw [hlocal]
    simp [nextStored, sampleChain, HashChain.ofList]
  have hserved : Served sampleChain 2 (emptyBlockAnswers (emptyHeader 3 2)) := by
    rintro _ ⟨⟩
    exact ⟨rfl, fun _ => rfl⟩
  refine clean_check_canonical (sampleConfig 1) started_tipStored
    (reaches_nextStored sampleChain hserved (fun _ _ _ h => h) fun _ => ⟨?_, trivial⟩)
    ⟨havailable, ?_⟩
  · rintro - block ⟨⟩ m h hheld
    have hheld' : Held tipStored m h := by
      rcases hheld with hrow | ⟨-, _, _, _, htask, -⟩
      · exact .inl hrow
      · cases htask
    obtain ⟨rfl, rfl⟩ | ⟨rfl, rfl⟩ := held_tipStored hheld' <;>
    exact ⟨by decide, by decide⟩
  · rw [detectFork_eq havailable, hlocal]
    simp [forkFloor, mismatchRun, differs, rendered, nextStored, sampleChain, HashChain.ofList]

end TxIndexer.Proofs
