import Mathlib.Algebra.BigOperators.Group.Finset.Basic
import Mathlib.Algebra.Order.BigOperators.Group.Finset
import Mathlib.Data.List.Perm.Subperm
import TxIndexer.Db.Firing
import TxIndexer.Proofs.Interleaving
import TxIndexer.Proofs.ProfileOrder
import TxIndexer.Proofs.SwapDirection

/-!
# The triggers fire while blocks are processed at once

The triggers write two tables that the blocks of a chunk share: `user_profile`, where two blocks
may have swaps of one user, and `audit_log`. They read none of the others, so those are as
without them. At the end the rows of `audit_log` are the same in some order, and so is every
profile but for its `first_seen`, which the turns decide.
-/

namespace TxIndexer.Proofs

open Db Decoder Indexer Lib

/-- The swaps of a statement. -/
def swapsIn : Insert → List SwapEvent
  | .swapEvents rows => rows
  | _ => []

theorem newSwaps_subset (db : Database) (i : Insert) : i.newSwaps db ⊆ swapsIn i := by
  cases i with
  | swapEvents rows => exact fun e he => freshRows_subset _ _ _ he
  | _ => exact List.Subset.refl _

section Chunk

variable {ι : Type} [DecidableEq ι] (triggers : Triggers) (dec : Decoders) (tasks : ι → ChunkTask)
  (s : Triggered)

/-- What the tasks of `process_chunk` have done after the turns of a schedule, the triggers
firing. -/
def chunkRunFiring (schedule : List ι) : Triggered × (ι → TaskState Insert FiringError) :=
  runSchedule (Insert.execFiring triggers) (fun i => (tasks i).program dec) s schedule

/-- The swaps of a block. -/
def ChunkTask.swaps (b : ChunkTask) : List SwapEvent := (b.program dec).flatMap swapsIn

/-- `total_swaps` has room for what the chunk adds to it. -/
def RoomForSwaps [Fintype ι] : Prop :=
  ∀ user, totalSwapsOf (s.userProfile.lookup user) +
    ∑ i, swapsSent user ((tasks i).swaps dec) < 2 ^ 31

/-- The state of a run with the triggers is `t` where `db` is that of the run without: the tables
are the same, and the triggers have fired for each row that is new since `s`. -/
structure Fired (db : Database) (t : Triggered) : Prop where
  tables : t.db = db
  userProfile : ∃ swaps, db.swapEvent.rows = s.db.swapEvent.rows ++ swaps ∧
    (∀ e ∈ swaps, ∃ i, e ∈ (tasks i).swaps dec) ∧
    swaps.foldlM swapUpdateUserProfile s.userProfile = some t.userProfile
  auditLog : ∃ liquidity, db.liquidityEvent.rows = s.db.liquidityEvent.rows ++ liquidity ∧
    t.auditLog = s.auditLog ++ liquidity.filterMap liquidityEventAudit

variable {triggers dec tasks s}

omit [DecidableEq ι] in
theorem Fired.refl : Fired dec tasks s s.db s where
  tables := rfl
  userProfile := ⟨[], (List.append_nil _).symm, fun _ he => absurd he List.not_mem_nil, rfl⟩
  auditLog := ⟨[], (List.append_nil _).symm, (List.append_nil _).symm⟩

omit [DecidableEq ι] in
/-- Swaps of the chunk with distinct keys are no more than the chunk has. -/
theorem swapsSent_le [Fintype ι] {swaps : List SwapEvent} (hnodup : (swaps.map SwapEvent.key).Nodup)
    (hfrom : ∀ e ∈ swaps, ∃ i, e ∈ (tasks i).swaps dec) (user : String) :
    swapsSent user swaps ≤ ∑ i, swapsSent user ((tasks i).swaps dec) := by
  have hsub : swaps ⊆ Finset.univ.toList.flatMap fun i => (tasks i).swaps dec := by
    intro e he
    obtain ⟨i, hi⟩ := hfrom e he
    exact List.mem_flatMap.mpr ⟨i, Finset.mem_toList.mpr (Finset.mem_univ i), hi⟩
  have hperm : swaps.Subperm (Finset.univ.toList.flatMap fun i => (tasks i).swaps dec) :=
    List.subperm_of_subset hnodup.of_map hsub
  calc swapsSent user swaps
      ≤ swapsSent user (Finset.univ.toList.flatMap fun i => (tasks i).swaps dec) :=
        hperm.countP_le _
    _ = (Finset.univ.toList.map fun i => swapsSent user ((tasks i).swaps dec)).sum :=
        List.countP_flatMap
    _ = ∑ i, swapsSent user ((tasks i).swaps dec) := Finset.sum_map_toList _ _

omit [DecidableEq ι] in
/-- The trigger does not fail for the swaps of the chunk that the table has taken. -/
theorem exists_userProfile [Fintype ι] (hroom : RoomForSwaps dec tasks s) {db : Database}
    {swaps : List SwapEvent} (hrows : db.swapEvent.rows = s.db.swapEvent.rows ++ swaps)
    (hfrom : ∀ e ∈ swaps, ∃ i, e ∈ (tasks i).swaps dec) :
    ∃ userProfile, swaps.foldlM swapUpdateUserProfile s.userProfile = some userProfile := by
  have hnodup : (swaps.map SwapEvent.key).Nodup := by
    have hall := db.swapEvent.nodup
    rw [hrows, List.map_append] at hall
    exact (List.nodup_append.mp hall).2.1
  apply foldlM_isSome
  intro user
  have hsent := swapsSent_le hnodup hfrom user
  exact Nat.lt_of_le_of_lt (Nat.add_le_add_left hsent _) (hroom user)

omit [DecidableEq ι] in
/-- A statement of the chunk that succeeds without the triggers does so with them. -/
theorem Fired.exec [Fintype ι] (hroom : RoomForSwaps dec tasks s) {i : ι} {a : Insert}
    (ha : a ∈ (tasks i).program dec) {db db' : Database} {t : Triggered}
    (h : Fired dec tasks s db t) (hexec : a.exec triggers db = .ok db') :
    ∃ t', a.execFiring triggers t = .ok t' ∧ Fired dec tasks s db' t' := by
  obtain ⟨rfl, ⟨swaps, hrows, hfrom, hfold⟩, ⟨liquidity, hliquidity, haudit⟩⟩ := h
  have hrows' : db'.swapEvent.rows = s.db.swapEvent.rows ++ (swaps ++ a.newSwaps t.db) := by
    rw [Insert.swapEvent_exec hexec, hrows, List.append_assoc]
  have hfrom' : ∀ e ∈ swaps ++ a.newSwaps t.db, ∃ i, e ∈ (tasks i).swaps dec := by
    intro e he
    rcases List.mem_append.mp he with he | he
    · exact hfrom e he
    · exact ⟨i, List.mem_flatMap.mpr ⟨a, ha, newSwaps_subset t.db a he⟩⟩
  obtain ⟨userProfile, hall⟩ := exists_userProfile hroom hrows' hfrom'
  have hnew : (a.newSwaps t.db).foldlM swapUpdateUserProfile t.userProfile = some userProfile := by
    rw [List.foldlM_append, hfold] at hall
    exact hall
  have hliquidity' : db'.liquidityEvent.rows =
      s.db.liquidityEvent.rows ++ (liquidity ++ a.newLiquidity t.db) := by
    rw [Insert.liquidityEvent_exec hexec, hliquidity, List.append_assoc]
  refine ⟨_, Insert.execFiring_eq_ok.mpr ⟨db', userProfile, hexec, hnew, rfl⟩, rfl,
    ⟨_, hrows', hfrom', hall⟩, ⟨_, hliquidity', ?_⟩⟩
  rw [haudit, List.filterMap_append, List.append_assoc]

omit [DecidableEq ι] in
/-- And one that fails, fails alike. -/
theorem Fired.exec_error {a : Insert} {db : Database} {t : Triggered} {e : DbError}
    (h : Fired dec tasks s db t) (hexec : a.exec triggers db = .error e) :
    a.execFiring triggers t = .error (.statement e) := by
  rw [Insert.execFiring, h.tables, hexec]

/-- A run with the triggers has the tables of the run without, and its tasks are where they are
there. -/
theorem chunkRunFiring_fired [Fintype ι] (triggers : Triggers) (hroom : RoomForSwaps dec tasks s)
    (schedule : List ι) :
    Fired dec tasks s (chunkRun triggers dec tasks s.db schedule).1
        (chunkRunFiring triggers dec tasks s schedule).1 ∧
      ∀ i, (chunkRunFiring triggers dec tasks s schedule).2 i =
        ((chunkRun triggers dec tasks s.db schedule).2 i).mapError .statement :=
  runSchedule_simulates
    (fun _ _ ha _ _ h => ⟨fun _ hexec => h.exec hroom ha hexec, fun _ hexec => h.exec_error hexec⟩)
    Fired.refl schedule

omit [DecidableEq ι] in
/-- `first_seen` is that of the profile there was, or else the time of the first new swap of the
user. -/
theorem Fired.firstSeen {db : Database} {t : Triggered} (h : Fired dec tasks s db t) :
    ∃ swaps, t.db.swapEvent.rows = s.db.swapEvent.rows ++ swaps ∧
      ∀ user, (t.userProfile.lookup user).map UserProfile.firstSeen =
        ((s.userProfile.lookup user).map UserProfile.firstSeen).or
          ((swapsOf user swaps).head?.map SwapEvent.timestamp) := by
  obtain ⟨rfl, ⟨swaps, hrows, -, hfold⟩, -⟩ := h
  refine ⟨swaps, hrows, ?_⟩
  intro user
  rw [lookup_foldlM hfold, UserProfile.firstSeen_foldl]

omit [DecidableEq ι] in
/-- Where two runs leave the same tables, they leave the same audit log but for its order, and the
same profiles but for `first_seen`. -/
theorem Fired.agree {db db' : Database} {t t' : Triggered} (h : Fired dec tasks s db t)
    (h' : Fired dec tasks s db' t') (hagree : everywhere.Agree db db') :
    t.auditLog.Perm t'.auditLog ∧
      ∀ user, (t.userProfile.lookup user).map UserProfile.lasting =
        (t'.userProfile.lookup user).map UserProfile.lasting := by
  obtain ⟨-, ⟨swaps, hrows, -, hfold⟩, ⟨liquidity, hliquidity, haudit⟩⟩ := h
  obtain ⟨-, ⟨swaps', hrows', -, hfold'⟩, ⟨liquidity', hliquidity', haudit'⟩⟩ := h'
  constructor
  · have hperm := hagree.liquidityEvent.perm fun _ => trivial
    rw [hliquidity, hliquidity', List.perm_append_left_iff] at hperm
    rw [haudit, haudit']
    exact (hperm.filterMap _).append_left _
  · intro user
    have hperm := hagree.swapEvent.perm fun _ => trivial
    rw [hrows, hrows', List.perm_append_left_iff] at hperm
    rw [lookup_foldlM hfold, lookup_foldlM hfold']
    exact lasting_perm hperm

/-- What a run of a chunk leaves, whatever the turns. -/
structure ScheduleIndependent (triggers : Triggers) (dec : Decoders) (tasks : ι → ChunkTask)
    (s : Triggered) (schedule : List ι) : Prop where
  /-- The rows of a block are those its first statements leave when it is alone. -/
  begun : ∀ i, ∃ k, (tasks i).scope.Agree (chunkRunFiring triggers dec tasks s schedule).1.db
    (execInserts triggers s.db (((tasks i).program dec).take k)).1
  /-- A block that has ended has ended as it would alone, with the rows it would have alone. -/
  ended : ∀ i executed, ((chunkRunFiring triggers dec tasks s schedule).2 i).ended =
    some executed → ∃ alone : Except DbError Unit, executed = alone.mapError .statement ∧
      (processBlock triggers dec (tasks i).blockNumber (tasks i).answers s.db).2 =
        (tasks i).result dec alone ∧
      (tasks i).scope.Agree (chunkRunFiring triggers dec tasks s schedule).1.db
        (processBlock triggers dec (tasks i).blockNumber (tasks i).answers s.db).1
  /-- Rows of no block of the chunk are as they were. -/
  others : (outside tasks).Agree (chunkRunFiring triggers dec tasks s schedule).1.db s.db
  /-- `first_seen` stays, and for a user without a profile it is the time of the first swap of the
  user that the run has stored. -/
  firstSeen : ∃ swaps, (chunkRunFiring triggers dec tasks s schedule).1.db.swapEvent.rows =
    s.db.swapEvent.rows ++ swaps ∧
      ∀ user, ((chunkRunFiring triggers dec tasks s schedule).1.userProfile.lookup user).map
          UserProfile.firstSeen =
        ((s.userProfile.lookup user).map UserProfile.firstSeen).or
          ((swapsOf user swaps).head?.map SwapEvent.timestamp)
  /-- Two runs in which all blocks have ended leave the same tables, the same audit log in some
  order and, `first_seen` apart, the same profiles; and the blocks have ended alike. -/
  schedules : ∀ schedule',
    (∀ i, ((chunkRunFiring triggers dec tasks s schedule).2 i).ended.isSome) →
    (∀ i, ((chunkRunFiring triggers dec tasks s schedule').2 i).ended.isSome) →
      everywhere.Agree (chunkRunFiring triggers dec tasks s schedule).1.db
        (chunkRunFiring triggers dec tasks s schedule').1.db ∧
      (∀ i, ((chunkRunFiring triggers dec tasks s schedule).2 i).ended =
        ((chunkRunFiring triggers dec tasks s schedule').2 i).ended) ∧
      (chunkRunFiring triggers dec tasks s schedule).1.auditLog.Perm
        (chunkRunFiring triggers dec tasks s schedule').1.auditLog ∧
      ∀ user, ((chunkRunFiring triggers dec tasks s schedule).1.userProfile.lookup user).map
          UserProfile.lasting =
        ((chunkRunFiring triggers dec tasks s schedule').1.userProfile.lookup user).map
          UserProfile.lasting

theorem isSome_of_mapError {task : TaskState Insert DbError} {task' : TaskState Insert FiringError}
    (h : task' = task.mapError .statement) (hended : task'.ended.isSome) : task.ended.isSome := by
  rw [h, TaskState.ended_mapError, Option.isSome_map] at hended
  exact hended

/-- The blocks of a chunk may be processed at once. Whatever the turns their tasks take, and
whether or not all of them come to an end, the rows of a block are those its first statements
leave when it is alone; a block that has ended has ended as it would alone, with its rows; all
other rows are as they were; and two runs in which all blocks have ended leave the same rows. The
triggers make no block fail and leave the same audit log and profiles, but for the `first_seen` of
new users: that is the time of the swap that was stored first. -/
theorem chunk_schedule_independent [Fintype ι] (hapart : BlocksApart tasks)
    (hroom : RoomForSwaps dec tasks s) (schedule : List ι) :
    ScheduleIndependent triggers dec tasks s schedule := by
  obtain ⟨hfired, htasks⟩ := chunkRunFiring_fired triggers hroom schedule
  refine ⟨?_, ?_, ?_, hfired.firstSeen, ?_⟩
  · intro i
    rw [hfired.tables]
    exact chunkRun_prefix hapart schedule i
  · intro i executed hended
    rw [htasks i, TaskState.ended_mapError] at hended
    obtain ⟨alone, halone, rfl⟩ := Option.map_eq_some_iff.mp hended
    obtain ⟨hresult, hagree⟩ := chunkRun_ended hapart halone
    refine ⟨alone, rfl, hresult, ?_⟩
    rw [hfired.tables]
    exact hagree
  · rw [hfired.tables]
    exact chunkRun_outside schedule
  · intro schedule' hall hall'
    obtain ⟨hfired', htasks'⟩ := chunkRunFiring_fired triggers hroom schedule'
    obtain ⟨hsame, hends⟩ := chunkRun_everywhere hapart
      (fun i => isSome_of_mapError (htasks i) (hall i))
      (fun i => isSome_of_mapError (htasks' i) (hall' i))
    refine ⟨?_, ?_, hfired.agree hfired' hsame⟩
    · rw [hfired.tables, hfired'.tables]
      exact hsame
    · intro i
      rw [htasks i, htasks' i, TaskState.ended_mapError, TaskState.ended_mapError, hends i]

end Chunk

/-! ## Two blocks with a swap of one trader -/

/-- A block with a swap each: the second is mined twelve seconds after the first. -/
def chunkOfTwo (second : Bool) : ChunkTask where
  blockNumber := if second then 6 else 5
  answers := {
    block := some {
      header := {
        hash := if second then 19 else 9
        parentHash := if second then 9 else 8
        timestamp := if second then 112 else 100
        gasUsed := 100 }
      transactions := [{
        hash := if second then 17 else 7, fromAddr := 5, toAddr := some 6
        effectiveGasPrice := some 1, value := 0, input := [] }] }
    receipts := some (some [{
      transactionHash := if second then 17 else 7, status := true, gasUsed := 100
      logs := [{
        address := 6, topics := swapTopics, data := swapData 10 (-9), logIndex := some 0 }] }])
    trace := fun _ => .rpcError }

theorem apart_chunkOfTwo : BlocksApart chunkOfTwo := by
  intro i j hne
  have hnumber : asI64 (chunkOfTwo i).blockNumber ≠ asI64 (chunkOfTwo j).blockNumber := by
    revert i j
    decide
  have hhash : (if i then 17 else 7 : B256) ≠ if j then 17 else 7 := by
    revert i j
    decide
  constructor
  · intro n hn hn'
    exact hnumber (hn.symm.trans hn')
  · rintro h ⟨r, hr, rfl⟩ ⟨r', hr', heq⟩
    cases List.mem_singleton.mp hr
    cases List.mem_singleton.mp hr'
    exact hhash (hashHex_inj heq).symm

/-- Their statements. -/
def statementsOfTwo (second : Bool) : List Insert :=
  let blockNumber := if second then 6 else 5
  let txHash := if second then hashHex 17 else hashHex 7
  let timestamp := if second then 112 else 100
  [ .blocks [{
      blockNumber, timestamp, gasUsed := 100
      blockHash := some (if second then hashHex 19 else hashHex 9)
      parentHash := some (if second then hashHex 9 else hashHex 8) }],
    .transactions [{
      txHash, fromAddr := addressHex 5, toAddr := some (addressHex 6), blockNumber
      gasUsed := 100, gasPrice := 1, value := 0, status := 1, inputData := none }],
    .swapEvents [{
      poolAddress := addressHex 6, txHash, sender := addressHex 5, recipient := addressHex 6
      amount0 := 10, amount1 := -9, amountIn := 10, amountOut := 9
      sqrtPriceX96 := 2 ^ 96, liquidity := 1, tick := 0, logIndex := 0, timestamp }] ]

theorem program_chunkOfTwo :
    (fun i => (chunkOfTwo i).program sampleDecoders) = statementsOfTwo := by
  funext i
  revert i
  decide +kernel

theorem room_chunkOfTwo : RoomForSwaps sampleDecoders chunkOfTwo .empty := by
  intro user
  have hone : ∀ i, swapsSent user ((chunkOfTwo i).swaps sampleDecoders) ≤ 1 := by
    intro i
    rw [ChunkTask.swaps, congrFun program_chunkOfTwo i]
    exact List.countP_le_length
  have hsum := Finset.sum_le_sum fun i (_ : i ∈ Finset.univ) => hone i
  have hbound : ∑ i : Bool, 1 < 2 ^ 31 := by decide
  calc totalSwapsOf (Triggered.empty.userProfile.lookup user) +
        ∑ i, swapsSent user ((chunkOfTwo i).swaps sampleDecoders)
      ≤ 0 + ∑ i : Bool, 1 := Nat.add_le_add_left hsum 0
    _ = ∑ i : Bool, 1 := Nat.zero_add _
    _ < 2 ^ 31 := hbound

/-- The task of one block, then that of the other. -/
def oneByOne (first : Bool) : List Bool :=
  List.replicate 3 first ++ List.replicate 3 (!first)

/-- The trader is first seen in the block that was faster. All else is the same. -/
theorem chunk_schedule_independent_chunkOfTwo :
    (∀ user, ((chunkRunFiring ⟨true⟩ sampleDecoders chunkOfTwo .empty
        (oneByOne false)).1.userProfile.lookup user).map UserProfile.lasting =
      ((chunkRunFiring ⟨true⟩ sampleDecoders chunkOfTwo .empty
        (oneByOne true)).1.userProfile.lookup user).map UserProfile.lasting) ∧
    ((chunkRunFiring ⟨true⟩ sampleDecoders chunkOfTwo .empty
        (oneByOne false)).1.userProfile.lookup (addressHex 6)).map UserProfile.firstSeen =
      some 100 ∧
    ((chunkRunFiring ⟨true⟩ sampleDecoders chunkOfTwo .empty
        (oneByOne true)).1.userProfile.lookup (addressHex 6)).map UserProfile.firstSeen =
      some 112 := by
  have hended : ∀ first i, ((chunkRunFiring ⟨true⟩ sampleDecoders chunkOfTwo .empty
      (oneByOne first)).2 i).ended.isSome := by
    intro first i
    unfold chunkRunFiring
    apply isSome_ended_runSchedule
    rw [congrFun program_chunkOfTwo i]
    cases first <;> cases i <;> exact Nat.le_refl 3
  refine ⟨?_, ?_, ?_⟩
  · exact ((chunk_schedule_independent apart_chunkOfTwo room_chunkOfTwo (oneByOne false)).schedules
      (oneByOne true) (hended false) (hended true)).2.2.2
  · simp only [chunkRunFiring, program_chunkOfTwo]
    decide +kernel
  · simp only [chunkRunFiring, program_chunkOfTwo]
    decide +kernel

end TxIndexer.Proofs
