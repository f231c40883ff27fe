import TxIndexer.Lib.Interleave
import TxIndexer.Db.Scopes
import TxIndexer.Indexer.BlockPlan

/-!
# Blocks are processed at once

`process_chunk` spawns a task for each block of a chunk, and the tasks take turns on one database,
statement by statement. Blocks have no transaction in common, so each task reads and writes rows
of its own in the tables of the indexer: whatever the turns, every block ends as it would alone and
its rows are those it would have alone. What blocks do share, the triggers write
(`Proofs.ChunkTriggers`).
-/

namespace TxIndexer.Proofs

open Db Decoder Indexer Lib

/-! ## The statements of a block are about its own rows -/

/-- The transaction of an event. -/
def eventHash : DecodedEvent → String
  | .swap s => s.txHash
  | .liquidity l => l.txHash
  | .transfer t => t.txHash

theorem eventHash_of_decodeLog {abi : EventAbi} {topics : List B256} {data : Bytes}
    {ctx : LogContext} {event : DecodedEvent} (h : decodeLog abi topics data ctx = .ok event) :
    eventHash event = ctx.txHash := by
  have hmap : ∀ {α : Type} {decoded : Except String α} {f : α → DecodedEvent},
      (∀ a, eventHash (f a) = ctx.txHash) →
      (abiDecodeError decoded).map f = .ok event → eventHash event = ctx.txHash := by
    intro α decoded f hf hdecoded
    cases decoded with
    | error e => cases hdecoded
    | ok a => cases hdecoded; exact hf a
  unfold decodeLog at h
  split at h
  · cases h
  · split at h
    · rw [decodeSwap_eq] at h
      exact hmap (fun _ => rfl) h
    · split at h
      · rw [decodeMint_eq] at h
        exact hmap (fun _ => rfl) h
      · split at h
        · rw [decodeBurn_eq] at h
          exact hmap (fun _ => rfl) h
        · split at h
          · rw [decodeTransfer_eq] at h
            exact hmap (fun _ => rfl) h
          · cases h

/-- The hashes of the receipts of a block. -/
def receiptHashes (receipts : List Receipt) : Set String :=
  {h | ∃ r ∈ receipts, hashHex r.transactionHash = h}

variable {triggers : Triggers} {dec : Decoders} {blockNumber : Nat} {block : RpcBlock}
  {receipts : List Receipt} {trace : String → TraceAnswer}

theorem eventHash_mem {abi : EventAbi} {timestamp : Int} {event : DecodedEvent}
    (h : event ∈ decodedEvents abi timestamp receipts) :
    eventHash event ∈ receiptHashes receipts := by
  obtain ⟨receipt, hreceipt, hevent⟩ := List.mem_flatMap.mp h
  obtain ⟨log, -, hsome⟩ := List.mem_filterMap.mp hevent
  refine ⟨receipt, hreceipt, ?_⟩
  split at hsome
  · cases hsome
  · cases hdecode : decodeLog abi log.topics log.data (logContext timestamp receipt log) with
    | error e => rw [hdecode] at hsome; cases hsome
    | ok event' =>
        rw [hdecode] at hsome
        cases hsome
        exact (eventHash_of_decodeLog hdecode).symm

theorem failedTxHashes_subset {txHash : String} (h : txHash ∈ failedTxHashes receipts) :
    txHash ∈ receiptHashes receipts := by
  obtain ⟨r, hr, rfl⟩ := List.mem_map.mp h
  exact ⟨r, List.mem_of_mem_filter hr, rfl⟩

/-- The rows of failed transactions are of those it was asked for. -/
theorem txHash_of_mem_processFailedTxs {toLowercase : String → String} {timestamp : Int}
    {txHashes : List String} : ∀ {rows : List TraceLog × List FailedTransaction},
    processFailedTxs toLowercase trace timestamp txHashes = .ok rows →
      (∀ r ∈ rows.1, r.txHash ∈ txHashes) ∧ ∀ f ∈ rows.2, f.txHash ∈ txHashes := by
  induction txHashes with
  | nil => intro rows h; cases h; simp
  | cons txHash txHashes ih =>
      intro rows h
      obtain ⟨first, rest, hfirst, hrest, rfl⟩ := processFailedTxs_cons.mp h
      obtain ⟨hlogs, htxs⟩ := ih hrest
      rcases processFailedTx_cases hfirst with ⟨-, rfl⟩ | ⟨flattened, root, d, -, -, -, rfl⟩
      · exact ⟨fun r hr => List.mem_cons_of_mem _ (hlogs r hr),
          fun f hf => List.mem_cons_of_mem _ (htxs f hf)⟩
      · constructor
        · intro r hr
          rcases List.mem_append.mp hr with hr | hr
          · obtain ⟨frame, -, rfl⟩ := List.mem_map.mp hr
            exact List.mem_cons_self
          · exact List.mem_cons_of_mem _ (hlogs r hr)
        · intro f hf
          rcases List.mem_append.mp hf with hf | hf
          · rw [List.mem_singleton.mp hf]
            exact List.mem_cons_self
          · exact List.mem_cons_of_mem _ (htxs f hf)

/-- The block and the transactions of a block. -/
def blockScope (blockNumber : Nat) (receipts : List Receipt) : Scope where
  blocks := {asI64 blockNumber}
  hashes := receiptHashes receipts

theorem within_eventInserts {i : Insert}
    (hi : i ∈ eventInserts dec blockNumber block receipts) :
    i.Within (blockScope blockNumber receipts) := by
  simp only [eventInserts, List.mem_append, List.mem_singleton, mem_unlessEmpty] at hi
  rcases hi with (((rfl | ⟨-, rfl⟩) | ⟨-, rfl⟩) | ⟨-, rfl⟩) | ⟨-, rfl⟩
  · intro r hr
    rw [List.mem_singleton.mp hr]
    rfl
  · intro r hr
    obtain ⟨⟨receipt, idx⟩, hmem, hrow⟩ := List.mem_filterMap.mp hr
    obtain ⟨tx, -, rfl⟩ := Option.map_eq_some_iff.mp hrow
    exact ⟨⟨receipt, (List.mem_zipIdx' hmem).2 ▸ List.getElem_mem _, rfl⟩, rfl⟩
  · intro r hr
    obtain ⟨event, hevent, hrow⟩ := List.mem_filterMap.mp hr
    cases event <;> cases hrow
    exact eventHash_mem hevent
  · intro r hr
    obtain ⟨event, hevent, hrow⟩ := List.mem_filterMap.mp hr
    cases event <;> cases hrow
    exact eventHash_mem hevent
  · intro r hr
    obtain ⟨event, hevent, hrow⟩ := List.mem_filterMap.mp hr
    cases event <;> cases hrow
    exact eventHash_mem hevent

theorem within_planOf {i : Insert} (hi : i ∈ (planOf dec blockNumber block receipts trace).inserts) :
    i.Within (blockScope blockNumber receipts) := by
  unfold planOf at hi
  cases hrows : failureRows dec block receipts trace with
  | error p =>
      rw [hrows] at hi
      exact within_eventInserts hi
  | ok rows =>
      obtain ⟨traceLogs, failedTxs⟩ := rows
      obtain ⟨hlogs, htxs⟩ := txHash_of_mem_processFailedTxs hrows
      rw [hrows] at hi
      simp only [List.mem_append, mem_unlessEmpty] at hi
      rcases hi with (hi | ⟨-, rfl⟩) | ⟨-, rfl⟩
      · exact within_eventInserts hi
      · exact fun r hr => failedTxHashes_subset (hlogs r hr)
      · exact fun f hf => failedTxHashes_subset (htxs f hf)

/-! ## The tasks of a chunk -/

/-- A block to process, and what the node answers meanwhile. -/
structure ChunkTask where
  blockNumber : Nat
  answers : BlockAnswers

namespace ChunkTask

variable (b : ChunkTask)

/-- The receipts that are processed. -/
def fetched : List Receipt := (b.answers.receipts.bind id).getD []

/-- The rows the task may touch. -/
def scope : Scope := blockScope b.blockNumber b.fetched

/-- Its statements. -/
def program (dec : Decoders) : List Insert :=
  match blockPlan dec b.blockNumber b.answers with
  | none => []
  | some plan => plan.inserts

/-- How `process_block` ends once its statements have. -/
def result (dec : Decoders) (executed : Except DbError Unit) : Except BlockError Unit :=
  match blockPlan dec b.blockNumber b.answers, executed with
  | none, _ => .error .rpc
  | some _, .error e => .error (.db e)
  | some plan, .ok () =>
      match plan.panic with
      | none => .ok ()
      | some p => .error (.panicked p)

end ChunkTask

theorem execInserts_eq_execAll (is : List Insert) :
    ∀ db, execInserts triggers db is = execAll (Insert.exec triggers) db is := by
  induction is with
  | nil => intro db; rfl
  | cons i is ih =>
      intro db
      rw [execInserts, execAll]
      cases i.exec triggers db with
      | ok db' => exact ih db'
      | error e => rfl

/-- `process_block` is its statements one after another. -/
theorem processBlock_eq_execAll (b : ChunkTask) (db : Database) :
    processBlock triggers dec b.blockNumber b.answers db =
      ((execAll (Insert.exec triggers) db (b.program dec)).1,
        b.result dec (execAll (Insert.exec triggers) db (b.program dec)).2) := by
  unfold processBlock ChunkTask.program ChunkTask.result
  cases blockPlan dec b.blockNumber b.answers with
  | none => rfl
  | some plan =>
      obtain ⟨inserts, panic⟩ := plan
      simp only [execInserts_eq_execAll]
      rcases execAll (Insert.exec triggers) db inserts with ⟨db', e | ⟨⟩⟩
      · rfl
      · cases panic with
        | none => rfl
        | some p => rfl

theorem within_program {b : ChunkTask} {i : Insert} (hi : i ∈ b.program dec) :
    i.Within b.scope := by
  unfold ChunkTask.program at hi
  cases hplan : blockPlan dec b.blockNumber b.answers with
  | none => rw [hplan] at hi; cases hi
  | some plan =>
      rw [hplan] at hi
      obtain ⟨block, receipts, -, hreceipts, rfl⟩ := blockPlan_eq_some.mp hplan
      have hsame : b.fetched = receipts.getD [] := by
        rw [ChunkTask.fetched, hreceipts]
        rfl
      rw [ChunkTask.scope, hsame]
      exact within_planOf hi

/-! ## A chunk -/

section Chunk

variable {ι : Type}

/-- No two blocks have a number or a transaction in common. -/
def BlocksApart (tasks : ι → ChunkTask) : Prop :=
  ∀ i j, j ≠ i → (tasks i).scope.Disjoint (tasks j).scope

/-- The rows that are of no block of the chunk. -/
def outside (tasks : ι → ChunkTask) : Scope where
  blocks := {n | ∀ i, n ∉ (tasks i).scope.blocks}
  hashes := {h | ∀ i, h ∉ (tasks i).scope.hashes}

/-- All rows. -/
def everywhere : Scope := ⟨Set.univ, Set.univ⟩

variable [DecidableEq ι] (triggers dec) (tasks : ι → ChunkTask) (db : Database)

/-- What the tasks of `process_chunk` have done after the turns of a schedule. -/
def chunkRun (schedule : List ι) : Database × (ι → TaskState Insert DbError) :=
  runSchedule (Insert.exec triggers) (fun i => (tasks i).program dec) db schedule

variable {triggers dec tasks db}

omit [DecidableEq ι] in
/-- Each block has a part of the database. -/
theorem parts_of_apart (hapart : BlocksApart tasks) :
    Parts (Insert.exec triggers) (fun i a => a.Within (tasks i).scope)
      (fun i => (tasks i).scope.Agree) where
  refl i db := .refl (tasks i).scope db
  trans _ _ _ _ h h' := h.trans h'
  onlyMine _ _ _ _ hmine hagree := Insert.exec_agree hmine hagree
  onlyThere i j _ _ _ hmine hne hexec := Insert.exec_elsewhere hmine (hapart i j hne) hexec

/-- Rows of no block of the chunk stay as they are. -/
theorem chunkRun_outside (schedule : List ι) :
    (outside tasks).Agree (chunkRun triggers dec tasks db schedule).1 db := by
  refine runSchedule_frame (Scope.Agree.refl _) (fun _ _ _ h h' => h.trans h') ?_ schedule
  intro i a ha db db' hexec
  refine Insert.exec_elsewhere (within_program ha) ⟨?_, ?_⟩ hexec
  · exact fun n hn hout => hout i hn
  · exact fun h hh hout => hout i hh

omit [DecidableEq ι] in
/-- What agrees on the rows of every block and on the rest agrees on everything. -/
theorem agree_everywhere {db' : Database} (hblocks : ∀ i, (tasks i).scope.Agree db db')
    (hrest : (outside tasks).Agree db db') : everywhere.Agree db db' := by
  have hhash : ∀ h : String, (∃ i, h ∈ (tasks i).scope.hashes) ∨ h ∈ (outside tasks).hashes := by
    intro h
    by_cases hmem : ∃ i, h ∈ (tasks i).scope.hashes
    · exact .inl hmem
    · exact .inr fun i hi => hmem ⟨i, hi⟩
  constructor
  · intro n _
    by_cases hmem : ∃ i, n ∈ (tasks i).scope.blocks
    · obtain ⟨i, hi⟩ := hmem
      exact (hblocks i).block n hi
    · exact hrest.block n fun i hi => hmem ⟨i, hi⟩
  · exact fun k _ => (hhash k).elim (fun ⟨i, hi⟩ => (hblocks i).transaction k hi)
      (hrest.transaction k)
  · exact fun k _ => (hhash k.1).elim (fun ⟨i, hi⟩ => (hblocks i).swapEvent k hi)
      (hrest.swapEvent k)
  · exact fun k _ => (hhash k.1).elim (fun ⟨i, hi⟩ => (hblocks i).liquidityEvent k hi)
      (hrest.liquidityEvent k)
  · exact fun k _ => (hhash k.1).elim (fun ⟨i, hi⟩ => (hblocks i).tokenTransfer k hi)
      (hrest.tokenTransfer k)
  · exact fun k _ => (hhash k).elim (fun ⟨i, hi⟩ => (hblocks i).traces k hi) (hrest.traces k)
  · exact fun k _ => (hhash k).elim (fun ⟨i, hi⟩ => (hblocks i).failedTransaction k hi)
      (hrest.failedTransaction k)

/-- A block that has ended has ended as it would alone, with the rows it would have alone. -/
theorem chunkRun_ended (hapart : BlocksApart tasks) {schedule : List ι} {i : ι}
    {executed : Except DbError Unit}
    (hended : ((chunkRun triggers dec tasks db schedule).2 i).ended = some executed) :
    (processBlock triggers dec (tasks i).blockNumber (tasks i).answers db).2 =
        (tasks i).result dec executed ∧
      (tasks i).scope.Agree (chunkRun triggers dec tasks db schedule).1
        (processBlock triggers dec (tasks i).blockNumber (tasks i).answers db).1 := by
  obtain ⟨hresult, hagree⟩ :=
    runSchedule_ended (parts_of_apart hapart) (fun i _ ha => within_program ha) hended
  rw [processBlock_eq_execAll, hresult]
  exact ⟨rfl, hagree⟩

/-- The rows of a block are those its first statements leave when it is alone. -/
theorem chunkRun_prefix (hapart : BlocksApart tasks) (schedule : List ι) (i : ι) :
    ∃ k, (tasks i).scope.Agree (chunkRun triggers dec tasks db schedule).1
      (execInserts triggers db (((tasks i).program dec).take k)).1 := by
  obtain ⟨k, hk⟩ := runSchedule_prefix (parts_of_apart hapart)
    (fun i _ ha => within_program ha) schedule i
  refine ⟨k, ?_⟩
  rw [execInserts_eq_execAll]
  exact hk

/-- Two runs in which all blocks have ended leave the same rows, and the blocks have ended
alike. -/
theorem chunkRun_everywhere (hapart : BlocksApart tasks) {schedule schedule' : List ι}
    (hall : ∀ i, ((chunkRun triggers dec tasks db schedule).2 i).ended.isSome)
    (hall' : ∀ i, ((chunkRun triggers dec tasks db schedule').2 i).ended.isSome) :
    everywhere.Agree (chunkRun triggers dec tasks db schedule).1
        (chunkRun triggers dec tasks db schedule').1 ∧
      ∀ i, ((chunkRun triggers dec tasks db schedule).2 i).ended =
        ((chunkRun triggers dec tasks db schedule').2 i).ended := by
  have hown : ∀ {schedule : List ι} {i : ι} {executed : Except DbError Unit},
      ((chunkRun triggers dec tasks db schedule).2 i).ended = some executed →
        (execAll (Insert.exec triggers) db ((tasks i).program dec)).2 = executed := fun hended =>
    (runSchedule_ended (parts_of_apart hapart) (fun i _ ha => within_program ha) hended).1
  constructor
  · refine agree_everywhere (fun i => ?_)
      ((chunkRun_outside schedule).trans (chunkRun_outside schedule').symm)
    obtain ⟨executed, hended⟩ := Option.isSome_iff_exists.mp (hall i)
    obtain ⟨executed', hended'⟩ := Option.isSome_iff_exists.mp (hall' i)
    exact (chunkRun_ended hapart hended).2.trans (chunkRun_ended hapart hended').2.symm
  · intro i
    obtain ⟨executed, hended⟩ := Option.isSome_iff_exists.mp (hall i)
    obtain ⟨executed', hended'⟩ := Option.isSome_iff_exists.mp (hall' i)
    rw [hended, hended', ← hown hended, ← hown hended']

end Chunk

end TxIndexer.Proofs
