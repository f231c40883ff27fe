import TxIndexer.Indexer.BlockPlan

/-!
# Processing a block again

A chunk that fails is retried from its first block, so a block is processed again after runs
that completed and runs that stopped after any of their statements. The keyed tables come out as
if the block had been processed once. `trace_log` has no key: a run that got as far as its
traces leaves a copy of them for the next.
-/

namespace TxIndexer.Proofs

open Decoder Db Indexer

variable {triggers : Triggers} {inserts : List Insert} {db₀ db db' : Database}

/-- Earlier runs, one for each entry of the list, which stopped after that many statements. -/
inductive PriorRuns (triggers : Triggers) (inserts : List Insert) :
    Database → List Nat → Database → Prop where
  | nil (db : Database) : PriorRuns triggers inserts db [] db
  | cons {db mid db' : Database} {k : Nat} {ks : List Nat} :
      ExecOk triggers db (inserts.take k) mid → PriorRuns triggers inserts mid ks db' →
      PriorRuns triggers inserts db (k :: ks) db'

/-- The traces the earlier runs left. -/
def tracesLeft (inserts : List Insert) (ks : List Nat) : List TraceLog :=
  ks.flatMap fun k => tracesIn (inserts.take k)

theorem PriorRuns.traceLog {ks : List Nat} (h : PriorRuns triggers inserts db₀ ks db) :
    db.traceLog.values = db₀.traceLog.values ++ tracesLeft inserts ks := by
  induction h with
  | nil db => simp [tracesLeft]
  | cons hrun _ ih => rw [ih, hrun.traceLog]; simp [tracesLeft]

/-- If a run completes after an interrupted one, it would have completed before it, with the
same rows outside `trace_log`. -/
theorem rerun_of_interrupted {k : Nat} (hrun : ExecOk triggers db₀ (inserts.take k) db)
    (hrerun : ExecOk triggers db inserts db') :
    ∃ t, ExecOk triggers db₀ inserts (db'.withTraces t) := by
  rw [← List.take_append_drop k inserts] at hrerun
  obtain ⟨mid, hfirst, hrest⟩ := execOk_append.mp hrerun
  have hagain := hrun.again (.refl db)
  obtain rfl := hfirst.deterministic hagain
  have hrest' := hrest.withTraces db.traceLog
  rw [Database.withTraces_withTraces, Database.withTraces_self] at hrest'
  have hall := execOk_append.mpr ⟨db, hrun, hrest'⟩
  rw [List.take_append_drop] at hall
  exact ⟨_, hall⟩

/-- The same for any number of earlier runs. -/
theorem rerun_of_priorRuns {ks : List Nat} (hprior : PriorRuns triggers inserts db₀ ks db)
    (hrerun : ExecOk triggers db inserts db') :
    ∃ t, ExecOk triggers db₀ inserts (db'.withTraces t) := by
  induction hprior with
  | nil db => exact ⟨db'.traceLog, hrerun⟩
  | cons hrun _ ih =>
      obtain ⟨t, hmid⟩ := ih hrerun
      obtain ⟨t', hfirst⟩ := rerun_of_interrupted hrun hmid
      exact ⟨t', hfirst⟩

/-- If a run completes, so does a run after an interrupted one. -/
theorem rerun_after_interrupted {k : Nat} {once : Database}
    (honce : ExecOk triggers db₀ inserts once) (hrun : ExecOk triggers db₀ (inserts.take k) db) :
    ∃ db', ExecOk triggers db inserts db' := by
  rw [← List.take_append_drop k inserts] at honce
  obtain ⟨mid, hfirst, hrest⟩ := execOk_append.mp honce
  obtain rfl := hfirst.deterministic hrun
  have hall := execOk_append.mpr ⟨_, hrun.again (.refl mid), hrest.withTraces _⟩
  rw [List.take_append_drop] at hall
  exact ⟨_, hall⟩

/-- The rows of the seven tables are the same, up to the order and the identifiers of
`trace_log`. -/
structure SameRows (db db' : Database) : Prop where
  block : db.block = db'.block
  transaction : db.transaction = db'.transaction
  swapEvent : db.swapEvent = db'.swapEvent
  liquidityEvent : db.liquidityEvent = db'.liquidityEvent
  tokenTransfer : db.tokenTransfer = db'.tokenTransfer
  traceLog : db.traceLog.values.Perm db'.traceLog.values
  failedTransaction : db.failedTransaction = db'.failedTransaction

/-- Two databases agree: the same rows, and every trace listed the same. -/
def Agree (db db' : Database) : Prop :=
  SameRows db db' ∧ ∀ txHash limit, listTraceLogsByTx db txHash limit = listTraceLogsByTx db' txHash limit

/-- After earlier runs a rerun leaves what one run leaves exactly when they left no traces. -/
theorem rerun_agree_iff {ks : List Nat} {once : Database}
    (hprior : PriorRuns triggers inserts db₀ ks db) (hrerun : ExecOk triggers db inserts db')
    (honce : ExecOk triggers db₀ inserts once) :
    Agree db' once ↔ tracesLeft inserts ks = [] := by
  obtain ⟨t, hwith⟩ := rerun_of_priorRuns hprior hrerun
  obtain rfl := honce.deterministic hwith
  have hvalues : db'.traceLog.values =
      db₀.traceLog.values ++ tracesLeft inserts ks ++ tracesIn inserts := by
    rw [hrerun.traceLog, Lib.SerialTable.values_insert, hprior.traceLog]
  have honceValues : (db'.withTraces t).traceLog.values =
      db₀.traceLog.values ++ tracesIn inserts := by
    rw [honce.traceLog, Lib.SerialTable.values_insert]
  constructor
  · intro hagree
    have hlength := hagree.1.traceLog.length_eq
    rw [hvalues, honceValues] at hlength
    simp only [List.length_append] at hlength
    exact List.length_eq_zero_iff.mp (by omega)
  · intro hnone
    rw [hnone, List.append_nil, ← honceValues] at hvalues
    refine ⟨⟨rfl, rfl, rfl, rfl, rfl, ?_, rfl⟩, ?_⟩
    · rw [hvalues]
    · intro txHash limit
      rw [listTraceLogsByTx, listTraceLogsByTx, tracesOf, tracesOf, hvalues]

/-! ## The statements of a block -/

theorem traceLogs_not_mem_eventInserts {dec : Decoders} {blockNumber : Nat} {block : RpcBlock}
    {receipts : List Receipt} {rows : List TraceLog} :
    .traceLogs rows ∉ eventInserts dec blockNumber block receipts := by
  simp [eventInserts, mem_unlessEmpty]

/-- `insert_trace_logs` is only called with rows. -/
theorem traceLogs_ne_nil {dec : Decoders} {blockNumber : Nat} {answers : BlockAnswers}
    {plan : BlockPlan} (hplan : blockPlan dec blockNumber answers = some plan)
    {rows : List TraceLog} (h : .traceLogs rows ∈ plan.inserts) : rows ≠ [] := by
  obtain ⟨block, receipts, -, -, rfl⟩ := blockPlan_eq_some.mp hplan
  unfold planOf at h
  split at h
  · exact absurd h traceLogs_not_mem_eventInserts
  · simp only [List.mem_append, traceLogs_not_mem_eventInserts, mem_unlessEmpty, false_or,
      Insert.traceLogs.injEq, reduceCtorEq, and_false, or_false] at h
    obtain ⟨hne, rfl⟩ := h
    exact hne

/-- No trace was left exactly when no earlier run got past `insert_trace_logs`. -/
theorem tracesLeft_eq_nil_iff {dec : Decoders} {blockNumber : Nat} {answers : BlockAnswers}
    {plan : BlockPlan} (hplan : blockPlan dec blockNumber answers = some plan) (ks : List Nat) :
    tracesLeft plan.inserts ks = [] ↔
      ∀ k ∈ ks, ∀ rows, Insert.traceLogs rows ∉ plan.inserts.take k := by
  simp only [tracesLeft, tracesIn, List.flatMap_eq_nil_iff]
  refine forall₂_congr fun k _ => ⟨fun h rows hmem => ?_, fun h i hi => ?_⟩
  · exact traceLogs_ne_nil hplan (List.mem_of_mem_take hmem) (h _ hmem)
  · cases i with
    | traceLogs rows => exact absurd hi (h rows)
    | _ => rfl

/-- A block processed again after earlier runs, each complete or stopped after any of its
statements, leaves what one run would have left exactly when none of those runs had got past
`insert_trace_logs`. -/
theorem reprocess_agree_iff {dec : Decoders} {blockNumber : Nat} {answers : BlockAnswers}
    {plan : BlockPlan} {ks : List Nat} (hplan : blockPlan dec blockNumber answers = some plan)
    (hprior : PriorRuns triggers plan.inserts db₀ ks db)
    (hrerun : processBlock triggers dec blockNumber answers db = (db', .ok ())) :
    ∃ once, processBlock triggers dec blockNumber answers db₀ = (once, .ok ()) ∧
      (Agree db' once ↔ ∀ k ∈ ks, ∀ rows, Insert.traceLogs rows ∉ plan.inserts.take k) := by
  obtain ⟨plan', hplan', hpanic, hexec⟩ := processBlock_ok_iff.mp hrerun
  obtain rfl : plan = plan' := by rw [hplan, Option.some.injEq] at hplan'; exact hplan'
  obtain ⟨t, honce⟩ := rerun_of_priorRuns hprior hexec
  refine ⟨_, processBlock_ok_iff.mpr ⟨plan, hplan, hpanic, honce⟩, ?_⟩
  rw [rerun_agree_iff hprior hexec honce, tracesLeft_eq_nil_iff hplan]

/-- A run that stopped after `insert_blocks` leaves no trace for the next. -/
theorem reprocess_agree_iff_stopped : ∃ plan db db' once,
    blockPlan sampleDecoders 5 (failedBlockAnswers revertedFrame) = some plan ∧
    PriorRuns ⟨false⟩ plan.inserts .empty [1] db ∧
    processBlock ⟨false⟩ sampleDecoders 5 (failedBlockAnswers revertedFrame) db = (db', .ok ()) ∧
    processBlock ⟨false⟩ sampleDecoders 5 (failedBlockAnswers revertedFrame) .empty =
      (once, .ok ()) ∧
    (Agree db' once ↔ ∀ k ∈ [1], ∀ rows, Insert.traceLogs rows ∉ plan.inserts.take k) := by
  obtain ⟨_, hstored⟩ := failedBlock_stored
  obtain ⟨plan, hplan, hpanic, honce⟩ := processBlock_ok_iff.mp hstored
  have hsplit := honce
  rw [← List.take_append_drop 1 plan.inserts] at hsplit
  obtain ⟨mid, hfirst, -⟩ := execOk_append.mp hsplit
  have hprior : PriorRuns ⟨false⟩ plan.inserts .empty [1] mid := .cons hfirst (.nil mid)
  obtain ⟨db', hrerun⟩ := rerun_after_interrupted honce hfirst
  have hrerun := processBlock_ok_iff.mpr ⟨plan, hplan, hpanic, hrerun⟩
  obtain ⟨once, honce, hagree⟩ := reprocess_agree_iff hplan hprior hrerun
  exact ⟨plan, mid, db', once, hplan, hprior, hrerun, honce, hagree⟩

/-- A block whose failed transaction was traced, processed twice: its frame is stored twice. -/
theorem reprocess_duplicates_traces : ∃ once again,
    processBlock ⟨false⟩ sampleDecoders 5 (failedBlockAnswers revertedFrame) .empty =
      (once, .ok ()) ∧
    processBlock ⟨false⟩ sampleDecoders 5 (failedBlockAnswers revertedFrame) once =
      (again, .ok ()) ∧
    ¬ Agree again once := by
  obtain ⟨once, hstored⟩ := failedBlock_stored
  obtain ⟨plan, hplan, hpanic, honce⟩ := processBlock_ok_iff.mp hstored
  have hagain := honce.again (.refl _)
  refine ⟨once, _, hstored, processBlock_ok_iff.mpr ⟨plan, hplan, hpanic, hagain⟩, fun hagree => ?_⟩
  have hfull := honce
  rw [← List.take_length (l := plan.inserts)] at hfull
  have hleft := (rerun_agree_iff (.cons hfull (.nil _)) hagain honce).mp hagree
  rw [tracesLeft, List.flatMap_cons, List.flatMap_nil, List.append_nil, List.take_length] at hleft
  have htraces : (blockPlan sampleDecoders 5 (failedBlockAnswers revertedFrame)).map
      (fun p => (tracesIn p.inserts).length) = some 1 := by decide +kernel
  rw [hplan, Option.map_some, hleft] at htraces
  cases htraces

end TxIndexer.Proofs
