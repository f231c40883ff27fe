import TxIndexer.Indexer.ProcessFailedTxs
import TxIndexer.Db.Inserts

/-!
# Which frame the root cause is

`get_first_error_frame` returns the stored frame with an error that was entered first. The frame
that failed first is the one with an error that was left first. An error that its caller does
not catch fails the caller too, and the caller was entered before.
-/

namespace TxIndexer.Proofs

open Decoder Db Indexer Lib

/-- The frame of a stored row has an error. -/
def hasError (x : FlatFrame × Nat) : Bool := x.1.error.isSome

/-- The call tree of a stored trace, each frame with the `trace_id` of its row. -/
def storedTree (root : CallFrame) (firstId : Nat) : RoseTree (FlatFrame × Nat) :=
  (root.toTree 0).number firstId

/-- The call that fails first: it ends with an error before any other does, and so none of the
calls it makes has one. -/
structure FirstToFail (tree : RoseTree (FlatFrame × Nat)) (x : FlatFrame × Nat) : Prop where
  first : tree.postorder.find? hasError = some x
  below : ∀ b, tree.Below x b → hasError b = false

/-- When some frame has an error, the frame that is returned is the first to fail. -/
def RootCauseIsOrigin (db : Database) (txHash : String) (tree : RoseTree (FlatFrame × Nat)) : Prop :=
  (∃ x ∈ tree.preorder, hasError x) → ∃ x, FirstToFail tree x ∧
    getFirstErrorFrame db txHash = some (x.2, traceRow txHash x.1)

/-- No call around the first one to fail has an error: its caller caught it, or it has none. -/
def FirstFailureCaught (tree : RoseTree (FlatFrame × Nat)) : Prop :=
  ∀ x, tree.postorder.find? hasError = some x → ∀ a, tree.Below a x → hasError a = false

theorem numbered_map {α β : Type} (f : α → β) (as : List α) :
    ∀ n, SerialTable.numbered n (as.map f) = (as.zipIdx n).map fun x => (x.2, f x.1) := by
  induction as with
  | nil => intro n; rfl
  | cons a as ih => intro n; simp [SerialTable.numbered, ih]

variable {txHash : String} {root : CallFrame} {db db' : Database}

/-- The frame that is returned for a stored trace is the first in pre-order with an error. -/
theorem getFirstErrorFrame_stored (hnew : tracesOf db txHash = [])
    (hstored : insertTraceLogs db ((flattenCallFrame 0 [] root).map (traceRow txHash)) = .ok db') :
    getFirstErrorFrame db' txHash =
      ((storedTree root db.traceLog.nextId).preorder.find? hasError).map
        fun x => (x.2, traceRow txHash x.1) := by
  obtain ⟨-, -, rfl⟩ := insertTraceLogs_eq_ok.mp hstored
  have hold : ∀ r ∈ db.traceLog.rows, r.2.txHash ≠ txHash := by
    intro r hr heq
    have hmem : r.2 ∈ tracesOf db txHash :=
      List.mem_filter.mpr ⟨List.mem_map_of_mem hr, by simpa using heq⟩
    rw [hnew] at hmem
    cases hmem
  have hnone : db.traceLog.rows.find? (fun r => r.2.txHash = txHash ∧ r.2.error.isSome) = none := by
    rw [List.find?_eq_none]
    intro r hr
    simp [hold r hr]
  rw [getFirstErrorFrame, List.head?_filter, SerialTable.insert, List.find?_append, hnone,
    Option.none_or, flattenCallFrame_eq_preorder, List.nil_append, numbered_map, storedTree,
    RoseTree.preorder_number, List.find?_map]
  congr 1
  refine congrArg (List.find? · _) (funext fun x => ?_)
  simp [traceRow, hasError]

/-- Frames of a stored trace have different identifiers. -/
theorem storedTree_id_inj {firstId : Nat} {f g : FlatFrame} {id : Nat}
    (hf : (f, id) ∈ (storedTree root firstId).preorder)
    (hg : (g, id) ∈ (storedTree root firstId).preorder) : f = g := by
  rw [storedTree, RoseTree.preorder_number, List.mk_mem_zipIdx_iff_le_and_getElem?_sub] at hf hg
  exact Option.some.inj (hf.2.symm.trans hg.2)

/-- For a trace that is parsed, flattened and stored, the root cause is the first call to fail
exactly when no call around that one has an error. -/
theorem root_cause_is_origin_iff {toLowercase : String → String} {json : Json}
    {trace : FlattenedTrace} (hroot : parseCallFrame toLowercase json = .ok root)
    (htrace : parseTrace toLowercase txHash json = .ok trace) (hnew : tracesOf db txHash = [])
    (hstored : insertTraceLogs db (trace.frames.map (traceRow txHash)) = .ok db') :
    RootCauseIsOrigin db' txHash (storedTree root db.traceLog.nextId) ↔
      FirstFailureCaught (storedTree root db.traceLog.nextId) := by
  have hframes : trace.frames = flattenCallFrame 0 [] root := by
    rw [parseTrace, hroot] at htrace
    cases htrace
    rfl
  rw [hframes] at hstored
  have hreturned := getFirstErrorFrame_stored hnew hstored
  have hnodup := RoseTree.nodup_preorder_number db.traceLog.nextId (root.toTree 0)
  rw [FirstFailureCaught, storedTree, ← RoseTree.find?_preorder_eq_postorder_iff hasError _ hnodup,
    ← storedTree]
  constructor
  · intro horigin
    cases hpost : (storedTree root db.traceLog.nextId).postorder.find? hasError with
    | none =>
        rw [List.find?_eq_none] at hpost ⊢
        exact fun x hx => hpost x ((RoseTree.postorder_perm _).mem_iff.mpr hx)
    | some y =>
        have hy := (RoseTree.postorder_perm _).mem_iff.mp (List.mem_of_find?_eq_some hpost)
        obtain ⟨x, hfirst, hget⟩ := horigin ⟨y, hy, List.find?_some hpost⟩
        obtain rfl : y = x := Option.some.inj (hpost.symm.trans hfirst.first)
        rw [hreturned, Option.map_eq_some_iff] at hget
        obtain ⟨z, hpre, heq⟩ := hget
        -- the rows of `y` and `z` have the same identifier
        obtain ⟨f, id⟩ := y
        obtain ⟨g, id'⟩ := z
        obtain rfl : id' = id := congrArg Prod.fst heq
        rw [hpre, storedTree_id_inj (List.mem_of_find?_eq_some hpre) hy]
  · rintro heq ⟨y, hy, herror⟩
    have hsome : ((storedTree root db.traceLog.nextId).preorder.find? hasError).isSome :=
      List.find?_isSome.mpr ⟨y, hy, herror⟩
    obtain ⟨x, hpre⟩ := Option.isSome_iff_exists.mp hsome
    refine ⟨x, ⟨heq ▸ hpre, ?_⟩, by rw [hreturned, hpre, Option.map_some]⟩
    rintro b ⟨cs, hsub, hb⟩
    exact RoseTree.first_left_none_below _ hnodup (heq ▸ hpre) hsub b hb

/-! ## A nested call that fails -/

/-- A call that made one call, which failed; `error` is that of the outer call. -/
def nestedCall (error : Option String) : CallFrame where
  callType := "CALL"
  fromAddr := "0x5"
  toAddr := some "0x6"
  value := none
  gasUsed := 0
  input := none
  output := none
  error
  calls := [{
    callType := "CALL", fromAddr := "0x6", toAddr := some "0x7", value := none, gasUsed := 0
    input := some "0xa9059cbb", output := none, error := some "out of gas", calls := [] }]

/-- The trace of that call. -/
def nestedCallJson (error : List (String × Json)) : Json :=
  .object ([("type", .string "CALL"), ("from", .string "0x5"), ("to", .string "0x6"),
    ("calls", .array [.object [("type", .string "CALL"), ("from", .string "0x6"),
      ("to", .string "0x7"), ("input", .string "0xa9059cbb"),
      ("error", .string "out of gas")]])] ++ error)

/-- One transaction without a trace. -/
def untraced : Database :=
  { Database.empty with transaction := Lib.KeyedTable.insertNew ∅ [{
      txHash := "0x1", fromAddr := "0x5", toAddr := some "0x6", blockNumber := 1, gasUsed := 0
      gasPrice := 0, value := 0, status := 0, inputData := none }] }

/-- The error of the nested call fails the outer one, and the outer one is returned. -/
theorem root_cause_outer : ∃ db',
    parseCallFrame id (nestedCallJson [("error", .string "execution reverted")]) =
      .ok (nestedCall (some "execution reverted")) ∧
    insertTraceLogs untraced ((flattenCallFrame 0 []
      (nestedCall (some "execution reverted"))).map (traceRow "0x1")) = .ok db' ∧
    ¬ RootCauseIsOrigin db' "0x1" (storedTree (nestedCall (some "execution reverted")) 0) := by
  have hstored : insertTraceLogs untraced ((flattenCallFrame 0 []
      (nestedCall (some "execution reverted"))).map (traceRow "0x1")) = .ok _ :=
    insertTraceLogs_eq_ok.mpr ⟨by decide +kernel, by decide +kernel, rfl⟩
  refine ⟨_, by rfl, hstored, fun horigin => ?_⟩
  obtain ⟨x, hfirst, hget⟩ := horigin (by decide)
  rw [getFirstErrorFrame_stored rfl hstored] at hget
  have hid : some x.2 = some 0 := by
    have hmap := congrArg (Option.map Prod.fst) hget
    rw [Option.map_some, Option.map_map] at hmap
    exact hmap.symm
  have hlast : (storedTree (nestedCall (some "execution reverted")) 0).postorder.find? hasError =
      some (_, 1) := rfl
  rw [hfirst.first, Option.some.injEq] at hlast
  rw [hlast] at hid
  cases hid

/-- The outer call catches the error, and the nested one is returned. -/
theorem root_cause_caught : ∃ db',
    insertTraceLogs untraced ((flattenCallFrame 0 [] (nestedCall none)).map (traceRow "0x1")) =
      .ok db' ∧
    RootCauseIsOrigin db' "0x1" (storedTree (nestedCall none) 0) := by
  have hstored : insertTraceLogs untraced ((flattenCallFrame 0 []
      (nestedCall none)).map (traceRow "0x1")) = .ok _ :=
    insertTraceLogs_eq_ok.mpr ⟨by decide +kernel, by decide +kernel, rfl⟩
  have hroot : parseCallFrame id (nestedCallJson []) = .ok (nestedCall none) := by rfl
  have htrace : parseTrace id "0x1" (nestedCallJson []) =
      .ok ⟨"0x1", flattenCallFrame 0 [] (nestedCall none)⟩ := by rfl
  refine ⟨_, hstored, (root_cause_is_origin_iff hroot htrace rfl hstored).mpr ?_⟩
  exact (RoseTree.find?_preorder_eq_postorder_iff hasError _
    (RoseTree.nodup_preorder_number 0 ((nestedCall none).toTree 0))).mp (by rfl)

end TxIndexer.Proofs
