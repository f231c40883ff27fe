import TxIndexer.Api.FailedTx
import TxIndexer.Indexer.ProcessFailedTxs
import TxIndexer.Lib.DepthList
import TxIndexer.Db.Inserts

/-!
# The flattened trace determines the call tree

`parse_trace` lists the calls of a trace in pre-order, each with its depth. The call tree can be
rebuilt from that list, and a response that is cut off still holds the caller of every call it
lists.
-/

namespace TxIndexer.Proofs

open Decoder Db Indexer Api Lib

mutual

/-- The calls a `callTracer` answer describes: each frame has the frames in its `calls` array
below it. -/
def callTree : Json → RoseTree Json
  | .object fields => .node (.object fields) (nestedCalls fields)
  | json => .node json []

def nestedCalls : List (String × Json) → List (RoseTree Json)
  | [] => []
  | (key, json) :: fields => if "calls" == key then callsIn json else nestedCalls fields

def callsIn : Json → List (RoseTree Json)
  | .array items => callTrees items
  | _ => []

def callTrees : List Json → List (RoseTree Json)
  | [] => []
  | json :: items => callTree json :: callTrees items

end

/-- Every frame has a `type` that is a string. -/
def EveryFrameTyped (json : Json) : Prop :=
  ∀ frame ∈ (callTree json).preorder, (frame.getStr "type").isSome

instance (json : Json) : Decidable (EveryFrameTyped json) :=
  inferInstanceAs (Decidable (∀ frame ∈ (callTree json).preorder, (frame.getStr "type").isSome))

/-- `parse_call_frame` accepts a frame: it has a `type` that is a string. -/
def frameTyped (json : Json) : Bool := (json.getStr "type").isSome

/-- The frames of a trace that are flattened, with their distances from the root: a frame without
a type is dropped with its calls. -/
def tracedFrames (json : Json) : List (Json × Nat) :=
  RoseTree.preorderForest (RoseTree.withDepthForest 0 ((callTree json).prune frameTyped))

section Flatten

variable (toLowercase : String → String)

/-- The flattened frame of a node at distance `depth` from the root. -/
def frameRow (node : Json × Nat) : FlatFrame where
  depth := node.2
  callType := (node.1.getStr "type").getD ""
  fromAddr := toLowercase ((node.1.getStr "from").getD zeroAddressText)
  toAddr := (node.1.getStr "to").map toLowercase
  value := valueDecimal (node.1.getStr "value")
  gasUsed := asI64 (gasUsedOf node.1)
  input := node.1.getStr "input"
  output := node.1.getStr "output"
  error := node.1.getStr "error"

/-- The call tree with each node replaced by its flattened frame. -/
def flattenedTree (json : Json) : RoseTree FlatFrame :=
  ((callTree json).withDepth 0).map (frameRow toLowercase)

/-- Read the call tree off a list of flattened frames, by their depths. -/
def rebuildCallTree (frames : List FlatFrame) : Option (RoseTree FlatFrame) :=
  (RoseTree.rebuild FlatFrame.depth frames).head?

variable {toLowercase}

theorem callsToForest_append (d : Int) (calls calls' : List CallFrame) :
    callsToForest d (calls ++ calls') = callsToForest d calls ++ callsToForest d calls' := by
  induction calls with
  | nil => rfl
  | cons call calls ih => rw [List.cons_append, callsToForest, callsToForest, ih, List.cons_append]

mutual

/-- A frame parses exactly when it is typed, and its calls make the tree of its nested frames
without the subtrees of the frames that are not. -/
theorem parseCallFrame_prune : ∀ (json : Json) (d : Nat),
    callsToForest d (parseCallFrame toLowercase json).toOption.toList =
      RoseTree.mapForest (frameRow toLowercase)
        (RoseTree.withDepthForest d ((callTree json).prune frameTyped))
  | .object fields, d => by
      rw [parseCallFrame, callTree, RoseTree.prune]
      cases htype : (Json.object fields).getStr "type" with
      | none =>
          rw [if_neg (by simp [frameTyped, htype])]
          rfl
      | some callType =>
          rw [if_pos (by simp [frameTyped, htype])]
          simp only [Except.toOption, Option.toList_some, callsToForest, CallFrame.toTree,
            RoseTree.withDepthForest, RoseTree.withDepth, RoseTree.mapForest, RoseTree.map,
            ← parseCallsField_prune fields (d + 1)]
          simp only [List.cons.injEq, RoseTree.node.injEq, frameRow, CallFrame.toFlatFrame, htype,
            Option.getD_some, true_and, and_true]
          rfl
  | .null, _ | .bool _, _ | .number _, _ | .string _, _ | .array _, _ => rfl

theorem parseCallsField_prune : ∀ (fields : List (String × Json)) (d : Nat),
    callsToForest d (parseCallsField toLowercase fields) =
      RoseTree.mapForest (frameRow toLowercase)
        (RoseTree.withDepthForest d (RoseTree.pruneForest frameTyped (nestedCalls fields)))
  | [], _ => rfl
  | (key, json) :: fields, d => by
      rw [nestedCalls, parseCallsField]
      split
      · exact parseCallsArray_prune json d
      · exact parseCallsField_prune fields d

theorem parseCallsArray_prune : ∀ (json : Json) (d : Nat),
    callsToForest d (parseCallsArray toLowercase json) =
      RoseTree.mapForest (frameRow toLowercase)
        (RoseTree.withDepthForest d (RoseTree.pruneForest frameTyped (callsIn json)))
  | .array items, d => by
      rw [callsIn, parseCallsArray]
      exact parseCalls_prune items d
  | .null, _ | .bool _, _ | .number _, _ | .string _, _ | .object _, _ => rfl

theorem parseCalls_prune : ∀ (items : List Json) (d : Nat),
    callsToForest d (parseCalls toLowercase items) =
      RoseTree.mapForest (frameRow toLowercase)
        (RoseTree.withDepthForest d (RoseTree.pruneForest frameTyped (callTrees items)))
  | [], _ => rfl
  | json :: items, d => by
      have hitems : parseCalls toLowercase (json :: items) =
          (parseCallFrame toLowercase json).toOption.toList ++ parseCalls toLowercase items := by
        rw [parseCalls]
        cases parseCallFrame toLowercase json <;> rfl
      rw [hitems, callTrees, RoseTree.pruneForest, callsToForest_append,
        RoseTree.withDepthForest_append, RoseTree.mapForest_append, parseCallFrame_prune json d,
        parseCalls_prune items d]

end

/-- The flattened frames of any trace are those of its typed frames, in pre-order. -/
theorem parseTrace_frames_eq {json : Json} {txHash : String} {trace : FlattenedTrace}
    (h : parseTrace toLowercase txHash json = .ok trace) :
    trace.frames = (tracedFrames json).map (frameRow toLowercase) := by
  obtain ⟨root, hroot, hframes⟩ := parseTrace_frames h
  have htree : [root.toTree 0] = RoseTree.mapForest (frameRow toLowercase)
      (RoseTree.withDepthForest 0 ((callTree json).prune frameTyped)) := by
    have hprune : callsToForest 0 (parseCallFrame toLowercase json).toOption.toList = _ :=
      parseCallFrame_prune json 0
    rw [hroot] at hprune
    exact hprune
  rw [hframes, tracedFrames, ← RoseTree.preorderForest_map, ← htree, RoseTree.preorderForest,
    RoseTree.preorderForest, List.append_nil]

/-- The flattened frames of a typed trace are those of its tree, in pre-order. -/
theorem parseTrace_typed {json : Json} (htyped : EveryFrameTyped json) (txHash : String) :
    ∃ trace, parseTrace toLowercase txHash json = .ok trace ∧
      trace.frames = (flattenedTree toLowercase json).preorder := by
  have hprune : (callTree json).prune frameTyped = [callTree json] := RoseTree.prune_eq_self htyped
  have htree : callsToForest 0 (parseCallFrame toLowercase json).toOption.toList = _ :=
    parseCallFrame_prune json 0
  rw [hprune] at htree
  cases hroot : parseCallFrame toLowercase json with
  | error e => rw [hroot] at htree; cases htree
  | ok root =>
      have hparse : parseTrace toLowercase txHash json =
          .ok ⟨txHash, flattenCallFrame 0 [] root⟩ := by
        rw [parseTrace, hroot]
      refine ⟨_, hparse, ?_⟩
      rw [parseTrace_frames_eq hparse, tracedFrames, hprune, flattenedTree, RoseTree.preorder_map,
        RoseTree.withDepthForest, RoseTree.withDepthForest, RoseTree.preorderForest,
        RoseTree.preorderForest, List.append_nil]

/-- Rebuilding gives back the tree whose frames are listed. -/
theorem rebuildCallTree_preorder (json : Json) :
    rebuildCallTree (flattenedTree toLowercase json).preorder =
      some (flattenedTree toLowercase json) := by
  have hgraded : RoseTree.Graded FlatFrame.depth 0 (flattenedTree toLowercase json) :=
    RoseTree.graded_map_withDepth (fun _ _ => rfl) 0 (callTree json)
  rw [rebuildCallTree, RoseTree.rebuild_preorder hgraded, List.head?_cons]

/-- The flattened frames of a trace whose frames all have a string `type` are one for each node
of its call tree, in pre-order, with its distance from the root as depth. They determine the tree.
Every prefix of them is closed under parents. When the rows stored for the transaction are those
of the trace, `get_failed_tx` lists the first 2000 and says so exactly when there are more. -/
theorem trace_determines_call_tree {json : Json} (htyped : EveryFrameTyped json)
    (txHash : String) : ∃ trace, parseTrace toLowercase txHash json = .ok trace ∧
      trace.frames = ((callTree json).withDepth 0).preorder.map (frameRow toLowercase) ∧
      rebuildCallTree trace.frames = some (flattenedTree toLowercase json) ∧
      (∀ k, (flattenedTree toLowercase json).ClosedUnderParents (trace.frames.zipIdx.take k)) ∧
      ∀ db detail, tracesOf db txHash = trace.frames.map (traceRow txHash) →
        getFailedTx db txHash = .ok detail →
        detail.callTree = (trace.frames.take 2000).map (traceRow txHash) ∧
          (detail.callTreeTruncated = true ↔ 2000 < (callTree json).preorder.length) := by
  obtain ⟨trace, hparse, hframes⟩ := parseTrace_typed htyped txHash
  have hrows : trace.frames =
      ((callTree json).withDepth 0).preorder.map (frameRow toLowercase) := by
    rw [hframes, flattenedTree, RoseTree.preorder_map]
  refine ⟨trace, hparse, hrows, ?_, ?_, ?_⟩
  · rw [hframes, rebuildCallTree_preorder]
  · intro k
    rw [hframes]
    exact RoseTree.closedUnderParents_take _ k
  · intro db detail hstored hdetail
    obtain ⟨hcalls, htruncated⟩ := getFailedTx_callTree hdetail
    have hlength : trace.frames.length = (callTree json).preorder.length := by
      rw [hrows, List.length_map, ← RoseTree.preorder_withDepth_fst 0 (callTree json),
        List.length_map]
    rw [hstored] at hcalls htruncated
    rw [List.length_map, hlength] at htruncated
    exact ⟨by rw [hcalls, List.map_take]; rfl, htruncated⟩

/-- Storing a trace makes its rows those of the transaction, when it had none. -/
theorem tracesOf_insertTraceLogs {txHash : String} {frames : List FlatFrame} {db db' : Database}
    (hnew : tracesOf db txHash = [])
    (hstored : insertTraceLogs db (frames.map (traceRow txHash)) = .ok db') :
    tracesOf db' txHash = frames.map (traceRow txHash) := by
  obtain ⟨-, -, rfl⟩ := insertTraceLogs_eq_ok.mp hstored
  have hall : (frames.map (traceRow txHash)).filter (fun r => r.txHash = txHash) =
      frames.map (traceRow txHash) := by
    rw [List.filter_eq_self]
    intro r hr
    obtain ⟨frame, -, rfl⟩ := List.mem_map.mp hr
    simp [traceRow]
  rw [tracesOf] at hnew
  rw [tracesOf, Lib.SerialTable.values_insert, List.filter_append, hnew, hall, List.nil_append]

end Flatten

/-- A call that made two calls, the first of which made one itself. -/
def branchingCallJson : Json :=
  .object [("type", .string "CALL"), ("calls", .array [
    .object [("type", .string "DELEGATECALL"), ("calls", .array [
      .object [("type", .string "STATICCALL")]])],
    .object [("type", .string "CREATE"), ("error", .string "out of gas")]])]

/-- Its tree is rebuilt from the four frames. -/
theorem branching_call_rebuilt : ∃ trace,
    parseTrace id "0x1" branchingCallJson = .ok trace ∧
      rebuildCallTree trace.frames = some (flattenedTree id branchingCallJson) := by
  have htyped : EveryFrameTyped branchingCallJson := by decide +kernel
  obtain ⟨trace, hparse, -, hrebuilt, -⟩ := trace_determines_call_tree htyped "0x1"
  exact ⟨trace, hparse, hrebuilt⟩

end TxIndexer.Proofs
