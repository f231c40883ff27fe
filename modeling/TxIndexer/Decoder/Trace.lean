import TxIndexer.Std.Json
import TxIndexer.Std.Utf8Lossy
import TxIndexer.Lib.RoseTree

/-!
# Call traces

`crates/decoder/src/trace.rs`: the JSON of a `callTracer` answer is parsed into a tree of call
frames, and the tree is flattened into rows in pre-order. The revert payload of a frame is
decoded into the text that is stored as its reason.
-/

namespace TxIndexer.Decoder

/-- What decoding fails with (`error.rs`), its text being the `Display` payload. -/
inductive DecodeError where
  | unknownTopic (topic : String)
  | abiDecode (message : String)
  | missingField (field : String)
  | traceParse (message : String)
  deriving DecidableEq, Repr

/-- A call frame with its nested calls (`trace.rs:5-25`). -/
structure CallFrame where
  callType : String
  fromAddr : String
  toAddr : Option String
  value : Option String
  gasUsed : Nat
  input : Option String
  output : Option String
  error : Option String
  calls : List CallFrame

/-- A frame of a flattened trace (`trace.rs:37-57`). -/
structure FlatFrame where
  depth : Int
  callType : String
  fromAddr : String
  toAddr : Option String
  value : String
  gasUsed : Int
  input : Option String
  output : Option String
  error : Option String
  deriving DecidableEq, Repr

/-- A parsed trace, flattened (`trace.rs:28-34`). -/
structure FlattenedTrace where
  txHash : String
  frames : List FlatFrame
  deriving DecidableEq, Repr

/-- The sender of a frame that names none. -/
def zeroAddressText : String := "0x0000000000000000000000000000000000000000"

/-- The `gasUsed` of a frame: a hexadecimal `u64`, 0 when there is none (`trace.rs:130-137`). -/
def gasUsedOf (json : Json) : Nat :=
  ((json.getStr "gasUsed").bind fun s => fromStrRadix16 64 (stripHexPrefix s.toList)).getD 0

section Parse

-- `str::to_lowercase`, over all of Unicode
variable (toLowercase : String → String)

mutual

/-- `parse_call_frame` (`trace.rs:101-172`). -/
def parseCallFrame : Json → Except DecodeError CallFrame
  | .object fields =>
      match (Json.object fields).getStr "type" with
      | none => .error (.traceParse "missing 'type' field")
      | some callType => .ok {
          callType
          fromAddr := toLowercase (((Json.object fields).getStr "from").getD zeroAddressText)
          toAddr := ((Json.object fields).getStr "to").map toLowercase
          value := (Json.object fields).getStr "value"
          gasUsed := gasUsedOf (.object fields)
          input := (Json.object fields).getStr "input"
          output := (Json.object fields).getStr "output"
          error := (Json.object fields).getStr "error"
          calls := parseCallsField fields }
  | _ => .error (.traceParse "missing 'type' field")

/-- The nested calls under the `calls` key, none when it is missing or not an array. -/
def parseCallsField : List (String × Json) → List CallFrame
  | [] => []
  | (key, json) :: fields => if "calls" == key then parseCallsArray json else parseCallsField fields

def parseCallsArray : Json → List CallFrame
  | .array items => parseCalls items
  | _ => []

/-- The items that parse; the others are dropped (`filter_map(|c| parse_call_frame(c).ok())`). -/
def parseCalls : List Json → List CallFrame
  | [] => []
  | json :: items =>
      match parseCallFrame json with
      | .ok frame => frame :: parseCalls items
      | .error _ => parseCalls items

end

end Parse

/-- The value of a frame in decimal: a hexadecimal `u128`, `"0"` when it is missing or does not
parse (`trace.rs:176-185`). -/
def valueDecimal (value : Option String) : String :=
  match value.bind fun v => fromStrRadix16 128 (stripHexPrefix v.toList) with
  | some n => n.repr
  | none => "0"

/-- The row a frame is pushed as. -/
def CallFrame.toFlatFrame (frame : CallFrame) (depth : Int) : FlatFrame where
  depth
  callType := frame.callType
  fromAddr := frame.fromAddr
  toAddr := frame.toAddr
  value := valueDecimal frame.value
  gasUsed := asI64 frame.gasUsed
  input := frame.input
  output := frame.output
  error := frame.error

mutual

/-- `flatten_call_frame` (`trace.rs:175-202`): push the frame, then its calls one deeper. -/
def flattenCallFrame (depth : Int) (out : List FlatFrame) : CallFrame → List FlatFrame
  | ⟨callType, fromAddr, toAddr, value, gasUsed, input, output, error, calls⟩ =>
      let frame : CallFrame :=
        ⟨callType, fromAddr, toAddr, value, gasUsed, input, output, error, calls⟩
      flattenCalls (depth + 1) (out ++ [frame.toFlatFrame depth]) calls

def flattenCalls (depth : Int) (out : List FlatFrame) : List CallFrame → List FlatFrame
  | [] => out
  | child :: rest => flattenCalls depth (flattenCallFrame depth out child) rest

end

/-- `parse_trace` (`trace.rs:58-73`). -/
def parseTrace (toLowercase : String → String) (txHash : String) (traceJson : Json) :
    Except DecodeError FlattenedTrace :=
  match parseCallFrame toLowercase traceJson with
  | .ok root => .ok { txHash, frames := flattenCallFrame 0 [] root }
  | .error e => .error e

/-! ## The call tree -/

mutual

/-- The call tree, each frame labelled with the row it is pushed as. -/
def CallFrame.toTree (depth : Int) : CallFrame → Lib.RoseTree FlatFrame
  | ⟨callType, fromAddr, toAddr, value, gasUsed, input, output, error, calls⟩ =>
      let frame : CallFrame :=
        ⟨callType, fromAddr, toAddr, value, gasUsed, input, output, error, calls⟩
      .node (frame.toFlatFrame depth) (callsToForest (depth + 1) calls)

def callsToForest (depth : Int) : List CallFrame → List (Lib.RoseTree FlatFrame)
  | [] => []
  | child :: rest => child.toTree depth :: callsToForest depth rest

end

mutual

/-- Flattening pushes the rows of the call tree in pre-order. -/
theorem flattenCallFrame_eq_preorder (depth : Int) (out : List FlatFrame) :
    ∀ frame : CallFrame, flattenCallFrame depth out frame = out ++ (frame.toTree depth).preorder
  | ⟨callType, fromAddr, toAddr, value, gasUsed, input, output, error, calls⟩ => by
      rw [flattenCallFrame, CallFrame.toTree, Lib.RoseTree.preorder,
        flattenCalls_eq_preorder (depth + 1) _ calls, List.append_assoc, List.singleton_append]

theorem flattenCalls_eq_preorder (depth : Int) (out : List FlatFrame) :
    ∀ calls : List CallFrame,
      flattenCalls depth out calls = out ++ Lib.RoseTree.preorderForest (callsToForest depth calls)
  | [] => by rw [flattenCalls, callsToForest, Lib.RoseTree.preorderForest, List.append_nil]
  | child :: rest => by
      rw [flattenCalls, callsToForest, Lib.RoseTree.preorderForest,
        flattenCallFrame_eq_preorder depth out child,
        flattenCalls_eq_preorder depth _ rest, List.append_assoc]

end

/-- The rows of a parsed trace are its call tree in pre-order. -/
theorem parseTrace_frames {toLowercase : String → String} {txHash : String} {traceJson : Json}
    {trace : FlattenedTrace} (h : parseTrace toLowercase txHash traceJson = .ok trace) :
    ∃ root, parseCallFrame toLowercase traceJson = .ok root ∧
      trace.frames = (root.toTree 0).preorder := by
  unfold parseTrace at h
  cases hroot : parseCallFrame toLowercase traceJson with
  | error e => rw [hroot] at h; cases h
  | ok root =>
      rw [hroot] at h
      cases h
      exact ⟨root, rfl, flattenCallFrame_eq_preorder 0 [] root⟩

end TxIndexer.Decoder
