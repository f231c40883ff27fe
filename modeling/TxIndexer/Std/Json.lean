import Mathlib.Algebra.Order.Ring.Int

/-!
# JSON values

`serde_json::Value`, with the accessors the program reads traces through.
-/

namespace TxIndexer

/-- `serde_json::Value`. A number is kept as its literal: nothing here computes with one. -/
inductive Json where
  | null
  | bool (b : Bool)
  | number (literal : String)
  | string (s : String)
  | array (items : List Json)
  | object (fields : List (String × Json))

namespace Json

/-- `Value::get(key)`: the value under a key of an object. -/
def get (json : Json) (key : String) : Option Json :=
  match json with
  | .object fields => fields.lookup key
  | _ => none

/-- `Value::as_str`. -/
def asStr : Json → Option String
  | .string s => some s
  | _ => none

/-- `json.get(key).and_then(|v| v.as_str())`. -/
def getStr (json : Json) (key : String) : Option String := (json.get key).bind asStr

end Json

end TxIndexer
