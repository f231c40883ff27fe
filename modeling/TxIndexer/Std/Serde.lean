import TxIndexer.Lib.Reader
import TxIndexer.Std.JsonNumber

/-!
# Deserializing with `serde`

What `serde_json` makes of a value for a type with a derived `Deserialize`: an object member that
no field has is passed over, a missing one is an error unless the field is an `Option`, and a
struct may be written as an array of its fields. The texts of the errors are the library's and
are left out.
-/

namespace TxIndexer.Serde

open Lib

/-- The kinds of errors of `serde_json`. -/
inductive DecodeError where
  | invalidType
  | invalidLength
  | missingField
  | duplicateField
  deriving DecidableEq, Repr

/-- A deserializer; a missing member is `none`. -/
abbrev Deserializer (α : Type) := Reader (Option Json) Unit DecodeError α

/-- `String`. -/
def string : Deserializer String
  | some (.string s), _ => .ok s
  | some _, _ => .error .invalidType
  | none, _ => .error .missingField

/-- `bool`. -/
def bool : Deserializer Bool
  | some (.bool b), _ => .ok b
  | some _, _ => .error .invalidType
  | none, _ => .error .missingField

/-- `i64`. -/
def i64 : Deserializer Int
  | some (.number literal), _ =>
      match serdeI64 literal with
      | some n => .ok n
      | none => .error .invalidType
  | some _, _ => .error .invalidType
  | none, _ => .error .missingField

/-- `i32`. -/
def i32 : Deserializer Int := fun v p => do
  let n ← i64 v p
  if -2 ^ 31 ≤ n ∧ n < 2 ^ 31 then return n else .error .invalidType

/-- `serde_json::Value`. -/
def anyValue : Deserializer Json
  | some v, _ => .ok v
  | none, _ => .error .missingField

/-- What an `Option` takes for `None`. -/
def isAbsent : Option Json → Bool
  | none => true
  | some .null => true
  | _ => false

/-- `Option<T>`. -/
def option {α : Type} (read : Deserializer α) : Deserializer (Option α) :=
  readOptional isAbsent read

/-- `Vec<T>`. -/
def vec {α : Type} (read : Deserializer α) : Deserializer (List α)
  | some (.array items), p => readItems (fun p _ => p) read p 0 (items.map some)
  | some _, _ => .error .invalidType
  | none, _ => .error .missingField

/-- The members of a struct with the named fields. -/
def members (names : List String) : Option Json → Except DecodeError (String → Option Json)
  | some (.object fields) =>
      if ∃ name ∈ names, 1 < (fields.map Prod.fst).count name then .error .duplicateField
      else .ok fun name => fields.lookup name
  | some (.array items) =>
      if items.length = names.length then .ok fun name => (names.zip items).lookup name
      else .error .invalidLength
  | some _ => .error .invalidType
  | none => .error .missingField

/-! ## Written values -/

theorem string_string (s : String) : Reads string (some (.string s)) s := fun _ => rfl

theorem bool_bool (b : Bool) : Reads bool (some (.bool b)) b := fun _ => rfl

theorem anyValue_some (v : Json) : Reads anyValue (some v) v := fun _ => rfl

/-- A struct written with its fields, each once. -/
theorem members_object {names : List String} {fields : List (String × Json)}
    (hnodup : (fields.map Prod.fst).Nodup) :
    members names (some (.object fields)) = .ok fun name => fields.lookup name := by
  have honce : ¬ ∃ name ∈ names, 1 < (fields.map Prod.fst).count name := by
    rintro ⟨name, -, htwice⟩
    have hcount := List.nodup_iff_count_le_one.mp hnodup name
    omega
  simp only [members, if_neg honce]

end TxIndexer.Serde
