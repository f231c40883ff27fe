import TxIndexer.Db.Models
import TxIndexer.Lib.Reader
import TxIndexer.Std.JsonNumber

/-!
# The web client's contract

`web/src/api/contract.ts`: what the web client accepts of a response and what it reads it as. A
value is what `JSON.parse` gives, and `undefined`, which a missing property is, is `none`. A
number is the binary64 number nearest to its literal.
-/

namespace TxIndexer.Web

open Db Lib

/-- What a reader throws or returns; it is told the path of the value. -/
abbrev Parser (α : Type) := Reader (Option Json) String String α

/-- The parts of the JavaScript runtime: `Date.parse`, `none` where it is `NaN`, and `String` of a
number. -/
structure JsEnv where
  dateParse : String → Option Int
  numberToString : ℚ → String

/-- A property of a parsed object: the last of equal keys counts. -/
def property : List (String × Json) → String → Option Json
  | [], _ => none
  | (k, v) :: fields, key => (property fields key).or (if k = key then some v else none)

theorem property_eq_none {fields : List (String × Json)} {key : String}
    (hkey : key ∉ fields.map Prod.fst) : property fields key = none := by
  induction fields with
  | nil => rfl
  | cons field fields ih =>
      rw [List.map_cons, List.mem_cons, not_or] at hkey
      simp only [property, ih hkey.2, Option.none_or, if_neg (Ne.symm hkey.1)]

/-- `Object.entries`: each key once, where it first stands, with the value it has. -/
def objectEntries (fields : List (String × Json)) : List (String × Json) :=
  ((fields.map Prod.fst).reverse.dedup.reverse).filterMap fun k =>
    (property fields k).map fun v => (k, v)

/-! ## Readers (`contract.ts:31-103`) -/

/-- `readRecord`. -/
def readRecord : Reader (Option Json) String String (List (String × Json))
  | some (.object fields), _ => .ok fields
  | _, path => .error s!"Invalid contract at {path}: expected object."

/-- `readString`. -/
def readString : Parser String
  | some (.string s), _ => .ok s
  | _, path => .error s!"Invalid contract at {path}: expected string."

/-- `value === null`. -/
def isNull : Option Json → Bool
  | some .null => true
  | _ => false

/-- `readOptionalString`. -/
def readOptionalString : Parser (Option String) := readOptional isNull readString

/-- `readBoolean`. -/
def readBoolean : Parser Bool
  | some (.bool b), _ => .ok b
  | _, path => .error s!"Invalid contract at {path}: expected boolean."

/-- The items, where `Array.isArray`. -/
def readArray : Parser (List Json)
  | some (.array items), _ => .ok items
  | _, path => .error s!"Invalid contract at {path}: expected array."

/-- `readNumber`. -/
def readNumber : Parser ℚ
  | some (.number literal), path =>
      match jsNumber literal with
      | some x => .ok x
      | none => .error s!"Invalid contract at {path}: expected finite number."
  | _, path => .error s!"Invalid contract at {path}: expected finite number."

/-- `readInteger`. -/
def readInteger : Parser Int := fun value path => do
  let n ← readNumber value path
  if n.den = 1 then return n.num
  else .error s!"Invalid contract at {path}: expected integer number."

variable (env : JsEnv)

/-- `readDecimal`. -/
def readDecimal : Parser String
  | some (.string s), _ => .ok s
  | some (.number literal), path =>
      match jsNumber literal with
      | some x => .ok (env.numberToString x)
      | none => .error s!"Invalid contract at {path}: expected decimal string/number."
  | _, path => .error s!"Invalid contract at {path}: expected decimal string/number."

/-- `readIsoDateTime`. -/
def readIsoDateTime : Parser String := fun value path => do
  let iso ← readString value path
  if (env.dateParse iso).isNone then .error s!"Invalid contract at {path}: invalid ISO datetime."
  else return iso

/-! ## Error categories (`contract.ts:113-139`) -/

/-- `.replace(/([a-z0-9])([A-Z])/g, "$1_$2")`. -/
def separateWords : List Char → List Char
  | a :: b :: cs =>
      if (a.isLower || a.isDigit) && b.isUpper then a :: '_' :: b :: separateWords cs
      else a :: separateWords (b :: cs)
  | cs => cs

/-- `.replace(/[^A-Za-z0-9]+/g, "_")`; `inRun` if the last character was replaced too. -/
def joinRuns (inRun : Bool) : List Char → List Char
  | [] => []
  | c :: cs =>
      if c.isAlphanum then c :: joinRuns false cs
      else if inRun then joinRuns true cs
      else '_' :: joinRuns true cs

/-- `.replace(/^_+|_+$/g, "")`. -/
def trimUnderscores (cs : List Char) : List Char :=
  ((cs.dropWhile (· = '_')).reverse.dropWhile (· = '_')).reverse

/-- `canonicalizeCategoryToken`. -/
def canonicalizeCategoryToken (token : String) : String :=
  String.ofList ((trimUnderscores (joinRuns false (separateWords token.toList))).map Char.toUpper)

/-- `ERROR_CATEGORIES` (`types.ts:37-48`). -/
def errorCategories : List ErrorCategory := [
  .insufficientBalance, .insufficientAllowance, .slippageExceeded, .slippageAmountOut,
  .slippageAmountIn, .slippagePriceImpact, .deadlineExpired, .unauthorized, .transferFailed,
  .unknown]

/-- The category of a string, `UNKNOWN` if it is none. -/
def categoryOfToken (token : String) : ErrorCategory :=
  (errorCategories.find? fun c => c.asWire = canonicalizeCategoryToken token).getD .unknown

/-- `normalizeErrorCategory`. -/
def normalizeErrorCategory : Parser ErrorCategory
  | some (.string s), _ => .ok (categoryOfToken s)
  | some (.object fields), path =>
      match (fields.map Prod.fst).dedup with
      | [key] => .ok (categoryOfToken key)
      | _ => .error s!"Invalid contract at {path}: expected error category."
  | _, path => .error s!"Invalid contract at {path}: expected error category."

/-! ## Envelopes (`contract.ts:158-206`) -/

/-- `ApiResponse`. -/
structure ApiResponse (α : Type) where
  data : α

/-- `PaginationMeta`. -/
structure PaginationMeta where
  limit : Int
  offset : Int
  count : Int
  total : Int

/-- `TotalPaginatedResponse`. -/
structure TotalPaginatedResponse (α : Type) where
  data : List α
  pagination : PaginationMeta

section Envelopes

variable {α : Type}

/-- The path of an item. -/
def itemPath (path : String) (idx : Nat) : String := s!"{path}[{idx}]"

/-- An array, each item with its path. -/
def parseArray (parseItem : Parser α) : Parser (List α) := fun value path => do
  let items ← readArray value path
  readItems itemPath parseItem path 0 (items.map some)

/-- `parseApiResponse`. -/
def parseApiResponse (parseData : Parser α) (value : Option Json) :
    Except String (ApiResponse α) := do
  let obj ← readRecord value "response"
  let data ← parseData (property obj "data") "response.data"
  return ⟨data⟩

/-- `parsePaginationMeta`. -/
def parsePaginationMeta : Parser PaginationMeta := fun value path => do
  let obj ← readRecord value path
  let limit ← readInteger (property obj "limit") s!"{path}.limit"
  let offset ← readInteger (property obj "offset") s!"{path}.offset"
  let count ← readInteger (property obj "count") s!"{path}.count"
  let total ← readInteger (property obj "total") s!"{path}.total"
  return ⟨limit, offset, count, total⟩

/-- `parseTotalPaginatedResponse`. -/
def parseTotalPaginatedResponse (parseItem : Parser α) (value : Option Json) :
    Except String (TotalPaginatedResponse α) := do
  let obj ← readRecord value "response"
  let data ← parseArray parseItem (property obj "data") "response.data"
  let pagination ← parsePaginationMeta (property obj "pagination") "response.pagination"
  return ⟨data, pagination⟩

end Envelopes

end TxIndexer.Web
