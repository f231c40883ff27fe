import TxIndexer.Std.Num
import TxIndexer.Std.Hex
import TxIndexer.Std.Json

/-!
# Call arguments

`crates/decoder/src/abi.rs`: the argument bytes of a call are decoded against the parameter list
of its signature and lowered to JSON. The parser of a type and the decoder of its values are the
`alloy` crate's and come in through `Alloy`.
-/

namespace TxIndexer.Decoder

/-- `alloy::dyn_abi::DynSolType`. -/
inductive DynSolType where
  | bool
  | int (bits : Nat)
  | uint (bits : Nat)
  | fixedBytes (size : Nat)
  | address
  | function
  | bytes
  | string
  | array (element : DynSolType)
  | fixedArray (element : DynSolType) (length : Nat)
  | tuple (elements : List DynSolType)

/-- `alloy::dyn_abi::DynSolValue`; a `bytesN` is kept at the front of a 32-byte word. -/
inductive DynSolValue where
  | bool (b : Bool)
  | int (n : BitVec 256) (bits : Nat)
  | uint (n : BitVec 256) (bits : Nat)
  | fixedBytes (word : B256) (size : Nat)
  | address (a : Address)
  | function (f : BitVec 192)
  | bytes (b : Bytes)
  | string (s : String)
  | array (items : List DynSolValue)
  | fixedArray (items : List DynSolValue)
  | tuple (items : List DynSolValue)
  | customStruct (name : String) (propNames : List String) (items : List DynSolValue)

/-- `DynSolType::from_str`, `DynSolType::abi_decode_params` and the text of an error of
`hex::decode`. -/
structure Alloy where
  parse : String → Except String DynSolType
  abiDecodeParams : DynSolType → Bytes → Except String DynSolValue
  hexError : List Char → String

/-- `AbiDecodeError` (`abi.rs:38-64`). -/
inductive AbiDecodeError where
  | invalidSignature (signature : String)
  | invalidHex (message : String)
  | inputTooShort
  | decode (message : String)

/-- `DecodedArg` (`abi.rs:66-93`). -/
structure DecodedArg where
  ty : String
  value : Json

mutual

/-- `dynsol_to_json` (`abi.rs:191-213`). -/
def dynsolToJson : DynSolValue → Json
  | .address a => .string (addressHex a)
  | .uint n _ => .string n.toNat.repr
  | .int n _ => .string n.toInt.repr
  | .bool b => .bool b
  | .bytes b => .string (bytesHex b)
  -- the whole word, not its first `size` bytes
  | .fixedBytes word _ => .string (hashHex word)
  | .string s => .string s
  | .array items => .array (dynsolsToJson items)
  | .fixedArray items => .array (dynsolsToJson items)
  | .tuple items => .array (dynsolsToJson items)
  | .function _ => .null
  | .customStruct .. => .null

/-- `items.iter().map(dynsol_to_json).collect()`. -/
def dynsolsToJson : List DynSolValue → List Json
  | [] => []
  | v :: vs => dynsolToJson v :: dynsolsToJson vs

end

/-- `char::is_whitespace`: the characters with the Unicode property `White_Space`. -/
def isWhitespace (c : Char) : Bool :=
  let n := c.toNat
  (0x9 ≤ n && n ≤ 0xd) || n ∈ [0x20, 0x85, 0xa0, 0x1680] || (0x2000 ≤ n && n ≤ 0x200a) ||
    n ∈ [0x2028, 0x2029, 0x202f, 0x205f, 0x3000]

/-- `str::trim`. -/
def trim (cs : List Char) : List Char :=
  ((cs.dropWhile isWhitespace).reverse.dropWhile isWhitespace).reverse

/-- `extract_param_list` (`abi.rs:150-160`). -/
def extractParamList (signature : List Char) : Option (List Char) := do
  let openAt ← signature.findIdx? (· = '(')
  let fromEnd ← signature.reverse.findIdx? (· = ')')
  let closeAt := signature.length - 1 - fromEnd
  if closeAt ≤ openAt then none else some ((signature.take closeAt).drop (openAt + 1))

/-- The loop of `split_top_level`, `current` being the text since the last comma at depth 0. -/
def splitTopLevelFrom (depth : Int) (current : List Char) : List Char → List (List Char)
  | [] => [trim current]
  | c :: cs =>
      if c = '(' then splitTopLevelFrom (depth + 1) (current ++ [c]) cs
      else if c = ')' then splitTopLevelFrom (depth - 1) (current ++ [c]) cs
      else if c = ',' ∧ depth = 0 then trim current :: splitTopLevelFrom depth [] cs
      else splitTopLevelFrom depth (current ++ [c]) cs

/-- `split_top_level` (`abi.rs:162-189`). -/
def splitTopLevel (types : List Char) : List (List Char) :=
  if types = [] then [] else splitTopLevelFrom 0 [] types

/-- The loop of `split_top_level` with its counter, an `i32`, of which `op` is the arithmetic. -/
def splitTopLevelI32From (op : Int → Checked Int) (depth : Int) (current : List Char) :
    List Char → Checked (List (List Char))
  | [] => .ok [trim current]
  | c :: cs =>
      if c = '(' then do splitTopLevelI32From op (← op (depth + 1)) (current ++ [c]) cs
      else if c = ')' then do splitTopLevelI32From op (← op (depth - 1)) (current ++ [c]) cs
      else if c = ',' ∧ depth = 0 then
        return trim current :: (← splitTopLevelI32From op depth [] cs)
      else splitTopLevelI32From op depth (current ++ [c]) cs

/-- `split_top_level` (`abi.rs:162-189`) in `i32` arithmetic. -/
def splitTopLevelI32 (op : Int → Checked Int) (types : List Char) : Checked (List (List Char)) :=
  if types = [] then .ok [] else splitTopLevelI32From op 0 [] types

/-- The prefix that the `hex` of `alloy` takes off itself, with either `x`. -/
def stripAlloyPrefix : List Char → List Char
  | '0' :: 'x' :: rest => rest
  | '0' :: 'X' :: rest => rest
  | cs => cs

/-- `hex::decode` of `alloy`. -/
def alloyHexDecode (cs : List Char) : Option Bytes := hexDecode (stripAlloyPrefix cs)

/-- `decode_args` (`abi.rs:95-148`). -/
def decodeArgs (alloy : Alloy) (signature input : String) :
    Except AbiDecodeError (List DecodedArg) :=
  match extractParamList signature.toList with
  | none => .error (.invalidSignature signature)
  | some types =>
      let digits := stripHexPrefix input.toList
      match alloyHexDecode digits with
      | none => .error (.invalidHex (alloy.hexError digits))
      | some bytes =>
          if bytes.length < 4 then .error .inputTooShort
          else
            match alloy.parse (String.ofList ('(' :: types ++ [')'])) with
            | .error e => .error (.decode ("signature parse: " ++ e))
            | .ok ty =>
                match alloy.abiDecodeParams ty (bytes.drop 4) with
                | .error e => .error (.decode e)
                | .ok decoded =>
                    let values := match decoded with
                      | .tuple vs => vs
                      | other => [other]
                    .ok ((values.zip (splitTopLevel types)).map fun (v, ty) =>
                      ⟨String.ofList ty, dynsolToJson v⟩)

end TxIndexer.Decoder
