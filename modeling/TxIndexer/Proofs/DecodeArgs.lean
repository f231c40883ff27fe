import TxIndexer.Proofs.TypeLists

/-!
# Decoded arguments

The parameter list of a canonical signature is split back into its types, and each value is
lowered as documented, except that a `bytesN` is written with all 32 bytes of its word.
-/

namespace TxIndexer.Proofs

open Decoder

/-! ## Canonical signatures -/

mutual

/-- The canonical text of a type. -/
def typeText : DynSolType → List Char
  | .bool => ['b', 'o', 'o', 'l']
  | .int bits => ['i', 'n', 't'] ++ Nat.toDigits 10 bits
  | .uint bits => ['u', 'i', 'n', 't'] ++ Nat.toDigits 10 bits
  | .fixedBytes size => ['b', 'y', 't', 'e', 's'] ++ Nat.toDigits 10 size
  | .address => ['a', 'd', 'd', 'r', 'e', 's', 's']
  | .function => ['f', 'u', 'n', 'c', 't', 'i', 'o', 'n']
  | .bytes => ['b', 'y', 't', 'e', 's']
  | .string => ['s', 't', 'r', 'i', 'n', 'g']
  | .array element => typeText element ++ ['[', ']']
  | .fixedArray element length => typeText element ++ '[' :: (Nat.toDigits 10 length ++ [']'])
  | .tuple elements => '(' :: (typeTexts elements ++ [')'])

/-- The texts of a list of types with a comma between them. -/
def typeTexts : List DynSolType → List Char
  | [] => []
  | t :: ts => typeText t ++ laterTypeTexts ts

def laterTypeTexts : List DynSolType → List Char
  | [] => []
  | t :: ts => ',' :: (typeText t ++ laterTypeTexts ts)

end

/-- `name(T1,...,Tn)`. -/
def signatureText (name : String) (types : List DynSolType) : String :=
  String.ofList (name.toList ++ '(' :: (typeTexts types ++ [')']))

/-! ## Typed values and their documented form -/

mutual

/-- `v` is a value of the type, as Solidity bounds the sizes of types. -/
inductive HasType : DynSolType → DynSolValue → Prop
  | address {a : Address} : HasType .address (.address a)
  | bool {b : Bool} : HasType .bool (.bool b)
  | uint {bits : Nat} {n : BitVec 256} : 8 ∣ bits → 8 ≤ bits → bits ≤ 256 → n.toNat < 2 ^ bits →
      HasType (.uint bits) (.uint n bits)
  | int {bits : Nat} {n : BitVec 256} : 8 ∣ bits → 8 ≤ bits → bits ≤ 256 →
      -2 ^ (bits - 1) ≤ n.toInt → n.toInt < 2 ^ (bits - 1) → HasType (.int bits) (.int n bits)
  | bytes {b : Bytes} : HasType .bytes (.bytes b)
  | fixedBytes {size : Nat} {word : B256} : 1 ≤ size → size ≤ 32 →
      256 ^ (32 - size) ∣ word.toNat → HasType (.fixedBytes size) (.fixedBytes word size)
  | string {s : String} : HasType .string (.string s)
  | array {t : DynSolType} {vs : List DynSolValue} : (∀ v ∈ vs, HasType t v) →
      HasType (.array t) (.array vs)
  | fixedArray {t : DynSolType} {length : Nat} {vs : List DynSolValue} : 1 ≤ length →
      vs.length = length → (∀ v ∈ vs, HasType t v) →
      HasType (.fixedArray t length) (.fixedArray vs)
  | tuple {ts : List DynSolType} {vs : List DynSolValue} : ts ≠ [] → HaveTypes ts vs →
      HasType (.tuple ts) (.tuple vs)

/-- Each value is one of the type at its place. -/
inductive HaveTypes : List DynSolType → List DynSolValue → Prop
  | nil : HaveTypes [] []
  | cons {t : DynSolType} {ts : List DynSolType} {v : DynSolValue} {vs : List DynSolValue} :
      HasType t v → HaveTypes ts vs → HaveTypes (t :: ts) (v :: vs)

end

mutual

/-- The documented form of a value: a `bytesN` has `2N` digits. -/
def documentedJson : DynSolValue → Json
  | .address a => .string (String.ofList ('0' :: 'x' :: hexFixed 40 a.toNat))
  | .uint n _ => .string n.toNat.repr
  | .int n _ => .string n.toInt.repr
  | .bool b => .bool b
  | .bytes b => .string (String.ofList ('0' :: 'x' :: bytesToHex b))
  | .fixedBytes word size =>
      .string (String.ofList ('0' :: 'x' :: (hexFixed 64 word.toNat).take (2 * size)))
  | .string s => .string s
  | .array items => .array (documentedJsons items)
  | .fixedArray items => .array (documentedJsons items)
  | .tuple items => .array (documentedJsons items)
  | .function _ => .null
  | .customStruct .. => .null

def documentedJsons : List DynSolValue → List Json
  | [] => []
  | v :: vs => documentedJson v :: documentedJsons vs

end

mutual

/-- No `bytesN` with `N` below 32 occurs in the value. -/
def NoShortBytes : DynSolValue → Prop
  | .fixedBytes _ size => 32 ≤ size
  | .array items => NoneShort items
  | .fixedArray items => NoneShort items
  | .tuple items => NoneShort items
  | .address _ | .uint .. | .int .. | .bool _ | .bytes _ | .string _ | .function _
  | .customStruct .. => True

def NoneShort : List DynSolValue → Prop
  | [] => True
  | v :: vs => NoShortBytes v ∧ NoneShort vs

end

/-- The arguments as documented: the type at each place with the form of the value there. -/
def documentedArgs (types : List DynSolType) (values : List DynSolValue) : List DecodedArg :=
  List.zipWith (fun t v => ⟨String.ofList (typeText t), documentedJson v⟩) types values

/-- The word of a `bytesN` is written with `2N` digits exactly when `N` is 32. -/
theorem fixedBytes_json_iff (word : B256) (size : Nat) :
    dynsolToJson (.fixedBytes word size) = documentedJson (.fixedBytes word size) ↔ 32 ≤ size := by
  rw [dynsolToJson, documentedJson, hashHex]
  constructor
  · intro h
    have hlist := congrArg List.length (String.ofList_injective (Json.string.inj h))
    simp only [List.length_cons, List.length_take, length_hexFixed] at hlist
    omega
  · intro h
    rw [List.take_of_length_le]
    rw [length_hexFixed]
    omega

mutual

/-- A value is lowered as documented exactly when no shorter `bytesN` occurs in it. -/
theorem dynsolToJson_eq_iff : ∀ v : DynSolValue,
    dynsolToJson v = documentedJson v ↔ NoShortBytes v
  | .fixedBytes word size => fixedBytes_json_iff word size
  | .array items => by
      rw [dynsolToJson, documentedJson, NoShortBytes, Json.array.injEq]
      exact dynsolsToJson_eq_iff items
  | .fixedArray items => by
      rw [dynsolToJson, documentedJson, NoShortBytes, Json.array.injEq]
      exact dynsolsToJson_eq_iff items
  | .tuple items => by
      rw [dynsolToJson, documentedJson, NoShortBytes, Json.array.injEq]
      exact dynsolsToJson_eq_iff items
  | .address _ | .uint .. | .int .. | .bool _ | .bytes _ | .string _ | .function _
  | .customStruct .. => iff_of_true rfl trivial

theorem dynsolsToJson_eq_iff : ∀ vs : List DynSolValue,
    dynsolsToJson vs = documentedJsons vs ↔ NoneShort vs
  | [] => iff_of_true rfl trivial
  | v :: vs => by
      rw [dynsolsToJson, documentedJsons, NoneShort, List.cons.injEq, dynsolToJson_eq_iff v,
        dynsolsToJson_eq_iff vs]

end

/-! ## Splitting the parameter list -/

/-- A word of a type's text followed by a size. -/
theorem elementaryType_sized {word : List Char} (hword : ElementaryType word) (n : Nat) :
    ElementaryType (word ++ Nat.toDigits 10 n) where
  ne_nil := List.append_ne_nil_of_left_ne_nil hword.ne_nil _
  chars := List.forall_mem_append.mpr ⟨hword.chars, fun _ => isAlphanum_of_mem_toDigits⟩

/-- A list of types is the join of their texts. -/
theorem typeTexts_eq (ts : List DynSolType) : typeTexts ts = joinTypes (ts.map typeText) := by
  cases ts with
  | nil => rfl
  | cons t ts =>
      induction ts generalizing t with
      | nil =>
          rw [typeTexts, laterTypeTexts, List.append_nil, List.map_singleton, joinTypes,
            List.intercalate_singleton]
      | cons u ts ih =>
          have hrest : typeText u ++ laterTypeTexts ts = joinTypes ((u :: ts).map typeText) := ih u
          rw [typeTexts, laterTypeTexts, hrest]
          simp only [joinTypes, List.map_cons, List.intercalate_cons_cons, List.append_assoc,
            List.singleton_append]

mutual

/-- The text of a type is canonical. -/
theorem canonicalType_typeText : ∀ t : DynSolType, CanonicalType (typeText t)
  | .bool | .address | .function | .bytes | .string => by
      rw [typeText]
      exact .elementary (.of_all (by decide) (by decide))
  | .int bits | .uint bits | .fixedBytes bits => by
      rw [typeText]
      exact .elementary (elementaryType_sized (.of_all (by decide) (by decide)) bits)
  | .array element => by
      rw [typeText]
      exact .array (canonicalType_typeText element)
  | .fixedArray element length => by
      rw [typeText]
      exact .fixedArray (canonicalType_typeText element) length
  | .tuple elements => by
      rw [typeText, typeTexts_eq]
      exact .tuple (canonicalType_of_mem_map elements)

theorem canonicalType_of_mem_map : ∀ ts : List DynSolType, ∀ t ∈ ts.map typeText, CanonicalType t
  | [] => nofun
  | t :: ts => by
      rw [List.map_cons, List.forall_mem_cons]
      exact ⟨canonicalType_typeText t, canonicalType_of_mem_map ts⟩

end

/-- The types of a parameter list are split back. -/
theorem splitTopLevel_typeTexts (types : List DynSolType) :
    splitTopLevel (typeTexts types) = types.map typeText := by
  rw [typeTexts_eq, splitTopLevel_joinTypes (canonicalType_of_mem_map types)]

/-! ## What a call is decoded into -/

/-- `text` is the bytes in hexadecimal, in either case, with or without `0x`. -/
def HexText (text : String) (bytes : Bytes) : Prop :=
  ∃ digits, (text.toList = digits ∨ text.toList = '0' :: 'x' :: digits) ∧
    hexDecode digits = some bytes

/-- The arguments as `decode_args` builds them. -/
def loweredArgs (types : List DynSolType) (values : List DynSolValue) : List DecodedArg :=
  (values.zip (types.map typeText)).map fun (v, ty) => ⟨String.ofList ty, dynsolToJson v⟩

theorem stripHexPrefix_of_hexDecode {digits : List Char} {bytes : Bytes}
    (h : hexDecode digits = some bytes) : stripHexPrefix digits = digits := by
  unfold stripHexPrefix
  split
  · next rest =>
      have hdigit : hexValue 'x' = none := by decide
      simp [hexDecode, hdigit] at h
  · rfl

theorem stripAlloyPrefix_of_hexDecode {digits : List Char} {bytes : Bytes}
    (h : hexDecode digits = some bytes) : stripAlloyPrefix digits = digits := by
  unfold stripAlloyPrefix
  split
  · have hdigit : hexValue 'x' = none := by decide
    simp [hexDecode, hdigit] at h
  · have hdigit : hexValue 'X' = none := by decide
    simp [hexDecode, hdigit] at h
  · rfl

theorem alloyHexDecode_of_hexText {text : String} {bytes : Bytes} (h : HexText text bytes) :
    alloyHexDecode (stripHexPrefix text.toList) = some bytes := by
  obtain ⟨digits, htext, hdecode⟩ := h
  have hstrip := stripHexPrefix_of_hexDecode hdecode
  have htext' : stripHexPrefix text.toList = digits := by
    rcases htext with htext | htext
    · rw [htext, hstrip]
    · rw [htext]
      rfl
  rw [alloyHexDecode, htext', stripAlloyPrefix_of_hexDecode hdecode, hdecode]

theorem HaveTypes.length_eq : ∀ {types : List DynSolType} {values : List DynSolValue},
    HaveTypes types values → types.length = values.length
  | _, _, .nil => rfl
  | _, _, .cons _ h => congrArg (· + 1) h.length_eq

theorem loweredArgs_eq_iff {types : List DynSolType} {values : List DynSolValue}
    (hlength : types.length = values.length) :
    loweredArgs types values = documentedArgs types values ↔ NoneShort values := by
  induction types generalizing values with
  | nil =>
      rw [List.length_nil] at hlength
      rw [List.length_eq_zero_iff.mp hlength.symm]
      exact iff_of_true rfl trivial
  | cons t types ih =>
      cases values with
      | nil => cases hlength
      | cons v values =>
          have hrest := ih (Nat.succ.inj hlength)
          simp only [loweredArgs, documentedArgs] at hrest ⊢
          simp only [List.map_cons, List.zip_cons_cons, List.zipWith_cons_cons, List.cons.injEq,
            DecodedArg.mk.injEq, true_and, hrest, dynsolToJson_eq_iff, NoneShort]

section

variable {alloy : Alloy} (encode : List DynSolValue → Bytes) {name input : String}
  {types : List DynSolType} {values : List DynSolValue} {selector : Bytes}

theorem decodeArgs_eq (hname : '(' ∉ name.toList)
    (hparse : alloy.parse (String.ofList (typeText (.tuple types))) = .ok (.tuple types))
    (hdecode : alloy.abiDecodeParams (.tuple types) (encode values) = .ok (.tuple values))
    (hselector : selector.length = 4) (hinput : HexText input (selector ++ encode values)) :
    decodeArgs alloy (signatureText name types) input = .ok (loweredArgs types values) := by
  have hparams : extractParamList (signatureText name types).toList = some (typeTexts types) := by
    rw [signatureText, String.toList_ofList]
    exact extractParamList_signature hname
  have hlong : ¬ (selector ++ encode values).length < 4 := by
    rw [List.length_append]
    omega
  rw [typeText] at hparse
  simp only [decodeArgs, hparams, alloyHexDecode_of_hexText hinput, hlong, if_false,
    List.cons_append, hparse, List.drop_left' hselector, hdecode, splitTopLevel_typeTexts]
  rfl

/-- A call that encodes typed values is decoded into one argument for each type of its signature,
as documented, exactly when no `bytesN` with `N` below 32 occurs in the values. -/
theorem decodeArgs_documented_iff (hname : '(' ∉ name.toList) (htyped : HaveTypes types values)
    (hparse : alloy.parse (String.ofList (typeText (.tuple types))) = .ok (.tuple types))
    (hdecode : alloy.abiDecodeParams (.tuple types) (encode values) = .ok (.tuple values))
    (hselector : selector.length = 4) (hinput : HexText input (selector ++ encode values)) :
    (documentedArgs types values).length = types.length ∧
      (decodeArgs alloy (signatureText name types) input = .ok (documentedArgs types values) ↔
        NoneShort values) := by
  have hlength := htyped.length_eq
  constructor
  · rw [documentedArgs, List.length_zipWith, hlength, Nat.min_self]
  · rw [decodeArgs_eq encode hname hparse hdecode hselector hinput, Except.ok.injEq]
    exact loweredArgs_eq_iff hlength

end

/-! ## A `bytes4` argument -/

/-- The parser and the decoder on one `bytes4`. -/
def bytes4Alloy : Alloy where
  parse s :=
    if s = "(bytes4)" then .ok (.tuple [.fixedBytes 4]) else .error "invalid type string"
  abiDecodeParams ty data :=
    match ty with
    | .tuple [.fixedBytes 4] =>
        if data.length = 32 then .ok (.tuple [.fixedBytes (.ofNat 256 (beNat data)) 4])
        else .error "buffer overrun while deserializing"
    | _ => .error "unsupported type"
  hexError _ := "invalid string length"

/-- The interface identifier of ERC-721, as the value and as its encoding. -/
def interfaceIdValue : DynSolValue := .fixedBytes (.ofNat 256 (0x80ac58cd * 256 ^ 28)) 4

def interfaceIdWord : Bytes := [0x80, 0xac, 0x58, 0xcd] ++ List.replicate 28 0

/-- `supportsInterface(bytes4)` of that identifier. -/
def interfaceCall : String :=
  "0x01ffc9a780ac58cd00000000000000000000000000000000000000000000000000000000"

theorem interfaceCall_hex :
    HexText interfaceCall ([0x01, 0xff, 0xc9, 0xa7] ++ interfaceIdWord) := by
  refine ⟨interfaceCall.toList.drop 2, .inr ?_, ?_⟩
  · decide +kernel
  · decide +kernel

theorem interfaceId_typed : HaveTypes [.fixedBytes 4] [interfaceIdValue] :=
  .cons (.fixedBytes (by decide) (by decide) (by decide +kernel)) .nil

theorem bytes4Alloy_decodes :
    bytes4Alloy.abiDecodeParams (.tuple [.fixedBytes 4]) interfaceIdWord =
      .ok (.tuple [interfaceIdValue]) := by
  have hword : BitVec.ofNat 256 (beNat interfaceIdWord) = .ofNat 256 (0x80ac58cd * 256 ^ 28) := by
    decide +kernel
  show Except.ok (DynSolValue.tuple [.fixedBytes (.ofNat 256 (beNat interfaceIdWord)) 4]) = _
  rw [hword]
  rfl

/-- One argument, and the condition fails. -/
theorem decodeArgs_documented_iff_bytes4 :
    (documentedArgs [.fixedBytes 4] [interfaceIdValue]).length = 1 ∧
      (decodeArgs bytes4Alloy (signatureText "supportsInterface" [.fixedBytes 4]) interfaceCall =
          .ok (documentedArgs [.fixedBytes 4] [interfaceIdValue]) ↔
        NoneShort [interfaceIdValue]) :=
  decodeArgs_documented_iff (fun _ => interfaceIdWord) (by decide) interfaceId_typed rfl
    bytes4Alloy_decodes rfl interfaceCall_hex

/-- It is decoded with 64 digits. -/
theorem bytes4_has_64_digits :
    (decodeArgs bytes4Alloy "supportsInterface(bytes4)" interfaceCall).toOption.map
        (fun args => args.map fun arg => (arg.ty, arg.value.asStr)) =
      some [("bytes4",
        some "0x80ac58cd00000000000000000000000000000000000000000000000000000000")] ∧
    decodeArgs bytes4Alloy "supportsInterface(bytes4)" interfaceCall ≠
      .ok (documentedArgs [.fixedBytes 4] [interfaceIdValue]) := by
  have hsignature : signatureText "supportsInterface" [.fixedBytes 4] =
      "supportsInterface(bytes4)" := by decide +kernel
  have hargs : decodeArgs bytes4Alloy (signatureText "supportsInterface" [.fixedBytes 4])
      interfaceCall = .ok (loweredArgs [.fixedBytes 4] [interfaceIdValue]) :=
    decodeArgs_eq (fun _ => interfaceIdWord) (by decide) rfl bytes4Alloy_decodes rfl
      interfaceCall_hex
  rw [hsignature] at hargs
  rw [hargs]
  constructor
  · decide +kernel
  · intro heq
    have hshort := (loweredArgs_eq_iff rfl).mp (Except.ok.inj heq)
    exact absurd (show 32 ≤ 4 from hshort.1) (by decide)

end TxIndexer.Proofs
