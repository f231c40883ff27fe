import TxIndexer.Proofs.CallTree

/-!
# The quantities of a flattened trace

A frame carries its value, in wei, and the gas it used as hexadecimal quantities. Flattening
reads the value as a `u128` and stores the gas as an `i64`.
-/

namespace TxIndexer.Proofs

open Decoder Lib

variable {toLowercase : String → String}

/-- `s` is the quantity `n`: `0x` and at least one hexadecimal digit. -/
def HexQuantity (s : String) (n : Nat) : Prop :=
  ∃ digits, digits ≠ [] ∧ s.toList = '0' :: 'x' :: digits ∧ hexNat digits = some n

/-- The flattened frame has the value in decimal and the gas as they are. -/
def QuantitiesKept (frame : FlatFrame) (value gasUsed : Nat) : Prop :=
  frame.value = value.repr ∧ frame.gasUsed = gasUsed

instance (frame : FlatFrame) (value gasUsed : Nat) :
    Decidable (QuantitiesKept frame value gasUsed) :=
  inferInstanceAs (Decidable (frame.value = value.repr ∧ frame.gasUsed = gasUsed))

/-- Digits are read when their value fits. -/
theorem fromStrRadix16_of_hexNat {digits : List Char} {n : Nat} (hne : digits ≠ [])
    (hvalue : hexNat digits = some n) (bits : Nat) :
    fromStrRadix16 bits digits = if n < 2 ^ bits then some n else none := by
  cases digits with
  | nil => exact absurd rfl hne
  | cons c rest =>
      have hsign : c ≠ '+' := by
        rintro rfl
        have hdigit : hexValue '+' = none := by decide
        simp [hexNat, hdigit] at hvalue
      unfold fromStrRadix16
      split
      · next hplus => exact absurd (List.cons.inj hplus).1 hsign
      · simp only [hvalue, Option.filter_some, decide_eq_true_eq, reduceCtorEq, if_false]

/-- A quantity is read when it fits. -/
theorem fromStrRadix16_of_hexQuantity {s : String} {n : Nat} (h : HexQuantity s n) (bits : Nat) :
    fromStrRadix16 bits (stripHexPrefix s.toList) = if n < 2 ^ bits then some n else none := by
  obtain ⟨digits, hne, hlist, hvalue⟩ := h
  rw [hlist, stripHexPrefix, fromStrRadix16_of_hexNat hne hvalue]

theorem repr_eq_zero_iff {n : Nat} : n.repr = "0" ↔ n = 0 := by
  constructor
  · intro h
    have hdigits : Nat.toDigits 10 n = Nat.toDigits 10 0 := by
      have hlist := congrArg String.toList h
      simpa [Nat.repr] using hlist
    have hparse := parseDigits_toDigits n
    rw [hdigits, parseDigits_toDigits] at hparse
    exact (Option.some.inj hparse).symm
  · rintro rfl
    rfl

/-- The value is kept exactly when it fits 128 bits. -/
theorem valueDecimal_iff {s : String} {n : Nat} (h : HexQuantity s n) :
    valueDecimal (some s) = n.repr ↔ n < 2 ^ 128 := by
  rw [valueDecimal, Option.bind_some, fromStrRadix16_of_hexQuantity h]
  by_cases hfits : n < 2 ^ 128
  · rw [if_pos hfits]
    exact iff_of_true rfl hfits
  · rw [if_neg hfits]
    refine iff_of_false ?_ hfits
    intro hzero
    have hn : n = 0 := repr_eq_zero_iff.mp hzero.symm
    omega

/-- The gas is kept exactly when it fits 63 bits. -/
theorem asI64_eq_iff {n : Nat} (h : n < 2 ^ 64) : asI64 n = n ↔ n < 2 ^ 63 := by
  constructor
  · intro hkept
    have hbound := BitVec.toInt_lt (x := BitVec.ofNat 64 n)
    rw [show (BitVec.ofNat 64 n).toInt = n from hkept] at hbound
    omega
  · exact asI64_of_lt

/-- The flattened frame of a frame with the quantities `value` and `gasUsed`, at any depth, keeps
them exactly when the one fits 128 bits and the other 63. -/
theorem quantities_kept_iff {json : Json} {txHash : String} {trace : FlattenedTrace}
    {i : Nat} {node : Json × Nat} {valueText gasText : String} {value gasUsed : Nat}
    (hparse : parseTrace toLowercase txHash json = .ok trace)
    (hnode : (tracedFrames json)[i]? = some node)
    (hvalueText : node.1.getStr "value" = some valueText)
    (hgasText : node.1.getStr "gasUsed" = some gasText)
    (hvalue : HexQuantity valueText value)
    (hgas : HexQuantity gasText gasUsed) (hgasLt : gasUsed < 2 ^ 64) :
    trace.frames.length = (tracedFrames json).length ∧
      ∃ frame, trace.frames[i]? = some frame ∧ frame.depth = node.2 ∧
        (QuantitiesKept frame value gasUsed ↔ value < 2 ^ 128 ∧ gasUsed < 2 ^ 63) := by
  have hframes := parseTrace_frames_eq hparse
  refine ⟨by rw [hframes, List.length_map], frameRow toLowercase node, ?_, rfl, ?_⟩
  · rw [hframes, List.getElem?_map, hnode]
    rfl
  · have hgasUsed : gasUsedOf node.1 = gasUsed := by
      rw [gasUsedOf, hgasText, Option.bind_some, fromStrRadix16_of_hexQuantity hgas,
        if_pos hgasLt]
      rfl
    rw [QuantitiesKept, frameRow, hvalueText, hgasUsed, valueDecimal_iff hvalue,
      asI64_eq_iff hgasLt]

/-- A call of 1 ether that tried to send on `2^128` wei. -/
def overspendingJson : Json :=
  .object [("type", .string "CALL"), ("value", .string "0xde0b6b3a7640000"),
    ("gasUsed", .string "0x5208"), ("calls", .array [
      .object [("type", .string "CALL"), ("value", .string "0x100000000000000000000000000000000"),
        ("gasUsed", .string "0x0"), ("error", .string "insufficient balance for transfer")]])]

theorem overspending_quantity :
    HexQuantity "0x100000000000000000000000000000000" (2 ^ 128) ∧ HexQuantity "0x0" 0 := by
  constructor
  · exact ⟨"100000000000000000000000000000000".toList, by decide, by decide, by decide⟩
  · exact ⟨['0'], by decide, by decide, by decide⟩

/-- The value of the call it made is not kept. -/
theorem quantities_kept_iff_overspending : ∃ trace,
    parseTrace id "0x1" overspendingJson = .ok trace ∧
    ∃ frame, trace.frames[1]? = some frame ∧ frame.depth = 1 ∧
      (QuantitiesKept frame (2 ^ 128) 0 ↔ 2 ^ 128 < 2 ^ 128 ∧ 0 < 2 ^ 63) := by
  have hnode : ∃ node, (tracedFrames overspendingJson)[1]? = some node ∧ node.2 = 1 ∧
      node.1.getStr "value" = some "0x100000000000000000000000000000000" ∧
      node.1.getStr "gasUsed" = some "0x0" := ⟨_, rfl, rfl, rfl, rfl⟩
  obtain ⟨node, hnode, hdepth, hvalue, hgas⟩ := hnode
  obtain ⟨trace, hparse⟩ : ∃ trace, parseTrace id "0x1" overspendingJson = .ok trace := ⟨_, rfl⟩
  obtain ⟨-, frame, hframe, hframeDepth, hiff⟩ := quantities_kept_iff hparse hnode hvalue hgas
    overspending_quantity.1 overspending_quantity.2 (by decide)
  rw [hdepth] at hframeDepth
  exact ⟨trace, hparse, frame, hframe, hframeDepth, hiff⟩

/-- It is flattened with the value 0. -/
theorem overspending_value_lost : ∃ trace frame,
    parseTrace id "0x1" overspendingJson = .ok trace ∧ trace.frames[1]? = some frame ∧
    frame.value = "0" ∧ ¬ QuantitiesKept frame (2 ^ 128) 0 := by
  refine ⟨_, _, rfl, rfl, ?_, ?_⟩
  · decide
  · decide

end TxIndexer.Proofs
