import TxIndexer.Decoder.Trace

/-!
# Revert reasons

`decode_revert_reason` and `decode_abi_string` of `crates/decoder/src/trace.rs`: a revert
payload becomes the text stored as `failed_transaction.revert_reason`.
-/

namespace TxIndexer.Decoder

/-- The selector of `Error(string)`. -/
def errorSelector : Bytes := [0x08, 0xc3, 0x79, 0xa0]

/-- The selector of `Panic(uint256)`. -/
def panicSelector : Bytes := [0x4e, 0x48, 0x7b, 0x71]

/-- The length an ABI-encoded string declares, read by `u64::from_be_bytes` from the last 8 bytes
of its second word. -/
def declaredLength (data : Bytes) : Nat := beNat ((data.drop 56).take 8)

/-- `decode_abi_string` (`trace.rs:205-227`). -/
def decodeAbiString (data : Bytes) : Checked (Except DecodeError String) :=
  if data.length < 64 then .ok (.error (.abiDecode "ABI string data too short"))
  else if u64Max < 64 + declaredLength data then
    -- `str_start + len` overflows; where that wraps, the slice ends before it starts
    .error .arithmeticOverflow
  else if data.length < 64 + declaredLength data then
    .ok (.error (.abiDecode "string length exceeds data"))
  else .ok (.ok (String.ofList (utf8Lossy ((data.drop 64).take (declaredLength data)))))

/-- `decode_abi_string` built without overflow checks: the sum wraps, and a slice that ends
before it starts panics. -/
def decodeAbiStringWrapping (data : Bytes) : Checked (Except DecodeError String) :=
  let strEnd := (64 + declaredLength data) % 2 ^ 64
  if data.length < 64 then .ok (.error (.abiDecode "ABI string data too short"))
  else if data.length < strEnd then
    .ok (.error (.abiDecode "string length exceeds data"))
  else if strEnd < 64 then .error .sliceIndex
  else .ok (.ok (String.ofList (utf8Lossy ((data.drop 64).take (strEnd - 64)))))

/-- `decode_revert_reason` (`trace.rs:78-100`). -/
def decodeRevertReason (output : Bytes) : Checked (Except DecodeError String) :=
  if output.length < 4 then .ok (.ok (bytesHex output))
  else if output.take 4 = errorSelector then decodeAbiString (output.drop 4)
  else if output.take 4 = panicSelector ∧ 36 ≤ output.length then
    .ok (.ok (String.ofList
      ("Panic(0x".toList ++ hexFixed 2 (output.getD 35 0).toNat ++ [')'])))
  else .ok (.ok (bytesHex output))

/-- An `Error(string)` payload whose declared length overflows the end of the string, or whose
string holds a NUL byte. -/
def PoisonPayload (output : Bytes) : Prop :=
  output.take 4 = errorSelector ∧ 64 ≤ (output.drop 4).length ∧
    (u64Max < 64 + declaredLength (output.drop 4) ∨
      (64 + declaredLength (output.drop 4) ≤ (output.drop 4).length ∧
        0 ∈ ((output.drop 4).drop 64).take (declaredLength (output.drop 4))))

instance (output : Bytes) : Decidable (PoisonPayload output) := by
  unfold PoisonPayload; infer_instance

/-- `output` is decoded into a text PostgreSQL can store, or into none. -/
def ReasonStorable (output : Bytes) : Prop :=
  match decodeRevertReason output with
  | .error _ => False
  | .ok (.error _) => True
  | .ok (.ok reason) => '\x00' ∉ reason.toList

theorem declaredLength_lt (data : Bytes) : declaredLength data < 2 ^ 64 := by
  have hlength : ((data.drop 56).take 8).length ≤ 8 := List.length_take_le ..
  calc declaredLength data
      < 256 ^ ((data.drop 56).take 8).length := beNat_lt _
    _ ≤ 256 ^ 8 := Nat.pow_le_pow_right (by decide) hlength

/-- With and without overflow checks the same payloads panic, and the others decode alike. -/
theorem decodeAbiStringWrapping_eq (data : Bytes) :
    decodeAbiStringWrapping data = (decodeAbiString data).mapError fun _ => .sliceIndex := by
  have hlt := declaredLength_lt data
  unfold decodeAbiStringWrapping decodeAbiString
  by_cases hlen : data.length < 64
  · simp [hlen, Except.mapError]
  by_cases hover : u64Max < 64 + declaredLength data
  · have hwrap : (64 + declaredLength data) % 2 ^ 64 < 64 := by
      unfold u64Max at hover
      omega
    have hshort : ¬ data.length < (64 + declaredLength data) % 2 ^ 64 := by omega
    simp only [hlen, hover, hwrap, hshort, if_true, if_false, Except.mapError]
  · have hsame : (64 + declaredLength data) % 2 ^ 64 = 64 + declaredLength data := by
      unfold u64Max at hover
      omega
    have hstart : ¬ 64 + declaredLength data < 64 := by omega
    simp only [hlen, hover, hsame, hstart, if_false, Nat.add_sub_cancel_left]
    split <;> rfl

theorem nul_not_mem_bytesHex (bytes : Bytes) : '\x00' ∉ (bytesHex bytes).toList := by
  simp only [bytesHex, String.toList_ofList, List.mem_cons, not_or]
  exact ⟨by decide, by decide, nul_not_mem_bytesToHex bytes⟩

theorem take_ne_errorSelector {output : Bytes} (h : output.length < 4) :
    output.take 4 ≠ errorSelector := by
  intro heq
  have hlen := congrArg List.length heq
  simp [errorSelector] at hlen
  omega

/-- A payload is decoded into a storable text, or into none, unless it is one of the two
poisonous kinds. -/
theorem reasonStorable_iff (output : Bytes) : ReasonStorable output ↔ ¬ PoisonPayload output := by
  unfold ReasonStorable decodeRevertReason PoisonPayload
  by_cases hshort : output.length < 4
  · simp [hshort, take_ne_errorSelector hshort, nul_not_mem_bytesHex]
  rw [if_neg hshort]
  by_cases hsel : output.take 4 = errorSelector
  · rw [if_pos hsel]
    generalize output.drop 4 = data
    unfold decodeAbiString
    by_cases hlen : data.length < 64
    · simp [hlen, Nat.not_le.mpr hlen]
    rw [if_neg hlen]
    by_cases hover : u64Max < 64 + declaredLength data
    · simp [hover, hsel, Nat.le_of_not_lt hlen]
    rw [if_neg hover]
    by_cases hend : data.length < 64 + declaredLength data
    · simp [hend, hover, Nat.not_le.mpr hend]
    · simp only [hend, hsel, hover, if_false, String.toList_ofList, nul_mem_utf8Lossy, true_and,
        false_or, Nat.le_of_not_lt hlen, Nat.le_of_not_lt hend]
  · rw [if_neg hsel]
    by_cases hpanic : output.take 4 = panicSelector ∧ 36 ≤ output.length
    · simp only [if_pos hpanic, hsel, String.toList_ofList, List.mem_append]
      simp [nul_not_mem_hexFixed]
    · simp [hpanic, hsel, nul_not_mem_bytesHex]

/-- An `Error(string)` payload that is too short for an ABI-encoded string, or for the length it
declares. -/
def MalformedErrorString (output : Bytes) : Prop :=
  output.take 4 = errorSelector ∧
    ((output.drop 4).length < 64 ∨
      (64 + declaredLength (output.drop 4) ≤ u64Max ∧
        (output.drop 4).length < 64 + declaredLength (output.drop 4)))

/-- Malformed `Error(string)` payloads are the ones that are decoded into no text. -/
theorem decodeRevertReason_eq_error_iff (output : Bytes) :
    (∃ e, decodeRevertReason output = .ok (.error e)) ↔ MalformedErrorString output := by
  unfold decodeRevertReason MalformedErrorString
  by_cases hshort : output.length < 4
  · simp [hshort, take_ne_errorSelector hshort]
  rw [if_neg hshort]
  by_cases hsel : output.take 4 = errorSelector
  · rw [if_pos hsel]
    generalize output.drop 4 = data
    unfold decodeAbiString
    by_cases hlen : data.length < 64
    · simp [hlen, hsel]
    rw [if_neg hlen]
    by_cases hover : u64Max < 64 + declaredLength data
    · simp [hover, hlen, Nat.not_le.mpr hover]
    rw [if_neg hover]
    by_cases hend : data.length < 64 + declaredLength data
    · simp [hend, hsel, Nat.le_of_not_lt hover]
    · simp [hend, hlen]
  · rw [if_neg hsel]
    split <;> simp [hsel]

/-- An `Error(string)` payload whose string would end past `u64::MAX`. -/
def OverflowingErrorString (output : Bytes) : Prop :=
  output.take 4 = errorSelector ∧ 64 ≤ (output.drop 4).length ∧
    u64Max < 64 + declaredLength (output.drop 4)

/-- Decoding panics on these payloads and on no other. -/
theorem decodeRevertReason_returns (output : Bytes) :
    (∃ result, decodeRevertReason output = .ok result) ↔ ¬ OverflowingErrorString output := by
  unfold decodeRevertReason OverflowingErrorString
  by_cases hshort : output.length < 4
  · simp [hshort, take_ne_errorSelector hshort]
  rw [if_neg hshort]
  by_cases hsel : output.take 4 = errorSelector
  · rw [if_pos hsel]
    generalize output.drop 4 = data
    unfold decodeAbiString
    by_cases hlen : data.length < 64
    · simp [hlen, Nat.not_le.mpr hlen]
    rw [if_neg hlen]
    by_cases hover : u64Max < 64 + declaredLength data
    · simp [hover, hsel, Nat.le_of_not_lt hlen]
    rw [if_neg hover]
    split <;> simp [hover]
  · rw [if_neg hsel]
    split <;> simp [hsel]

end TxIndexer.Decoder
