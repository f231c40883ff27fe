import TxIndexer.Std.Abi
import TxIndexer.Decoder.RevertReason

/-!
# `Error(string)` payloads and the ABI

The decoder takes the string from where every encoder puts it, and its length from the low half
of a word. On payloads with the standard offset and a length of 64 bits it reads what the ABI
assigns to them.
-/

namespace TxIndexer.Proofs

open Decoder

theorem decodeRevertReason_error (data : Bytes) :
    decodeRevertReason (errorSelector ++ data) = decodeAbiString data := by
  have hselector : errorSelector.length = 4 := rfl
  rw [decodeRevertReason, List.take_left' hselector, List.drop_left' hselector, if_pos rfl,
    if_neg (by simp [hselector])]

/-- The low 8 bytes of a word below `2 ^ 64` are the word. -/
theorem declaredLength_eq_abiWord {data : Bytes} (hlength : 64 ≤ data.length)
    (hword : abiWord data 32 < 2 ^ 64) : declaredLength data = abiWord data 32 := by
  have hlow : ((data.drop 56).take 8).length = 8 := by
    rw [List.length_take, List.length_drop]
    omega
  have hsplit : abiWord data 32 =
      beNat ((data.drop 32).take 24) * 256 ^ 8 + declaredLength data := by
    have htake : (data.drop 32).take 32 = (data.drop 32).take 24 ++ (data.drop 56).take 8 := by
      rw [show 32 = 24 + 8 from rfl, List.take_add, List.drop_drop]
    rw [abiWord, htake, beNat_append, hlow]
    rfl
  have hhigh : beNat ((data.drop 32).take 24) = 0 := by
    rw [hsplit] at hword
    omega
  rw [hsplit, hhigh, Nat.zero_mul, Nat.zero_add]

/-- What is decoded lies within the data, after the two words. -/
theorem decodeAbiString_ok {data : Bytes} {reason : String}
    (h : decodeAbiString data = .ok (.ok reason)) :
    64 + declaredLength data ≤ data.length ∧
      reason = String.ofList (utf8Lossy ((data.drop 64).take (declaredLength data))) := by
  unfold decodeAbiString at h
  split at h
  · cases h
  split at h
  · cases h
  split at h
  · cases h
  · next hend =>
      cases h
      exact ⟨Nat.le_of_not_lt hend, rfl⟩

/-- With the standard offset and a length of 64 bits the ABI assigns the decoded bytes. -/
theorem abiStringBytes_of_decoded {data : Bytes} {reason : String}
    (hoffset : abiWord data 0 = 32) (hword : abiWord data 32 < 2 ^ 64)
    (h : decodeAbiString data = .ok (.ok reason)) :
    ∃ bytes, abiStringBytes data = some bytes ∧ reason = String.ofList (utf8Lossy bytes) := by
  obtain ⟨hfits, hreason⟩ := decodeAbiString_ok h
  have hlength := declaredLength_eq_abiWord (by omega) hword
  rw [hlength] at hfits hreason
  refine ⟨_, ?_, hreason⟩
  simp only [abiStringBytes, hoffset]
  exact if_pos hfits

/-- What the ABI assigns to the data is decoded, when its length leaves the end a 64-bit number. -/
theorem decodeAbiString_of_abiStringBytes {data bytes : Bytes} (hoffset : abiWord data 0 = 32)
    (hword : abiWord data 32 < 2 ^ 63) (h : abiStringBytes data = some bytes) :
    decodeAbiString data = .ok (.ok (String.ofList (utf8Lossy bytes))) := by
  simp only [abiStringBytes, hoffset] at h
  split at h
  · next hfits =>
      rw [Option.some.injEq] at h
      have hdeclared : declaredLength data = abiWord data 32 :=
        declaredLength_eq_abiWord (by omega) (by omega)
      have hnoOverflow : ¬ u64Max < 64 + abiWord data 32 := by
        unfold u64Max
        omega
      rw [decodeAbiString, hdeclared, if_neg (by omega), if_neg hnoOverflow, if_neg (by omega)]
      rw [← h]
  · cases h

/-- The encoding of a string is decoded into it. -/
theorem decodeAbiString_abiEncodeString {s : String} (h : (utf8Bytes s).length < 2 ^ 63) :
    decodeAbiString (abiEncodeString s) = .ok (.ok s) := by
  have hlength : (utf8Bytes s).length < 256 ^ 32 := Nat.lt_of_lt_of_le h (by norm_num)
  have hword : abiWord (abiEncodeString s) 32 < 2 ^ 63 := by
    rw [abiWord_abiEncodeString hlength]
    exact h
  rw [decodeAbiString_of_abiStringBytes (abiWord_abiEncodeString_zero s) hword
    (abiStringBytes_abiEncodeString hlength), utf8Lossy_utf8Bytes, String.ofList_toList]

/-- With the standard offset and a length of 64 bits, a decoded `Error(string)` is what the ABI
assigns to its data; and the encoding of a string (which has fewer than `2 ^ 63` bytes) is decoded
into it. -/
theorem error_string_agrees {data : Bytes} (hoffset : abiWord data 0 = 32)
    (hword : abiWord data 32 < 2 ^ 64) :
    (∀ reason, decodeRevertReason (errorSelector ++ data) = .ok (.ok reason) →
      ∃ bytes, abiStringBytes data = some bytes ∧ reason = String.ofList (utf8Lossy bytes)) ∧
    ∀ s, (utf8Bytes s).length < 2 ^ 63 →
      decodeRevertReason (errorSelector ++ abiEncodeString s) = .ok (.ok s) := by
  constructor
  · intro reason hreason
    rw [decodeRevertReason_error] at hreason
    exact abiStringBytes_of_decoded hoffset hword hreason
  · intro s hlength
    rw [decodeRevertReason_error]
    exact decodeAbiString_abiEncodeString hlength

/-- The encoding of one letter. -/
theorem error_string_agrees_letter :
    decodeRevertReason (errorSelector ++ (beBytes 32 32 ++ beBytes 32 1 ++ [0x41])) =
      .ok (.ok "A") ∧
    ∃ bytes, abiStringBytes (beBytes 32 32 ++ beBytes 32 1 ++ [0x41]) = some bytes ∧
      "A" = String.ofList (utf8Lossy bytes) := by
  have hdecoded : decodeRevertReason
      (errorSelector ++ (beBytes 32 32 ++ beBytes 32 1 ++ [0x41])) = .ok (.ok "A") := by
    decide +kernel
  exact ⟨hdecoded, (error_string_agrees (by decide +kernel) (by decide +kernel)).1 "A" hdecoded⟩

/-- The encoding of one letter with a word left free before the length. -/
def gapPayload : Bytes := beBytes 32 64 ++ beBytes 32 0 ++ beBytes 32 1 ++ [0x41]

/-- The encoding of a string that is longer than the data, by a multiple of `2 ^ 64`. -/
def hugePayload : Bytes := beBytes 32 32 ++ beBytes 32 (2 ^ 64)

/-- Both are decoded into the empty string. -/
theorem payloads_disagree :
    (decodeRevertReason (errorSelector ++ gapPayload) = .ok (.ok "") ∧
      abiStringBytes gapPayload = some [0x41] ∧ String.ofList (utf8Lossy [0x41]) = "A") ∧
    decodeRevertReason (errorSelector ++ hugePayload) = .ok (.ok "") ∧
      abiStringBytes hugePayload = none := by
  decide +kernel

end TxIndexer.Proofs
