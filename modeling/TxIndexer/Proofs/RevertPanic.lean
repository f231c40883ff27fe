import TxIndexer.Indexer.ProcessFailedTxs

/-!
# Revert payloads that panic

`decode_abi_string` adds the length a payload declares to the start of its string before it
compares the sum with the length of the data.
-/

namespace TxIndexer.Proofs

open Decoder Db Indexer

/-- Decoding a payload returns, and with it the reading of the reason of a root frame with that
payload, exactly when it is not an `Error(string)` whose string would end past `u64::MAX`. -/
theorem decodeRevertReason_returns_iff (output : Bytes) :
    ((∃ result, decodeRevertReason output = .ok result) ↔ ¬ OverflowingErrorString output) ∧
    ∀ root, revertPayload root = some output →
      ((∃ reason, revertReasonOf root = .ok reason) ↔ ¬ OverflowingErrorString output) := by
  have hreturns := decodeRevertReason_returns output
  refine ⟨hreturns, ?_⟩
  intro root hpayload
  have hroot : revertReasonOf root = (decodeRevertReason output).map Except.toOption := by
    rw [revertReasonOf, hpayload]
  rw [← hreturns, hroot]
  cases decodeRevertReason output with
  | error p =>
      apply iff_of_false
      · intro ⟨_, h⟩; cases h
      · intro ⟨_, h⟩; cases h
  | ok result => exact iff_of_true ⟨_, rfl⟩ ⟨_, rfl⟩

/-- A call that reverted with an `Error(string)` of length `u64::MAX`. -/
def endlessFrame : Json := .object [
  ("type", .string "CALL"), ("from", .string "0x0000000000000000000000000000000000000005"),
  ("to", .string "0x0000000000000000000000000000000000000006"), ("value", .string "0x0"),
  ("gasUsed", .string "0x64"), ("input", .string "0xa9059cbb"),
  ("output", .string ("0x08c379a0" ++
    "0000000000000000000000000000000000000000000000000000000000000020" ++
    "000000000000000000000000000000000000000000000000ffffffffffffffff")),
  ("error", .string "execution reverted")]

/-- It ends the task of its block, with overflow checks and without. -/
theorem endless_string_panics :
    decodeRevertReason (errorSelector ++ List.replicate 56 0 ++ List.replicate 8 0xff) =
      .error .arithmeticOverflow ∧
    decodeAbiStringWrapping (List.replicate 56 0 ++ List.replicate 8 0xff) =
      .error .sliceIndex ∧
    processFailedTxs asciiLowercase (fun _ => .callTracer endlessFrame) 1700000000 [hashHex 7] =
      .error .arithmeticOverflow := by
  refine ⟨by decide +kernel, by decide +kernel, by decide +kernel⟩

end TxIndexer.Proofs
