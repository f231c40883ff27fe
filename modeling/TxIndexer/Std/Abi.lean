import TxIndexer.Std.Utf8
import Mathlib.Tactic.NormNum

/-!
# The ABI encoding of a string

One argument of a dynamic type is encoded as a word with the offset of its data and, at that
offset, a word with the length and then the bytes, padded with zeros to whole words.
-/

namespace TxIndexer

/-- The 256-bit word at a byte offset. -/
def abiWord (data : Bytes) (offset : Nat) : Nat := beNat ((data.drop offset).take 32)

/-- The bytes of the one `string` or `bytes` that `data` encodes: those after the length at the
offset given by the first word, when they are there. -/
def abiStringBytes (data : Bytes) : Option Bytes :=
  let offset := abiWord data 0
  let length := abiWord data offset
  if offset + 32 + length ≤ data.length then some ((data.drop (offset + 32)).take length)
  else none

/-- Zeros up to a whole word. -/
def abiPadding (length : Nat) : Bytes := List.replicate ((32 - length % 32) % 32) 0

/-- The encoding of one `string`. -/
def abiEncodeString (s : String) : Bytes :=
  beBytes 32 32 ++ (beBytes 32 (utf8Bytes s).length ++
    (utf8Bytes s ++ abiPadding (utf8Bytes s).length))

theorem abiWord_of_append (before rest : Bytes) {n : Nat} (h : n < 256 ^ 32) :
    abiWord (before ++ (beBytes 32 n ++ rest)) before.length = n := by
  rw [abiWord, List.drop_left, List.take_left' (length_beBytes 32 n), beNat_beBytes,
    Nat.mod_eq_of_lt h]

theorem abiWord_abiEncodeString_zero (s : String) : abiWord (abiEncodeString s) 0 = 32 := by
  have hword := abiWord_of_append (n := 32) [] (beBytes 32 (utf8Bytes s).length ++
    (utf8Bytes s ++ abiPadding (utf8Bytes s).length)) (by norm_num)
  rw [List.nil_append, List.length_nil] at hword
  exact hword

theorem abiWord_abiEncodeString {s : String} (h : (utf8Bytes s).length < 256 ^ 32) :
    abiWord (abiEncodeString s) 32 = (utf8Bytes s).length := by
  have hword := abiWord_of_append (beBytes 32 32)
    (utf8Bytes s ++ abiPadding (utf8Bytes s).length) h
  rw [length_beBytes] at hword
  exact hword

/-- The encoding of a string encodes its bytes. -/
theorem abiStringBytes_abiEncodeString {s : String} (h : (utf8Bytes s).length < 256 ^ 32) :
    abiStringBytes (abiEncodeString s) = some (utf8Bytes s) := by
  have hlength : 64 + (utf8Bytes s).length ≤ (abiEncodeString s).length := by
    simp only [abiEncodeString, List.length_append, length_beBytes]
    omega
  have hdrop : (abiEncodeString s).drop 64 =
      utf8Bytes s ++ abiPadding (utf8Bytes s).length := by
    rw [abiEncodeString, ← List.append_assoc, List.drop_left' (by simp)]
  simp only [abiStringBytes, abiWord_abiEncodeString_zero, abiWord_abiEncodeString h]
  rw [if_pos hlength, hdrop, List.take_left]

end TxIndexer
