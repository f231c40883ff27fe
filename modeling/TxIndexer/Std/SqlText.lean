import TxIndexer.Lib.Words
import TxIndexer.Std.Hex
import Mathlib.Data.List.Infix

/-!
# Text functions of PostgreSQL

`btrim`, `LIKE` and the character classes of its regular expressions, on the characters of a text.
What `\s` matches beyond ASCII is up to the locale of the database.
-/

namespace TxIndexer

open Lib

/-- What `\s` matches. -/
structure SpaceClass where
  isSpace : Char → Bool
  ascii : ∀ c : Char, c.toNat < 128 → (isSpace c = true ↔ c = ' ' ∨ (9 ≤ c.toNat ∧ c.toNat ≤ 13))

/-- The class of the `C` locale. -/
def asciiSpace : SpaceClass where
  isSpace c := decide (c = ' ' ∨ (9 ≤ c.toNat ∧ c.toNat ≤ 13))
  ascii _ _ := decide_eq_true_iff

theorem SpaceClass.space (sp : SpaceClass) : sp.isSpace ' ' = true :=
  (sp.ascii ' ' (by decide)).mpr (.inl rfl)

theorem SpaceClass.not_space (sp : SpaceClass) {c : Char} (hlow : 32 < c.toNat)
    (hhigh : c.toNat < 128) : sp.isSpace c = false := by
  rw [Bool.eq_false_iff]
  intro hspace
  rcases (sp.ascii c hhigh).mp hspace with rfl | ⟨-, hle⟩
  · exact absurd hlow (by decide)
  · omega

/-- `btrim(s)`: spaces, and nothing else, are taken off both ends. -/
def btrim (s : List Char) : List Char := trim ' ' s

/-- `[0-9a-fA-F]`. -/
def isHexDigit (c : Char) : Bool := (hexValue c).isSome

/-- `[0-9]`. -/
def isDecimalDigit (c : Char) : Bool := decide ('0' ≤ c ∧ c ≤ '9')

/-- `s LIKE pattern`, for a pattern without escapes. -/
def like : List Char → List Char → Bool
  | [], s => s.isEmpty
  | c :: pattern, s =>
      if c = '%' then s.tails.any (like pattern)
      else match s with
        | [] => false
        | d :: rest => (c = '_' ∨ c = d) && like pattern rest

theorem like_percent (s : List Char) : like ['%'] s = true := by
  simp [like]

theorem like_underscore {pattern s : List Char} :
    like ('_' :: pattern) s = true ↔ ∃ d rest, s = d :: rest ∧ like pattern rest = true := by
  cases s with
  | nil => simp [like]
  | cons d rest => simp [like]

theorem like_cons {c : Char} (hpercent : c ≠ '%') (hunderscore : c ≠ '_') {pattern s : List Char} :
    like (c :: pattern) s = true ↔ ∃ rest, s = c :: rest ∧ like pattern rest = true := by
  cases s with
  | nil => simp [like, hpercent]
  | cons d rest =>
      simp only [like, if_neg hpercent, hunderscore, false_or, Bool.and_eq_true, decide_eq_true_eq,
        List.cons.injEq]
      constructor
      · rintro ⟨rfl, h⟩
        exact ⟨rest, ⟨rfl, rfl⟩, h⟩
      · rintro ⟨_, ⟨rfl, rfl⟩, h⟩
        exact ⟨rfl, h⟩

theorem isHexDigit_of_decimal {c : Char} (h : isDecimalDigit c = true) : isHexDigit c = true := by
  rw [isHexDigit, hexValue, if_pos (of_decide_eq_true h)]
  rfl

theorem isHexDigit_of_mem {c : Char} (h : c ∈ hexDigits) : isHexDigit c = true := by
  have hall : hexDigits.all isHexDigit = true := by decide
  exact List.all_eq_true.mp hall c h

theorem isHexDigit_bytesToHex {bytes : Bytes} : ∀ c ∈ bytesToHex bytes, isHexDigit c = true := by
  intro c hc
  obtain ⟨b, -, hc⟩ := List.mem_flatMap.mp hc
  exact isHexDigit_of_mem (mem_hexDigits_of_mem_hexFixed hc)

theorem length_bytesToHex (bytes : Bytes) : (bytesToHex bytes).length = 2 * bytes.length := by
  induction bytes with
  | nil => rfl
  | cons b bytes ih =>
      rw [bytesToHex, List.flatMap_cons, List.length_append, length_hexFixed, ← bytesToHex, ih,
        List.length_cons]
      omega

/-- Two digits a byte. -/
theorem take_bytesToHex (n : Nat) (output : Bytes) :
    (bytesToHex output).take (2 * n) = bytesToHex (output.take n) := by
  induction output generalizing n with
  | nil => rw [List.take_nil, bytesToHex, List.flatMap_nil, List.take_nil]
  | cons b output ih =>
      cases n with
      | zero => rfl
      | succ n =>
          have hlength : (hexFixed 2 b.toNat).length ≤ 2 * (n + 1) := by
            rw [length_hexFixed]
            omega
          have hrest : 2 * (n + 1) - (hexFixed 2 b.toNat).length = 2 * n := by
            rw [length_hexFixed]
            omega
          rw [bytesToHex, List.flatMap_cons, List.take_append, List.take_of_length_le hlength, hrest,
            ← bytesToHex, ih, List.take_succ_cons, bytesToHex, bytesToHex, List.flatMap_cons]

/-- Hexadecimal digits are ASCII letters and digits. -/
theorem toNat_of_isHexDigit {c : Char} (h : isHexDigit c = true) :
    48 ≤ c.toNat ∧ c.toNat ≤ 102 := by
  rw [isHexDigit, hexValue] at h
  split at h
  · next hdigit => exact ⟨hdigit.1, le_trans hdigit.2 (by decide)⟩
  · split at h
    · next hlower => exact ⟨le_trans (by decide) hlower.1, hlower.2⟩
    · split at h
      · next hupper => exact ⟨le_trans (by decide) hupper.1, le_trans hupper.2 (by decide)⟩
      · cases h

end TxIndexer
