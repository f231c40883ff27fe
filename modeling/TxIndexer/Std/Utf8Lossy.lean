import TxIndexer.Std.Hex

/-!
# Lossy UTF-8 decoding

`String::from_utf8_lossy` as a machine that reads one byte at a time. It owes continuation
bytes after a lead byte; a byte outside the range it owes ends the maximal valid prefix, which
becomes one U+FFFD, and is read again as the start of a character.
-/

namespace TxIndexer

/-- The replacement character. -/
def replacementChar : Char := '\uFFFD'

/-- The character with a scalar value; the byte ranges below never ask for another value. -/
def scalarChar (n : Nat) : Char := if n.isValidChar then Char.ofNat n else replacementChar

/-- Between bytes: at the start of a character, or owing `need + 1` continuation bytes, the
next one in `low..=high`, with `acc` the bits read so far. -/
inductive Utf8State where
  | start
  | pending (need : Nat) (low high : UInt8) (acc : Nat)
  deriving DecidableEq, Repr

/-- Read a byte at the start of a character. -/
def Utf8State.lead (b : UInt8) : List Char × Utf8State :=
  if b ≤ 0x7F then ([scalarChar b.toNat], .start)
  else if 0xC2 ≤ b ∧ b ≤ 0xDF then ([], .pending 0 0x80 0xBF (b.toNat - 0xC0))
  else if b = 0xE0 then ([], .pending 1 0xA0 0xBF 0)
  else if b = 0xED then ([], .pending 1 0x80 0x9F 0x0D)
  else if 0xE1 ≤ b ∧ b ≤ 0xEF then ([], .pending 1 0x80 0xBF (b.toNat - 0xE0))
  else if b = 0xF0 then ([], .pending 2 0x90 0xBF 0)
  else if 0xF1 ≤ b ∧ b ≤ 0xF3 then ([], .pending 2 0x80 0xBF (b.toNat - 0xF0))
  else if b = 0xF4 then ([], .pending 2 0x80 0x8F 4)
  else ([replacementChar], .start)

/-- Read one byte. -/
def Utf8State.step : Utf8State → UInt8 → List Char × Utf8State
  | .start, b => lead b
  | .pending need low high acc, b =>
      if low ≤ b ∧ b ≤ high then
        let acc := acc * 64 + (b.toNat - 0x80)
        match need with
        | 0 => ([scalarChar acc], .start)
        | need + 1 => ([], .pending need 0x80 0xBF acc)
      else (replacementChar :: (lead b).1, (lead b).2)

/-- The input ended. -/
def Utf8State.finish : Utf8State → List Char
  | .start => []
  | .pending .. => [replacementChar]

/-- Decode the rest of the input from a state of the machine. -/
def utf8LossyFrom : Utf8State → Bytes → List Char
  | s, [] => s.finish
  | s, b :: bs => (s.step b).1 ++ utf8LossyFrom (s.step b).2 bs

/-- `String::from_utf8_lossy(bytes)`. -/
def utf8Lossy (bytes : Bytes) : List Char := utf8LossyFrom .start bytes

/-! ## NUL bytes and NUL characters -/

theorem scalarChar_eq_nul {n : Nat} : scalarChar n = '\x00' ↔ n = 0 := by
  constructor
  · intro h
    unfold scalarChar at h
    split at h
    · rename_i hvalid
      have hval : (Char.ofNat n).toNat = n := by
        rw [Char.ofNat, dif_pos hvalid]; rfl
      rw [← hval, h]; rfl
    · exact absurd h (by decide)
  · rintro rfl; decide

/-- A pending character is not NUL, whatever follows, and NUL continues none. -/
def Utf8State.NonNul : Utf8State → Prop
  | .start => True
  | .pending _ low _ acc => 0x80 ≤ low ∧ (0 < acc ∨ 0x80 < low)

/-- A lead byte yields NUL exactly when it is NUL, and owes a character other than NUL. -/
theorem Utf8State.lead_spec (b : UInt8) :
    ('\x00' ∈ (lead b).1 ↔ b = 0) ∧ (lead b).2.NonNul := by
  by_cases hascii : b ≤ 0x7F
  · have hzero : 0 = b.toNat ↔ b = 0 := by
      rw [← UInt8.toNat_inj, UInt8.toNat_zero, eq_comm]
    simp [lead, hascii, NonNul, eq_comm (a := '\x00'), scalarChar_eq_nul, eq_comm (b := 0), hzero]
  · have hb : b ≠ 0 := by rintro rfl; exact hascii (by decide)
    have hrep : '\x00' ≠ replacementChar := by decide
    unfold lead
    rw [if_neg hascii]
    simp only [UInt8.le_iff_toNat_le] at hascii ⊢
    repeat' split
    all_goals simp_all [NonNul, UInt8.le_iff_toNat_le]
    all_goals omega

/-- One byte yields NUL exactly when it is NUL. -/
theorem Utf8State.step_spec {s : Utf8State} (hs : s.NonNul) (b : UInt8) :
    ('\x00' ∈ (s.step b).1 ↔ b = 0) ∧ (s.step b).2.NonNul := by
  cases s with
  | start => exact lead_spec b
  | pending need low high acc =>
      obtain ⟨hlow, hpos⟩ := hs
      simp only [step]
      split
      · rename_i hrange
        simp only [UInt8.le_iff_toNat_le, UInt8.lt_iff_toNat_lt] at hlow hpos hrange
        have hb : b ≠ 0 := by rintro rfl; simp at hrange hlow; omega
        have hacc : 0 < acc * 64 + (b.toNat - 0x80) := by
          rcases hpos with hpos | hpos
          · omega
          · simp at hpos; omega
        cases need with
        | zero =>
            have hchar : '\x00' ≠ scalarChar (acc * 64 + (b.toNat - 0x80)) :=
              fun h => absurd (scalarChar_eq_nul.mp h.symm) (by omega)
            simpa [NonNul, hb] using hchar
        | succ need => simpa [NonNul, hb] using hacc
      · have hrep : '\x00' ≠ replacementChar := by decide
        simpa [hrep] using lead_spec b

/-- Decoding yields NUL exactly when a NUL byte is left. -/
theorem nul_mem_utf8LossyFrom (bytes : Bytes) :
    ∀ s : Utf8State, s.NonNul → ('\x00' ∈ utf8LossyFrom s bytes ↔ 0 ∈ bytes) := by
  induction bytes with
  | nil =>
      intro s _
      cases s <;> simp [utf8LossyFrom, Utf8State.finish, replacementChar]
  | cons b bs ih =>
      intro s hs
      obtain ⟨hmem, hnext⟩ := Utf8State.step_spec hs b
      rw [utf8LossyFrom, List.mem_append, hmem, ih _ hnext, List.mem_cons, eq_comm]

/-- A decoded string has a NUL character exactly when the bytes have a NUL byte. -/
theorem nul_mem_utf8Lossy (bytes : Bytes) : '\x00' ∈ utf8Lossy bytes ↔ 0 ∈ bytes :=
  nul_mem_utf8LossyFrom bytes .start trivial

/-- A surrogate and a truncated character: one replacement for each maximal valid prefix. -/
example : utf8Lossy [0x41, 0xED, 0xA0, 0x80, 0xE2, 0x82] =
    ['A', '\uFFFD', '\uFFFD', '\uFFFD', '\uFFFD'] := by decide

end TxIndexer
