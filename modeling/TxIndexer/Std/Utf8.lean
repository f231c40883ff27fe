import TxIndexer.Std.Utf8Lossy

/-!
# Encoding in UTF-8

The bytes of a string, and that the lossy decoder reads them back: on well-formed input it loses
nothing.
-/

namespace TxIndexer

/-- `str::as_bytes`. -/
def utf8Bytes (s : String) : Bytes := s.toUTF8.data.toList

theorem utf8Bytes_eq_flatMap (s : String) :
    utf8Bytes s = s.toList.flatMap String.utf8EncodeChar := by
  have hbytes : s.toUTF8 = (s.toList.flatMap String.utf8EncodeChar).toByteArray :=
    String.utf8Encode_toList.symm
  rw [utf8Bytes, hbytes, List.toList_data_toByteArray]

theorem scalarChar_toNat (c : Char) : scalarChar c.toNat = c := by
  have hvalid : c.toNat.isValidChar := c.valid
  rw [scalarChar, if_pos hvalid, Char.ofNat_toNat]

namespace Utf8State

/-- A byte below 256, as the range tests of the machine see it. -/
theorem toNat_ofNat_of_lt {v : Nat} (h : v < 256) : (UInt8.ofNat v).toNat = v := by
  rw [UInt8.toNat_ofNat']
  exact Nat.mod_eq_of_lt h

/-- A continuation byte carries six bits; the last one completes the character. -/
theorem step_last {low high : UInt8} {m : Nat} (acc : Nat) (hm : m < 64)
    (hlow : low.toNat ≤ m + 0x80)
    (hhigh : m + 0x80 ≤ high.toNat) :
    step (.pending 0 low high acc) (.ofNat (m + 0x80)) = ([scalarChar (acc * 64 + m)], .start) := by
  have hbyte := toNat_ofNat_of_lt (show m + 0x80 < 256 by omega)
  rw [step, if_pos]
  · simp only [hbyte, Nat.add_sub_cancel]
  · rw [UInt8.le_iff_toNat_le, UInt8.le_iff_toNat_le, hbyte]
    exact ⟨hlow, hhigh⟩

theorem step_more {low high : UInt8} {m : Nat} (need acc : Nat) (hm : m < 64)
    (hlow : low.toNat ≤ m + 0x80) (hhigh : m + 0x80 ≤ high.toNat) :
    step (.pending (need + 1) low high acc) (.ofNat (m + 0x80)) =
      ([], .pending need 0x80 0xBF (acc * 64 + m)) := by
  have hbyte := toNat_ofNat_of_lt (show m + 0x80 < 256 by omega)
  rw [step, if_pos]
  · simp only [hbyte, Nat.add_sub_cancel]
  · rw [UInt8.le_iff_toNat_le, UInt8.le_iff_toNat_le, hbyte]
    exact ⟨hlow, hhigh⟩

/-- The lead byte of a character of two bytes. -/
theorem lead_two : ∀ h < 32, 2 ≤ h →
    lead (.ofNat (h + 0xC0)) = ([], .pending 0 0x80 0xBF h) := by
  decide

/-- The range of the second byte of a character of three bytes, by the low bits of its lead byte:
the character is at least U+0800 and no surrogate. -/
def secondOfThree (h : Nat) : UInt8 × UInt8 :=
  if h = 0 then (0xA0, 0xBF) else if h = 0x0D then (0x80, 0x9F) else (0x80, 0xBF)

/-- The same for four bytes: the character is between U+10000 and U+10FFFF. -/
def secondOfFour (h : Nat) : UInt8 × UInt8 :=
  if h = 0 then (0x90, 0xBF) else if h = 4 then (0x80, 0x8F) else (0x80, 0xBF)

theorem lead_three : ∀ h < 16, lead (.ofNat (h + 0xE0)) =
    ([], .pending 1 (secondOfThree h).1 (secondOfThree h).2 h) := by
  decide

theorem lead_four : ∀ h < 5, lead (.ofNat (h + 0xF0)) =
    ([], .pending 2 (secondOfFour h).1 (secondOfFour h).2 h) := by
  decide

theorem mem_secondOfThree {h m : Nat} (hm : m < 64) (hmin : 0x20 ≤ h * 64 + m)
    (hsurrogate : h * 64 + m < 0x360 ∨ 0x380 ≤ h * 64 + m) :
    (secondOfThree h).1.toNat ≤ m + 0x80 ∧ m + 0x80 ≤ (secondOfThree h).2.toNat := by
  unfold secondOfThree
  split
  · simp; omega
  split
  · simp; omega
  · simp; omega

theorem mem_secondOfFour {h m : Nat} (hm : m < 64) (hmin : 0x10 ≤ h * 64 + m)
    (hmax : h * 64 + m < 0x110) :
    (secondOfFour h).1.toNat ≤ m + 0x80 ∧ m + 0x80 ≤ (secondOfFour h).2.toNat := by
  unfold secondOfFour
  split
  · simp; omega
  split
  · simp; omega
  · simp; omega

end Utf8State

/-- Reading the encoding of a character gives the character. -/
theorem utf8LossyFrom_utf8EncodeChar (c : Char) (rest : Bytes) :
    utf8LossyFrom .start (String.utf8EncodeChar c ++ rest) = c :: utf8LossyFrom .start rest := by
  have hchar := scalarChar_toNat c
  have hvalid : c.toNat < 0xD800 ∨ 0xDFFF < c.toNat ∧ c.toNat < 0x110000 := c.valid
  have hv : c.val.toNat = c.toNat := rfl
  unfold String.utf8EncodeChar
  simp only [hv]
  generalize c.toNat = v at hchar hvalid
  have hplain : ∀ m < 64, (0x80 : UInt8).toNat ≤ m + 0x80 ∧ m + 0x80 ≤ (0xBF : UInt8).toNat := by
    intro m hm
    simp
    omega
  by_cases hone : v ≤ 0x7F
  · have hbyte := Utf8State.toNat_ofNat_of_lt (show v < 256 by omega)
    have hlead : Utf8State.lead (.ofNat v) = ([scalarChar v], .start) := by
      rw [Utf8State.lead, if_pos]
      · rw [hbyte]
      · rw [UInt8.le_iff_toNat_le, hbyte]
        exact hone
    rw [if_pos hone, List.singleton_append, utf8LossyFrom, Utf8State.step, hlead, hchar]
    rfl
  rw [if_neg hone]
  by_cases htwo : v ≤ 0x7FF
  · have hlead := Utf8State.lead_two (v / 64 % 32) (by omega) (by omega)
    have hlast := hplain (v % 64) (by omega)
    have hstep := Utf8State.step_last (v / 64 % 32) (by omega) hlast.1 hlast.2
    have hsum : v / 64 % 32 * 64 + v % 64 = v := by omega
    rw [if_pos htwo]
    simp only [List.cons_append, List.nil_append, utf8LossyFrom, Utf8State.step.eq_1, hlead, hstep,
      hsum, hchar]
  rw [if_neg htwo]
  have hlast := hplain (v % 64) (by omega)
  by_cases hthree : v ≤ 0xFFFF
  · have hlead := Utf8State.lead_three (v / 4096 % 16) (by omega)
    have hsecond := Utf8State.mem_secondOfThree (h := v / 4096 % 16) (m := v / 64 % 64) (by omega)
      (by omega) (by omega)
    have hstep := Utf8State.step_more 0 (v / 4096 % 16) (by omega) hsecond.1
      hsecond.2
    have hfinal := Utf8State.step_last (v / 4096 % 16 * 64 + v / 64 % 64) (by omega) hlast.1
      hlast.2
    have hsum : (v / 4096 % 16 * 64 + v / 64 % 64) * 64 + v % 64 = v := by omega
    rw [if_pos hthree]
    simp only [List.cons_append, List.nil_append, utf8LossyFrom, Utf8State.step.eq_1, hlead, hstep,
      hfinal, hsum, hchar]
  · have hlead := Utf8State.lead_four (v / 262144 % 8) (by omega)
    have hsecond := Utf8State.mem_secondOfFour (h := v / 262144 % 8) (m := v / 4096 % 64) (by omega)
      (by omega) (by omega)
    have hthird := hplain (v / 64 % 64) (by omega)
    have hstep := Utf8State.step_more 1 (v / 262144 % 8) (by omega) hsecond.1
      hsecond.2
    have hstep' := Utf8State.step_more 0 (v / 262144 % 8 * 64 + v / 4096 % 64)
      (by omega) hthird.1 hthird.2
    have hfinal := Utf8State.step_last
      ((v / 262144 % 8 * 64 + v / 4096 % 64) * 64 + v / 64 % 64) (by omega) hlast.1 hlast.2
    have hsum : ((v / 262144 % 8 * 64 + v / 4096 % 64) * 64 + v / 64 % 64) * 64 + v % 64 = v := by
      omega
    rw [if_neg hthree]
    simp only [List.cons_append, List.nil_append, utf8LossyFrom, Utf8State.step.eq_1, hlead, hstep,
      hstep', hfinal, hsum, hchar]

/-- Nothing of a string is lost. -/
theorem utf8Lossy_utf8Bytes (s : String) : utf8Lossy (utf8Bytes s) = s.toList := by
  rw [utf8Lossy, utf8Bytes_eq_flatMap]
  generalize s.toList = cs
  induction cs with
  | nil => rfl
  | cons c cs ih => rw [List.flatMap_cons, utf8LossyFrom_utf8EncodeChar, ih]

end TxIndexer
