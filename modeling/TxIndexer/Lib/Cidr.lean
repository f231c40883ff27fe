import Mathlib.Data.BitVec

/-!
# Address blocks

A block of addresses is a network address with a prefix length: the addresses that agree with it
on the leading bits. Programs test membership by extracting the leading bits or by masking.
-/

namespace TxIndexer.Lib

variable {w : Nat}

/-- `a` is in the block `network/len`: both have the same `len` leading bits. -/
def InCidr (network : BitVec w) (len : Nat) (a : BitVec w) : Prop :=
  a.toNat / 2 ^ (w - len) = network.toNat / 2 ^ (w - len)

instance (network : BitVec w) (len : Nat) (a : BitVec w) : Decidable (InCidr network len a) :=
  inferInstanceAs (Decidable (_ = _))

/-- Comparing the leading bits is comparing quotients. -/
theorem extractLsb'_top_eq_iff {s len : Nat} (h : s + len = w) (a : BitVec w) (c : BitVec len) :
    a.extractLsb' s len = c ↔ a.toNat / 2 ^ s = c.toNat := by
  have hlt : a.toNat / 2 ^ s < 2 ^ len := by
    rw [Nat.div_lt_iff_lt_mul (Nat.two_pow_pos s), ← Nat.pow_add, Nat.add_comm len s, h]
    exact a.isLt
  rw [← BitVec.toNat_inj, BitVec.extractLsb'_toNat, Nat.shiftRight_eq_div_pow,
    Nat.mod_eq_of_lt hlt]

/-- So is comparing what a mask of leading ones leaves. -/
theorem and_mask_eq_iff (x network : BitVec w) (s : Nat) :
    x &&& (BitVec.allOnes w <<< s) = network &&& (BitVec.allOnes w <<< s) ↔
      x.toNat / 2 ^ s = network.toNat / 2 ^ s := by
  rw [← Nat.shiftRight_eq_div_pow, ← Nat.shiftRight_eq_div_pow, ← BitVec.toNat_ushiftRight,
    ← BitVec.toNat_ushiftRight, BitVec.toNat_inj]
  constructor
  · intro h
    apply BitVec.eq_of_getLsbD_eq
    intro i hi
    have hbit := congrArg (BitVec.getLsbD · (s + i)) h
    simp only [BitVec.getLsbD_and, BitVec.getLsbD_shiftLeft, BitVec.getLsbD_allOnes] at hbit
    rw [BitVec.getLsbD_ushiftRight, BitVec.getLsbD_ushiftRight]
    by_cases hsi : s + i < w
    · have hs : ¬ s + i < s := Nat.not_lt.mpr (Nat.le_add_right s i)
      have hiw : i < w := hi
      simpa [hsi, hs, hiw] using hbit
    · rw [BitVec.getLsbD_of_ge _ _ (Nat.le_of_not_lt hsi),
        BitVec.getLsbD_of_ge _ _ (Nat.le_of_not_lt hsi)]
  · intro h
    apply BitVec.eq_of_getLsbD_eq
    intro i hi
    simp only [BitVec.getLsbD_and, BitVec.getLsbD_shiftLeft, BitVec.getLsbD_allOnes]
    by_cases hsi : i < s
    · simp [hsi]
    · have hbit := congrArg (BitVec.getLsbD · (i - s)) h
      simp only [BitVec.getLsbD_ushiftRight, Nat.add_sub_of_le (Nat.le_of_not_lt hsi)] at hbit
      rw [hbit]

end TxIndexer.Lib
