import Mathlib.Algebra.Order.Ring.Int
import Mathlib.Algebra.Order.Floor.Ring
import Mathlib.Data.Int.Log
import Mathlib.Data.Rat.Floor
import Mathlib.Tactic.Linarith
import Mathlib.Tactic.NormNum
import Mathlib.Tactic.Positivity
import Mathlib.Tactic.Ring

/-!
# Binary64 numbers

The finite numbers of IEEE 754's binary64 as the rationals they stand for, and the nearest of them
to a rational, the even one of two equally near. An integer below `2 ^ 53` is itself such a
number; a larger one is rounded to an integer.
-/

namespace TxIndexer.Lib.Binary64

/-- The nearest integer, the even one of two. -/
def roundEven (q : ℚ) : ℤ :=
  if q - ⌊q⌋ < 1 / 2 then ⌊q⌋
  else if 1 / 2 < q - ⌊q⌋ then ⌊q⌋ + 1
  else if ⌊q⌋ % 2 = 0 then ⌊q⌋ else ⌊q⌋ + 1

/-- The exponent of the last of the 53 places of a number near `q`. -/
def lastPlace (q : ℚ) : ℤ := max (Int.log 2 |q|) (-1022) - 52

/-- The nearest multiple of the unit in the last place. -/
def roundToPlace (place : ℤ) (q : ℚ) : ℚ := roundEven (q / 2 ^ place) * 2 ^ place

/-- The number nearest to `q`, `none` where that is an infinity. -/
def nearest (q : ℚ) : Option ℚ :=
  if |roundToPlace (lastPlace q) q| < 2 ^ 1024 then some (roundToPlace (lastPlace q) q) else none

/-- The number nearest to an integer, as an integer. -/
def nearestInt (n : ℤ) : ℤ :=
  roundEven ((n : ℚ) / 2 ^ (Nat.log 2 n.natAbs - 52)) * 2 ^ (Nat.log 2 n.natAbs - 52)

/-! ## Rounding -/

@[simp] theorem roundEven_intCast (n : ℤ) : roundEven (n : ℚ) = n := by
  have hfloor : (n : ℚ) - ⌊(n : ℚ)⌋ < 1 / 2 := by
    rw [Int.floor_intCast]
    norm_num
  rw [roundEven, if_pos hfloor, Int.floor_intCast]

theorem abs_roundEven_sub_le (q : ℚ) : |(roundEven q : ℚ) - q| ≤ 1 / 2 := by
  have hlow : (⌊q⌋ : ℚ) ≤ q := Int.floor_le q
  have hhigh : q < ⌊q⌋ + 1 := Int.lt_floor_add_one q
  rw [abs_le]
  unfold roundEven
  split
  · constructor <;> linarith
  · split
    · push_cast
      constructor <;> linarith
    · split
      · constructor <;> linarith
      · push_cast
        constructor <;> linarith

/-- A multiple of the unit stays. -/
theorem roundToPlace_of_multiple {place n : ℤ} {q : ℚ} (h : q = n * 2 ^ place) :
    roundToPlace place q = q := by
  have hunit : (2 : ℚ) ^ place ≠ 0 := zpow_ne_zero place two_ne_zero
  have hquotient : q / 2 ^ place = n := by rw [h, mul_div_cancel_right₀ _ hunit]
  rw [roundToPlace, hquotient, roundEven_intCast, ← h]

theorem abs_roundToPlace_sub_le (place : ℤ) (q : ℚ) :
    |roundToPlace place q - q| ≤ 2 ^ place / 2 := by
  have hunit : (0 : ℚ) < 2 ^ place := zpow_pos two_pos place
  have hsplit : roundToPlace place q - q =
      ((roundEven (q / 2 ^ place) : ℚ) - q / 2 ^ place) * 2 ^ place := by
    rw [roundToPlace, sub_mul, div_mul_cancel₀ _ hunit.ne']
  rw [hsplit, abs_mul, abs_of_pos hunit]
  calc |(roundEven (q / 2 ^ place) : ℚ) - q / 2 ^ place| * 2 ^ place
      ≤ 1 / 2 * 2 ^ place :=
        mul_le_mul_of_nonneg_right (abs_roundEven_sub_le (q / 2 ^ place)) hunit.le
    _ = 2 ^ place / 2 := by ring

/-! ## Integers -/

theorem lastPlace_intCast (n : ℤ) : lastPlace n = (Nat.log 2 n.natAbs : ℤ) - 52 := by
  have habs : |(n : ℚ)| = (n.natAbs : ℚ) := by
    rw [← Int.cast_abs, Int.abs_eq_natAbs, Int.cast_natCast]
  rw [lastPlace, habs, Int.log_natCast, max_eq_left (by omega)]

/-- Below `2 ^ 53` the unit in the last place divides an integer. -/
theorem roundToPlace_of_log_le {n : ℤ} (h : Nat.log 2 n.natAbs ≤ 52) :
    roundToPlace (lastPlace n) n = n := by
  obtain ⟨k, hk⟩ := Nat.exists_eq_add_of_le h
  have hplace : lastPlace n = -(k : ℤ) := by
    rw [lastPlace_intCast]
    omega
  have hmultiple : (n : ℚ) = ((n * 2 ^ k : ℤ) : ℚ) * 2 ^ lastPlace n := by
    rw [hplace, zpow_neg, zpow_natCast]
    push_cast
    rw [mul_inv_cancel_right₀ (pow_ne_zero k two_ne_zero)]
  exact roundToPlace_of_multiple hmultiple

/-- Rounding an integer gives an integer. -/
theorem roundToPlace_intCast (n : ℤ) : roundToPlace (lastPlace n) n = nearestInt n := by
  rcases Nat.le_total (Nat.log 2 n.natAbs) 52 with h | h
  · rw [roundToPlace_of_log_le h, nearestInt, Nat.sub_eq_zero_of_le h, pow_zero, div_one,
      roundEven_intCast, pow_zero, mul_one]
  · have hplace : lastPlace n = ((Nat.log 2 n.natAbs - 52 : ℕ) : ℤ) := by
      rw [lastPlace_intCast, Nat.cast_sub h, Nat.cast_ofNat]
    rw [roundToPlace, nearestInt, hplace, zpow_natCast]
    push_cast
    rfl

/-- Up to `2 ^ 53` an integer is itself. -/
theorem nearestInt_of_le {n : ℤ} (h : n.natAbs ≤ 2 ^ 53) : nearestInt n = n := by
  rcases Nat.lt_or_eq_of_le h with hlt | heq
  · have hlog : Nat.log 2 n.natAbs ≤ 52 := by
      rcases Nat.eq_zero_or_pos n.natAbs with hzero | hpos
      · rw [hzero, Nat.log_zero_right]
        exact Nat.zero_le _
      · exact Nat.lt_succ_iff.mp (Nat.log_lt_of_lt_pow hpos.ne' hlt)
    have hround := roundToPlace_intCast n
    rw [roundToPlace_of_log_le hlog] at hround
    exact_mod_cast hround.symm
  · have hlog : Nat.log 2 n.natAbs - 52 = 1 := by
      rw [heq, Nat.log_pow Nat.one_lt_two]
    have heven : (n : ℚ) / 2 ^ 1 = ((n / 2 : ℤ) : ℚ) := by
      have hdvd : (2 : ℤ) ∣ n := by
        rw [← Int.natAbs_dvd_natAbs, heq]
        exact Dvd.intro_left (2 ^ 52) rfl
      rw [Int.cast_div hdvd two_ne_zero, pow_one, Int.cast_ofNat]
    rw [nearestInt, hlog, heven, roundEven_intCast, pow_one]
    omega

/-- A larger integer moves by half a unit in the last place at most. -/
theorem abs_nearestInt_sub_le (n : ℤ) :
    |(nearestInt n : ℚ) - n| ≤ 2 ^ ((Nat.log 2 n.natAbs : ℤ) - 52) / 2 := by
  rw [← roundToPlace_intCast, ← lastPlace_intCast]
  exact abs_roundToPlace_sub_le (lastPlace n) n

/-- An integer of 64 bits is rounded to an integer, and never to an infinity. -/
theorem nearest_intCast {n : ℤ} (h : n.natAbs ≤ 2 ^ 63) : nearest n = some (nearestInt n : ℚ) := by
  have hlog : (Nat.log 2 n.natAbs : ℤ) - 52 ≤ 11 := by
    have hmono := Nat.log_mono_right (b := 2) h
    rw [Nat.log_pow Nat.one_lt_two] at hmono
    omega
  have hunit : (2 : ℚ) ^ ((Nat.log 2 n.natAbs : ℤ) - 52) ≤ 2 ^ (11 : ℤ) :=
    zpow_le_zpow_right₀ one_le_two hlog
  have hsize : |(n : ℚ)| ≤ 2 ^ 63 := by
    rw [← Int.cast_abs, Int.abs_eq_natAbs, Int.cast_natCast]
    exact_mod_cast h
  have hfinite : |(nearestInt n : ℚ)| < 2 ^ 1024 := by
    calc |(nearestInt n : ℚ)| = |((nearestInt n : ℚ) - n) + n| := by rw [sub_add_cancel]
      _ ≤ |(nearestInt n : ℚ) - n| + |(n : ℚ)| := abs_add_le _ _
      _ ≤ 2 ^ (11 : ℤ) / 2 + 2 ^ 63 := by
          have hmoved := abs_nearestInt_sub_le n
          linarith
      _ ≤ 2 ^ 64 := by norm_num
      _ < 2 ^ 1024 := pow_lt_pow_right₀ one_lt_two (by norm_num)
  rw [nearest, roundToPlace_intCast, if_pos hfinite]

end TxIndexer.Lib.Binary64
