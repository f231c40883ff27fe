import Mathlib.Algebra.Order.Ring.Int

/-!
# Decimal text

Reading back the decimal rendering of an integer, which is how the program converts between the
integer types of its libraries.
-/

namespace TxIndexer

/-- One or more digits. -/
def parseDigits (cs : List Char) : Option Nat :=
  if cs ≠ [] ∧ cs.all Char.isDigit then some (Nat.ofDigitChars 10 cs 0) else none

/-- Digits after an optional sign: `parse` of the signed types, and `BigDecimal::from_str` on
text without a fraction or an exponent. -/
def parseInt (s : String) : Option Int :=
  match s.toList with
  | '-' :: digits => (parseDigits digits).map fun n => -(n : Int)
  | '+' :: digits => (parseDigits digits).map fun n => (n : Int)
  | digits => (parseDigits digits).map fun n => (n : Int)

theorem parseDigits_toDigits (n : Nat) : parseDigits (Nat.toDigits 10 n) = some n := by
  have hdigits : (Nat.toDigits 10 n).all Char.isDigit := by
    rw [List.all_eq_true]
    exact fun c hc => Nat.isDigit_of_mem_toDigits (by decide) (by decide) hc
  rw [parseDigits, if_pos ⟨Nat.toDigits_ne_nil, hdigits⟩, Nat.ofDigitChars_ten_toDigits]

/-- An integer is read back from its rendering. -/
@[simp] theorem parseInt_repr (n : Int) : parseInt n.repr = some n := by
  cases n with
  | ofNat n =>
      have hlist : (Int.ofNat n).repr.toList = Nat.toDigits 10 n := by
        simp [Int.repr, Nat.repr]
      have hdigit : ∀ c ∈ Nat.toDigits 10 n, c.isDigit = true :=
        fun c hc => Nat.isDigit_of_mem_toDigits (by decide) (by decide) hc
      unfold parseInt
      rw [hlist]
      split
      · rename_i digits hsign
        exact absurd (hdigit '-' (hsign ▸ List.mem_cons_self)) (by decide)
      · rename_i digits hsign
        exact absurd (hdigit '+' (hsign ▸ List.mem_cons_self)) (by decide)
      · rw [parseDigits_toDigits]
        rfl
  | negSucc n =>
      have hlist : (Int.negSucc n).repr.toList = '-' :: Nat.toDigits 10 (n + 1) := by
        simp [Int.repr, Nat.repr]
      unfold parseInt
      rw [hlist]
      simp only
      rw [parseDigits_toDigits]
      rfl

example : parseInt "-120" = some (-120) := by decide

end TxIndexer
