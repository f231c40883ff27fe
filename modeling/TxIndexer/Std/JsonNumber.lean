import Mathlib.Data.List.TakeWhile
import TxIndexer.Lib.Binary64
import TxIndexer.Std.Decimal
import TxIndexer.Std.Json
import TxIndexer.Std.Num

/-!
# JSON numbers

What the two readers of this program make of the literal of a number: `JSON.parse` the nearest
binary64 number, `serde_json` a machine integer where the literal is written as one.
-/

namespace TxIndexer

/-- The parts of a literal. -/
structure NumberLiteral where
  negative : Bool
  whole : List Char
  fraction : List Char
  exponent : Option Int

namespace NumberLiteral

/-- The digits after an `e`. -/
def parseExponent : List Char → Option (Option Int)
  | [] => some none
  | e :: '+' :: digits =>
      if e = 'e' ∨ e = 'E' then (parseDigits digits).map fun n => some (n : Int) else none
  | e :: '-' :: digits =>
      if e = 'e' ∨ e = 'E' then (parseDigits digits).map fun n => some (-(n : Int)) else none
  | e :: digits =>
      if e = 'e' ∨ e = 'E' then (parseDigits digits).map fun n => some (n : Int) else none

/-- The digits after a `.`, and what follows them. -/
def splitFraction : List Char → Option (List Char × List Char)
  | '.' :: cs =>
      if cs.takeWhile Char.isDigit = [] then none
      else some (cs.takeWhile Char.isDigit, cs.dropWhile Char.isDigit)
  | cs => some ([], cs)

/-- A literal without its sign. -/
def parseUnsigned (negative : Bool) (cs : List Char) : Option NumberLiteral :=
  if cs.takeWhile Char.isDigit = [] then none
  else do
    let (fraction, rest) ← splitFraction (cs.dropWhile Char.isDigit)
    let exponent ← parseExponent rest
    return ⟨negative, cs.takeWhile Char.isDigit, fraction, exponent⟩

/-- The parts of a literal of the grammar. -/
def parse (literal : String) : Option NumberLiteral :=
  match literal.toList with
  | '-' :: cs => parseUnsigned true cs
  | cs => parseUnsigned false cs

/-- The number a literal stands for. -/
def value (l : NumberLiteral) : ℚ :=
  (if l.negative then -1 else 1) * (Nat.ofDigitChars 10 (l.whole ++ l.fraction) 0 : ℚ) *
    10 ^ (l.exponent.getD 0 - l.fraction.length)

/-- The integer of a literal without a fraction and an exponent. `serde_json` reads `-0` as a
floating-point number. -/
def integer (l : NumberLiteral) : Option Int :=
  if l.fraction ≠ [] ∨ l.exponent.isSome then none
  else if l.negative then
    if Nat.ofDigitChars 10 l.whole 0 = 0 then none else some (-(Nat.ofDigitChars 10 l.whole 0 : Int))
  else some (Nat.ofDigitChars 10 l.whole 0)

/-! ## Rendered integers -/

theorem takeWhile_toDigits (n : Nat) :
    (Nat.toDigits 10 n).takeWhile Char.isDigit = Nat.toDigits 10 n := by
  rw [List.takeWhile_eq_self_iff]
  exact fun c hc => Nat.isDigit_of_mem_toDigits (by decide) (by decide) hc

theorem dropWhile_toDigits (n : Nat) : (Nat.toDigits 10 n).dropWhile Char.isDigit = [] := by
  rw [List.dropWhile_eq_nil_iff]
  exact fun c hc => Nat.isDigit_of_mem_toDigits (by decide) (by decide) hc

theorem parseUnsigned_toDigits (negative : Bool) (n : Nat) :
    parseUnsigned negative (Nat.toDigits 10 n) = some ⟨negative, Nat.toDigits 10 n, [], none⟩ := by
  rw [parseUnsigned, takeWhile_toDigits, dropWhile_toDigits, if_neg Nat.toDigits_ne_nil]
  rfl

/-- A rendered integer is a sign and digits. -/
theorem parse_repr (n : Int) :
    parse n.repr = some ⟨decide (n < 0), Nat.toDigits 10 n.natAbs, [], none⟩ := by
  cases n with
  | ofNat n =>
      have hlist : (Int.ofNat n).repr.toList = Nat.toDigits 10 n := by
        simp [Int.repr, Nat.repr]
      unfold parse
      rw [hlist]
      split
      · rename_i digits hsign
        have hminus : '-' ∈ Nat.toDigits 10 n := hsign ▸ List.mem_cons_self
        exact absurd (Nat.isDigit_of_mem_toDigits (by decide) (by decide) hminus) (by decide)
      · exact parseUnsigned_toDigits false n
  | negSucc n =>
      have hlist : (Int.negSucc n).repr.toList = '-' :: Nat.toDigits 10 (n + 1) := by
        simp [Int.repr, Nat.repr]
      unfold parse
      rw [hlist]
      simp only [parseUnsigned_toDigits, Int.negSucc_lt_zero, decide_true, Int.natAbs_negSucc]

theorem value_repr (n : Int) : (parse n.repr).map value = some (n : ℚ) := by
  rw [parse_repr, Option.map_some, Option.some.injEq]
  simp only [value, List.append_nil, Nat.ofDigitChars_ten_toDigits, Option.getD_none,
    List.length_nil, Nat.cast_zero, sub_zero, zpow_zero, mul_one, decide_eq_true_eq]
  split
  · next hneg =>
      have hcast : ((n.natAbs : ℤ) : ℚ) = -n := by
        rw [Int.ofNat_natAbs_of_nonpos hneg.le, Int.cast_neg]
      rw [← Int.cast_natCast, hcast, neg_mul_neg, one_mul]
  · next hpos =>
      rw [one_mul, ← Int.cast_natCast, Int.natAbs_of_nonneg (Int.not_lt.mp hpos)]

theorem integer_repr (n : Int) : (parse n.repr).bind integer = some n := by
  rw [parse_repr, Option.bind_some]
  simp only [integer, ne_eq, not_true_eq_false, Option.isSome_none, Bool.false_eq_true, or_self,
    if_false, decide_eq_true_eq, Nat.ofDigitChars_ten_toDigits]
  split
  · next hneg =>
      rw [if_neg (by omega), Int.ofNat_natAbs_of_nonpos hneg.le, neg_neg]
  · next hpos => rw [Int.natAbs_of_nonneg (Int.not_lt.mp hpos)]

end NumberLiteral

/-- What an `i64` holds. -/
def FitsI64 (n : Int) : Prop := -2 ^ 63 ≤ n ∧ n < 2 ^ 63

instance (n : Int) : Decidable (FitsI64 n) := inferInstanceAs (Decidable (_ ∧ _))

/-- The number `JSON.parse` makes of a literal: `none` where it is an infinity. -/
def jsNumber (literal : String) : Option ℚ :=
  (NumberLiteral.parse literal).bind fun l => Lib.Binary64.nearest l.value

/-- The `i64` that `serde_json` makes of a literal. -/
def serdeI64 (literal : String) : Option Int :=
  ((NumberLiteral.parse literal).bind NumberLiteral.integer).filter (FitsI64 ·)

theorem jsNumber_repr {n : Int} (h : FitsI64 n) :
    jsNumber n.repr = some (Lib.Binary64.nearestInt n : ℚ) := by
  have hvalue := NumberLiteral.value_repr n
  rw [NumberLiteral.parse_repr, Option.map_some, Option.some.injEq] at hvalue
  obtain ⟨hlow, hhigh⟩ := h
  rw [jsNumber, NumberLiteral.parse_repr, Option.bind_some, hvalue,
    Lib.Binary64.nearest_intCast (by omega)]

theorem serdeI64_repr {n : Int} (h : FitsI64 n) : serdeI64 n.repr = some n := by
  rw [serdeI64, NumberLiteral.integer_repr]
  exact Option.filter_some_pos (decide_eq_true h)

end TxIndexer
