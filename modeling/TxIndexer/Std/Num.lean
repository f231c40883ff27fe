import Mathlib.Algebra.Order.Ring.Int

/-!
# Machine integers and panics

Unsigned values are naturals and signed ones integers; the `as` casts wrap as Rust's do.
`Checked` is a computation that may panic: an arithmetic overflow, a slice index out of range or
a `clamp` with crossed bounds, none of which a `Result` of the program catches.
-/

namespace TxIndexer

/-- What a panic was raised for. -/
inductive Panic where
  | arithmeticOverflow
  | sliceIndex
  | charBoundary
  | clampBounds
  deriving DecidableEq, Repr

/-- A computation that may panic. -/
abbrev Checked := Except Panic

/-- `u64::MAX`. -/
def u64Max : Nat := 2 ^ 64 - 1

/-- `n as i64` for `n : u64`. -/
def asI64 (n : Nat) : Int := (BitVec.ofNat 64 n).toInt

/-- `n as i32` for `n : u64`. -/
def asI32 (n : Nat) : Int := (BitVec.ofNat 32 n).toInt

/-- The result of an `i32` operation. -/
def checkedI32 (i : Int) : Checked Int :=
  if -2 ^ 31 ≤ i ∧ i < 2 ^ 31 then .ok i else .error .arithmeticOverflow

/-- The result of an `i32` operation built without overflow checks. -/
def wrappingI32 (i : Int) : Checked Int := .ok (BitVec.ofInt 32 i).toInt

/-- `Ord::clamp`. -/
def clamp (i low high : Int) : Checked Int :=
  if low ≤ high then .ok (min (max i low) high) else .error .clampBounds

/-- `i as u64` for `i : i64`. -/
def asU64 (i : Int) : Nat := (BitVec.ofInt 64 i).toNat

/-- `u64::saturating_add`. -/
def saturatingAdd (a b : Nat) : Nat := min (a + b) u64Max

theorem asI64_of_lt {n : Nat} (h : n < 2 ^ 63) : asI64 n = n := by
  rw [asI64, BitVec.toInt_eq_toNat_of_lt]
  · simp only [BitVec.toNat_ofNat]; omega
  · simp only [BitVec.toNat_ofNat]; omega

theorem asU64_of_nonneg {i : Int} (h0 : 0 ≤ i) (h : i < 2 ^ 63) : asU64 i = i.toNat := by
  rw [asU64, BitVec.toNat_ofInt]
  omega

theorem checkedI32_of_lt {i : Int} (hlow : -2 ^ 31 ≤ i) (hhigh : i < 2 ^ 31) :
    checkedI32 i = .ok i := if_pos ⟨hlow, hhigh⟩

theorem wrappingI32_of_lt {i : Int} (hlow : -2 ^ 31 ≤ i) (hhigh : i < 2 ^ 31) :
    wrappingI32 i = .ok i := by
  rw [wrappingI32, BitVec.toInt_ofInt, Int.bmod_eq_of_le]
  · omega
  · omega

theorem saturatingAdd_of_le {a b : Nat} (h : a + b ≤ u64Max) : saturatingAdd a b = a + b :=
  Nat.min_eq_left h

end TxIndexer
