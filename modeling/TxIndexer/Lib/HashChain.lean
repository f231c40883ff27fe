import Mathlib.Data.List.Chain
import Mathlib.Logic.Function.Iterate

/-!
# Hash-linked chains

A block hash commits to the hash of its parent, which `parent` reads off. A chain lists the
hash at each height up to its head; `linked` says that each block's parent is the block one
height below. Two chains that agree at a height therefore agree at every lower one.
-/

namespace TxIndexer.Lib

variable {H : Type}

/-- A chain of blocks by height, absent above its head. -/
structure HashChain (parent : H → H) where
  hashAt : Nat → Option H
  linked : ∀ n h, hashAt (n + 1) = some h → hashAt n = some (parent h)

namespace HashChain

variable {parent : H → H}

/-- The chain of some hashes from height 0 on. -/
def ofList (hashes : List H) (hlinked : hashes.IsChain fun a b => a = parent b) :
    HashChain parent where
  hashAt n := hashes[n]?
  linked n h hn := by
    obtain ⟨hlt, rfl⟩ := List.getElem?_eq_some_iff.mp hn
    rw [List.getElem?_eq_getElem (Nat.lt_of_succ_lt hlt)]
    exact congrArg some (List.isChain_iff_getElem.mp hlinked n hlt)

/-- The block of a chain at a lower height is an ancestor of the one above it. -/
theorem hashAt_below (c : HashChain parent) {m n : Nat} {h : H} (hc : c.hashAt n = some h)
    (hle : m ≤ n) : c.hashAt m = some (parent^[n - m] h) := by
  obtain ⟨k, rfl⟩ := Nat.exists_eq_add_of_le hle
  rw [Nat.add_sub_cancel_left]
  induction k generalizing h with
  | zero => exact hc
  | succ k ih => exact ih (c.linked (m + k) h hc) (Nat.le_add_right m k)

/-- The chain that ends with a block. -/
def ofTip (parent : H → H) (n : Nat) (h : H) : HashChain parent where
  hashAt m := if m ≤ n then some (parent^[n - m] h) else none
  linked m h' hm := by
    by_cases hle : m + 1 ≤ n
    · rw [if_pos hle, Option.some.injEq] at hm
      rw [if_pos (Nat.le_of_succ_le hle), ← hm, ← Function.iterate_succ_apply' parent]
      congr 2
      omega
    · rw [if_neg hle] at hm
      cases hm

end HashChain

/-- Of two blocks, given by height and hash, one is an ancestor of the other. -/
def Linked (parent : H → H) (m : Nat) (h : H) (n : Nat) (h' : H) : Prop :=
  (m ≤ n → parent^[n - m] h' = h) ∧ (n ≤ m → parent^[m - n] h = h')

theorem Linked.symm {parent : H → H} {m n : Nat} {h h' : H} (hl : Linked parent m h n h') :
    Linked parent n h' m h := And.symm hl

theorem Linked.refl (parent : H → H) (m : Nat) (h : H) : Linked parent m h m h := by
  simp [Linked]

end TxIndexer.Lib
