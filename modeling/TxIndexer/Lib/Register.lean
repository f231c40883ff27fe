import TxIndexer.Lib.Service
import Mathlib.Data.List.Basic
import Mathlib.Logic.Function.Basic

/-!
# A register that keeps the time of the first write

A map whose entries are written and erased by key. A write replaces the value of an entry and
keeps the time since which it exists. After a run, what a key holds is decided by its last write
and, for the time, by its first write since it was last erased.
-/

namespace TxIndexer.Lib

variable {κ ν θ : Type} [DecidableEq κ]

/-- A value, and the time since which there is one. -/
structure Entry (ν θ : Type) where
  value : ν
  since : θ
  deriving DecidableEq, Repr

/-- A map from keys to entries. -/
abbrev Register (κ ν θ : Type) := κ → Option (Entry ν θ)

/-- A write of a value at a time, or the removal of an entry. -/
inductive RegisterCommand (κ ν θ : Type) where
  | put (k : κ) (v : ν) (now : θ)
  | erase (k : κ)
  deriving DecidableEq, Repr

namespace Register

/-- What a write leaves under its key. -/
def written (before : Option (Entry ν θ)) (v : ν) (now : θ) : Entry ν θ :=
  ⟨v, (before.map Entry.since).getD now⟩

/-- The register after a command, and the entry that the command wrote or removed. -/
def apply (m : Register κ ν θ) : RegisterCommand κ ν θ → Register κ ν θ × Option (Entry ν θ)
  | .put k v now => (Function.update m k (some (written (m k) v now)), some (written (m k) v now))
  | .erase k => (Function.update m k none, m k)

/-- What a command writes to a key. -/
def writeTo (k : κ) : RegisterCommand κ ν θ → Option (ν × θ)
  | .put k' v now => if k' = k then some (v, now) else none
  | .erase _ => none

/-- The writes of some commands to a key. -/
def writes (k : κ) (cs : List (RegisterCommand κ ν θ)) : List (ν × θ) := cs.filterMap (writeTo k)

/-- What a run of writes leaves under their key. -/
def lastWritten (before : Option (Entry ν θ)) : List (ν × θ) → Option (Entry ν θ)
  | [] => before
  | w :: ws => some ⟨((w :: ws).getLast (List.cons_ne_nil w ws)).1,
      (before.map Entry.since).getD w.2⟩

theorem lastWritten_cons (before : Option (Entry ν θ)) (w : ν × θ) (ws : List (ν × θ)) :
    lastWritten before (w :: ws) = lastWritten (some (written before w.1 w.2)) ws := by
  cases ws with
  | nil => rfl
  | cons w' ws => rfl

/-- After commands that do not erase a key, it holds what was written to it last, since the first
of these writes if it held nothing before. -/
theorem serve_apply_of_no_erase (m : Register κ ν θ) {k : κ} {cs : List (RegisterCommand κ ν θ)}
    (h : RegisterCommand.erase k ∉ cs) :
    (serve apply m cs).1 k = lastWritten (m k) (writes k cs) := by
  induction cs generalizing m with
  | nil => rfl
  | cons c cs ih =>
      obtain ⟨hc, hcs⟩ := not_or.mp (mt List.mem_cons.mpr h)
      rw [serve_cons, ih _ hcs]
      cases c with
      | put k' v now =>
          by_cases hk : k' = k
          · subst hk
            have hwrites : writes k' (.put k' v now :: cs) = (v, now) :: writes k' cs :=
              List.filterMap_cons_some (if_pos rfl)
            rw [hwrites, lastWritten_cons]
            simp only [apply, Function.update_self]
          · have hwrites : writes k (.put k' v now :: cs) = writes k cs :=
              List.filterMap_cons_none (if_neg hk)
            rw [hwrites]
            simp only [apply, Function.update_of_ne (Ne.symm hk)]
      | erase k' =>
          have hk : k ≠ k' := fun heq => hc (heq ▸ rfl)
          have hwrites : writes k (.erase k' :: cs) = writes k cs := List.filterMap_cons_none rfl
          rw [hwrites]
          simp only [apply, Function.update_of_ne hk]

/-- What was there before a key was erased does not show after it. -/
theorem serve_apply_after_erase (m : Register κ ν θ) {k : κ} (before : List (RegisterCommand κ ν θ))
    {cs : List (RegisterCommand κ ν θ)} (h : RegisterCommand.erase k ∉ cs) :
    (serve apply m (before ++ .erase k :: cs)).1 k = lastWritten none (writes k cs) := by
  rw [serve_append, serve_cons, serve_apply_of_no_erase _ h]
  simp only [apply, Function.update_self]

end Register

end TxIndexer.Lib
