import Mathlib.Data.List.Perm.Basic
import TxIndexer.Proofs.UserProfile

/-!
# Profiles and the order of swaps

A profile is its swaps folded one by one. They are counted, and their latest time is kept, in any
order to the same end; `first_seen` alone is the time of the swap that came first and stays so.
-/

namespace TxIndexer.Db

/-- A profile without `first_seen`. -/
structure LastingProfile where
  label : Option String
  lastSeen : Int
  totalSwaps : Nat
  totalVolumeUsd : Nat
  deriving DecidableEq, Repr

def UserProfile.lasting (p : UserProfile) : LastingProfile where
  label := p.label
  lastSeen := p.lastSeen
  totalSwaps := p.totalSwaps
  totalVolumeUsd := p.totalVolumeUsd

/-- What a swap adds to `total_swaps` of a user, if the user has a part in it. -/
def SwapEvent.adds (user : String) (e : SwapEvent) : Option Nat :=
  if user = e.sender then some 1 else if user = e.recipient then some 0 else none

/-- The profile of a user once the trigger has fired for a swap. -/
def UserProfile.afterSwap (user : String) (o : Option UserProfile) (e : SwapEvent) :
    Option UserProfile :=
  match e.adds user with
  | none => o
  | some swaps => some (.upserted user e.timestamp swaps o)

/-- What a swap of the user makes of a profile without `first_seen`. -/
def LastingProfile.upserted (timestamp : Int) (swaps : Nat) :
    Option LastingProfile → LastingProfile
  | none => ⟨none, timestamp, swaps, 0⟩
  | some p => { p with lastSeen := max p.lastSeen timestamp, totalSwaps := p.totalSwaps + swaps }

def LastingProfile.afterSwap (user : String) (o : Option LastingProfile) (e : SwapEvent) :
    Option LastingProfile :=
  match e.adds user with
  | none => o
  | some swaps => some (.upserted e.timestamp swaps o)

/-- The swaps a profile counts. -/
def totalSwapsOf (o : Option UserProfile) : Nat := o.elim 0 UserProfile.totalSwaps

variable {user : String} {rows rows' : List SwapEvent} {e : SwapEvent} {o : Option UserProfile}

theorem SwapEvent.adds_eq_none : e.adds user = none ↔ ¬ e.HasParty user := by
  unfold SwapEvent.adds SwapEvent.HasParty
  by_cases hs : user = e.sender
  · simp [hs]
  · rw [if_neg hs]
    by_cases hr : user = e.recipient
    · simp [hr]
    · simp [hr, Ne.symm hs, Ne.symm hr]

/-- A swap is counted for its sender. -/
theorem SwapEvent.getD_adds : (e.adds user).getD 0 = if e.sender = user then 1 else 0 := by
  unfold SwapEvent.adds
  by_cases hs : user = e.sender
  · simp [hs]
  · rw [if_neg hs, if_neg (Ne.symm hs)]
    by_cases hr : user = e.recipient
    · rw [if_pos hr]
      rfl
    · rw [if_neg hr]
      rfl

theorem UserProfile.lasting_upserted (timestamp : Int) (swaps : Nat) :
    (UserProfile.upserted user timestamp swaps o).lasting =
      .upserted timestamp swaps (o.map lasting) := by
  cases o <;> rfl

theorem UserProfile.lasting_afterSwap :
    (afterSwap user o e).map lasting = LastingProfile.afterSwap user (o.map lasting) e := by
  unfold afterSwap LastingProfile.afterSwap
  cases e.adds user with
  | none => rfl
  | some swaps => exact congrArg some (lasting_upserted e.timestamp swaps)

/-- `first_seen` apart, the profile is that of the swaps folded without it. -/
theorem UserProfile.lasting_foldl :
    (rows.foldl (afterSwap user) o).map lasting =
      rows.foldl (LastingProfile.afterSwap user) (o.map lasting) := by
  induction rows generalizing o with
  | nil => rfl
  | cons e rows ih => rw [List.foldl_cons, List.foldl_cons, ih, lasting_afterSwap]

theorem LastingProfile.upserted_right_comm (o : Option LastingProfile) (t t' : Int)
    (swaps swaps' : Nat) :
    upserted t' swaps' (some (upserted t swaps o)) =
      upserted t swaps (some (upserted t' swaps' o)) := by
  cases o with
  | none => simp only [upserted, max_comm, Nat.add_comm]
  | some p => simp only [upserted, max_right_comm, Nat.add_right_comm]

/-- Two swaps may come in either order. -/
instance : RightCommutative (LastingProfile.afterSwap user) where
  right_comm o e e' := by
    unfold LastingProfile.afterSwap
    cases e.adds user with
    | none => cases e'.adds user <;> rfl
    | some swaps =>
        cases e'.adds user with
        | none => rfl
        | some swaps' => exact congrArg some (LastingProfile.upserted_right_comm o _ _ _ _)

/-- `first_seen` apart, a profile does not depend on the order in which swaps are stored. -/
theorem lasting_perm (h : rows.Perm rows') :
    (rows.foldl (UserProfile.afterSwap user) o).map UserProfile.lasting =
      (rows'.foldl (UserProfile.afterSwap user) o).map UserProfile.lasting := by
  rw [UserProfile.lasting_foldl, UserProfile.lasting_foldl]
  exact h.foldl_eq _

/-- `first_seen` is that of the profile there was, or else the time of the first of the swaps. -/
theorem UserProfile.firstSeen_foldl :
    (rows.foldl (afterSwap user) o).map firstSeen =
      (o.map firstSeen).or ((swapsOf user rows).head?.map SwapEvent.timestamp) := by
  induction rows generalizing o with
  | nil => cases o <;> rfl
  | cons e rows ih =>
      rw [List.foldl_cons, ih, afterSwap]
      cases hadds : e.adds user with
      | none =>
          have hother : swapsOf user (e :: rows) = swapsOf user rows :=
            List.filter_cons_of_neg (mt of_decide_eq_true (SwapEvent.adds_eq_none.mp hadds))
          rw [hother]
      | some swaps =>
          have hparty : e.HasParty user := by
            by_contra hnone
            rw [SwapEvent.adds_eq_none.mpr hnone] at hadds
            cases hadds
          have hown : swapsOf user (e :: rows) = e :: swapsOf user rows :=
            List.filter_cons_of_pos (decide_eq_true hparty)
          rw [hown]
          cases o <;> rfl

/-! ## The trigger fires -/

variable {profiles profiles' : UserProfiles}

theorem lookup_afterSwap (h : swapUpdateUserProfile profiles e = some profiles') (u : String) :
    profiles'.lookup u = UserProfile.afterSwap u (profiles.lookup u) e := by
  rw [lookup_swapUpdateUserProfile h u, UserProfile.afterSwap, SwapEvent.adds]
  by_cases hs : u = e.sender
  · rw [if_pos hs, if_pos hs]
  · rw [if_neg hs, if_neg hs]
    by_cases hr : u = e.recipient
    · rw [if_pos hr, if_pos hr]
    · rw [if_neg hr, if_neg hr]

/-- The profile of a user after a statement is that of its swaps one by one. -/
theorem lookup_foldlM (h : rows.foldlM swapUpdateUserProfile profiles = some profiles')
    (u : String) :
    profiles'.lookup u = rows.foldl (UserProfile.afterSwap u) (profiles.lookup u) := by
  induction rows generalizing profiles with
  | nil => cases h; rfl
  | cons e rows ih =>
      rw [List.foldlM_cons] at h
      obtain ⟨profiles₁, hfirst, hrest⟩ := Option.bind_eq_some_iff.mp h
      rw [ih hrest, lookup_afterSwap hfirst, List.foldl_cons]

theorem upsertProfile_isSome (timestamp : Int) {swaps : Nat}
    (h : totalSwapsOf (profiles.lookup user) + swaps < 2 ^ 31) :
    ∃ profiles', upsertProfile profiles user timestamp swaps = some profiles' := by
  unfold upsertProfile
  cases hlookup : profiles.lookup user with
  | none => exact ⟨_, rfl⟩
  | some p =>
      rw [hlookup] at h
      exact ⟨_, if_pos h⟩

theorem totalSwapsOf_afterSwap : totalSwapsOf (UserProfile.afterSwap user o e) =
    totalSwapsOf o + if e.sender = user then 1 else 0 := by
  rw [← SwapEvent.getD_adds, UserProfile.afterSwap]
  cases e.adds user with
  | none => rfl
  | some swaps =>
      cases o with
      | none => exact (Nat.zero_add _).symm
      | some p => rfl

/-- The trigger does not fail where the count of the sender has room for one more. -/
theorem swapUpdateUserProfile_isSome
    (h : ∀ u, totalSwapsOf (profiles.lookup u) + (if e.sender = u then 1 else 0) < 2 ^ 31) :
    ∃ profiles', swapUpdateUserProfile profiles e = some profiles' := by
  have hsender := h e.sender
  rw [if_pos rfl] at hsender
  obtain ⟨profiles₁, hfirst⟩ := upsertProfile_isSome e.timestamp hsender
  unfold swapUpdateUserProfile
  rw [hfirst]
  by_cases hne : e.recipient ≠ e.sender
  · have hrecipient := h e.recipient
    rw [if_neg (Ne.symm hne)] at hrecipient
    have hsame : profiles₁.lookup e.recipient = profiles.lookup e.recipient := by
      rw [lookup_upsertProfile hfirst, if_neg hne]
    rw [← hsame] at hrecipient
    obtain ⟨profiles₂, hsecond⟩ := upsertProfile_isSome e.timestamp hrecipient
    refine ⟨profiles₂, ?_⟩
    simp [hne, hsecond]
  · refine ⟨profiles₁, ?_⟩
    simp only [if_neg hne]
    rfl

/-- Nor does a statement fail where all counts have room for its swaps. -/
theorem foldlM_isSome
    (h : ∀ u, totalSwapsOf (profiles.lookup u) + swapsSent u rows < 2 ^ 31) :
    ∃ profiles', rows.foldlM swapUpdateUserProfile profiles = some profiles' := by
  induction rows generalizing profiles with
  | nil => exact ⟨profiles, rfl⟩
  | cons e rows ih =>
      have hsplit : ∀ u, swapsSent u (e :: rows) =
          swapsSent u rows + if e.sender = u then 1 else 0 := by
        intro u
        simp [swapsSent, List.countP_cons]
      have hroom : ∀ u, totalSwapsOf (profiles.lookup u) +
          (if e.sender = u then 1 else 0) + swapsSent u rows < 2 ^ 31 := by
        intro u
        have hu := h u
        rw [hsplit] at hu
        omega
      obtain ⟨profiles₁, hfirst⟩ : ∃ profiles₁, swapUpdateUserProfile profiles e = some profiles₁ := by
        apply swapUpdateUserProfile_isSome
        intro u
        exact Nat.lt_of_le_of_lt (Nat.le_add_right _ _) (hroom u)
      obtain ⟨profiles', hrest⟩ :
          ∃ profiles', rows.foldlM swapUpdateUserProfile profiles₁ = some profiles' := by
        apply ih
        intro u
        rw [lookup_afterSwap hfirst, totalSwapsOf_afterSwap]
        exact hroom u
      refine ⟨profiles', ?_⟩
      rw [List.foldlM_cons, hfirst]
      exact hrest

end TxIndexer.Db
