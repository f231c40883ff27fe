import TxIndexer.Db.UserProfile

/-!
# Profiles count every swap that was ever stored

The trigger adds each new row of `swap_event` to the profiles of its sender and its recipient, in
whatever order rows come, and a rollback, which leaves `user_profile` alone, takes none away. So a
profile is the aggregate of the rows that are stored and of those that rollbacks have deleted.
-/

namespace TxIndexer.Db

/-- The user sent the swap or received what it bought. -/
def SwapEvent.HasParty (e : SwapEvent) (user : String) : Prop :=
  e.sender = user ∨ e.recipient = user

instance (e : SwapEvent) : DecidablePred e.HasParty := fun _ => inferInstanceAs (Decidable (_ ∨ _))

/-- The swaps the user has a part in. -/
def swapsOf (user : String) (rows : List SwapEvent) : List SwapEvent :=
  rows.filter fun e => e.HasParty user

/-- The swaps the user sent. -/
def swapsSent (user : String) (rows : List SwapEvent) : Nat :=
  rows.countP fun e => e.sender = user

/-- The times at which the user is seen. -/
def seenAt (user : String) (rows : List SwapEvent) : Set Int :=
  {t | ∃ e ∈ rows, e.HasParty user ∧ e.timestamp = t}

end TxIndexer.Db

namespace TxIndexer.Proofs

open Db

/-- The profile of a user is the aggregate of `rows`, stored in this order; `first_seen` is the
time of the first of them. -/
def Tracks (user : String) (rows : List SwapEvent) : Option UserProfile → Prop
  | none => ∀ e ∈ rows, ¬ e.HasParty user
  | some p =>
      p.totalSwaps = swapsSent user rows ∧ IsGreatest (seenAt user rows) p.lastSeen ∧
        (swapsOf user rows).head?.map SwapEvent.timestamp = some p.firstSeen

variable {user : String} {rows : List SwapEvent} {e : SwapEvent} {o : Option UserProfile}

theorem seenAt_append_party (h : e.HasParty user) :
    seenAt user (rows ++ [e]) = insert e.timestamp (seenAt user rows) := by
  ext t
  simp only [seenAt, List.mem_append, List.mem_singleton, Set.mem_ofPred_eq, Set.mem_insert_iff]
  constructor
  · rintro ⟨e', he' | rfl, hparty, rfl⟩
    · exact .inr ⟨e', he', hparty, rfl⟩
    · exact .inl rfl
  · rintro (rfl | ⟨e', he', hparty, rfl⟩)
    · exact ⟨e, .inr rfl, h, rfl⟩
    · exact ⟨e', .inl he', hparty, rfl⟩

theorem seenAt_append_other (h : ¬ e.HasParty user) :
    seenAt user (rows ++ [e]) = seenAt user rows := by
  ext t
  simp only [seenAt, List.mem_append, List.mem_singleton, Set.mem_ofPred_eq]
  constructor
  · rintro ⟨e', he' | rfl, hparty, rfl⟩
    · exact ⟨e', he', hparty, rfl⟩
    · exact absurd hparty h
  · rintro ⟨e', he', hparty, rfl⟩
    exact ⟨e', .inl he', hparty, rfl⟩

theorem seenAt_eq_empty (h : ∀ e ∈ rows, ¬ e.HasParty user) : seenAt user rows = ∅ := by
  rw [Set.eq_empty_iff_forall_notMem]
  rintro t ⟨e, he, hparty, -⟩
  exact h e he hparty

/-- A swap of others changes nothing. -/
theorem Tracks.other (h : Tracks user rows o) (he : ¬ e.HasParty user) :
    Tracks user (rows ++ [e]) o := by
  cases o with
  | none =>
      intro e' he'
      rcases List.mem_append.mp he' with hmem | hmem
      · exact h e' hmem
      · rw [List.mem_singleton.mp hmem]
        exact he
  | some p =>
      obtain ⟨htotal, hlast, hfirst⟩ := h
      have hsender : ¬ e.sender = user := fun heq => he (.inl heq)
      refine ⟨?_, ?_, ?_⟩
      · rw [htotal, swapsSent, swapsSent, List.countP_append]
        simp [hsender]
      · rw [seenAt_append_other he]
        exact hlast
      · rw [swapsOf, List.filter_append]
        simpa [swapsOf, he] using hfirst

/-- A swap the user has a part in is added to the profile, as one more where the user sent it. -/
theorem Tracks.party (h : Tracks user rows o) (he : e.HasParty user) {swaps : Nat}
    (hswaps : swaps = if e.sender = user then 1 else 0) :
    Tracks user (rows ++ [e]) (some (.upserted user e.timestamp swaps o)) := by
  have hsent : swapsSent user (rows ++ [e]) = swapsSent user rows + swaps := by
    rw [swapsSent, swapsSent, List.countP_append, hswaps]
    simp
  have hof : swapsOf user (rows ++ [e]) = swapsOf user rows ++ [e] := by
    rw [swapsOf, List.filter_append]
    simp [swapsOf, he]
  cases o with
  | none =>
      have hzero : swapsSent user rows = 0 := by
        rw [swapsSent, List.countP_eq_zero]
        intro e' he' hsender
        exact h e' he' (.inl (of_decide_eq_true hsender))
      have hnil : swapsOf user rows = [] := by
        rw [swapsOf, List.filter_eq_nil_iff]
        intro e' he' hparty
        exact h e' he' (of_decide_eq_true hparty)
      refine ⟨?_, ?_, ?_⟩
      · rw [hsent, hzero, Nat.zero_add]
        rfl
      · rw [seenAt_append_party he, seenAt_eq_empty h, insert_empty_eq]
        exact isGreatest_singleton
      · rw [hof, hnil]
        rfl
  | some p =>
      obtain ⟨htotal, hlast, hfirst⟩ := h
      refine ⟨?_, ?_, ?_⟩
      · rw [hsent, ← htotal]
        rfl
      · rw [seenAt_append_party he]
        have hmax : max p.lastSeen e.timestamp = max e.timestamp p.lastSeen := max_comm _ _
        rw [show (UserProfile.upserted user e.timestamp swaps (some p)).lastSeen =
          max p.lastSeen e.timestamp from rfl, hmax]
        exact hlast.insert e.timestamp
      · rw [hof]
        cases hrows : swapsOf user rows with
        | nil => rw [hrows] at hfirst; cases hfirst
        | cons e' es => rw [hrows] at hfirst; exact hfirst

/-- The trigger keeps every profile the aggregate of the rows it has fired for. -/
theorem tracks_swapUpdateUserProfile {profiles profiles' : UserProfiles}
    (h : ∀ user, Tracks user rows (profiles.lookup user))
    (htrigger : swapUpdateUserProfile profiles e = some profiles') (user : String) :
    Tracks user (rows ++ [e]) (profiles'.lookup user) := by
  rw [lookup_swapUpdateUserProfile htrigger user]
  by_cases hsender : user = e.sender
  · rw [if_pos hsender]
    exact (h user).party (.inl hsender.symm) (if_pos hsender.symm).symm
  · rw [if_neg hsender]
    by_cases hrecipient : user = e.recipient
    · rw [if_pos hrecipient]
      exact (h user).party (.inr hrecipient.symm) (if_neg (Ne.symm hsender)).symm
    · rw [if_neg hrecipient]
      refine (h user).other ?_
      rintro (heq | heq)
      · exact hsender heq.symm
      · exact hrecipient heq.symm

/-- So does a statement that adds several rows. -/
theorem tracks_foldlM {new : List SwapEvent} {profiles profiles' : UserProfiles}
    (h : ∀ user, Tracks user rows (profiles.lookup user))
    (htrigger : new.foldlM swapUpdateUserProfile profiles = some profiles') (user : String) :
    Tracks user (rows ++ new) (profiles'.lookup user) := by
  induction new generalizing rows profiles with
  | nil =>
      cases htrigger
      rw [List.append_nil]
      exact h user
  | cons e es ih =>
      rw [List.foldlM_cons] at htrigger
      obtain ⟨profiles₁, hfirst, hrest⟩ := Option.bind_eq_some_iff.mp htrigger
      have hstep := ih (fun user => tracks_swapUpdateUserProfile h hfirst user) hrest
      rwa [List.append_assoc, List.singleton_append] at hstep

/-- The profiles are the aggregates of the rows stored so far, which are those that are there and
those that are deleted. -/
structure Tallied (s : Profiled) : Prop where
  tracks : ∀ user, Tracks user s.stored (s.userProfile.lookup user)
  rows : s.stored.Perm (s.db.swapEvent.rows ++ s.deleted)

theorem tallied_step {s s' : Profiled} {w : Write} (h : Tallied s) (hstep : ProfileStep s w s') :
    Tallied s' := by
  cases hstep with
  | insert hexec htrigger =>
      refine ⟨tracks_foldlM h.tracks htrigger, ?_⟩
      dsimp only
      rw [Insert.swapEvent_exec hexec, List.append_assoc]
      refine (h.rows.append_right _).trans ?_
      rw [List.append_assoc]
      exact List.perm_append_comm.append_left _
  | @rollback fromBlock db blocks hrollback =>
      rw [rollbackFromBlock_eq] at hrollback
      cases hrollback
      refine ⟨h.tracks, h.rows.trans ?_⟩
      dsimp only [rolledBack, Lib.KeyedTable.deleteWhere]
      have hsplit := (List.filter_append_perm
        (fun e => inRolledBackTransaction s.db fromBlock e.txHash) s.db.swapEvent.rows).symm
      refine (hsplit.append_right _).trans (List.perm_append_comm.append_right _ |>.trans ?_)
      rw [List.append_assoc]
      exact List.perm_append_comm.append_left _
  | other hswaps =>
      refine ⟨h.tracks, ?_⟩
      dsimp only
      rw [hswaps]
      exact h.rows

theorem tallied_empty : Tallied .empty := ⟨fun _ _ he => absurd he List.not_mem_nil, .refl _⟩

theorem seenAt_perm {rows' : List SwapEvent} (h : rows.Perm rows') :
    seenAt user rows = seenAt user rows' := by
  ext t
  simp only [seenAt, h.mem_iff]

/-- Of swaps stored in the order of their times the first is the earliest. -/
theorem isLeast_of_sorted {t : Int}
    (hsorted : (swapsOf user rows).Pairwise fun a b => a.timestamp ≤ b.timestamp)
    (hfirst : (swapsOf user rows).head?.map SwapEvent.timestamp = some t) :
    IsLeast (seenAt user rows) t := by
  cases hrows : swapsOf user rows with
  | nil => rw [hrows] at hfirst; cases hfirst
  | cons e es =>
      rw [hrows] at hfirst hsorted
      have ht : e.timestamp = t := Option.some.inj hfirst
      have hmem : ∀ e', e' ∈ e :: es ↔ e' ∈ rows ∧ e'.HasParty user := by
        intro e'
        rw [← hrows, swapsOf, List.mem_filter, decide_eq_true_eq]
      subst ht
      constructor
      · obtain ⟨he, hparty⟩ := (hmem e).mp List.mem_cons_self
        exact ⟨e, he, hparty, rfl⟩
      · rintro _ ⟨e', he', hparty, rfl⟩
        rcases List.mem_cons.mp ((hmem e').mpr ⟨he', hparty⟩) with rfl | htail
        · exact le_refl _
        · exact List.rel_of_pairwise_cons hsorted htail

/-- Profiles are the aggregates of the stored swaps. -/
def ProfilesAggregate (s : Profiled) : Prop :=
  ∀ user p, s.userProfile.lookup user = some p →
    p.totalSwaps = swapsSent user s.db.swapEvent.rows ∧
      IsLeast (seenAt user s.db.swapEvent.rows) p.firstSeen ∧
      IsGreatest (seenAt user s.db.swapEvent.rows) p.lastSeen

/-- After any writes, in any order: a user has a profile exactly if some swap it has a part in has
been stored. `total_swaps` is the number of stored swaps it sent and of those that rollbacks have
deleted, `last_seen` the latest time of the stored and deleted swaps it has a part in, and
`first_seen` the earliest where these came in the order of their times. -/
theorem profiles_count_stored_and_deleted {s : Profiled}
    (h : Lib.Reaches ProfileStep Lib.anyStep .empty s) (user : String) :
    ((s.userProfile.lookup user).isSome ↔
      (seenAt user (s.db.swapEvent.rows ++ s.deleted)).Nonempty) ∧
    ∀ p, s.userProfile.lookup user = some p →
      p.totalSwaps = swapsSent user s.db.swapEvent.rows + swapsSent user s.deleted ∧
      IsGreatest (seenAt user (s.db.swapEvent.rows ++ s.deleted)) p.lastSeen ∧
      (((swapsOf user s.stored).Pairwise fun a b => a.timestamp ≤ b.timestamp) →
        IsLeast (seenAt user (s.db.swapEvent.rows ++ s.deleted)) p.firstSeen) := by
  have htallied : Tallied s :=
    h.invariant (fun _ _ _ h hstep _ => tallied_step h hstep) tallied_empty
  have htracks := htallied.tracks user
  rw [← seenAt_perm htallied.rows]
  constructor
  · cases hlookup : s.userProfile.lookup user with
    | none =>
        rw [hlookup] at htracks
        rw [seenAt_eq_empty htracks]
        simp
    | some p =>
        rw [hlookup] at htracks
        exact ⟨fun _ => ⟨_, htracks.2.1.1⟩, fun _ => rfl⟩
  · intro p hlookup
    rw [hlookup] at htracks
    obtain ⟨htotal, hlast, hfirst⟩ := htracks
    refine ⟨?_, hlast, fun hsorted => isLeast_of_sorted hsorted hfirst⟩
    rw [htotal, swapsSent, htallied.rows.countP_eq, List.countP_append]
    rfl

/-! ## A swap that is rolled back -/

def sampleBlock : Block := ⟨7, 84, 0, none, none⟩
def sampleTransaction : Transaction := ⟨"0xt", "0xa", none, 7, 0, 0, 0, 1, none⟩
def sampleSwap : SwapEvent := ⟨"0xp", "0xt", "0xa", "0xa", 1, -1, 1, 1, 1, 1, 0, 0, 84⟩

/-- Block 7 and its transaction are stored. -/
def blockStored : Database :=
  { Database.empty with block := Lib.KeyedTable.insertNew ∅ [sampleBlock] }

def transactionStored : Database :=
  { blockStored with transaction := Lib.KeyedTable.insertNew ∅ [sampleTransaction] }

/-- Then its swap. -/
def swapStored : Profiled where
  db := { transactionStored with swapEvent := Lib.KeyedTable.insertNew ∅ [sampleSwap] }
  userProfile := Lib.KeyedTable.insertNew ∅ [.new "0xa" 84 1]
  stored := [sampleSwap]
  deleted := []

/-- And block 7 is rolled back. -/
def swapDeleted : Profiled where
  db := rolledBack swapStored.db 7
  userProfile := swapStored.userProfile
  stored := [sampleSwap]
  deleted := swapStored.db.swapEvent.rows.filter fun e =>
    inRolledBackTransaction swapStored.db 7 e.txHash

theorem swapDeleted_reached : Lib.Reaches ProfileStep Lib.anyStep .empty swapDeleted := by
  have hblock : ProfileStep .empty (.insert ⟨false⟩ (.blocks [sampleBlock]))
      ⟨blockStored, ∅, [], []⟩ :=
    .insert (insertBlocks_eq_ok.mpr ⟨by decide, by decide, rfl⟩) rfl
  have htransaction : ProfileStep ⟨blockStored, ∅, [], []⟩
      (.insert ⟨false⟩ (.transactions [sampleTransaction])) ⟨transactionStored, ∅, [], []⟩ :=
    .insert (insertTransactions_eq_ok.mpr ⟨by decide, by decide, rfl⟩) rfl
  have hswap : ProfileStep ⟨transactionStored, ∅, [], []⟩
      (.insert ⟨false⟩ (.swapEvents [sampleSwap])) swapStored :=
    .insert (insertSwapEvents_eq_ok.mpr ⟨by decide, by decide, rfl⟩) rfl
  have hrollback : ProfileStep swapStored (.rollback 7) swapDeleted :=
    .rollback (rollbackFromBlock_eq _ _)
  exact Lib.Reaches.cons _ hblock trivial (Lib.Reaches.cons _ htransaction trivial
    (Lib.Reaches.cons _ hswap trivial (Lib.Reaches.cons _ hrollback trivial .refl)))

theorem lookup_swapDeleted : swapDeleted.userProfile.lookup "0xa" = some (.new "0xa" 84 1) := rfl

theorem rows_swapDeleted : swapDeleted.db.swapEvent.rows = [] := by decide

/-- The profile still counts the swap that is gone. -/
theorem deleted_swap_counted : (UserProfile.new "0xa" 84 1).totalSwaps =
    swapsSent "0xa" [] + swapsSent "0xa" swapDeleted.deleted := by
  have h := (profiles_count_stored_and_deleted swapDeleted_reached "0xa").2 _ lookup_swapDeleted
  rw [rows_swapDeleted] at h
  exact h.1

/-- It is not the aggregate of the swaps that are stored. -/
theorem rollback_keeps_profile :
    ¬ ∀ s, Lib.Reaches ProfileStep Lib.anyStep .empty s → ProfilesAggregate s := by
  intro hall
  have h := (hall swapDeleted swapDeleted_reached "0xa" _ lookup_swapDeleted).1
  rw [rows_swapDeleted] at h
  exact absurd h (by decide)

end TxIndexer.Proofs
