import Mathlib.Order.Bounds.Basic
import TxIndexer.Db.Rollback
import TxIndexer.Db.Inserts
import TxIndexer.Lib.Transition

/-!
# User profiles

`user_profile`, which no query of the indexer writes: the trigger `fn_trg_swap_update_user_profile`
(`001_triggers.sql:22-54`) keeps it as swaps are stored, one row of `swap_event` at a time in the
order of the statement.
-/

namespace TxIndexer.Db

/-- A row of `user_profile` (`20240101000001_initial_schema.sql:202-214`) with the checks of the
table. `total_swaps` is an `INTEGER` that is not negative, and `total_volume_usd` is counted in
cents. -/
structure UserProfile where
  userAddress : String
  label : Option String
  firstSeen : Int
  lastSeen : Int
  totalSwaps : Nat
  totalVolumeUsd : Nat
  seenOrder : firstSeen ≤ lastSeen

abbrev UserProfiles := Lib.KeyedTable UserProfile.userAddress

/-- The row the trigger inserts for an address it has not seen. -/
def UserProfile.new (user : String) (timestamp : Int) (swaps : Nat) : UserProfile where
  userAddress := user
  label := none
  firstSeen := timestamp
  lastSeen := timestamp
  totalSwaps := swaps
  totalVolumeUsd := 0
  seenOrder := le_refl timestamp

/-- `DO UPDATE SET last_seen = GREATEST(last_seen, EXCLUDED.last_seen)`, and for a sender
`total_swaps = total_swaps + 1`. -/
def UserProfile.seen (p : UserProfile) (timestamp : Int) (swaps : Nat) : UserProfile :=
  { p with
    lastSeen := max p.lastSeen timestamp
    totalSwaps := p.totalSwaps + swaps
    seenOrder := p.seenOrder.trans (le_max_left _ _) }

theorem UserProfile.userAddress_seen (timestamp : Int) (swaps : Nat) (p : UserProfile) :
    (p.seen timestamp swaps).userAddress = p.userAddress := rfl

/-- `INSERT INTO user_profile … ON CONFLICT (user_address) DO UPDATE`; `none` where `total_swaps`
does not fit its column. -/
def upsertProfile (profiles : UserProfiles) (user : String) (timestamp : Int) (swaps : Nat) :
    Option UserProfiles :=
  match profiles.lookup user with
  | none => some (profiles.insertNew [.new user timestamp swaps])
  | some p =>
      if p.totalSwaps + swaps < 2 ^ 31 then
        some (profiles.modify (·.userAddress = user) (·.seen timestamp swaps)
          (UserProfile.userAddress_seen timestamp swaps))
      else none

/-- `fn_trg_swap_update_user_profile`. -/
def swapUpdateUserProfile (profiles : UserProfiles) (new : SwapEvent) : Option UserProfiles := do
  let profiles ← upsertProfile profiles new.sender new.timestamp 1
  if new.recipient ≠ new.sender then upsertProfile profiles new.recipient new.timestamp 0
  else return profiles

/-- The row of an address after the trigger has inserted or updated it. -/
def UserProfile.upserted (user : String) (timestamp : Int) (swaps : Nat) :
    Option UserProfile → UserProfile
  | none => .new user timestamp swaps
  | some p => p.seen timestamp swaps

theorem lookup_upsertProfile {profiles profiles' : UserProfiles} {user : String} {timestamp : Int}
    {swaps : Nat} (h : upsertProfile profiles user timestamp swaps = some profiles')
    (u : String) : profiles'.lookup u =
      if u = user then some (.upserted user timestamp swaps (profiles.lookup user))
      else profiles.lookup u := by
  unfold upsertProfile at h
  cases hlookup : profiles.lookup user with
  | none =>
      rw [hlookup] at h
      cases h
      rw [Lib.KeyedTable.lookup_insertNew]
      by_cases hu : u = user
      · subst hu
        simp [hlookup, UserProfile.upserted, UserProfile.new]
      · simp [hu, Ne.symm hu, UserProfile.new]
  | some p =>
      rw [hlookup] at h
      dsimp only at h
      split at h
      · cases h
        rw [Lib.KeyedTable.lookup_modify]
        have hp : p.userAddress = user := (Lib.KeyedTable.lookup_eq_some.mp hlookup).2
        by_cases hu : u = user
        · subst hu
          simp [hlookup, UserProfile.upserted, hp]
        · rw [if_neg hu]
          cases hother : profiles.lookup u with
          | none => rfl
          | some q =>
              have hq : q.userAddress = u := (Lib.KeyedTable.lookup_eq_some.mp hother).2
              simp [hq, hu]
      · cases h

/-- What the trigger makes of the profile of `u`. -/
theorem lookup_swapUpdateUserProfile {profiles profiles' : UserProfiles} {new : SwapEvent}
    (h : swapUpdateUserProfile profiles new = some profiles') (u : String) :
    profiles'.lookup u =
      if u = new.sender then some (.upserted u new.timestamp 1 (profiles.lookup u))
      else if u = new.recipient then some (.upserted u new.timestamp 0 (profiles.lookup u))
      else profiles.lookup u := by
  unfold swapUpdateUserProfile at h
  obtain ⟨profiles₁, hsender, h⟩ := Option.bind_eq_some_iff.mp h
  have hfirst := lookup_upsertProfile hsender
  split at h
  · next hne =>
      rw [lookup_upsertProfile h u, hfirst, hfirst]
      by_cases hs : u = new.sender
      · subst hs
        simp [Ne.symm hne]
      · by_cases hr : u = new.recipient
        · subst hr
          simp [hne]
        · simp [hs, hr]
  · next heq =>
      rw [not_not] at heq
      cases h
      rw [hfirst]
      by_cases hs : u = new.sender
      · subst hs
        simp
      · simp [hs, heq]

/-! ## Runs -/

/-- The tables with the profiles. As history: the swaps stored so far in the order of their
storing, also those that are gone, and those that rollbacks have deleted. -/
structure Profiled where
  db : Database
  userProfile : UserProfiles
  stored : List SwapEvent
  deleted : List SwapEvent

/-- The migrated tables, empty. -/
def Profiled.empty : Profiled := ⟨.empty, ∅, [], []⟩

/-- A write: an `INSERT` of the indexer, a rollback, or another one that leaves `swap_event`
alone. -/
inductive Write where
  | insert (triggers : Triggers) (i : Insert)
  | rollback (fromBlock : Int)
  | other

/-- The rows of `swap_event` an `INSERT` adds, for each of which the trigger fires. -/
def Insert.newSwaps (db : Database) : Insert → List SwapEvent
  | .swapEvents rows => db.swapEvent.newRows rows
  | _ => []

/-- The writes of the indexer, with the trigger installed. One that fails changes nothing. -/
inductive ProfileStep : Profiled → Write → Profiled → Prop
  | insert {s : Profiled} {triggers i db userProfile} (hexec : i.exec triggers s.db = .ok db)
      (htrigger : (i.newSwaps s.db).foldlM swapUpdateUserProfile s.userProfile =
        some userProfile) :
      ProfileStep s (.insert triggers i)
        { s with db, userProfile, stored := s.stored ++ i.newSwaps s.db }
  | rollback {s : Profiled} {fromBlock db blocks}
      (hrollback : rollbackFromBlock s.db fromBlock = .ok (db, blocks)) :
      ProfileStep s (.rollback fromBlock)
        { s with
          db
          deleted := s.deleted ++
            s.db.swapEvent.rows.filter fun e => inRolledBackTransaction s.db fromBlock e.txHash }
  | other {s : Profiled} {db} (hswaps : db.swapEvent = s.db.swapEvent) :
      ProfileStep s .other { s with db }

/-- An `INSERT` adds to `swap_event` the rows the trigger fires for. -/
theorem Insert.swapEvent_exec {triggers : Triggers} {db db' : Database} {i : Insert}
    (h : i.exec triggers db = .ok db') :
    db'.swapEvent.rows = db.swapEvent.rows ++ i.newSwaps db := by
  obtain ⟨-, -, rfl⟩ := exec_eq_ok.mp h
  cases i with
  | swapEvents rows => rfl
  | _ => simp [applied, newSwaps]

end TxIndexer.Db
