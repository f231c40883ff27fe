import TxIndexer.Db.UserProfile

/-!
# Statements with the triggers installed

Two triggers keep tables of their own while the indexer stores events:
`fn_trg_swap_update_user_profile` keeps `user_profile`, and `fn_trg_liquidity_event_audit`
(`001_triggers.sql:137-167`) writes what is large to `audit_log`.
-/

namespace TxIndexer.Db

/-- A row of `audit_log`, without `audit_id`, `record_id` and `created_at`: the first two are taken
from sequences, the last from the clock. The fields from `poolAddress` on are its `details`. -/
structure AuditLog where
  tableName : String
  eventType : LiquidityEventType
  poolAddress : String
  provider : String
  liquidity : Int
  token0Amount : Int
  token1Amount : Int
  timestamp : Int
  deriving DecidableEq, Repr

/-- `fn_trg_liquidity_event_audit`: a row where `NEW.liquidity > 10^18`. -/
def liquidityEventAudit (new : LiquidityEvent) : Option AuditLog :=
  if new.liquidity > 1000000000000000000 then
    some {
      tableName := "liquidity_event"
      eventType := new.eventType
      poolAddress := new.poolAddress
      provider := new.provider
      liquidity := new.liquidity
      token0Amount := new.token0Amount
      token1Amount := new.token1Amount
      timestamp := new.timestamp }
  else none

/-- The tables of the indexer and those that its triggers keep. -/
structure Triggered where
  db : Database
  userProfile : UserProfiles
  auditLog : List AuditLog

/-- The migrated tables, empty. -/
def Triggered.empty : Triggered := ⟨.empty, ∅, []⟩

/-- The rows of `liquidity_event` an `INSERT` adds, for each of which the trigger fires. -/
def Insert.newLiquidity (db : Database) : Insert → List LiquidityEvent
  | .liquidityEvents rows => db.liquidityEvent.newRows rows
  | _ => []

/-- How an `INSERT` ends in an error: its own, or that of `total_swaps` in the trigger. -/
inductive FiringError where
  | statement (e : DbError)
  | totalSwaps
  deriving DecidableEq, Repr

/-- `INSERT INTO …`: the triggers fire for each row that it adds, and where one fails the
statement does. -/
def Insert.execFiring (triggers : Triggers) (s : Triggered) (i : Insert) :
    Except FiringError Triggered :=
  match i.exec triggers s.db with
  | .error e => .error (.statement e)
  | .ok db =>
      match (i.newSwaps s.db).foldlM swapUpdateUserProfile s.userProfile with
      | none => .error .totalSwaps
      | some userProfile =>
          .ok {
            db
            userProfile
            auditLog := s.auditLog ++ (i.newLiquidity s.db).filterMap liquidityEventAudit }

variable {triggers : Triggers} {i : Insert} {s s' : Triggered}

theorem Insert.execFiring_eq_ok : i.execFiring triggers s = .ok s' ↔
    ∃ db userProfile, i.exec triggers s.db = .ok db ∧
      (i.newSwaps s.db).foldlM swapUpdateUserProfile s.userProfile = some userProfile ∧
      s' = ⟨db, userProfile, s.auditLog ++ (i.newLiquidity s.db).filterMap liquidityEventAudit⟩ := by
  unfold Insert.execFiring
  cases i.exec triggers s.db with
  | error e => simp
  | ok db =>
      cases (i.newSwaps s.db).foldlM swapUpdateUserProfile s.userProfile with
      | none => simp
      | some userProfile => simp [eq_comm]

/-- To the profiles it is a write of the indexer. -/
theorem ProfileStep.of_execFiring {stored deleted : List SwapEvent}
    (h : i.execFiring triggers s = .ok s') :
    ProfileStep ⟨s.db, s.userProfile, stored, deleted⟩ (.insert triggers i)
      ⟨s'.db, s'.userProfile, stored ++ i.newSwaps s.db, deleted⟩ := by
  obtain ⟨db, userProfile, hexec, hfold, rfl⟩ := Insert.execFiring_eq_ok.mp h
  exact .insert hexec hfold

/-- The rows it adds to `liquidity_event` are those the trigger fires for. -/
theorem Insert.liquidityEvent_exec {db db' : Database} (h : i.exec triggers db = .ok db') :
    db'.liquidityEvent.rows = db.liquidityEvent.rows ++ i.newLiquidity db := by
  obtain ⟨-, -, rfl⟩ := exec_eq_ok.mp h
  cases i with
  | liquidityEvents rows => rfl
  | _ => simp [applied, newLiquidity]

end TxIndexer.Db
