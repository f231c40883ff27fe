import TxIndexer.Db.AlertQueries

/-!
# Stored delivery rows

The two statements of `crates/db/src/queries.rs` that read the status of a row of
`alert_delivery`, on rows as the table can hold them: `status` is a `TEXT` column without a check,
so it may hold any text. On the rows the program writes they are the functions of
`Db.AlertQueries`.
-/

namespace TxIndexer.Db

/-- A row of `alert_delivery` without its key. -/
structure DeliveryRow where
  status : String
  attempts : Int
  lastError : Option String
  deliveredAt : Option Int
  createdAt : Int
  deriving DecidableEq, Repr

/-- The text the program writes for a status. -/
def DeliveryStatus.text : DeliveryStatus → String
  | .claimed => "claimed"
  | .delivered => "delivered"
  | .failed => "failed"

/-- How a row of the program is stored. -/
def AlertDelivery.stored (d : AlertDelivery) : DeliveryRow where
  status := d.status.text
  attempts := d.attempts
  lastError := d.lastError
  deliveredAt := d.deliveredAt
  createdAt := d.createdAt

/-- The window is in the range of an `int`. -/
def WindowFits (staleAfterSecs : Int) : Prop :=
  -2 ^ 31 ≤ staleAfterSecs ∧ staleAfterSecs < 2 ^ 31

instance (staleAfterSecs : Int) : Decidable (WindowFits staleAfterSecs) :=
  inferInstanceAs (Decidable (_ ∧ _))

/-- `NOW() - ($n::int * INTERVAL '1 second')`: the cast fails outside the range of an `int`, and the
statement with it. -/
def staleBefore (now staleAfterSecs : Int) : Option Int :=
  if WindowFits staleAfterSecs then some (now - seconds staleAfterSecs) else none

/-- The condition on a row in the anti-join of `find_pending_alert_matches`
(`queries.rs:1031-1037`). -/
def DeliveryRow.Excluded (d : DeliveryRow) (limit : Int) : Prop :=
  d.status = "delivered" ∨ (d.status = "claimed" ∧ limit < d.createdAt)

instance (d : DeliveryRow) (limit : Int) : Decidable (d.Excluded limit) :=
  inferInstanceAs (Decidable (_ ∨ _))

/-- The anti-join of `find_pending_alert_matches` lets a pair with this row, or with none,
through. -/
def antiJoinPasses (now staleAfterSecs : Int) (row : Option DeliveryRow) : Bool :=
  match staleBefore now staleAfterSecs with
  | none => false
  | some limit => row.all fun d => ¬ d.Excluded limit

/-- The `WHERE` of the update of `try_claim_alert_match` (`queries.rs:1478-1480`). -/
def DeliveryRow.Reclaimable (d : DeliveryRow) (limit : Int) : Prop :=
  d.status = "failed" ∨ (d.status = "claimed" ∧ d.createdAt < limit)

instance (d : DeliveryRow) (limit : Int) : Decidable (d.Reclaimable limit) :=
  inferInstanceAs (Decidable (_ ∨ _))

/-- `try_claim_alert_match` (`queries.rs:1462-1489`) on the row of its key: the row it leaves and
what it returns, or `none` where the statement fails. -/
def claimRow (now staleAfterSecs : Int) (row : Option DeliveryRow) :
    Option (Option DeliveryRow × Bool) :=
  match staleBefore now staleAfterSecs with
  | none => none
  | some limit =>
      match row with
      | none =>
          some (some {
            status := "claimed"
            attempts := 1
            lastError := none
            deliveredAt := none
            createdAt := now }, true)
      | some d =>
          if d.Reclaimable limit then
            some (some {
              status := "claimed"
              attempts := d.attempts + 1
              lastError := none
              deliveredAt := none
              createdAt := now }, true)
          else some (some d, false)

/-- `try_claim_alert_match` returns `true`. -/
def claimSucceeds (now staleAfterSecs : Int) (row : Option DeliveryRow) : Bool :=
  (claimRow now staleAfterSecs row).any (·.2)

section

variable {now staleAfterSecs limit : Int} {row : Option DeliveryRow}

theorem antiJoinPasses_eq_true (hlimit : staleBefore now staleAfterSecs = some limit) :
    antiJoinPasses now staleAfterSecs row = true ↔ ∀ d ∈ row, ¬ d.Excluded limit := by
  simp only [antiJoinPasses, hlimit]
  cases row with
  | none => simp
  | some d => simp

theorem claimSucceeds_eq_true (hlimit : staleBefore now staleAfterSecs = some limit) :
    claimSucceeds now staleAfterSecs row = true ↔ ∀ d ∈ row, d.Reclaimable limit := by
  simp only [claimSucceeds, claimRow, hlimit]
  cases row with
  | none => simp
  | some d =>
      by_cases hd : d.Reclaimable limit
      · simp [hd]
      · simp [hd]

/-- A cast that fails fails both statements. -/
theorem passes_claim_of_none (hlimit : staleBefore now staleAfterSecs = none) :
    antiJoinPasses now staleAfterSecs row = false ∧ claimSucceeds now staleAfterSecs row = false := by
  simp [antiJoinPasses, claimSucceeds, claimRow, hlimit]

end

/-! ## The rows of the program -/

@[simp] theorem DeliveryStatus.text_eq_delivered {s : DeliveryStatus} :
    s.text = "delivered" ↔ s = .delivered := by
  cases s <;> simp [text]

@[simp] theorem DeliveryStatus.text_eq_claimed {s : DeliveryStatus} :
    s.text = "claimed" ↔ s = .claimed := by
  cases s <;> simp [text]

@[simp] theorem DeliveryStatus.text_eq_failed {s : DeliveryStatus} :
    s.text = "failed" ↔ s = .failed := by
  cases s <;> simp [text]

section

variable {now staleAfterSecs limit : Int}

theorem staleBefore_eq_some (hlimit : staleBefore now staleAfterSecs = some limit) :
    WindowFits staleAfterSecs ∧ limit = now - seconds staleAfterSecs := by
  unfold staleBefore at hlimit
  split at hlimit
  · next hfits => exact ⟨hfits, (Option.some.inj hlimit).symm⟩
  · cases hlimit

/-- On the rows of the program the anti-join is `Pending`. -/
theorem antiJoinPasses_stored (hlimit : staleBefore now staleAfterSecs = some limit)
    (delivery : Option AlertDelivery) :
    antiJoinPasses now staleAfterSecs (delivery.map AlertDelivery.stored) = true ↔
      Pending now staleAfterSecs delivery := by
  rw [antiJoinPasses_eq_true hlimit, (staleBefore_eq_some hlimit).2]
  cases delivery with
  | none => simp [Pending]
  | some d => simp [Pending, DeliveryRow.Excluded, AlertDelivery.stored]

/-- On the rows of the program a claim is `tryClaimAlertMatch`. -/
theorem claimRow_stored (hlimit : staleBefore now staleAfterSecs = some limit) (ledger : Ledger)
    (key : DeliveryKey) :
    claimRow now staleAfterSecs ((ledger key).map AlertDelivery.stored) =
      some (((tryClaimAlertMatch ledger now key staleAfterSecs).1 key).map AlertDelivery.stored,
        (tryClaimAlertMatch ledger now key staleAfterSecs).2) := by
  simp only [claimRow, hlimit, tryClaimAlertMatch]
  cases hrow : ledger key with
  | none => simp [AlertDelivery.stored, DeliveryStatus.text]
  | some d =>
      have hsame : d.stored.Reclaimable limit ↔ d.Reclaimable now staleAfterSecs := by
        rw [(staleBefore_eq_some hlimit).2]
        simp [DeliveryRow.Reclaimable, AlertDelivery.Reclaimable, AlertDelivery.stored]
      by_cases hd : d.Reclaimable now staleAfterSecs
      · simp only [Option.map_some, hsame, if_pos hd, Function.update_self]
        rfl
      · simp [hsame, hd, hrow]

end

end TxIndexer.Db
