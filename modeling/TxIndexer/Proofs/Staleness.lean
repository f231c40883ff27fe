import TxIndexer.Db.DeliveryRows

/-!
# One staleness rule, written twice

The anti-join of the `SELECT` excludes a claimed row that is younger than the window; the claim
takes one that is older. A row claimed exactly at the limit is neither, and a text that is no
status of the program is named by neither condition.
-/

namespace TxIndexer.Proofs

open Db

/-- The row was claimed exactly `staleAfterSecs` ago. -/
def ClaimedAtLimit (now staleAfterSecs : Int) (d : DeliveryRow) : Prop :=
  d.status = "claimed" ∧ d.createdAt = now - seconds staleAfterSecs

/-- The status is one that the program writes. -/
def KnownStatus (d : DeliveryRow) : Prop := ∃ s : DeliveryStatus, d.status = s.text

/-- What the anti-join lets through the claim takes, and no more, unless the row's status is
unknown or the row was claimed exactly at the limit. -/
theorem excluded_reclaimable_iff {d : DeliveryRow} {now staleAfterSecs : Int} :
    (¬ d.Excluded (now - seconds staleAfterSecs) ↔
      d.Reclaimable (now - seconds staleAfterSecs)) ↔
    KnownStatus d ∧ ¬ ClaimedAtLimit now staleAfterSecs d := by
  by_cases hknown : KnownStatus d
  · obtain ⟨s, hs⟩ := hknown
    have hstatus : KnownStatus d := ⟨s, hs⟩
    simp only [DeliveryRow.Excluded, DeliveryRow.Reclaimable, ClaimedAtLimit, hstatus, hs,
      DeliveryStatus.text_eq_delivered, DeliveryStatus.text_eq_claimed,
      DeliveryStatus.text_eq_failed, true_and]
    cases s with
    | delivered => simp
    | failed => simp
    | claimed =>
        simp only [reduceCtorEq, true_and, false_or]
        omega
  · -- the two conditions name the statuses of the program only
    have hnone : ∀ s : DeliveryStatus, d.status ≠ s.text := fun s hs => hknown ⟨s, hs⟩
    have hdelivered : d.status ≠ "delivered" := hnone .delivered
    have hclaimed : d.status ≠ "claimed" := hnone .claimed
    have hfailed : d.status ≠ "failed" := hnone .failed
    simp [DeliveryRow.Excluded, DeliveryRow.Reclaimable, hknown, hdelivered, hclaimed, hfailed]

/-- The anti-join and the claim agree on a row at the same moment exactly if its status is known
and it was not claimed exactly `staleAfterSecs` ago; a window that does not fit fails both. -/
theorem antiJoin_claim_iff (row : Option DeliveryRow) (now staleAfterSecs : Int) :
    (antiJoinPasses now staleAfterSecs row = true ↔ claimSucceeds now staleAfterSecs row = true) ↔
    (WindowFits staleAfterSecs → ∀ d ∈ row, KnownStatus d ∧ ¬ ClaimedAtLimit now staleAfterSecs d) := by
  cases hlimit : staleBefore now staleAfterSecs with
  | none =>
      have hfits : ¬ WindowFits staleAfterSecs := by
        intro hfits
        rw [staleBefore, if_pos hfits] at hlimit
        cases hlimit
      have hneither : antiJoinPasses now staleAfterSecs row = false ∧
          claimSucceeds now staleAfterSecs row = false := passes_claim_of_none hlimit
      rw [hneither.1, hneither.2]
      exact iff_of_true Iff.rfl fun h => absurd h hfits
  | some limit =>
      obtain ⟨hfits, rfl⟩ := staleBefore_eq_some hlimit
      rw [antiJoinPasses_eq_true hlimit, claimSucceeds_eq_true hlimit]
      cases row with
      | none => simp
      | some d =>
          simp only [Option.mem_def, Option.some.injEq, forall_eq', hfits, true_implies]
          exact excluded_reclaimable_iff

/-- On the rows of the program only the row claimed exactly at the limit is judged differently. -/
theorem pending_claim_iff {now staleAfterSecs : Int} (hfits : WindowFits staleAfterSecs)
    (ledger : Ledger) (key : DeliveryKey) :
    (Pending now staleAfterSecs (ledger key) ↔
      (tryClaimAlertMatch ledger now key staleAfterSecs).2 = true) ↔
    ∀ d ∈ ledger key, ¬ (d.status = .claimed ∧ d.createdAt = now - seconds staleAfterSecs) := by
  have hlimit : staleBefore now staleAfterSecs = some (now - seconds staleAfterSecs) :=
    if_pos hfits
  have hclaim : claimSucceeds now staleAfterSecs ((ledger key).map AlertDelivery.stored) =
      (tryClaimAlertMatch ledger now key staleAfterSecs).2 := by
    rw [claimSucceeds, claimRow_stored hlimit]
    rfl
  rw [← antiJoinPasses_stored hlimit, ← hclaim, antiJoin_claim_iff]
  cases ledger key with
  | none => simp
  | some d => simp [hfits, KnownStatus, ClaimedAtLimit, AlertDelivery.stored]

/-- A pair claimed exactly 60 seconds ago is found and cannot be claimed. -/
theorem claimed_at_limit_disagrees :
    antiJoinPasses 60000000 60 (some ⟨"claimed", 1, none, none, 0⟩) = true ∧
    claimSucceeds 60000000 60 (some ⟨"claimed", 1, none, none, 0⟩) = false := by
  decide

end TxIndexer.Proofs
