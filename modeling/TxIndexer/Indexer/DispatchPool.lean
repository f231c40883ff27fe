import TxIndexer.Lib.BoundedPool
import TxIndexer.Indexer.RateAlerts

/-!
# The loops of `dispatch_once` and `dispatch_rate_once`

The prime-and-refill loops of `crates/indexer/src/alerts.rs` over the matches of a cycle, with the
counters they keep. What `dispatch_item` does inside a task is the subject of `Indexer.Alerts`; here
a task has an outcome, returns an error, or panics.
-/

namespace TxIndexer.Indexer

open Db Lib

/-- `DispatchMetrics` (`alerts.rs:141-163`). -/
structure DispatchMetrics where
  cycles : Nat
  attempted : Nat
  delivered : Nat
  failed : Nat
  unsafeUrlSkipped : Nat
  claimSkipped : Nat
  rateAttempted : Nat
  rateDelivered : Nat
  rateFailed : Nat
  deriving DecidableEq, Repr

/-- `DispatchOutcome` (`alerts.rs:228-234`). -/
inductive DispatchOutcome where
  | delivered
  | failed
  | unsafeUrl
  | claimSkipped
  deriving DecidableEq, Repr

/-- What `join_next` gives for a task: an outcome, the error it returned, or a `JoinError` where it
panicked or was cancelled. -/
inductive Joined where
  | outcome (o : DispatchOutcome)
  | error (e : String)
  | panicked
  deriving DecidableEq, Repr

/-- `dispatch_once` counts what it spawns. -/
def DispatchMetrics.attempt (m : DispatchMetrics) : DispatchMetrics :=
  { m with attempted := m.attempted + 1 }

/-- How `dispatch_once` counts a task it joins (`alerts.rs:371-388`). -/
def DispatchMetrics.settle (joined : Joined) (m : DispatchMetrics) : DispatchMetrics :=
  match joined with
  | .outcome .delivered => { m with delivered := m.delivered + 1 }
  | .outcome .failed => { m with failed := m.failed + 1 }
  | .outcome .unsafeUrl => { m with unsafeUrlSkipped := m.unsafeUrlSkipped + 1 }
  | .outcome .claimSkipped => { m with claimSkipped := m.claimSkipped + 1 }
  | .error _ => { m with failed := m.failed + 1 }
  | .panicked => { m with failed := m.failed + 1 }

/-- `dispatch_rate_once` counts what it spawns. -/
def DispatchMetrics.rateAttempt (m : DispatchMetrics) : DispatchMetrics :=
  { m with rateAttempted := m.rateAttempted + 1 }

/-- How `dispatch_rate_once` counts a task it joins (`alerts.rs:503-514`). -/
def DispatchMetrics.rateSettle (joined : Joined) (m : DispatchMetrics) : DispatchMetrics :=
  match joined with
  | .outcome .delivered => { m with rateDelivered := m.rateDelivered + 1 }
  | .outcome _ => { m with rateFailed := m.rateFailed + 1 }
  | .error _ => { m with rateFailed := m.rateFailed + 1 }
  | .panicked => { m with rateFailed := m.rateFailed + 1 }

/-- `dispatch_once` (`alerts.rs:347-397`) after its `SELECT`. -/
def dispatchOnce : PoolConfig Joined DispatchMetrics where
  capacity := maxConcurrentPosts
  onSpawn := DispatchMetrics.attempt
  onJoin := DispatchMetrics.settle

/-- `dispatch_rate_once` (`alerts.rs:486-524`) after its `SELECT`. -/
def dispatchRateOnce : PoolConfig Joined DispatchMetrics where
  capacity := maxConcurrentPosts
  onSpawn := DispatchMetrics.rateAttempt
  onJoin := DispatchMetrics.rateSettle

/-- One step of `dispatch_once`. -/
abbrev DispatchStep : Pool AlertMatch Joined DispatchMetrics → PoolEvent AlertMatch Joined →
    Pool AlertMatch Joined DispatchMetrics → Prop :=
  PoolStep dispatchOnce

/-- One step of `dispatch_rate_once`. -/
abbrev DispatchRateStep : Pool RateAlertMatch Joined DispatchMetrics →
    PoolEvent RateAlertMatch Joined → Pool RateAlertMatch Joined DispatchMetrics → Prop :=
  PoolStep dispatchRateOnce

instance : Nonempty Joined := ⟨.panicked⟩

end TxIndexer.Indexer
