import TxIndexer.Indexer.AlertRuns
import TxIndexer.Indexer.DispatchPool

/-!
# Every match of a cycle is dispatched once

The loops of the dispatcher are instances of the bounded pool: whatever the order in which the
tasks finish, and whatever becomes of them, each match is spawned once, ten tasks at most are
alive, and a loop returns, after its last task, with counters that add up.
-/

namespace TxIndexer.Proofs

open Db Indexer Lib

variable {α : Type}

/-- What `dispatch_once` counted since `m₀`: as many tasks were joined as were attempted. -/
def Accounts (m₀ m : DispatchMetrics) : Prop :=
  (m.attempted : Int) - m₀.attempted =
    ((m.delivered : Int) - m₀.delivered) + (m.failed - m₀.failed) +
      (m.unsafeUrlSkipped - m₀.unsafeUrlSkipped) + (m.claimSkipped - m₀.claimSkipped)

/-- What `dispatch_rate_once` counted since `m₀`. -/
def RateAccounts (m₀ m : DispatchMetrics) : Prop :=
  (m.rateAttempted : Int) - m₀.rateAttempted =
    ((m.rateDelivered : Int) - m₀.rateDelivered) + (m.rateFailed - m₀.rateFailed)

/-- In a state of the loop over `pending` no more than `MAX_CONCURRENT_POSTS` tasks are alive, and
what was spawned is the beginning of `pending`, each item once; the loop goes on until it has
returned, and then it has spawned all of them and joined their tasks, and its counters add up. -/
structure DispatchedOnce (cfg : PoolConfig Joined DispatchMetrics)
    (accounts : DispatchMetrics → DispatchMetrics → Prop) (pending : List α) (m₀ : DispatchMetrics)
    (s : Pool α Joined DispatchMetrics) : Prop where
  alive : s.alive ≤ maxConcurrentPosts
  items : s.spawned ++ s.waiting = pending
  progress : s.phase ≠ .returned → ∃ l s', PoolStep cfg s l s'
  complete : s.phase = .returned → s.spawned = pending ∧ s.running = [] ∧ s.finished = [] ∧
    (s.joined.map Prod.fst).Perm pending
  accounts : s.phase = .returned → accounts m₀ s.metrics

/-- The tasks `dispatch_once` has joined. -/
def settled (m : DispatchMetrics) : Nat :=
  m.delivered + m.failed + m.unsafeUrlSkipped + m.claimSkipped

theorem settled_settle (joined : Joined) (m : DispatchMetrics) :
    settled (m.settle joined) = settled m + 1 := by
  cases joined with
  | outcome o => cases o <;> simp only [settled, DispatchMetrics.settle] <;> omega
  | error e => simp only [settled, DispatchMetrics.settle]; omega
  | panicked => simp only [settled, DispatchMetrics.settle]; omega

theorem attempted_settle (joined : Joined) (m : DispatchMetrics) :
    (m.settle joined).attempted = m.attempted := by
  cases joined with
  | outcome o => cases o <;> rfl
  | error e => rfl
  | panicked => rfl

/-- The tasks `dispatch_rate_once` has joined. -/
def rateSettled (m : DispatchMetrics) : Nat := m.rateDelivered + m.rateFailed

theorem rateSettled_rateSettle (joined : Joined) (m : DispatchMetrics) :
    rateSettled (m.rateSettle joined) = rateSettled m + 1 := by
  cases joined with
  | outcome o => cases o <;> simp only [rateSettled, DispatchMetrics.rateSettle] <;> omega
  | error e => simp only [rateSettled, DispatchMetrics.rateSettle]; omega
  | panicked => simp only [rateSettled, DispatchMetrics.rateSettle]; omega

theorem rateAttempted_rateSettle (joined : Joined) (m : DispatchMetrics) :
    (m.rateSettle joined).rateAttempted = m.rateAttempted := by
  cases joined with
  | outcome o => cases o <;> rfl
  | error e => rfl
  | panicked => rfl

variable {cfg : PoolConfig Joined DispatchMetrics} {pending : List α} {m₀ : DispatchMetrics}
  {s : Pool α Joined DispatchMetrics}

/-- A counter of the tasks spawned and one of the tasks joined have grown by as many when the loop
has returned. -/
theorem counters_agree {attempted settled : DispatchMetrics → Nat} (hcapacity : 0 < cfg.capacity)
    (hspawn : ∀ m, attempted (cfg.onSpawn m) = attempted m + 1 ∧ settled (cfg.onSpawn m) = settled m)
    (hjoin : ∀ r m, attempted (cfg.onJoin r m) = attempted m ∧
      settled (cfg.onJoin r m) = settled m + 1)
    (h : Reaches (PoolStep cfg) anyStep (Pool.start pending m₀) s)
    (hreturned : s.phase = .returned) :
    attempted s.metrics = attempted m₀ + pending.length ∧
      settled s.metrics = settled m₀ + pending.length := by
  obtain ⟨hspawned, -, -, hjoined⟩ := (PoolInv.reaches h).all_joined hcapacity hreturned
  have hlength : s.joined.length = pending.length := by
    rw [← hjoined.length_eq, List.length_map]
  have hattempted := Pool.metrics_eq (i := 1) (j := fun _ => 0) (fun m => (hspawn m).1)
    (fun r m => (hjoin r m).1) h
  have hsettled := Pool.metrics_eq (i := 0) (j := fun _ => 1) (fun m => (hspawn m).2)
    (fun r m => (hjoin r m).2) h
  rw [hspawned] at hattempted
  simp only [List.map_const', List.sum_replicate_nat, hlength] at hattempted hsettled
  omega

/-- The parts that do not depend on what is counted. -/
theorem dispatchedOnce {accounts : DispatchMetrics → DispatchMetrics → Prop}
    (hcapacity : cfg.capacity = maxConcurrentPosts)
    (h : Reaches (PoolStep cfg) anyStep (Pool.start pending m₀) s)
    (haccounts : s.phase = .returned → accounts m₀ s.metrics) :
    DispatchedOnce cfg accounts pending m₀ s := by
  have hinv := PoolInv.reaches h
  have hpos : 0 < cfg.capacity := by
    rw [hcapacity]
    decide
  exact ⟨hcapacity ▸ hinv.alive, hinv.items, s.progress cfg, hinv.all_joined hpos, haccounts⟩

/-- In every run of `dispatch_once` and of `dispatch_rate_once`, over any matches, each is
dispatched once, under the cap, and counted once; and no run goes on forever. -/
theorem each_match_dispatched_once :
    (WellFounded fun s' s => ∃ l, DispatchStep s l s') ∧
    (WellFounded fun s' s => ∃ l, DispatchRateStep s l s') ∧
    (∀ pending m₀ s, Reaches DispatchStep anyStep (Pool.start pending m₀) s →
      DispatchedOnce dispatchOnce Accounts pending m₀ s) ∧
    ∀ pending m₀ s, Reaches DispatchRateStep anyStep (Pool.start pending m₀) s →
      DispatchedOnce dispatchRateOnce RateAccounts pending m₀ s := by
  refine ⟨poolStep_wellFounded dispatchOnce, poolStep_wellFounded dispatchRateOnce, ?_, ?_⟩
  · intro pending m₀ s h
    refine dispatchedOnce rfl h fun hreturned => ?_
    obtain ⟨hattempted, hsettled⟩ := counters_agree (by decide) (fun m => ⟨rfl, rfl⟩)
      (fun r m => ⟨attempted_settle r m, settled_settle r m⟩) h hreturned
    simp only [settled] at hsettled
    unfold Accounts
    omega
  · intro pending m₀ s h
    refine dispatchedOnce rfl h fun hreturned => ?_
    obtain ⟨hattempted, hsettled⟩ := counters_agree (by decide) (fun m => ⟨rfl, rfl⟩)
      (fun r m => ⟨rateAttempted_rateSettle r m, rateSettled_rateSettle r m⟩) h hreturned
    simp only [rateSettled] at hsettled
    unfold RateAccounts
    omega

/-- Counters at zero. -/
def noMetrics : DispatchMetrics := ⟨0, 0, 0, 0, 0, 0, 0, 0, 0⟩

/-- Three failed transactions are dispatched, and the cycle comes to its end. -/
theorem each_match_dispatched_once_three : ∃ s : Pool AlertMatch Joined DispatchMetrics,
    Reaches DispatchStep anyStep
      (Pool.start [sampleMatch 1, sampleMatch 2, sampleMatch 3] noMetrics) s ∧
    s.spawned = [sampleMatch 1, sampleMatch 2, sampleMatch 3] ∧ s.joined.length = 3 ∧
    Accounts noMetrics s.metrics := by
  obtain ⟨s, hrun, hreturned⟩ := Pool.returns dispatchOnce
    (Pool.start [sampleMatch 1, sampleMatch 2, sampleMatch 3] noMetrics)
  have honce := each_match_dispatched_once.2.2.1 _ _ s hrun
  obtain ⟨hspawned, -, -, hjoined⟩ := honce.complete hreturned
  have hlength := hjoined.length_eq
  rw [List.length_map] at hlength
  exact ⟨s, hrun, hspawned, hlength, honce.accounts hreturned⟩

end TxIndexer.Proofs
