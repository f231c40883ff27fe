import TxIndexer.Lib.Transition
import Mathlib.Algebra.Order.Ring.Int
import Mathlib.Data.List.Perm.Basic
import Mathlib.Order.WellFounded

/-!
# A loop over a bounded set of tasks

A loop takes items off a list and runs each in a task of its own. It first spawns tasks until a
number of them is alive, then waits: for each task that it joins it spawns one more, and it returns
when there is none left to join. A task finishes when it likes and with any result, and tasks that
have finished are joined in any order. The loop keeps some metrics, which it updates when it spawns
a task and when it joins one.
-/

namespace TxIndexer.Lib

variable {α ρ μ : Type}

/-- Where the loop is: spawning the first tasks, joining and refilling, or done. -/
inductive PoolPhase where
  | priming
  | draining
  | returned
  deriving DecidableEq, Repr

/-- How many tasks may be alive, and what the loop does to its metrics. -/
structure PoolConfig (ρ μ : Type) where
  capacity : Nat
  onSpawn : μ → μ
  onJoin : ρ → μ → μ

/-- The items still to be spawned, those of the running tasks, the results that have not been
joined, and the metrics. What was spawned and what was joined is history, in order. -/
structure Pool (α ρ μ : Type) where
  phase : PoolPhase
  waiting : List α
  running : List α
  finished : List (α × ρ)
  metrics : μ
  spawned : List α
  joined : List (α × ρ)

/-- What happens in a step. -/
inductive PoolEvent (α ρ : Type) where
  | prime (a : α)
  | primed
  | finish (a : α) (r : ρ)
  | join (a : α) (r : ρ)
  | returned

namespace Pool

/-- The tasks that have not been joined. -/
def alive (s : Pool α ρ μ) : Nat := s.running.length + s.finished.length

/-- The first waiting item gets a task. -/
def spawn (cfg : PoolConfig ρ μ) (s : Pool α ρ μ) (a : α) (rest : List α) : Pool α ρ μ :=
  { s with
    waiting := rest
    running := s.running ++ [a]
    metrics := cfg.onSpawn s.metrics
    spawned := s.spawned ++ [a] }

/-- The next item, if any, gets a task. -/
def refill (cfg : PoolConfig ρ μ) (s : Pool α ρ μ) : Pool α ρ μ :=
  match s.waiting with
  | [] => s
  | a :: rest => s.spawn cfg a rest

/-- A task that has finished with `r` is joined, and `left` are those that remain. -/
def join (cfg : PoolConfig ρ μ) (s : Pool α ρ μ) (a : α) (r : ρ) (left : List (α × ρ)) :
    Pool α ρ μ :=
  { s with
    finished := left
    metrics := cfg.onJoin r s.metrics
    joined := s.joined ++ [(a, r)] }

/-- Before the first task. -/
def start (pending : List α) (metrics : μ) : Pool α ρ μ where
  phase := .priming
  waiting := pending
  running := []
  finished := []
  metrics
  spawned := []
  joined := []

end Pool

/-- One step of the loop, or of a task. -/
inductive PoolStep (cfg : PoolConfig ρ μ) : Pool α ρ μ → PoolEvent α ρ → Pool α ρ μ → Prop
  | prime {s a rest} (hphase : s.phase = .priming) (hroom : s.alive < cfg.capacity)
      (hwaiting : s.waiting = a :: rest) : PoolStep cfg s (.prime a) (s.spawn cfg a rest)
  | primed {s} (hphase : s.phase = .priming) (hfull : s.waiting = [] ∨ cfg.capacity ≤ s.alive) :
      PoolStep cfg s .primed { s with phase := .draining }
  | finish {s a r before after} (hrunning : s.running = before ++ a :: after) :
      PoolStep cfg s (.finish a r)
        { s with running := before ++ after, finished := s.finished ++ [(a, r)] }
  | join {s a r before after} (hphase : s.phase = .draining)
      (hfinished : s.finished = before ++ (a, r) :: after) :
      PoolStep cfg s (.join a r) ((s.join cfg a r (before ++ after)).refill cfg)
  | returned {s} (hphase : s.phase = .draining) (hrunning : s.running = [])
      (hfinished : s.finished = []) : PoolStep cfg s .returned { s with phase := .returned }

variable {cfg : PoolConfig ρ μ} {pending : List α} {s s' : Pool α ρ μ} {l : PoolEvent α ρ}

/-! ## What every step keeps -/

/-- What was spawned and what waits are the items in their order, and a spawned item runs, has
finished or was joined. -/
structure ItemsKept (pending : List α) (s : Pool α ρ μ) : Prop where
  items : s.spawned ++ s.waiting = pending
  tasks : s.spawned.Perm (s.running ++ (s.finished ++ s.joined).map Prod.fst)

namespace ItemsKept

theorem spawn (h : ItemsKept pending s) {a : α} {rest : List α}
    (hwaiting : s.waiting = a :: rest) : ItemsKept pending (s.spawn cfg a rest) where
  items := by
    have hitems := h.items
    rw [hwaiting] at hitems
    rw [← hitems]
    exact List.append_assoc _ _ _
  tasks := by
    have hlast := h.tasks.append_right [a]
    refine hlast.trans ?_
    rw [List.append_assoc]
    refine (List.Perm.append_left _ List.perm_append_comm).trans ?_
    rw [← List.append_assoc]
    exact .refl _

theorem finish (h : ItemsKept pending s) {a : α} {r : ρ} {before after : List α}
    (hrunning : s.running = before ++ a :: after) :
    ItemsKept pending
      { s with running := before ++ after, finished := s.finished ++ [(a, r)] } where
  items := h.items
  tasks := by
    have htasks := h.tasks
    rw [hrunning] at htasks
    refine htasks.trans ?_
    simp only [List.map_append, List.map_cons, List.map_nil, List.append_assoc]
    refine List.Perm.append_left _ ?_
    rw [List.cons_append]
    refine List.perm_middle.symm.trans (List.Perm.append_left _ ?_)
    exact List.perm_middle.symm

theorem join (h : ItemsKept pending s) {a : α} {r : ρ} {before after : List (α × ρ)}
    (hfinished : s.finished = before ++ (a, r) :: after) :
    ItemsKept pending (s.join cfg a r (before ++ after)) where
  items := h.items
  tasks := by
    have htasks := h.tasks
    rw [hfinished] at htasks
    refine htasks.trans (List.Perm.append_left _ (List.Perm.map _ ?_))
    simp only [Pool.join, List.append_assoc, List.cons_append]
    refine List.Perm.append_left _ ?_
    rw [← List.append_assoc after]
    exact (List.perm_append_singleton (a, r) (after ++ s.joined)).symm

end ItemsKept

/-- Besides, no more tasks are alive than may be, and while items wait, as many. -/
structure PoolInv (cfg : PoolConfig ρ μ) (pending : List α) (s : Pool α ρ μ) : Prop
    extends ItemsKept pending s where
  alive : s.alive ≤ cfg.capacity
  full : s.phase = .draining → s.waiting ≠ [] → s.alive = cfg.capacity
  returned : s.phase = .returned →
    s.running = [] ∧ s.finished = [] ∧ (s.waiting = [] ∨ cfg.capacity = 0)

namespace PoolInv

theorem start (cfg : PoolConfig ρ μ) (pending : List α) (metrics : μ) :
    PoolInv cfg pending (Pool.start pending metrics) :=
  ⟨⟨rfl, .refl _⟩, Nat.zero_le _, nofun, nofun⟩

theorem step (h : PoolInv cfg pending s) (hstep : PoolStep cfg s l s') :
    PoolInv cfg pending s' := by
  cases hstep with
  | @prime a rest hphase hroom hwaiting =>
      refine ⟨h.toItemsKept.spawn hwaiting, ?_, ?_, ?_⟩
      · simp only [Pool.alive, Pool.spawn, List.length_append, List.length_singleton] at hroom ⊢
        omega
      · exact fun hdraining => nomatch hphase.symm.trans hdraining
      · exact fun hreturned => nomatch hphase.symm.trans hreturned
  | primed hphase hfull =>
      refine ⟨⟨h.items, h.tasks⟩, h.alive, ?_, nofun⟩
      intro _ hwaiting
      exact Nat.le_antisymm h.alive (hfull.resolve_left hwaiting)
  | @finish a r before after hrunning =>
      have halive := h.alive
      have hsame : ({ s with running := before ++ after, finished := s.finished ++ [(a, r)] } :
          Pool α ρ μ).alive = s.alive := by
        simp only [Pool.alive, hrunning, List.length_append, List.length_cons, List.length_nil]
        omega
      refine ⟨h.toItemsKept.finish hrunning, by rw [hsame]; exact h.alive, ?_, ?_⟩
      · intro hdraining hwaiting
        rw [hsame]
        exact h.full hdraining hwaiting
      · intro hreturned
        rw [(h.returned hreturned).1] at hrunning
        exact absurd hrunning (List.append_ne_nil_of_right_ne_nil _ (List.cons_ne_nil _ _)).symm
  | @join a r before after hphase hfinished =>
      have hjoined : ItemsKept pending (s.join cfg a r (before ++ after)) :=
        h.toItemsKept.join hfinished
      have halive := h.alive
      have hfull := h.full hphase
      -- one task less, and one more if an item waits
      have hless : (s.join cfg a r (before ++ after)).alive + 1 = s.alive := by
        simp only [Pool.alive, Pool.join, hfinished, List.length_append, List.length_cons]
        omega
      unfold Pool.refill
      cases hwaiting : s.waiting with
      | nil =>
          have hwaiting' : (s.join cfg a r (before ++ after)).waiting = [] := hwaiting
          simp only [hwaiting']
          refine ⟨hjoined, by omega, fun _ hne => absurd hwaiting' hne, ?_⟩
          exact fun hreturned => nomatch hphase.symm.trans hreturned
      | cons b rest =>
          have hwaiting' : (s.join cfg a r (before ++ after)).waiting = b :: rest := hwaiting
          have hsame : ((s.join cfg a r (before ++ after)).spawn cfg b rest).alive = s.alive := by
            rw [← hless]
            simp only [Pool.alive, Pool.spawn, List.length_append, List.length_singleton]
            omega
          simp only [hwaiting']
          refine ⟨hjoined.spawn hwaiting', by rw [hsame]; exact h.alive, ?_, ?_⟩
          · intro _ _
            rw [hsame]
            exact hfull (by rw [hwaiting]; exact List.cons_ne_nil _ _)
          · exact fun hreturned => nomatch hphase.symm.trans hreturned
  | returned hphase hrunning hfinished =>
      refine ⟨⟨h.items, h.tasks⟩, h.alive, nofun, fun _ => ⟨hrunning, hfinished, ?_⟩⟩
      by_cases hwaiting : s.waiting = []
      · exact .inl hwaiting
      · right
        rw [← h.full hphase hwaiting, Pool.alive, hrunning, hfinished]
        rfl

theorem reaches (h : Reaches (PoolStep cfg) anyStep (Pool.start pending metrics) s) :
    PoolInv cfg pending s :=
  h.invariant (fun _ _ _ hinv hstep _ => hinv.step hstep) (.start cfg pending metrics)

/-- A loop that has returned has spawned every item, in order, and joined every task. -/
theorem all_joined (h : PoolInv cfg pending s) (hcapacity : 0 < cfg.capacity)
    (hreturned : s.phase = .returned) :
    s.spawned = pending ∧ s.running = [] ∧ s.finished = [] ∧ (s.joined.map Prod.fst).Perm pending := by
  obtain ⟨hrunning, hfinished, hwaiting⟩ := h.returned hreturned
  have hnone : s.waiting = [] := hwaiting.resolve_right (Nat.ne_of_gt hcapacity)
  have hitems := h.items
  have htasks := h.tasks
  rw [hnone, List.append_nil] at hitems
  rw [hrunning, hfinished, List.nil_append, List.nil_append, hitems] at htasks
  exact ⟨hitems, hrunning, hfinished, htasks.symm⟩

end PoolInv

/-! ## The metrics -/

/-- A number that each spawn raises by `i`, and the join of a result by what `j` says. -/
theorem Pool.metrics_eq {m₀ : μ} {f : μ → Nat} {i : Nat} {j : ρ → Nat}
    (hspawn : ∀ m, f (cfg.onSpawn m) = f m + i) (hjoin : ∀ r m, f (cfg.onJoin r m) = f m + j r)
    (h : Reaches (PoolStep cfg) anyStep (Pool.start pending m₀) s) :
    f s.metrics = f m₀ + i * s.spawned.length + (s.joined.map fun x => j x.2).sum := by
  have hcounted : ∀ (s : Pool α ρ μ) (a : α) (rest : List α),
      f s.metrics = f m₀ + i * s.spawned.length + (s.joined.map fun x => j x.2).sum →
      f (s.spawn cfg a rest).metrics = f m₀ + i * (s.spawn cfg a rest).spawned.length +
        ((s.spawn cfg a rest).joined.map fun x => j x.2).sum := by
    intro s a rest hs
    simp only [Pool.spawn, hspawn, hs, List.length_append, List.length_singleton, Nat.mul_add,
      Nat.mul_one]
    omega
  refine h.invariant (P := fun s : Pool α ρ μ =>
    f s.metrics = f m₀ + i * s.spawned.length + (s.joined.map fun x => j x.2).sum) ?_ ?_
  · intro s l s' hs hstep _
    cases hstep with
    | prime => exact hcounted s _ _ hs
    | primed | finish | returned => exact hs
    | @join a r before after =>
        have hjoined : f (s.join cfg a r (before ++ after)).metrics =
            f m₀ + i * (s.join cfg a r (before ++ after)).spawned.length +
              ((s.join cfg a r (before ++ after)).joined.map fun x => j x.2).sum := by
          simp only [Pool.join, hjoin, hs, List.map_append, List.map_cons, List.map_nil,
            List.sum_append, List.sum_cons, List.sum_nil]
          omega
        unfold Pool.refill
        cases (s.join cfg a r (before ++ after)).waiting with
        | nil => exact hjoined
        | cons b rest => exact hcounted _ b rest hjoined
  · simp [Pool.start]

/-! ## Termination -/

/-- What is left to do. -/
def Pool.work (s : Pool α ρ μ) : Nat :=
  3 * s.waiting.length + 2 * s.running.length + s.finished.length +
    match s.phase with
    | .priming => 2
    | .draining => 1
    | .returned => 0

theorem Pool.work_spawn {a : α} {rest : List α} (hwaiting : s.waiting = a :: rest) :
    (s.spawn cfg a rest).work < s.work := by
  simp only [Pool.work, Pool.spawn, hwaiting, List.length_append, List.length_cons,
    List.length_nil]
  omega

/-- Every step leaves less to do. -/
theorem PoolStep.work_lt (h : PoolStep cfg s l s') : s'.work < s.work := by
  cases h with
  | prime _ _ hwaiting => exact Pool.work_spawn hwaiting
  | primed hphase => simp only [Pool.work, hphase]; omega
  | finish hrunning =>
      simp only [Pool.work, hrunning, List.length_append, List.length_cons, List.length_nil]
      omega
  | @join a r before after _ hfinished =>
      have hjoined : (s.join cfg a r (before ++ after)).work < s.work := by
        simp only [Pool.work, Pool.join, hfinished, List.length_append, List.length_cons]
        omega
      unfold Pool.refill
      cases hwaiting : (s.join cfg a r (before ++ after)).waiting with
      | nil => exact hjoined
      | cons b rest => exact (Pool.work_spawn hwaiting).trans hjoined
  | returned hphase => simp only [Pool.work, hphase]; omega

/-- No run goes on forever. -/
theorem poolStep_wellFounded (cfg : PoolConfig ρ μ) :
    WellFounded fun s' s : Pool α ρ μ => ∃ l, PoolStep cfg s l s' :=
  Subrelation.wf (fun ⟨_, hstep⟩ => hstep.work_lt) (measure Pool.work).wf

/-- A run that has not returned can go on. -/
theorem Pool.progress [Nonempty ρ] (cfg : PoolConfig ρ μ) (s : Pool α ρ μ)
    (hphase : s.phase ≠ .returned) : ∃ l s', PoolStep cfg s l s' := by
  cases hs : s.phase with
  | returned => exact absurd hs hphase
  | priming =>
      by_cases hfull : cfg.capacity ≤ s.alive
      · exact ⟨_, _, .primed hs (.inr hfull)⟩
      · cases hwaiting : s.waiting with
        | nil => exact ⟨_, _, .primed hs (.inl hwaiting)⟩
        | cons a rest => exact ⟨_, _, .prime hs (Nat.not_le.mp hfull) hwaiting⟩
  | draining =>
      cases hrunning : s.running with
      | cons a rest =>
          obtain ⟨r⟩ := ‹Nonempty ρ›
          exact ⟨.finish a r, _, .finish (show s.running = [] ++ a :: rest from hrunning)⟩
      | nil =>
          cases hfinished : s.finished with
          | cons x rest =>
              exact ⟨.join x.1 x.2, _, .join hs (show s.finished = [] ++ x :: rest from hfinished)⟩
          | nil => exact ⟨_, _, .returned hs hrunning hfinished⟩

/-- However the tasks finish and are joined, every run comes to an end, and only by returning. -/
theorem Pool.returns [Nonempty ρ] (cfg : PoolConfig ρ μ) (s : Pool α ρ μ) :
    ∃ s', Reaches (PoolStep cfg) anyStep s s' ∧ s'.phase = .returned := by
  induction s using (poolStep_wellFounded cfg).induction with
  | h s ih =>
      by_cases hphase : s.phase = .returned
      · exact ⟨s, .refl, hphase⟩
      · obtain ⟨l, s₁, hstep⟩ := s.progress cfg hphase
        obtain ⟨s', hrun, hreturned⟩ := ih s₁ ⟨l, hstep⟩
        exact ⟨s', .cons l hstep trivial hrun, hreturned⟩

end TxIndexer.Lib
