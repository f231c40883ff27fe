import Mathlib.Logic.Function.Basic
import Mathlib.Logic.Function.Iterate
import Mathlib.Data.List.Induction

/-!
# Tasks on a shared state

Tasks run the instructions of their programs one after another on a state they share, and a task
ends with its program or at the first instruction that fails. A schedule says whose turn it is.
Where each task has a part of the state that its instructions depend on and that those of the
others leave alone, the schedule makes no difference: each task gets as far with its part as it
would alone.
-/

namespace TxIndexer.Lib

/-- Where a task stands: the instructions it has left, or the error that ended it. -/
inductive TaskState (α ε : Type) where
  | running (rest : List α)
  | failed (e : ε)

section Tasks

variable {ι σ α ε : Type} (exec : σ → α → Except ε σ)

/-- One turn of a task. -/
def TaskState.turn : σ × TaskState α ε → σ × TaskState α ε
  | (s, .running (a :: rest)) =>
      match exec s a with
      | .ok s' => (s', .running rest)
      | .error e => (s, .failed e)
  | (s, .running []) => (s, .running [])
  | (s, .failed e) => (s, .failed e)

/-- One turn of task `i` among the others. -/
def taskTurn [DecidableEq ι] (i : ι) (m : σ × (ι → TaskState α ε)) :
    σ × (ι → TaskState α ε) :=
  let (s, t) := TaskState.turn exec (m.1, m.2 i)
  (s, Function.update m.2 i t)

/-- The turns of a schedule, from a state in which every task is about to begin. -/
def runSchedule [DecidableEq ι] (programs : ι → List α) (s : σ) (schedule : List ι) :
    σ × (ι → TaskState α ε) :=
  schedule.foldl (fun m i => taskTurn exec i m) (s, fun i => .running (programs i))

/-- The instructions one after another, up to the first that fails. -/
def execAll : σ → List α → σ × Except ε Unit
  | s, [] => (s, .ok ())
  | s, a :: rest =>
      match exec s a with
      | .ok s' => execAll s' rest
      | .error e => (s, .error e)

/-- How a task has ended, if it has. -/
def TaskState.ended : TaskState α ε → Option (Except ε Unit)
  | .running [] => some (.ok ())
  | .running (_ :: _) => none
  | .failed e => some (.error e)

/-! ### One task alone -/

variable {exec}

theorem iterate_turn_nil (n : Nat) (s : σ) :
    (TaskState.turn exec)^[n] (s, .running []) = (s, .running []) := by
  induction n with
  | zero => rfl
  | succ n ih => rw [Function.iterate_succ_apply]; exact ih

theorem iterate_turn_failed (n : Nat) (s : σ) (e : ε) :
    (TaskState.turn exec)^[n] (s, .failed e) = (s, .failed e) := by
  induction n with
  | zero => rfl
  | succ n ih => rw [Function.iterate_succ_apply]; exact ih

/-- After `n` turns its first `n` instructions have been run. -/
theorem iterate_turn_state (n : Nat) (s : σ) (program : List α) :
    ((TaskState.turn exec)^[n] (s, .running program)).1 = (execAll exec s (program.take n)).1 := by
  induction n generalizing s program with
  | zero => rfl
  | succ n ih =>
      rw [Function.iterate_succ_apply]
      cases program with
      | nil => exact congrArg Prod.fst (iterate_turn_nil n s)
      | cons a rest =>
          rw [TaskState.turn, List.take_succ_cons, execAll]
          cases exec s a with
          | ok s' => exact ih s' rest
          | error e => exact congrArg Prod.fst (iterate_turn_failed n s e)

/-- If it has ended then, it has run them all. -/
theorem iterate_turn_ended {n : Nat} {s : σ} {program : List α} {result : Except ε Unit}
    (h : ((TaskState.turn exec)^[n] (s, .running program)).2.ended = some result) :
    execAll exec s program = (((TaskState.turn exec)^[n] (s, .running program)).1, result) := by
  induction n generalizing s program with
  | zero =>
      cases program with
      | nil => cases h; rfl
      | cons a rest => cases h
  | succ n ih =>
      rw [Function.iterate_succ_apply] at h ⊢
      cases program with
      | nil =>
          rw [TaskState.turn, iterate_turn_nil] at h ⊢
          cases h
          rfl
      | cons a rest =>
          rw [TaskState.turn] at h ⊢
          rw [execAll]
          cases hexec : exec s a with
          | ok s' =>
              simp only [hexec] at h ⊢
              exact ih h
          | error e =>
              simp only [hexec, iterate_turn_failed] at h ⊢
              cases h
              rfl

end Tasks

/-! ### A task among others -/

section Parts

variable {ι σ α ε : Type} {exec : σ → α → Except ε σ}

/-- Each task has a part of the state. `Mine i a` says that `a` is an instruction for the part of
`i`, and `Agree i s t` that the part of `i` is the same in `s` and `t`. -/
structure Parts (exec : σ → α → Except ε σ) (Mine : ι → α → Prop) (Agree : ι → σ → σ → Prop) :
    Prop where
  refl : ∀ i s, Agree i s s
  trans : ∀ i s t u, Agree i s t → Agree i t u → Agree i s u
  onlyMine : ∀ i a s t, Mine i a → Agree i s t →
    (∀ s', exec s a = .ok s' → ∃ t', exec t a = .ok t' ∧ Agree i s' t') ∧
      ∀ e, exec s a = .error e → exec t a = .error e
  onlyThere : ∀ i j a s s', Mine i a → j ≠ i → exec s a = .ok s' → Agree j s' s

/-- The instructions a task has left. -/
def TaskState.left : TaskState α ε → List α
  | .running rest => rest
  | .failed _ => []

variable {Mine : ι → α → Prop} {Agree : ι → σ → σ → Prop} {programs : ι → List α} {s : σ}

theorem TaskState.left_turn_subset (m : σ × TaskState α ε) :
    (TaskState.turn exec m).2.left ⊆ m.2.left := by
  obtain ⟨s, rest | e⟩ := m
  · cases rest with
    | nil => exact List.Subset.refl _
    | cons a rest =>
        rw [TaskState.turn]
        cases exec s a with
        | ok s' => exact List.subset_cons_self a rest
        | error e => exact List.nil_subset _
  · exact List.Subset.refl _

/-- The turn of a task depends on its part only. -/
theorem Parts.turn_agree (h : Parts exec Mine Agree) {i : ι} {s t : σ} {task : TaskState α ε}
    (hmine : ∀ a ∈ task.left, Mine i a) (hagree : Agree i s t) :
    (TaskState.turn exec (s, task)).2 = (TaskState.turn exec (t, task)).2 ∧
      Agree i (TaskState.turn exec (s, task)).1 (TaskState.turn exec (t, task)).1 := by
  obtain rest | e := task
  · cases rest with
    | nil => exact ⟨rfl, hagree⟩
    | cons a rest =>
        obtain ⟨hok, herror⟩ := h.onlyMine i a s t (hmine a List.mem_cons_self) hagree
        rw [TaskState.turn, TaskState.turn]
        cases hexec : exec s a with
        | ok s' =>
            obtain ⟨t', ht', hagree'⟩ := hok s' hexec
            rw [ht']
            exact ⟨rfl, hagree'⟩
        | error e =>
            rw [herror e hexec]
            exact ⟨rfl, hagree⟩
  · exact ⟨rfl, hagree⟩

/-- The turn of a task leaves the parts of the others alone. -/
theorem Parts.turn_frame (h : Parts exec Mine Agree) {i j : ι} (hne : j ≠ i) {s : σ}
    {task : TaskState α ε} (hmine : ∀ a ∈ task.left, Mine i a) :
    Agree j (TaskState.turn exec (s, task)).1 s := by
  obtain rest | e := task
  · cases rest with
    | nil => exact h.refl j s
    | cons a rest =>
        rw [TaskState.turn]
        cases hexec : exec s a with
        | ok s' => exact h.onlyThere i j a s s' (hmine a List.mem_cons_self) hne hexec
        | error e => exact h.refl j s
  · exact h.refl j s

variable [DecidableEq ι]

theorem runSchedule_concat (schedule : List ι) (i : ι) :
    runSchedule exec programs s (schedule ++ [i]) =
      taskTurn exec i (runSchedule exec programs s schedule) := by
  rw [runSchedule, List.foldl_append]
  rfl

theorem runSchedule_left (schedule : List ι) (i : ι) :
    ((runSchedule exec programs s schedule).2 i).left ⊆ programs i := by
  induction schedule using List.reverseRecOn with
  | nil => exact List.Subset.refl _
  | append_singleton schedule j ih =>
      rw [runSchedule_concat]
      by_cases hij : i = j
      · subst hij
        simp only [taskTurn, Function.update_self]
        exact List.Subset.trans (TaskState.left_turn_subset _) ih
      · simp only [taskTurn, Function.update_of_ne hij]
        exact ih

theorem TaskState.isSome_ended (task : TaskState α ε) : task.ended.isSome ↔ task.left = [] := by
  obtain rest | e := task
  · cases rest with
    | nil => simp [TaskState.ended, TaskState.left]
    | cons a rest => simp [TaskState.ended, TaskState.left]
  · simp [TaskState.ended, TaskState.left]

theorem TaskState.length_left_turn (exec : σ → α → Except ε σ) (m : σ × TaskState α ε) :
    (TaskState.turn exec m).2.left.length ≤ m.2.left.length - 1 := by
  obtain ⟨s, rest | e⟩ := m
  · cases rest with
    | nil => exact Nat.le_refl _
    | cons a rest =>
        rw [TaskState.turn]
        cases exec s a with
        | ok s' => exact Nat.le_refl _
        | error e => exact Nat.zero_le _
  · exact Nat.le_refl _

/-- Each turn of a task brings it nearer to its end. -/
theorem length_left_runSchedule (schedule : List ι) (i : ι) :
    ((runSchedule exec programs s schedule).2 i).left.length ≤
      (programs i).length - schedule.count i := by
  induction schedule using List.reverseRecOn with
  | nil => exact Nat.le_refl _
  | append_singleton schedule j ih =>
      rw [runSchedule_concat, List.count_append]
      by_cases hij : i = j
      · subst hij
        rw [List.count_singleton_self, taskTurn]
        simp only [Function.update_self]
        have hturn := TaskState.length_left_turn exec
          ((runSchedule exec programs s schedule).1, (runSchedule exec programs s schedule).2 i)
        dsimp only at hturn
        omega
      · rw [List.count_singleton, if_neg (by simpa using Ne.symm hij), Nat.add_zero, taskTurn]
        simp only [Function.update_of_ne hij]
        exact ih

/-- A task that has had a turn for each of its instructions has ended. -/
theorem isSome_ended_runSchedule {schedule : List ι} {i : ι}
    (h : (programs i).length ≤ schedule.count i) :
    ((runSchedule exec programs s schedule).2 i).ended.isSome := by
  have hlength : ((runSchedule exec programs s schedule).2 i).left.length ≤
      (programs i).length - schedule.count i := length_left_runSchedule schedule i
  rw [Nat.sub_eq_zero_of_le h, Nat.le_zero, List.length_eq_zero_iff] at hlength
  exact (TaskState.isSome_ended _).mpr hlength

/-- Whatever the schedule, a task is where its own turns alone would have taken it, and so is its
part of the state. -/
theorem runSchedule_alone (h : Parts exec Mine Agree) (hmine : ∀ i, ∀ a ∈ programs i, Mine i a)
    (schedule : List ι) (i : ι) :
    (runSchedule exec programs s schedule).2 i =
        ((TaskState.turn exec)^[schedule.count i] (s, .running (programs i))).2 ∧
      Agree i (runSchedule exec programs s schedule).1
        ((TaskState.turn exec)^[schedule.count i] (s, .running (programs i))).1 := by
  induction schedule using List.reverseRecOn with
  | nil => exact ⟨rfl, h.refl i s⟩
  | append_singleton schedule j ih =>
      have hleft : ∀ a ∈ ((runSchedule exec programs s schedule).2 j).left, Mine j a :=
        fun a ha => hmine j a (runSchedule_left schedule j ha)
      obtain ⟨htask, hagree⟩ := ih
      rw [runSchedule_concat, List.count_append]
      by_cases hij : i = j
      · subst hij
        rw [List.count_singleton_self, Function.iterate_succ_apply', taskTurn]
        simp only [Function.update_self]
        have hturn := h.turn_agree hleft hagree
        rw [htask] at hturn ⊢
        exact hturn
      · rw [List.count_singleton, if_neg (by simpa using Ne.symm hij), Nat.add_zero, taskTurn]
        simp only [Function.update_of_ne hij]
        exact ⟨htask, h.trans i _ _ _ (h.turn_frame hij hleft) hagree⟩

/-- A task has run the first of its instructions, as it would have alone. -/
theorem runSchedule_prefix (h : Parts exec Mine Agree) (hmine : ∀ i, ∀ a ∈ programs i, Mine i a)
    (schedule : List ι) (i : ι) : ∃ k,
    Agree i (runSchedule exec programs s schedule).1
      (execAll exec s ((programs i).take k)).1 := by
  refine ⟨schedule.count i, ?_⟩
  rw [← iterate_turn_state]
  exact (runSchedule_alone h hmine schedule i).2

/-- A task that has ended has ended as it would have alone. -/
theorem runSchedule_ended (h : Parts exec Mine Agree) (hmine : ∀ i, ∀ a ∈ programs i, Mine i a)
    {schedule : List ι} {i : ι} {result : Except ε Unit}
    (hended : ((runSchedule exec programs s schedule).2 i).ended = some result) :
    (execAll exec s (programs i)).2 = result ∧
      Agree i (runSchedule exec programs s schedule).1 (execAll exec s (programs i)).1 := by
  obtain ⟨htask, hagree⟩ := runSchedule_alone h hmine schedule i
  rw [htask] at hended
  rw [iterate_turn_ended hended]
  exact ⟨rfl, hagree⟩

/-- What no turn changes, no schedule changes. -/
theorem runSchedule_frame {R : σ → σ → Prop} (hrefl : ∀ s, R s s)
    (htrans : ∀ s t u, R s t → R t u → R s u)
    (hframe : ∀ i, ∀ a ∈ programs i, ∀ s s', exec s a = .ok s' → R s' s) (schedule : List ι) :
    R (runSchedule exec programs s schedule).1 s := by
  induction schedule using List.reverseRecOn with
  | nil => exact hrefl s
  | append_singleton schedule i ih =>
      have hleft : ((runSchedule exec programs s schedule).2 i).left ⊆ programs i :=
        runSchedule_left schedule i
      rw [runSchedule_concat]
      refine htrans _ _ _ ?_ ih
      simp only [taskTurn]
      cases htask : (runSchedule exec programs s schedule).2 i with
      | failed e => exact hrefl _
      | running rest =>
          cases rest with
          | nil => exact hrefl _
          | cons a rest =>
              rw [htask] at hleft
              rw [TaskState.turn]
              cases hexec : exec (runSchedule exec programs s schedule).1 a with
              | ok s' => exact hframe i a (hleft List.mem_cons_self) _ _ hexec
              | error e => exact hrefl _

end Parts

/-! ### Two states side by side -/

/-- A task with another kind of errors. -/
def TaskState.mapError {α ε ε' : Type} (f : ε → ε') : TaskState α ε → TaskState α ε'
  | .running rest => .running rest
  | .failed e => .failed (f e)

theorem TaskState.ended_mapError {α ε ε' : Type} (f : ε → ε') (task : TaskState α ε) :
    (task.mapError f).ended = task.ended.map fun result => result.mapError f := by
  cases task with
  | running rest => cases rest <;> rfl
  | failed e => rfl

section Simulation

variable {ι σ σ' α ε ε' : Type} [DecidableEq ι] {exec : σ → α → Except ε σ}
  {exec' : σ' → α → Except ε' σ'} {f : ε → ε'} {R : σ → σ' → Prop} {programs : ι → List α}

/-- Where every instruction ends alike on two states and keeps them related, so do the turns of a
schedule. -/
theorem runSchedule_simulates
    (hstep : ∀ i, ∀ a ∈ programs i, ∀ s s', R s s' →
      (∀ t, exec s a = .ok t → ∃ t', exec' s' a = .ok t' ∧ R t t') ∧
        ∀ e, exec s a = .error e → exec' s' a = .error (f e))
    {s : σ} {s' : σ'} (h : R s s') (schedule : List ι) :
    R (runSchedule exec programs s schedule).1 (runSchedule exec' programs s' schedule).1 ∧
      ∀ i, (runSchedule exec' programs s' schedule).2 i =
        ((runSchedule exec programs s schedule).2 i).mapError f := by
  induction schedule using List.reverseRecOn with
  | nil => exact ⟨h, fun i => rfl⟩
  | append_singleton schedule j ih =>
      obtain ⟨hstate, htasks⟩ := ih
      have hleft : ((runSchedule exec programs s schedule).2 j).left ⊆ programs j :=
        runSchedule_left schedule j
      rw [runSchedule_concat, runSchedule_concat]
      have hturn : R (TaskState.turn exec ((runSchedule exec programs s schedule).1,
            (runSchedule exec programs s schedule).2 j)).1
          (TaskState.turn exec' ((runSchedule exec' programs s' schedule).1,
            ((runSchedule exec programs s schedule).2 j).mapError f)).1 ∧
          (TaskState.turn exec' ((runSchedule exec' programs s' schedule).1,
            ((runSchedule exec programs s schedule).2 j).mapError f)).2 =
          (TaskState.turn exec ((runSchedule exec programs s schedule).1,
            (runSchedule exec programs s schedule).2 j)).2.mapError f := by
        cases htask : (runSchedule exec programs s schedule).2 j with
        | failed e => exact ⟨hstate, rfl⟩
        | running rest =>
            cases rest with
            | nil => exact ⟨hstate, rfl⟩
            | cons a rest =>
                rw [htask] at hleft
                obtain ⟨hok, herror⟩ := hstep j a (hleft List.mem_cons_self) _ _ hstate
                rw [TaskState.mapError, TaskState.turn, TaskState.turn]
                cases hexec : exec (runSchedule exec programs s schedule).1 a with
                | ok t =>
                    obtain ⟨t', ht', hrelated⟩ := hok t hexec
                    rw [ht']
                    exact ⟨hrelated, rfl⟩
                | error e =>
                    rw [herror e hexec]
                    exact ⟨hstate, rfl⟩
      simp only [taskTurn, htasks j]
      refine ⟨hturn.1, ?_⟩
      intro i
      by_cases hij : i = j
      · subst hij
        rw [Function.update_self, Function.update_self]
        exact hturn.2
      · rw [Function.update_of_ne hij, Function.update_of_ne hij]
        exact htasks i

end Simulation

end TxIndexer.Lib
