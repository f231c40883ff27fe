import TxIndexer.Std.Num
import TxIndexer.Std.Hex
import Mathlib.Data.List.TakeWhile
import Mathlib.Order.Lattice

/-!
# Finding the fork point

`classify_fork`, `next_scan_depth` and `detect_fork` of `crates/indexer/src/worker.rs`: the
hashes of the stored blocks are compared with those of the chain from the tip down, on a window
that widens while everything in it differs. A chain hash is fetched once, when the window first
reaches its height.
-/

namespace TxIndexer.Indexer

/-- `ForkScan` (`worker.rs:770-781`). -/
inductive ForkScan where
  | noReorg
  | fork (f : Nat)
  | inconclusive
  | needDeeper
  deriving DecidableEq, Repr

/-- The verdict at a height where both hashes agree. -/
def verdictAtMatch (lastMismatch : Option Nat) : ForkScan :=
  match lastMismatch with
  | some f => .fork f
  | none => .noReorg

@[simp] theorem verdictAtMatch_eq_noReorg {o : Option Nat} :
    verdictAtMatch o = .noReorg ↔ o = none := by
  cases o <;> simp [verdictAtMatch]

@[simp] theorem verdictAtMatch_eq_fork {o : Option Nat} {f : Nat} :
    verdictAtMatch o = .fork f ↔ o = some f := by
  cases o <;> simp [verdictAtMatch]

@[simp] theorem verdictAtMatch_ne_inconclusive {o : Option Nat} :
    verdictAtMatch o ≠ .inconclusive := by
  cases o <;> simp [verdictAtMatch]

@[simp] theorem verdictAtMatch_ne_needDeeper {o : Option Nat} :
    verdictAtMatch o ≠ .needDeeper := by
  cases o <;> simp [verdictAtMatch]

/-- The loop of `classify_fork`: it ends early with a verdict, or with the last mismatch. -/
def scanDown (chainHashAt : Nat → Option String) :
    Option Nat → List (Nat × String) → Except ForkScan (Option Nat)
  | lastMismatch, [] => .ok lastMismatch
  | lastMismatch, (height, localHash) :: rest =>
      match chainHashAt height with
      | none => .error .inconclusive
      | some chainHash =>
          if chainHash = localHash then .error (verdictAtMatch lastMismatch)
          else scanDown chainHashAt (some height) rest

/-- `classify_fork` (`worker.rs:783-828`). `localHashes` is highest block first. -/
def classifyFork (localHashes : List (Nat × String)) (chainHashAt : Nat → Option String)
    (depth : Nat) : ForkScan :=
  let n := min depth localHashes.length
  if n = 0 then .noReorg
  else
    match scanDown chainHashAt none (localHashes.take n) with
    | .error verdict => verdict
    | .ok lastMismatch =>
        if n < localHashes.length then .needDeeper else verdictAtMatch lastMismatch

/-- `next_scan_depth` (`worker.rs:830-837`). -/
def nextScanDepth (current max_ : Nat) : Nat :=
  if max_ ≤ current then max_ else min (max (min (current * 4) u64Max) (current + 1)) max_

theorem lt_nextScanDepth {current max_ : Nat} (h : current < max_) :
    current < nextScanDepth current max_ := by
  rw [nextScanDepth, if_neg (Nat.not_le.mpr h)]
  omega

/-- The chain hashes fetched so far. -/
abbrev ChainHashes := List (Nat × String)

/-- Fetch the hashes of a window that are missing; `false` when one of them cannot be had. -/
def fetchMissing (rpc : Nat → Option B256) : ChainHashes → List (Nat × String) → ChainHashes × Bool
  | chain, [] => (chain, true)
  | chain, (height, _) :: rest =>
      if (chain.lookup height).isSome then fetchMissing rpc chain rest
      else
        match rpc height with
        | some hash => fetchMissing rpc ((height, hashHex hash) :: chain) rest
        | none => (chain, false)

theorem classifyFork_needDeeper {localHashes : List (Nat × String)}
    {chainHashAt : Nat → Option String} {depth : Nat}
    (h : classifyFork localHashes chainHashAt depth = .needDeeper) :
    depth < localHashes.length := by
  have hscan : ∀ (rest : List (Nat × String)) (last : Option Nat),
      scanDown chainHashAt last rest ≠ .error .needDeeper := by
    intro rest
    induction rest with
    | nil => intro last hlast; cases hlast
    | cons x rest ih =>
        obtain ⟨height, localHash⟩ := x
        intro last hlast
        rw [scanDown] at hlast
        split at hlast
        · cases hlast
        · split at hlast
          · exact verdictAtMatch_ne_needDeeper (Except.error.inj hlast)
          · exact ih (some height) hlast
  unfold classifyFork at h
  simp only at h
  split at h
  · cases h
  · split at h
    · next verdict hverdict => exact absurd (h ▸ hverdict) (hscan _ _)
    · next lastMismatch _ =>
        split at h
        · omega
        · exact absurd h verdictAtMatch_ne_needDeeper

/-- The loop of `detect_fork`: the verdict at the depth where there is one, with all the chain
hashes fetched on the way. -/
def detectForkFrom (localHashes : List (Nat × String)) (rpc : Nat → Option B256)
    (chain : ChainHashes) (depth : Nat) : Option Nat × ChainHashes :=
  match fetchMissing rpc chain (localHashes.take (min depth localHashes.length)) with
  | (chain, false) => (none, chain)
  | (chain, true) =>
      match h : classifyFork localHashes (fun height => chain.lookup height) depth with
      | .noReorg | .inconclusive => (none, chain)
      | .fork f => (some f, chain)
      | .needDeeper =>
          have := classifyFork_needDeeper h
          have := lt_nextScanDepth this
          let next := nextScanDepth depth localHashes.length
          if next = depth then (localHashes.getLast?.map (·.1), chain)
          else detectForkFrom localHashes rpc chain next
termination_by localHashes.length - depth

/-- `detect_fork` (`worker.rs:246-305`) on the stored hashes and the answers of the RPC node. -/
def detectFork (localHashes : List (Nat × String)) (rpc : Nat → Option B256) : Option Nat :=
  if localHashes = [] then none else (detectForkFrom localHashes rpc [] 1).1

/-! ## The full scan -/

/-- The stored hash differs from the chain's. -/
def differs (chainHashAt : Nat → Option String) (x : Nat × String) : Bool :=
  chainHashAt x.1 != some x.2

/-- The heights from the tip down to the first that agrees. -/
def mismatchRun (localHashes : List (Nat × String)) (chainHashAt : Nat → Option String) :
    List (Nat × String) := localHashes.takeWhile (differs chainHashAt)

/-- The lowest height of that run, when the tip differs. -/
def forkFloor (localHashes : List (Nat × String)) (chainHashAt : Nat → Option String) :
    Option Nat := (mismatchRun localHashes chainHashAt).getLast?.map (·.1)

/-- What the RPC node answers, as `detect_fork` renders it. -/
def rendered (rpc : Nat → Option B256) (height : Nat) : Option String := (rpc height).map hashHex

variable {chainHashAt : Nat → Option String} {localHashes : List (Nat × String)}

/-- The loop on a window whose chain hashes are all known. -/
theorem scanDown_eq (window : List (Nat × String)) :
    ∀ last : Option Nat, (∀ x ∈ window, (chainHashAt x.1).isSome) →
      scanDown chainHashAt last window =
        let lastMismatch := (forkFloor window chainHashAt).or last
        if mismatchRun window chainHashAt = window then .ok lastMismatch
        else .error (verdictAtMatch lastMismatch) := by
  induction window with
  | nil => intro last _; rfl
  | cons x rest ih =>
      obtain ⟨height, localHash⟩ := x
      intro last hknown
      obtain ⟨chainHash, hchain⟩ := Option.isSome_iff_exists.mp (hknown _ List.mem_cons_self)
      rw [scanDown, hchain]
      simp only at hchain
      by_cases heq : chainHash = localHash
      · have hrun : mismatchRun ((height, localHash) :: rest) chainHashAt = [] := by
          simp [mismatchRun, differs, hchain, heq]
        simp [heq, forkFloor, hrun]
      · have hrun : mismatchRun ((height, localHash) :: rest) chainHashAt =
            (height, localHash) :: mismatchRun rest chainHashAt := by
          simp [mismatchRun, differs, hchain, heq]
        have hfloor : (forkFloor ((height, localHash) :: rest) chainHashAt).or last =
            (forkFloor rest chainHashAt).or (some height) := by
          simp only [forkFloor, hrun]
          cases mismatchRun rest chainHashAt with
          | nil => rfl
          | cons y run => simp [List.getLast?_cons]
        simp only [if_neg heq, ih (some height) fun y hy => hknown y (List.mem_cons_of_mem _ hy),
          hfloor, hrun, List.cons.injEq, true_and]

/-- The run of a window is the part of the run that it shows. -/
theorem mismatchRun_take (n : Nat) :
    mismatchRun (localHashes.take n) chainHashAt = (mismatchRun localHashes chainHashAt).take n :=
  List.take_takeWhile.symm

/-- The verdict on a window whose chain hashes are all known: more depth is needed while the
run fills the window, and else the verdict is that of the full scan. -/
theorem classifyFork_eq {depth : Nat} (hdepth : 0 < depth) (hlocal : localHashes ≠ [])
    (hknown : ∀ x ∈ localHashes.take depth, (chainHashAt x.1).isSome) :
    classifyFork localHashes chainHashAt depth =
      if depth < localHashes.length ∧ depth ≤ (mismatchRun localHashes chainHashAt).length then
        .needDeeper
      else verdictAtMatch (forkFloor localHashes chainHashAt) := by
  have hlen := List.length_pos_iff.mpr hlocal
  have htake : localHashes.take (min depth localHashes.length) = localHashes.take depth := by
    rw [List.take_eq_take_iff]; omega
  have hrun : (mismatchRun localHashes chainHashAt).length ≤ localHashes.length :=
    (List.takeWhile_sublist _).length_le
  unfold classifyFork
  simp only [htake, scanDown_eq _ none hknown, mismatchRun_take, Option.or_none]
  rw [if_neg (by omega)]
  by_cases hfull : depth ≤ (mismatchRun localHashes chainHashAt).length
  · -- the window lies in the run
    have heq : (mismatchRun localHashes chainHashAt).take depth = localHashes.take depth := by
      have hprefix : mismatchRun localHashes chainHashAt <+: localHashes :=
        List.takeWhile_prefix _
      obtain ⟨rest, hrest⟩ := hprefix
      rw [← hrest, List.take_append_of_le_length hfull]
      simp [hrest]
    rw [if_pos heq]
    simp only
    by_cases hdeeper : depth < localHashes.length
    · rw [if_pos (by omega), if_pos ⟨hdeeper, hfull⟩]
    · rw [if_neg (by omega), if_neg (by omega), List.take_of_length_le (by omega)]
  · -- the run ends inside the window
    have htaken : (mismatchRun localHashes chainHashAt).take depth =
        mismatchRun localHashes chainHashAt := List.take_of_length_le (by omega)
    have hfloor : forkFloor (localHashes.take depth) chainHashAt =
        forkFloor localHashes chainHashAt := by
      rw [forkFloor, mismatchRun_take, htaken, forkFloor]
    have hdone : ¬ (depth < localHashes.length ∧
        depth ≤ (mismatchRun localHashes chainHashAt).length) := fun h => hfull h.2
    rw [htaken, hfloor, if_neg hdone]
    by_cases heq : mismatchRun localHashes chainHashAt = localHashes.take depth
    · rw [if_pos heq]
      have hlength := congrArg List.length heq
      rw [List.length_take] at hlength
      simp only
      rw [if_neg (by omega)]
    · rw [if_neg heq]

/-! ## The widening scan -/

variable {rpc : Nat → Option B256} {chain chain' : ChainHashes}

/-- The fetched hashes are those the node answers. -/
def Fetched (rpc : Nat → Option B256) (chain : ChainHashes) : Prop :=
  ∀ height hash, chain.lookup height = some hash → rendered rpc height = some hash

theorem lookup_fetched_cons (height : Nat) (hash : String) (chain : ChainHashes) (k : Nat) :
    ((height, hash) :: chain).lookup k = if k = height then some hash else chain.lookup k := by
  by_cases hk : k = height
  · simp [hk]
  · have hne : (k == height) = false := by simpa using hk
    simp [List.lookup_cons, hne, hk]

theorem Fetched.cons {height : Nat} {hash : B256} (hchain : Fetched rpc chain)
    (hrpc : rpc height = some hash) : Fetched rpc ((height, hashHex hash) :: chain) := by
  intro k text hk
  rw [lookup_fetched_cons] at hk
  split at hk
  · next heq => rw [heq, rendered, hrpc, Option.map_some, hk]
  · exact hchain k text hk

/-- What a round of fetches leaves, when each succeeds and when one does not. -/
theorem fetchMissing_spec (window : List (Nat × String)) :
    ∀ {chain chain' : ChainHashes} {known : Bool}, Fetched rpc chain →
      fetchMissing rpc chain window = (chain', known) →
      Fetched rpc chain' ∧ (∀ h, (chain.lookup h).isSome → (chain'.lookup h).isSome) ∧
      (known = true → ∀ x ∈ window, (chain'.lookup x.1).isSome) ∧
      (known = false → ∃ x ∈ window, rpc x.1 = none) := by
  induction window with
  | nil =>
      intro chain chain' known hchain h
      cases h
      exact ⟨hchain, fun _ => id, by simp, nofun⟩
  | cons x rest ih =>
      obtain ⟨height, localHash⟩ := x
      -- the rest of the round starts from a map that has this height
      have hrest : ∀ {chain₁ chain chain' : ChainHashes} {known : Bool}, Fetched rpc chain₁ →
          (∀ k, (chain.lookup k).isSome ∨ k = height → (chain₁.lookup k).isSome) →
          fetchMissing rpc chain₁ rest = (chain', known) →
          Fetched rpc chain' ∧ (∀ k, (chain.lookup k).isSome → (chain'.lookup k).isSome) ∧
          (known = true → ∀ x ∈ (height, localHash) :: rest, (chain'.lookup x.1).isSome) ∧
          (known = false → ∃ x ∈ (height, localHash) :: rest, rpc x.1 = none) := by
        intro chain₁ chain chain' known hchain₁ hhave h
        obtain ⟨hfetched, hgrows, hknown, hmissing⟩ := ih hchain₁ h
        refine ⟨hfetched, fun k hk => hgrows k (hhave k (.inl hk)), fun hk x hx => ?_,
          fun hk => ?_⟩
        · rcases List.mem_cons.mp hx with rfl | hx
          · exact hgrows _ (hhave _ (.inr rfl))
          · exact hknown hk x hx
        · obtain ⟨x, hx, hnone⟩ := hmissing hk
          exact ⟨x, List.mem_cons_of_mem _ hx, hnone⟩
      intro chain chain' known hchain h
      rw [fetchMissing] at h
      by_cases hhave : (chain.lookup height).isSome
      · rw [if_pos hhave] at h
        exact hrest hchain (fun k hk => hk.elim id fun heq => heq ▸ hhave) h
      · rw [if_neg hhave] at h
        cases hrpc : rpc height with
        | none =>
            rw [hrpc] at h
            cases h
            exact ⟨hchain, fun _ => id, nofun, fun _ => ⟨_, List.mem_cons_self, hrpc⟩⟩
        | some hash =>
            rw [hrpc] at h
            refine hrest (hchain.cons hrpc) (fun k hk => ?_) h
            rw [lookup_fetched_cons]
            split
            · rfl
            · next hne => exact hk.resolve_right hne

theorem scanDown_congr {f g : Nat → Option String} (window : List (Nat × String)) :
    ∀ last : Option Nat, (∀ x ∈ window, f x.1 = g x.1) →
      scanDown f last window = scanDown g last window := by
  induction window with
  | nil => intro last _; rfl
  | cons x rest ih =>
      obtain ⟨height, localHash⟩ := x
      intro last hfg
      simp only [scanDown]
      rw [hfg _ List.mem_cons_self]
      cases g height with
      | none => rfl
      | some chainHash =>
          simp only [ih (some height) fun y hy => hfg y (List.mem_cons_of_mem _ hy)]

theorem classifyFork_congr {f g : Nat → Option String} {depth : Nat}
    (hfg : ∀ x ∈ localHashes.take depth, f x.1 = g x.1) :
    classifyFork localHashes f depth = classifyFork localHashes g depth := by
  have htake : localHashes.take (min depth localHashes.length) = localHashes.take depth := by
    rw [List.take_eq_take_iff]; omega
  unfold classifyFork
  simp only [htake, scanDown_congr _ none hfg]

/-- The widening scan returns what the full scan returns, or gives up on a hash it cannot
have. -/
theorem detectForkFrom_eq (hlocal : localHashes ≠ []) {depth : Nat} (hdepth : 0 < depth)
    (hchain : Fetched rpc chain) :
    (detectForkFrom localHashes rpc chain depth).1 = forkFloor localHashes (rendered rpc) ∨
      (detectForkFrom localHashes rpc chain depth).1 = none ∧ ∃ x ∈ localHashes, rpc x.1 = none := by
  induction hn : localHashes.length - depth using Nat.strong_induction_on generalizing chain depth with
  | _ n ih =>
    have htake : localHashes.take (min depth localHashes.length) = localHashes.take depth := by
      rw [List.take_eq_take_iff]; omega
    rw [detectForkFrom, htake]
    rcases hfetch : fetchMissing rpc chain (localHashes.take depth) with ⟨chain', _ | _⟩
    · obtain ⟨-, -, -, hmissing⟩ := fetchMissing_spec _ hchain hfetch
      obtain ⟨x, hx, hnone⟩ := hmissing rfl
      exact .inr ⟨rfl, x, List.mem_of_mem_take hx, hnone⟩
    · obtain ⟨hfetched, -, hknown, -⟩ := fetchMissing_spec _ hchain hfetch
      -- in the window the fetched hashes are all the node's
      have hwindow : ∀ x ∈ localHashes.take depth,
          chain'.lookup x.1 = rendered rpc x.1 := by
        intro x hx
        obtain ⟨hash, hhash⟩ := Option.isSome_iff_exists.mp (hknown rfl x hx)
        rw [hhash, hfetched _ _ hhash]
      have hverdict := classifyFork_eq hdepth hlocal
        (fun x hx => hwindow x hx ▸ hknown rfl x hx)
      rw [← classifyFork_congr (f := fun height => chain'.lookup height) hwindow] at hverdict
      split at hverdict
      · next hdeeper =>
        have hlt := lt_nextScanDepth hdeeper.1
        have hrec := ih (localHashes.length - nextScanDepth depth localHashes.length)
          (by omega) (Nat.lt_trans hdepth hlt) hfetched rfl
        simp only
        split
        · next hcase => rw [hverdict] at hcase; cases hcase
        · next hcase => rw [hverdict] at hcase; cases hcase
        · next hcase => rw [hverdict] at hcase; cases hcase
        · rw [if_neg (Nat.ne_of_gt hlt)]
          exact hrec
      · left
        simp only
        split
        · next hcase =>
            rw [hverdict, verdictAtMatch_eq_noReorg] at hcase
            exact hcase.symm
        · next hcase => exact absurd (hverdict ▸ hcase) verdictAtMatch_ne_inconclusive
        · next f hcase =>
            rw [hverdict, verdictAtMatch_eq_fork] at hcase
            exact hcase.symm
        · next hcase => exact absurd (hverdict ▸ hcase) verdictAtMatch_ne_needDeeper

/-- A fork that is found is the floor of the full scan. -/
theorem detectFork_eq_some {f : Nat} (h : detectFork localHashes rpc = some f) :
    forkFloor localHashes (rendered rpc) = some f := by
  unfold detectFork at h
  split at h
  · cases h
  · next hlocal =>
      have hnil : Fetched rpc [] := nofun
      rcases detectForkFrom_eq hlocal Nat.one_pos hnil with heq | heq
      · rw [← heq, h]
      · rw [heq.1] at h
        cases h

/-- When every hash can be had, the widening scan is the full scan. -/
theorem detectFork_eq (havailable : ∀ x ∈ localHashes, rpc x.1 ≠ none) :
    detectFork localHashes rpc = forkFloor localHashes (rendered rpc) := by
  unfold detectFork
  split
  · next hlocal => rw [hlocal]; rfl
  · next hlocal =>
      have hnil : Fetched rpc [] := nofun
      rcases detectForkFrom_eq hlocal Nat.one_pos hnil with heq | heq
      · exact heq
      · obtain ⟨-, x, hx, hnone⟩ := heq
        exact absurd hnone (havailable x hx)

/-! ## The requests -/

/-- The heights a round of fetches asks the node for, up to the first it cannot have. -/
def requestedBy (rpc : Nat → Option B256) : ChainHashes → List (Nat × String) → List Nat
  | _, [] => []
  | chain, (height, _) :: rest =>
      if (chain.lookup height).isSome then requestedBy rpc chain rest
      else
        match rpc height with
        | some hash => height :: requestedBy rpc ((height, hashHex hash) :: chain) rest
        | none => [height]

/-- What the loop returns, the depth at which it ends, and the heights it asks for on the way. -/
structure ForkTrace where
  result : Option Nat
  finalDepth : Nat
  requested : List Nat

/-- The loop of `detect_fork` with its requests. -/
def traceForkFrom (localHashes : List (Nat × String)) (rpc : Nat → Option B256)
    (chain : ChainHashes) (depth : Nat) : ForkTrace :=
  let window := localHashes.take (min depth localHashes.length)
  let requested := requestedBy rpc chain window
  match fetchMissing rpc chain window with
  | (_, false) => ⟨none, depth, requested⟩
  | (chain, true) =>
      match h : classifyFork localHashes (fun height => chain.lookup height) depth with
      | .noReorg | .inconclusive => ⟨none, depth, requested⟩
      | .fork f => ⟨some f, depth, requested⟩
      | .needDeeper =>
          have := classifyFork_needDeeper h
          have := lt_nextScanDepth this
          let next := nextScanDepth depth localHashes.length
          if next = depth then ⟨localHashes.getLast?.map (·.1), depth, requested⟩
          else
            let deeper := traceForkFrom localHashes rpc chain next
            { deeper with requested := requested ++ deeper.requested }
termination_by localHashes.length - depth

/-- A round asks for heights of its window. -/
theorem requestedBy_subset (rpc : Nat → Option B256) (window : List (Nat × String)) :
    ∀ chain, requestedBy rpc chain window ⊆ window.map (·.1) := by
  induction window with
  | nil => intro chain; exact List.Subset.refl _
  | cons x rest ih =>
      obtain ⟨height, localHash⟩ := x
      intro chain
      rw [requestedBy, List.map_cons]
      split
      · exact List.Subset.trans (ih chain) (List.subset_cons_self _ _)
      · split
        · exact List.cons_subset_cons _ (ih _)
        · exact List.cons_subset_cons _ (List.nil_subset _)

/-- A round in which a hash cannot be had fails. -/
theorem fetchMissing_available (window : List (Nat × String)) :
    ∀ {chain chain' : ChainHashes}, fetchMissing rpc chain window = (chain', true) →
      ∀ h ∈ requestedBy rpc chain window, rpc h ≠ none := by
  induction window with
  | nil => intro chain chain' _ h hh; cases hh
  | cons x rest ih =>
      obtain ⟨height, localHash⟩ := x
      intro chain chain' hfetch h hh
      rw [fetchMissing] at hfetch
      rw [requestedBy] at hh
      split at hfetch
      · next hhave =>
          rw [if_pos hhave] at hh
          exact ih hfetch h hh
      · next hhave =>
          rw [if_neg hhave] at hh
          cases hrpc : rpc height with
          | none => rw [hrpc] at hfetch; cases hfetch
          | some hash =>
              rw [hrpc] at hfetch hh
              rcases List.mem_cons.mp hh with rfl | hh
              · rw [hrpc]; nofun
              · exact ih hfetch h hh

/-- A round reads the node at the heights it asks for and nowhere else. -/
theorem fetchMissing_congr {rpc' : Nat → Option B256} (window : List (Nat × String)) :
    ∀ chain, (∀ h ∈ requestedBy rpc chain window, rpc' h = rpc h) →
      fetchMissing rpc' chain window = fetchMissing rpc chain window ∧
        requestedBy rpc' chain window = requestedBy rpc chain window := by
  induction window with
  | nil => intro chain _; exact ⟨rfl, rfl⟩
  | cons x rest ih =>
      obtain ⟨height, localHash⟩ := x
      intro chain hsame
      simp only [fetchMissing, requestedBy] at hsame ⊢
      by_cases hhave : (chain.lookup height).isSome
      · simp only [if_pos hhave] at hsame ⊢
        exact ih chain hsame
      · simp only [if_neg hhave] at hsame ⊢
        cases hrpc : rpc height with
        | none =>
            simp only [hrpc, List.mem_singleton, forall_eq] at hsame
            simp only [hsame, and_self]
        | some hash =>
            simp only [hrpc] at hsame
            have hheight : rpc' height = some hash :=
              (hsame height List.mem_cons_self).trans hrpc
            obtain ⟨hfetch, hrequested⟩ :=
              ih _ fun h hh => hsame h (List.mem_cons_of_mem height hh)
            simp only [hheight, hfetch, hrequested, and_self]

/-- The requests of the first round are requests of the loop. -/
theorem requestedBy_subset_traceForkFrom (chain : ChainHashes) (depth : Nat) :
    requestedBy rpc chain (localHashes.take (min depth localHashes.length)) ⊆
      (traceForkFrom localHashes rpc chain depth).requested := by
  intro h hh
  rw [traceForkFrom]
  dsimp only
  split
  · exact hh
  · split
    · exact hh
    · exact hh
    · exact hh
    · split
      · exact hh
      · exact List.mem_append_left _ hh

/-- Where a round decides nothing, the loop goes on with the deeper one. -/
theorem traceForkFrom_needDeeper {chain chain' : ChainHashes} {depth : Nat}
    (hfetched : fetchMissing rpc chain (localHashes.take (min depth localHashes.length)) =
      (chain', true))
    (hcase : classifyFork localHashes (fun height => chain'.lookup height) depth = .needDeeper) :
    traceForkFrom localHashes rpc chain depth =
      { traceForkFrom localHashes rpc chain' (nextScanDepth depth localHashes.length) with
        requested := requestedBy rpc chain (localHashes.take (min depth localHashes.length)) ++
          (traceForkFrom localHashes rpc chain'
            (nextScanDepth depth localHashes.length)).requested } := by
  have hlt := lt_nextScanDepth (classifyFork_needDeeper hcase)
  conv_lhs => rw [traceForkFrom]
  simp only [hfetched]
  split
  · next hcase' => rw [hcase] at hcase'; cases hcase'
  · next hcase' => rw [hcase] at hcase'; cases hcase'
  · next hcase' => rw [hcase] at hcase'; cases hcase'
  · rw [if_neg (Nat.ne_of_gt hlt)]

/-- A node that answers these requests alike gets the same requests from the loop, and the same
result. -/
theorem traceForkFrom_congr {rpc' : Nat → Option B256} (chain : ChainHashes) (depth : Nat)
    (hsame : ∀ h ∈ (traceForkFrom localHashes rpc chain depth).requested, rpc' h = rpc h) :
    traceForkFrom localHashes rpc' chain depth = traceForkFrom localHashes rpc chain depth := by
  induction hn : localHashes.length - depth using Nat.strong_induction_on generalizing chain depth with
  | _ n ih =>
    obtain ⟨hfetch, hrequested⟩ := fetchMissing_congr _ chain fun h hh =>
      hsame h (requestedBy_subset_traceForkFrom chain depth hh)
    rcases hfetched : fetchMissing rpc chain (localHashes.take (min depth localHashes.length)) with
      ⟨chain', _ | _⟩
    · rw [traceForkFrom, traceForkFrom, hfetch, hrequested, hfetched]
    · by_cases hcase :
          classifyFork localHashes (fun height => chain'.lookup height) depth = .needDeeper
      · have hdeeper := classifyFork_needDeeper hcase
        have hlt := lt_nextScanDepth hdeeper
        rw [traceForkFrom_needDeeper hfetched hcase] at hsame
        have hrest := ih (localHashes.length - nextScanDepth depth localHashes.length) (by omega)
          chain' (nextScanDepth depth localHashes.length)
          (fun h hh => hsame h (List.mem_append_right _ hh)) rfl
        rw [traceForkFrom_needDeeper hfetched hcase,
          traceForkFrom_needDeeper (hfetch.trans hfetched) hcase, hrest, hrequested]
      · rw [traceForkFrom, traceForkFrom, hfetch, hrequested, hfetched]
        dsimp only
        split
        · rfl
        · rfl
        · rfl
        · next hcase' => exact absurd hcase' hcase

/-- The loop asks only for heights it looks at, and gives up when it cannot have one. -/
theorem traceForkFrom_spec (chain : ChainHashes) (depth : Nat) :
    (traceForkFrom localHashes rpc chain depth).result =
      (detectForkFrom localHashes rpc chain depth).1 ∧
    depth ≤ (traceForkFrom localHashes rpc chain depth).finalDepth ∧
    (∀ h ∈ (traceForkFrom localHashes rpc chain depth).requested,
      h ∈ (localHashes.take (traceForkFrom localHashes rpc chain depth).finalDepth).map (·.1)) ∧
    ((∃ h ∈ (traceForkFrom localHashes rpc chain depth).requested, rpc h = none) →
      (traceForkFrom localHashes rpc chain depth).result = none) := by
  induction hn : localHashes.length - depth using Nat.strong_induction_on generalizing chain depth with
  | _ n ih =>
    have htake : localHashes.take (min depth localHashes.length) = localHashes.take depth := by
      rw [List.take_eq_take_iff]; omega
    have hwindow := requestedBy_subset rpc (localHashes.take depth) chain
    rw [traceForkFrom, detectForkFrom]
    simp only [htake]
    rcases hfetch : fetchMissing rpc chain (localHashes.take depth) with ⟨chain', _ | _⟩
    · exact ⟨rfl, le_rfl, fun h hh => hwindow hh, fun _ => rfl⟩
    · have havailable := fetchMissing_available _ hfetch
      simp only
      split
      · exact ⟨rfl, le_rfl, fun h hh => hwindow hh, fun _ => rfl⟩
      · exact ⟨rfl, le_rfl, fun h hh => hwindow hh, fun _ => rfl⟩
      · refine ⟨rfl, le_rfl, fun h hh => hwindow hh, ?_⟩
        intro ⟨h, hh, hnone⟩
        exact absurd hnone (havailable h hh)
      · next hcase =>
        have hlt := lt_nextScanDepth (classifyFork_needDeeper hcase)
        have hdeeper := classifyFork_needDeeper hcase
        rw [if_neg (Nat.ne_of_gt hlt), if_neg (Nat.ne_of_gt hlt)]
        obtain ⟨hresult, hdepth, hsubset, hgives⟩ :=
          ih (localHashes.length - nextScanDepth depth localHashes.length) (by omega) chain'
            (nextScanDepth depth localHashes.length) rfl
        refine ⟨hresult, (Nat.le_of_lt hlt).trans hdepth, ?_, ?_⟩
        · intro h hh
          rcases List.mem_append.mp hh with hh | hh
          · obtain ⟨x, hx, rfl⟩ := List.mem_map.mp (hwindow hh)
            exact List.mem_map_of_mem
              (List.take_subset_take_left _ ((Nat.le_of_lt hlt).trans hdepth) hx)
          · exact hsubset h hh
        · intro ⟨h, hh, hnone⟩
          rcases List.mem_append.mp hh with hh | hh
          · exact absurd hnone (havailable h hh)
          · exact hgives ⟨h, hh, hnone⟩

end TxIndexer.Indexer
