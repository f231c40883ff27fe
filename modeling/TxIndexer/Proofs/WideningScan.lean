import TxIndexer.Indexer.Fork

/-!
# The widening scan

`detect_fork` looks at windows of 1, 4, 16, .. heights from the tip down. It finds what one pass
over all the stored hashes would find, and asks the node for no more than it looks at.
-/

namespace TxIndexer.Proofs

open Indexer

/-- The stored hash is the one the node answers. -/
def Agrees (rpc : Nat → Option B256) (x : Nat × String) : Prop := rendered rpc x.1 = some x.2

/-- `f` is the lowest height of the run of mismatches that starts at the tip and ends at the
first height that agrees, or at the end of the list. -/
def LowestMismatch (localHashes : List (Nat × String)) (rpc : Nat → Option B256) (f : Nat) : Prop :=
  ∃ run rest, localHashes = run ++ rest ∧ (∀ x ∈ run, ¬ Agrees rpc x) ∧
    (∀ y ∈ rest.head?, Agrees rpc y) ∧ f ∈ run.map (·.1) ∧ ∀ x ∈ run, f ≤ x.1

/-- Below a height that agrees every height does. -/
def AgreementDownwardClosed (localHashes : List (Nat × String)) (rpc : Nat → Option B256) : Prop :=
  ∀ x ∈ localHashes, ∀ y ∈ localHashes, y.1 ≤ x.1 → Agrees rpc x → Agrees rpc y

variable {localHashes : List (Nat × String)} {rpc : Nat → Option B256}

theorem differs_eq_false {x : Nat × String} : differs (rendered rpc) x = false ↔ Agrees rpc x := by
  simp [differs, Agrees]

theorem not_agrees_of_differs {x : Nat × String} (h : differs (rendered rpc) x = true) :
    ¬ Agrees rpc x := by
  intro hagrees
  rw [differs_eq_false.mpr hagrees] at h
  cases h

/-- The floor of the full scan is the lowest height of the run. -/
theorem lowestMismatch_of_forkFloor (hdesc : localHashes.Pairwise fun x y => y.1 < x.1) {f : Nat}
    (hfloor : forkFloor localHashes (rendered rpc) = some f) :
    LowestMismatch localHashes rpc f := by
  obtain ⟨last, hlast, rfl⟩ := Option.map_eq_some_iff.mp hfloor
  refine ⟨mismatchRun localHashes (rendered rpc), localHashes.dropWhile (differs (rendered rpc)),
    List.takeWhile_append_dropWhile.symm, ?_, ?_, ?_, ?_⟩
  · intro x hx
    exact not_agrees_of_differs (List.mem_takeWhile_imp hx)
  · intro y hy
    apply differs_eq_false.mp
    have hhead := List.head?_dropWhile_not (differs (rendered rpc)) localHashes
    rw [Option.mem_def.mp hy] at hhead
    exact hhead
  · exact List.mem_map_of_mem (List.mem_of_getLast? hlast)
  · intro x hx
    -- the last of the run is the lowest, the list being highest first
    have hrun : (mismatchRun localHashes (rendered rpc)).Pairwise fun x y => y.1 < x.1 :=
      hdesc.sublist (List.takeWhile_sublist _)
    obtain ⟨init, hinit⟩ := List.getLast?_eq_some_iff.mp hlast
    rw [hinit] at hx hrun
    rcases List.mem_append.mp hx with hx | hx
    · exact Nat.le_of_lt ((List.pairwise_append.mp hrun).2.2 x hx last List.mem_cons_self)
    · rw [List.mem_singleton.mp hx]

/-- Where agreement is downward closed, the heights below the floor are the ones that agree. -/
theorem LowestMismatch.lt_iff_agrees (hdesc : localHashes.Pairwise fun x y => y.1 < x.1) {f : Nat}
    (hf : LowestMismatch localHashes rpc f) (hclosed : AgreementDownwardClosed localHashes rpc) :
    ∀ x ∈ localHashes, x.1 < f ↔ Agrees rpc x := by
  obtain ⟨run, rest, rfl, hrun, hrest, hmem, hlowest⟩ := hf
  obtain ⟨z, hz, rfl⟩ := List.mem_map.mp hmem
  intro x hx
  rcases List.mem_append.mp hx with hxrun | hxrest
  · exact iff_of_false (Nat.not_lt.mpr (hlowest x hxrun)) (hrun x hxrun)
  · refine iff_of_true ((List.pairwise_append.mp hdesc).2.2 z hz x hxrest) ?_
    cases rest with
    | nil => cases hxrest
    | cons y rest =>
        have hy : y ∈ run ++ y :: rest := List.mem_append_right run List.mem_cons_self
        have hle : x.1 ≤ y.1 := by
          rcases List.mem_cons.mp hxrest with rfl | hxrest
          · exact le_rfl
          · have hpairwise := (List.pairwise_append.mp hdesc).2.1
            exact Nat.le_of_lt ((List.pairwise_cons.mp hpairwise).1 x hxrest)
        exact hclosed y hy x hx hle (hrest y rfl)

/-- The trace is that of `detect_fork`. -/
theorem detectFork_eq_result {tip : Nat × String} {rest : List (Nat × String)} :
    detectFork (tip :: rest) rpc = (traceForkFrom (tip :: rest) rpc [] 1).result := by
  rw [detectFork, if_neg (List.cons_ne_nil _ _), (traceForkFrom_spec [] 1).1]

/-- A tip that agrees is the only height that is asked for. -/
theorem traceForkFrom_tip {tip : Nat × String} {rest : List (Nat × String)}
    (htip : Agrees rpc tip) : traceForkFrom (tip :: rest) rpc [] 1 = ⟨none, 1, [tip.1]⟩ := by
  obtain ⟨height, localHash⟩ := tip
  obtain ⟨hash, hrpc, hhash⟩ := Option.map_eq_some_iff.mp htip
  simp only at hrpc
  have hwindow : ((height, localHash) :: rest).take (min 1 (rest.length + 1)) =
      [(height, localHash)] := by
    rw [Nat.min_eq_left (by omega)]
    rfl
  have hfetch : fetchMissing rpc [] [(height, localHash)] = ([(height, localHash)], true) := by
    simp [fetchMissing, hrpc, hhash]
  have hrequested : requestedBy rpc [] [(height, localHash)] = [height] := by
    simp [requestedBy, hrpc]
  have hverdict : classifyFork ((height, localHash) :: rest)
      (fun h => List.lookup h [(height, localHash)]) 1 = .noReorg := by
    have hagree : mismatchRun ((height, localHash) :: rest)
        (fun h => List.lookup h [(height, localHash)]) = [] := by
      simp [mismatchRun, differs]
    rw [classifyFork_eq Nat.one_pos (List.cons_ne_nil _ _) (by simp), hagree, forkFloor, hagree,
      if_neg (fun h => absurd h.2 (by decide))]
    rfl
  rw [traceForkFrom]
  simp only [List.length_cons, hwindow, hfetch, hrequested]
  split <;> simp_all

/-- When every hash can be had, the widening scan finds no fork if the tip agrees, and else the
lowest height of the run of mismatches from the tip; and where agreement is downward closed, the
blocks from there on are the ones that do not agree. Whatever the node answers, only heights
above the final depth are asked for, just the tip if it agrees, and one that cannot be had ends
the scan without a fork. What the node would answer elsewhere makes no difference. -/
theorem widening_scan {tip : Nat × String} {rest : List (Nat × String)}
    (hdesc : (tip :: rest).Pairwise fun x y => y.1 < x.1) :
    ((∀ height, rpc height ≠ none) →
      (Agrees rpc tip → detectFork (tip :: rest) rpc = none) ∧
      (¬ Agrees rpc tip → ∃ f, detectFork (tip :: rest) rpc = some f ∧
        LowestMismatch (tip :: rest) rpc f ∧
        (AgreementDownwardClosed (tip :: rest) rpc →
          ∀ x ∈ tip :: rest, x.1 < f ↔ Agrees rpc x))) ∧
    (traceForkFrom (tip :: rest) rpc [] 1).result = detectFork (tip :: rest) rpc ∧
    (∀ height ∈ (traceForkFrom (tip :: rest) rpc [] 1).requested,
      height ∈ ((tip :: rest).take (traceForkFrom (tip :: rest) rpc [] 1).finalDepth).map (·.1)) ∧
    (Agrees rpc tip → (traceForkFrom (tip :: rest) rpc [] 1).requested = [tip.1]) ∧
    ((∃ height ∈ (traceForkFrom (tip :: rest) rpc [] 1).requested, rpc height = none) →
      detectFork (tip :: rest) rpc = none) ∧
    ∀ rpc' : Nat → Option B256,
      (∀ height ∈ (traceForkFrom (tip :: rest) rpc [] 1).requested, rpc' height = rpc height) →
        detectFork (tip :: rest) rpc' = detectFork (tip :: rest) rpc ∧
          traceForkFrom (tip :: rest) rpc' [] 1 = traceForkFrom (tip :: rest) rpc [] 1 := by
  obtain ⟨-, -, hsubset, hgives⟩ :
      (traceForkFrom (tip :: rest) rpc [] 1).result = (detectForkFrom (tip :: rest) rpc [] 1).1 ∧
        _ := traceForkFrom_spec [] 1
  have hdetect : detectFork (tip :: rest) rpc = (traceForkFrom (tip :: rest) rpc [] 1).result :=
    detectFork_eq_result
  refine ⟨?_, hdetect.symm, hsubset, fun htip => by rw [traceForkFrom_tip htip], ?_, ?_⟩
  · intro havailable
    have hfloor : detectFork (tip :: rest) rpc = forkFloor (tip :: rest) (rendered rpc) :=
      detectFork_eq fun x _ => havailable x.1
    constructor
    · intro htip
      rw [hdetect, traceForkFrom_tip htip]
    · intro htip
      have hdiffers : differs (rendered rpc) tip = true := by
        rw [← Bool.not_eq_false]
        exact fun hfalse => htip (differs_eq_false.mp hfalse)
      have hne : mismatchRun (tip :: rest) (rendered rpc) ≠ [] := by
        rw [mismatchRun, List.takeWhile_cons_of_pos hdiffers]
        exact List.cons_ne_nil _ _
      have hsome : forkFloor (tip :: rest) (rendered rpc) =
          some ((mismatchRun (tip :: rest) (rendered rpc)).getLast hne).1 := by
        rw [forkFloor, List.getLast?_eq_some_getLast hne, Option.map_some]
      have hlowest := lowestMismatch_of_forkFloor hdesc hsome
      exact ⟨_, hfloor.trans hsome, hlowest, hlowest.lt_iff_agrees hdesc⟩
  · intro hnone
    rw [hdetect]
    exact hgives hnone
  · intro rpc' hsame
    have htrace := traceForkFrom_congr [] 1 hsame
    rw [hdetect, detectFork_eq_result, htrace]
    exact ⟨rfl, rfl⟩

/-- Five stored blocks, -/
def fiveBlocks : List (Nat × String) :=
  [(9, hashHex 19), (8, hashHex 18), (7, hashHex 17), (6, hashHex 6), (5, hashHex 5)]

/-- and a chain from which the upper three differ. -/
def fiveHashes (height : Nat) : Option B256 := some (BitVec.ofNat 256 height)

/-- The scan widens to all five and finds the lowest of the three. -/
theorem widening_scan_five :
    detectFork fiveBlocks fiveHashes = some 7 ∧ LowestMismatch fiveBlocks fiveHashes 7 := by
  have hdesc : fiveBlocks.Pairwise fun x y => y.1 < x.1 := by
    simp [fiveBlocks]
  have htip : ¬ Agrees fiveHashes (9, hashHex 19) := by
    simp [Agrees, rendered, fiveHashes]
  have hfloor : forkFloor fiveBlocks (rendered fiveHashes) = some 7 := by
    simp [forkFloor, mismatchRun, fiveBlocks, List.takeWhile_cons, rendered, fiveHashes, differs]
  have havailable : ∀ height, fiveHashes height ≠ none := fun height => Option.some_ne_none _
  obtain ⟨f, hdetect, hlowest, -⟩ := ((widening_scan hdesc).1 havailable).2 htip
  have hseven : f = 7 := by
    have heq : detectFork fiveBlocks fiveHashes = forkFloor fiveBlocks (rendered fiveHashes) :=
      detectFork_eq fun x _ => havailable x.1
    rw [hfloor] at heq
    exact Option.some.inj (hdetect.symm.trans heq)
  rw [← hseven]
  exact ⟨hdetect, hlowest⟩

end TxIndexer.Proofs
