import TxIndexer.Indexer.DispatchCycles

/-!
# Pairs that never succeed keep others waiting

The batch is the first hundred pending pairs by transaction hash, and a pair that failed is pending
again at once. So a pair is attempted in as many cycles as there are pairs exactly if fewer than a
hundred others that never succeed are ordered at or before it.
-/

namespace TxIndexer.Proofs

open Db Indexer

variable {κ : Type} [LinearOrder κ]

/-- How many other pending pairs never succeed and are ordered at or before `p`. -/
def blockingPairs (env : AlertEnv κ) (outcome : DeliveryKey → HttpAnswer) (s : AlertState)
    (p : AlertMatch) : Nat :=
  (Lib.blockers (fun m : AlertMatch => env.collate m.txHash) (delivers env outcome) p
    s.pending).length

/-- In as many cycles of dispatcher `w` as there are pending pairs, `p` is attempted. -/
def AttemptedInTime (env : AlertEnv κ) (outcome : DeliveryKey → HttpAnswer) (w : Worker)
    (s : AlertState) (p : AlertMatch) : Prop :=
  ∀ batches s', DispatchLoop env outcome w s batches s' → batches.length = s.pending.length →
    ∃ batch ∈ batches, p ∈ batch

variable {env : AlertEnv κ} {outcome : DeliveryKey → HttpAnswer} {w : Worker} {s : AlertState}
  {p : AlertMatch}

theorem pending_nodup : s.pending.Nodup :=
  List.Nodup.of_map _ ((alertMatches_keys_nodup s.subscriptions s.db).sublist
    (List.filter_sublist.map AlertMatch.key))

/-- With a hundred pairs before it that never succeed, some run never attempts it. -/
theorem not_attempted (hidle : s.Idle w) (hunclaimed : Unclaimed s) (hp : p ∈ s.pending)
    (hmany : dispatchBatch ≤ blockingPairs env outcome s p) :
    ¬ AttemptedInTime env outcome w s p := by
  intro hattempted
  obtain ⟨batches, final, hrounds, hlength, havoid⟩ :=
    Lib.exists_rounds_without pending_nodup hp hmany s.pending.length
  obtain ⟨s', hloop⟩ := exists_dispatchLoop hrounds hidle hunclaimed rfl
  obtain ⟨batch, hbatch, hin⟩ := hattempted batches s' hloop hlength
  exact havoid batch hbatch hin

/-- One dispatcher, to which no new pairs come, attempts a pending pair in as many cycles as there
are pending pairs exactly if fewer than a hundred others that never succeed are ordered at or
before it. -/
theorem attempted_in_time_iff (outcome : DeliveryKey → HttpAnswer) (hidle : s.Idle w)
    (hunclaimed : Unclaimed s) (hp : p ∈ s.pending) :
    AttemptedInTime env outcome w s p ↔ blockingPairs env outcome s p < dispatchBatch := by
  constructor
  · intro hattempted
    by_contra hmany
    exact not_attempted hidle hunclaimed hp (Nat.not_lt.mp hmany) hattempted
  · intro hfew batches s' hloop hlength
    exact (hloop.rounds hidle hunclaimed).tried pending_nodup hp hfew hlength.ge

/-! ## A receiver that always fails -/

/-- Every POST is answered with an error. -/
def alwaysFails (_ : DeliveryKey) : HttpAnswer := .response 500 "500 Internal Server Error"

theorem delivers_sampleMatch (hash : B256) :
    delivers sampleEnv alwaysFails (sampleMatch hash) = false := by
  unfold delivers
  rw [prepareRequest_sampleMatch]
  rfl

theorem pending_sampleAlerts {hashes : List B256} (h : hashes.Nodup) :
    (sampleAlerts hashes).pending = hashes.map sampleMatch := by
  rw [AlertState.pending, pendingAlertMatches, alertMatches_sampleAlerts h, List.filter_eq_self]
  intro m _
  exact decide_eq_true fun d hd => absurd hd (Option.not_mem_none d)

theorem unclaimed_sampleAlerts {hashes : List B256} (h : hashes.Nodup) :
    Unclaimed (sampleAlerts hashes) := by
  intro m hm
  rw [alertMatches_sampleAlerts h] at hm
  rw [pending_sampleAlerts h]
  exact .inl hm

theorem txHash_sampleMatch (hash : B256) : (sampleMatch hash).txHash = hashHex hash := rfl

theorem sampleMatch_inj {a b : B256} : sampleMatch a = sampleMatch b ↔ a = b := by
  constructor
  · intro heq
    have hhash := congrArg AlertMatch.txHash heq
    rwa [txHash_sampleMatch, txHash_sampleMatch, hashHex_inj_iff] at hhash
  · intro heq
    rw [heq]

/-- The collation of the sample environment orders hashes by their value. -/
theorem collate_hashHex (hash : B256) : sampleEnv.collate (hashHex hash) = hash.toNat := by
  have hstrip : stripHexPrefix (hashHex hash).toList = hexFixed 64 hash.toNat := by
    rw [hashHex, String.toList_ofList, stripHexPrefix]
  simp only [sampleEnv, hstrip, hexNat_hexFixed, Option.getD_some]
  exact Nat.mod_eq_of_lt hash.isLt

/-- Two pairs that always fail are ordered before the third, and it is attempted all the same. -/
theorem third_pair_attempted :
    blockingPairs sampleEnv alwaysFails (sampleAlerts [1, 2, 3]) (sampleMatch 3) = 2 ∧
      AttemptedInTime sampleEnv alwaysFails 0 (sampleAlerts [1, 2, 3]) (sampleMatch 3) := by
  have hnodup : ([1, 2, 3] : List B256).Nodup := by decide
  have hpending := pending_sampleAlerts hnodup
  have hblocking : blockingPairs sampleEnv alwaysFails (sampleAlerts [1, 2, 3])
      (sampleMatch 3) = 2 := by
    rw [blockingPairs, hpending]
    simp [Lib.blockers, delivers_sampleMatch, txHash_sampleMatch, collate_hashHex, sampleMatch_inj]
  refine ⟨hblocking, (attempted_in_time_iff alwaysFails ⟨rfl, fun _ => rfl⟩
    (unclaimed_sampleAlerts hnodup) ?_).mpr ?_⟩
  · rw [hpending]
    exact List.mem_map_of_mem (by simp)
  · rw [hblocking]
    decide

/-- The hashes from 0 to 100. -/
def manyHashes : List B256 := (List.range 101).map (BitVec.ofNat 256)

theorem ofNat_inj {a b : Nat} (ha : a < 101) (hb : b < 101)
    (h : BitVec.ofNat 256 a = BitVec.ofNat 256 b) : a = b := by
  have hnat := congrArg BitVec.toNat h
  simp only [BitVec.toNat_ofNat] at hnat
  omega

theorem manyHashes_nodup : manyHashes.Nodup :=
  List.nodup_range.map_on fun _ ha _ hb h =>
    ofNat_inj (List.mem_range.mp ha) (List.mem_range.mp hb) h

/-- Of 101 pairs that always fail the last is never attempted, in cycle after cycle. -/
theorem last_of_many_starves :
    ¬ AttemptedInTime sampleEnv alwaysFails 0 (sampleAlerts manyHashes) (sampleMatch 100) := by
  have hpending := pending_sampleAlerts manyHashes_nodup
  have hmem : ∀ n < 101, sampleMatch (BitVec.ofNat 256 n) ∈ (sampleAlerts manyHashes).pending := by
    intro n hn
    rw [hpending]
    exact List.mem_map_of_mem (List.mem_map_of_mem (List.mem_range.mpr hn))
  refine not_attempted ⟨rfl, fun _ => rfl⟩ (unclaimed_sampleAlerts manyHashes_nodup)
    (hmem 100 (by decide)) ?_
  -- the hundred others block it
  have hinj : ∀ a < 101, ∀ b < 101,
      sampleMatch (BitVec.ofNat 256 a) = sampleMatch (BitVec.ofNat 256 b) → a = b := by
    intro a ha b hb h
    exact ofNat_inj ha hb (sampleMatch_inj.mp h)
  have hnodup : ((List.range 100).map fun n => sampleMatch (BitVec.ofNat 256 n)).Nodup := by
    refine List.nodup_range.map_on fun a ha b hb h => ?_
    have ha := List.mem_range.mp ha
    have hb := List.mem_range.mp hb
    exact hinj a (by omega) b (by omega) h
  have hblock : ((List.range 100).map fun n => sampleMatch (BitVec.ofNat 256 n)) ⊆
      Lib.blockers (fun m : AlertMatch => sampleEnv.collate m.txHash)
        (delivers sampleEnv alwaysFails) (sampleMatch 100) (sampleAlerts manyHashes).pending := by
    intro m hm
    obtain ⟨n, hn, rfl⟩ := List.mem_map.mp hm
    have hn := List.mem_range.mp hn
    refine Lib.mem_blockers.mpr ⟨hmem n (by omega), ?_, delivers_sampleMatch _, ?_⟩
    · intro heq
      have hnat := hinj n (by omega) 100 (by decide) heq
      omega
    · rw [txHash_sampleMatch, txHash_sampleMatch, collate_hashHex, collate_hashHex,
        BitVec.toNat_ofNat]
      exact (Nat.mod_le _ _).trans hn.le
  have hle := (hnodup.subperm hblock).length_le
  rw [List.length_map, List.length_range] at hle
  exact hle

end TxIndexer.Proofs
