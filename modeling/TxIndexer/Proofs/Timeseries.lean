import TxIndexer.Api.Analytics
import TxIndexer.Lib.Service

/-!
# The series and the list agree

Every failure in the range of a series is in one of its points, so its counts add up to the total
that the list endpoint reports for the same range; and a series by day or week adds up the points
of a finer one.
-/

namespace TxIndexer.Proofs

open Db Api Lib

variable {zone : Int} {bucket : TimeBucket} {rows : List FailedTransaction}

/-! ## Points -/

theorem mem_trendPoints {p : FailedTxTrendPoint} : p ∈ trendPoints zone bucket rows ↔
    ((p.bucket, p.errorCategory), p.failureCount) ∈ countBy (trendKey zone bucket) rows := by
  rw [trendPoints, List.mem_map]
  constructor
  · rintro ⟨⟨⟨b, c⟩, n⟩, hmem, rfl⟩
    exact hmem
  · intro hmem
    exact ⟨_, hmem, rfl⟩

/-- The keys of the points are those of the groups. -/
theorem nodup_trendPoints :
    ((trendPoints zone bucket rows).map fun p => (p.bucket, p.errorCategory)).Nodup := by
  have hkeys : (trendPoints zone bucket rows).map (fun p => (p.bucket, p.errorCategory)) =
      (countBy (trendKey zone bucket) rows).map Prod.fst := by
    rw [trendPoints, List.map_map]
    rfl
  rw [hkeys]
  exact nodup_keys_countBy _ _

/-- The counts of the points that meet a condition are the number of their rows. -/
theorem sum_trendPoints (p : Int → ErrorCategory → Bool) :
    (((trendPoints zone bucket rows).filter fun x => p x.bucket x.errorCategory).map
        (·.failureCount)).sum =
      rows.countP fun f => p (dateTrunc zone bucket f.timestamp) f.errorCategory := by
  rw [trendPoints, List.filter_map, List.map_map]
  exact sum_countBy fun k : Int × ErrorCategory => p k.1 k.2

/-- The group of a point in a coarser series. -/
def coarseKey (zone : Int) (coarse : TimeBucket) (k : Int × ErrorCategory) : Int × ErrorCategory :=
  (dateTrunc zone coarse k.1, k.2)

/-- A coarser series adds up the points of a finer one. -/
theorem mem_trendPoints_coarse {coarse : TimeBucket} (h : bucket.Refines coarse)
    {p' : FailedTxTrendPoint} : p' ∈ trendPoints zone coarse rows ↔
      (∃ p ∈ trendPoints zone bucket rows, p.Within zone coarse p') ∧
        p'.failureCount = (((trendPoints zone bucket rows).filter fun p =>
          p.Within zone coarse p').map (·.failureCount)).sum := by
  have hkey : trendKey zone coarse = fun f => coarseKey zone coarse (trendKey zone bucket f) := by
    funext f
    simp only [coarseKey, trendKey, dateTrunc_dateTrunc h]
  have hcoarse : ∀ k : Int × ErrorCategory, coarseKey zone coarse k = (p'.bucket, p'.errorCategory) ↔
      dateTrunc zone coarse k.1 = p'.bucket ∧ k.2 = p'.errorCategory := by
    intro k
    rw [coarseKey, Prod.mk.injEq]
  rw [mem_trendPoints, hkey, mem_countBy_comp]
  refine and_congr ?_ ?_
  · constructor
    · rintro ⟨⟨⟨b, c⟩, n⟩, hx, heq⟩
      exact ⟨⟨b, c, n⟩, mem_trendPoints.mpr hx, (hcoarse _).mp heq⟩
    · rintro ⟨p, hp, hwithin⟩
      exact ⟨_, mem_trendPoints.mp hp, (hcoarse _).mpr hwithin⟩
  · have hsum : (((trendPoints zone bucket rows).filter fun p => p.Within zone coarse p').map
          (·.failureCount)).sum =
        rows.countP fun f => decide (FailedTxTrendPoint.Within
          ⟨dateTrunc zone bucket f.timestamp, f.errorCategory, 0⟩ zone coarse p') :=
      sum_trendPoints fun b c => decide (FailedTxTrendPoint.Within ⟨b, c, 0⟩ zone coarse p')
    rw [hsum, sum_countBy fun k => decide (coarseKey zone coarse k = (p'.bucket, p'.errorCategory))]
    refine Iff.of_eq (congrArg _ (List.countP_congr fun f _ => ?_))
    simp only [decide_eq_true_eq]
    exact hcoarse (trendKey zone bucket f)

/-- Points of two groups are never in the same place. -/
theorem sortKey_injective {p q : FailedTxTrendPoint} (h : p.sortKey = q.sortKey) :
    (p.bucket, p.errorCategory) = (q.bucket, q.errorCategory) := by
  have hpair := congrArg ofLex h
  simp only [FailedTxTrendPoint.sortKey, ofLex_toLex, Prod.mk.injEq] at hpair
  rw [hpair.1, ErrorCategory.enumPosition_injective hpair.2]

/-- The order of the points leaves no choice. -/
theorem timeseries_unique {out out' : List FailedTxTrendPoint}
    (hperm : out.Perm (trendPoints zone bucket rows))
    (hsorted : out.Pairwise fun a b => a.sortKey ≤ b.sortKey)
    (hperm' : out'.Perm (trendPoints zone bucket rows))
    (hsorted' : out'.Pairwise fun a b => a.sortKey ≤ b.sortKey) : out' = out := by
  have hsame := hperm'.trans hperm.symm
  refine hsame.eq_of_pairwise ?_ hsorted' hsorted
  intro p q hp hq hpq hqp
  exact List.inj_on_of_nodup_map nodup_trendPoints (hperm'.subset hp) (hperm.subset hq)
    (sortKey_injective (le_antisymm hpq hqp))

/-! ## The endpoints -/

variable {parseRfc3339 : String → Option Int}

/-- The rows in the range of a series are those a list of the same range counts, in every
category or in one. -/
theorem countFailedTransactions_eq (db : Database) (category : Option ErrorCategory)
    (fromTs toTs : Option Int) :
    countFailedTransactions db ⟨category, fromTs, toTs⟩ =
      (matchingFailedTxs db ⟨none, fromTs, toTs⟩).countP fun f =>
        category.all fun c => f.errorCategory = c := by
  rw [countFailedTransactions, matchingFailedTxs, matchingFailedTxs, List.countP_filter,
    ← List.countP_eq_length_filter]
  apply List.countP_congr
  intro f _
  simp only [FailedTxFilter.admits, Option.all_none, Bool.true_and, Bool.and_assoc,
    Bool.and_eq_true]

theorem trendParams_eq_ok {q : FailedTxTrendQuery} {fromTs toTs : Option Int} :
    trendParams parseRfc3339 q = .ok (bucket, fromTs, toTs) ↔
      parseInterval q.interval = .ok bucket ∧
        parseTs parseRfc3339 q.fromText "from" = .ok fromTs ∧
        parseTs parseRfc3339 q.toText "to" = .ok toTs := by
  unfold trendParams
  simp only [bind_eq_ok]
  constructor
  · rintro ⟨b, hb, f, hf, t, ht, heq⟩
    cases heq
    exact ⟨hb, hf, ht⟩
  · rintro ⟨hb, hf, ht⟩
    exact ⟨_, hb, _, hf, _, ht, rfl⟩

theorem listParams_eq_ok {q : FailedTxQuery} {filter : FailedTxFilter} {limit offset : Nat}
    (h : listParams parseRfc3339 q = .ok (filter, limit, offset)) :
    parseCategory q.category = .ok filter.category ∧
      parseTs parseRfc3339 q.fromText "from" = .ok filter.fromTs ∧
      parseTs parseRfc3339 q.toText "to" = .ok filter.toTs := by
  unfold listParams at h
  obtain ⟨category, hcategory, h⟩ := bind_eq_ok.mp h
  obtain ⟨fromTs, hfrom, h⟩ := bind_eq_ok.mp h
  obtain ⟨toTs, hto, h⟩ := bind_eq_ok.mp h
  cases h
  exact ⟨hcategory, hfrom, hto⟩

/-- A series lists each bucket and category with failures once, in order, with nothing left to
choose. Its counts, of all categories or of one, add up to the `total` of the list endpoint for
the same range. The point of a coarser series over the range has the sum of the points of this
one in its bucket and category, if there are any. And every failure in the range has its point,
which counts those of its bucket and category, and there is no other. -/
theorem timeseries_adds_up {db : Database} {q : FailedTxTrendQuery}
    {points : List FailedTxTrendPoint}
    (h : Api.FailedTxTimeseries parseRfc3339 db zone q points) :
    (points.map fun p => (p.bucket, p.errorCategory)).Nodup ∧
      (∀ p ∈ points, 0 < p.failureCount) ∧
      (∀ points', Api.FailedTxTimeseries parseRfc3339 db zone q points' → points' = points) ∧
      (∀ list category rows pagination, parseCategory list.category = .ok category →
        list.fromText = q.fromText → list.toText = q.toText →
        ListFailedTx parseRfc3339 db list rows pagination →
        ((points.filter fun p => category.all fun c => p.errorCategory = c).map
          (·.failureCount)).sum = pagination.total) ∧
      (∀ q' fine coarse points', parseInterval q.interval = .ok fine →
        parseInterval q'.interval = .ok coarse → fine.Refines coarse →
        q'.fromText = q.fromText → q'.toText = q.toText →
        Api.FailedTxTimeseries parseRfc3339 db zone q' points' →
        ∀ p', p' ∈ points' ↔ (∃ p ∈ points, p.Within zone coarse p') ∧
          p'.failureCount =
            ((points.filter fun p => p.Within zone coarse p').map (·.failureCount)).sum) ∧
      ∀ bucket fromTs toTs, trendParams parseRfc3339 q = .ok (bucket, fromTs, toTs) →
        ∀ p, p ∈ points ↔
          (∃ f ∈ matchingFailedTxs db ⟨none, fromTs, toTs⟩,
            trendKey zone bucket f = (p.bucket, p.errorCategory)) ∧
          p.failureCount = (matchingFailedTxs db ⟨none, fromTs, toTs⟩).countP fun f =>
            trendKey zone bucket f = (p.bucket, p.errorCategory) := by
  obtain ⟨bucket, fromTs, toTs, hparams, hperm, hsorted⟩ := h
  obtain ⟨hinterval, hfrom, hto⟩ := trendParams_eq_ok.mp hparams
  have hsum : ∀ p : Int → ErrorCategory → Bool,
      ((points.filter fun x => p x.bucket x.errorCategory).map (·.failureCount)).sum =
        (matchingFailedTxs db ⟨none, fromTs, toTs⟩).countP fun f =>
          p (dateTrunc zone bucket f.timestamp) f.errorCategory := by
    intro p
    rw [← sum_trendPoints]
    exact ((hperm.filter _).map _).sum_eq
  refine ⟨?_, ?_, ?_, ?_, ?_, ?_⟩
  · exact (hperm.map _).nodup_iff.mpr nodup_trendPoints
  · exact fun p hp => pos_of_mem_countBy (mem_trendPoints.mp (hperm.subset hp))
  · rintro points' ⟨bucket', fromTs', toTs', hparams', hperm', hsorted'⟩
    rw [hparams] at hparams'
    cases hparams'
    exact timeseries_unique hperm hsorted hperm' hsorted'
  · rintro list category rows pagination hcategory hfromText htoText
      ⟨filter, limit, offset, hlist, -, rfl⟩
    obtain ⟨hcategory', hfrom', hto'⟩ := listParams_eq_ok hlist
    rw [hfromText, hfrom] at hfrom'
    rw [htoText, hto] at hto'
    rw [hcategory] at hcategory'
    obtain ⟨category', fromTs', toTs'⟩ := filter
    cases hcategory'
    cases hfrom'
    cases hto'
    rw [hsum fun _ c => category'.all fun c' => c = c']
    exact (countFailedTransactions_eq db category' fromTs' toTs').symm
  · rintro q' fine coarse points' hfine hcoarse hrefines hfromText htoText
      ⟨coarse', fromTs', toTs', hparams', hperm', -⟩ p'
    obtain ⟨hinterval', hfrom', hto'⟩ := trendParams_eq_ok.mp hparams'
    rw [hfromText, hfrom] at hfrom'
    rw [htoText, hto] at hto'
    rw [hinterval] at hfine
    rw [hcoarse] at hinterval'
    cases hfrom'
    cases hto'
    cases hfine
    cases hinterval'
    have hpoints : (∃ p ∈ points, p.Within zone coarse p') ↔
        ∃ p ∈ trendPoints zone bucket (matchingFailedTxs db ⟨none, fromTs, toTs⟩),
          p.Within zone coarse p' :=
      exists_congr fun p => and_congr_left fun _ => hperm.mem_iff
    rw [hperm'.mem_iff, mem_trendPoints_coarse hrefines, hpoints]
    exact and_congr_right fun _ => by rw [((hperm.filter _).map _).sum_eq]
  · intro bucket' fromTs' toTs' hparams' p
    rw [hparams] at hparams'
    cases hparams'
    rw [hperm.mem_iff, mem_trendPoints, mem_countBy]

/-! ## Two days of a week -/

/-- A failure without a text. -/
def failureAt (txHash : String) (errorCategory : ErrorCategory) (timestamp : Int) :
    FailedTransaction where
  txHash
  errorCategory
  revertReason := none
  failingFunction := none
  gasUsed := 21000
  timestamp

/-- Two failures on the 14th of November 2023, a Tuesday, and two of different categories on the
next day. -/
def failuresOfTwoDays : Database :=
  { Database.empty with failedTransaction := KeyedTable.insertNew ∅ [
    failureAt "0x01" .unknown 1700000000, failureAt "0x02" .unknown 1699920000,
    failureAt "0x03" .slippageExceeded 1700006400, failureAt "0x04" .unknown 1700006401] }

def seriesByDay : List FailedTxTrendPoint :=
  [⟨1699920000, .unknown, 2⟩, ⟨1700006400, .slippageExceeded, 1⟩, ⟨1700006400, .unknown, 1⟩]

def seriesByWeek : List FailedTxTrendPoint :=
  [⟨1699833600, .slippageExceeded, 1⟩, ⟨1699833600, .unknown, 3⟩]

theorem timeseries_adds_up_sample :
    (∀ list category rows pagination, parseCategory list.category = .ok category →
      list.fromText = none → list.toText = none →
      ListFailedTx (fun _ => none) failuresOfTwoDays list rows pagination →
      ((seriesByDay.filter fun p => category.all fun c => p.errorCategory = c).map
        (·.failureCount)).sum = pagination.total) ∧
    ∀ p', p' ∈ seriesByWeek ↔ (∃ p ∈ seriesByDay, p.Within 0 .week p') ∧
      p'.failureCount =
        ((seriesByDay.filter fun p => p.Within 0 .week p').map (·.failureCount)).sum := by
  have hday : Api.FailedTxTimeseries (fun _ => none) failuresOfTwoDays 0
      ⟨some "day", none, none⟩ seriesByDay :=
    ⟨.day, none, none, rfl, by decide, by decide⟩
  have hweek : Api.FailedTxTimeseries (fun _ => none) failuresOfTwoDays 0
      ⟨some "week", none, none⟩ seriesByWeek :=
    ⟨.week, none, none, rfl, by decide, by decide⟩
  obtain ⟨-, -, -, htotal, hcoarse, -⟩ := timeseries_adds_up hday
  exact ⟨htotal, hcoarse ⟨some "week", none, none⟩ .day .week _ rfl rfl (by decide) rfl rfl hweek⟩

end TxIndexer.Proofs
