import TxIndexer.Api.Analytics
import TxIndexer.Indexer.AlertRuns
import TxIndexer.Lib.Service
import TxIndexer.Proofs.LabelPivot
import Mathlib.Algebra.BigOperators.Ring.Finset

/-!
# The report by label counts every failure once

From the tables to the answer: a point of the report is a label that has failures in the range,
with their number and their numbers by category, and the totals of all points are the number of
failures of labelled contracts.
-/

namespace TxIndexer.Proofs

open Db Api Lib

variable {labels : LabelTable} {db : Database} {q : LabelFilter}

/-! ## The joined rows -/

theorem mem_labelledFailures {x : ContractLabel × FailedTransaction} :
    x ∈ labelledFailures labels db q ↔
      x.1 ∈ labels ∧ q.owns x.1 = true ∧ x.2 ∈ failuresTo db q x.1.address := by
  rw [labelledFailures_eq, List.mem_flatMap]
  constructor
  · rintro ⟨cl, hcl, hx⟩
    obtain ⟨f, hf, rfl⟩ := List.mem_map.mp hx
    exact ⟨(List.mem_filter.mp hcl).1, (List.mem_filter.mp hcl).2, hf⟩
  · rintro ⟨hcl, howns, hf⟩
    exact ⟨x.1, List.mem_filter.mpr ⟨hcl, howns⟩, List.mem_map.mpr ⟨x.2, hf, rfl⟩⟩

/-- The joined rows of one label are its failures. -/
theorem countP_labelledFailures {cl : ContractLabel} (hcl : cl ∈ labels) (howns : q.owns cl = true)
    (p : FailedTransaction → Bool) :
    (labelledFailures labels db q).countP
        (fun x => decide ((x.1.label, x.1.address) = (cl.label, cl.address)) && p x.2) =
      (failuresTo db q cl.address).countP p := by
  have hlabel : (labels.rows.filter q.owns).filter (fun cl' => cl'.address = cl.address) = [cl] := by
    have hlookup := KeyedTable.lookup_eq_some.mpr ⟨hcl, rfl⟩
    rw [List.filter_filter]
    have hcomm : (labels.rows.filter fun cl' => decide (cl'.address = cl.address) && q.owns cl') =
        (labels.rows.filter fun cl' => cl'.address = cl.address).filter q.owns := by
      rw [List.filter_filter]
      exact List.filter_congr fun _ _ => Bool.and_comm _ _
    rw [hcomm, KeyedTable.filter_key, hlookup, Option.toList_some, List.filter_singleton, howns]
    rfl
  have hsame : ∀ x ∈ labelledFailures labels db q,
      (decide ((x.1.label, x.1.address) = (cl.label, cl.address)) && p x.2) = true ↔
        (p x.2 && decide (x.1.address = cl.address)) = true := by
    intro x hx
    rw [Bool.and_eq_true, Bool.and_eq_true, decide_eq_true_eq, decide_eq_true_eq, and_comm]
    refine and_congr_right fun _ => ?_
    constructor
    · exact fun h => congrArg Prod.snd h
    · intro h
      rw [List.inj_on_of_nodup_map labels.nodup (mem_labelledFailures.mp hx).1 hcl h]
  rw [List.countP_congr hsame, ← List.countP_filter]
  have hfilter : (labelledFailures labels db q).filter (fun x => x.1.address = cl.address) =
      (failuresTo db q cl.address).map fun f => (cl, f) := by
    rw [labelledFailures_eq, List.filter_flatMap]
    have hone : ∀ cl' : ContractLabel,
        ((failuresTo db q cl'.address).map fun f => (cl', f)).filter
            (fun x => decide (x.1.address = cl.address)) =
          if cl'.address = cl.address then (failuresTo db q cl'.address).map (fun f => (cl', f))
          else [] := by
      intro cl'
      rw [List.filter_map]
      by_cases haddress : cl'.address = cl.address
      · simp [haddress, Function.comp_def]
      · simp [haddress, Function.comp_def]
    simp only [hone]
    rw [← List.flatMap_singleton (fun cl' => (failuresTo db q cl'.address).map fun f => (cl', f)) cl,
      ← hlabel]
    induction labels.rows.filter q.owns with
    | nil => rfl
    | cons cl' rest ih =>
        rw [List.flatMap_cons, ih]
        by_cases haddress : cl'.address = cl.address
        · rw [if_pos haddress, List.filter_cons, if_pos (decide_eq_true haddress),
            List.flatMap_cons]
        · rw [if_neg haddress, List.filter_cons, if_neg (by simpa using haddress)]
          rfl
  rw [hfilter, List.countP_map]
  rfl

/-! ## The grouped rows -/

theorem asWire_injective : Function.Injective ErrorCategory.asWire := fun a b h =>
  Option.some.inj (by rw [← ErrorCategory.fromStr_asWire a, h, ErrorCategory.fromStr_asWire])

theorem nodup_labelRows : ((labelRows labels db q).map RawRow.key).Nodup := by
  have hkeys : (labelRows labels db q).map RawRow.key =
      ((countBy labelGroup (labelledFailures labels db q)).map Prod.fst).map fun k =>
        (k.1.1, k.1.2, k.2.asWire) := by
    rw [labelRows, List.map_map, List.map_map]
    rfl
  rw [hkeys]
  refine (nodup_keys_countBy _ _).map ?_
  rintro ⟨⟨label, address⟩, c⟩ ⟨⟨label', address'⟩, c'⟩ heq
  simp only [Prod.mk.injEq] at heq
  rw [heq.1, heq.2.1, asWire_injective heq.2.2]

/-- A grouped row is a label and a category with failures of it, and their number. -/
theorem mem_labelRows {r : RawRow} : r ∈ labelRows labels db q ↔
    ∃ cl ∈ labels, q.owns cl = true ∧ r.contract = (cl.label, cl.address) ∧
      ∃ c : ErrorCategory, r.errorCategory = c.asWire ∧
        (∃ f ∈ failuresTo db q cl.address, f.errorCategory = c) ∧
        r.cnt = (failuresTo db q cl.address).countP fun f => f.errorCategory = c := by
  have hcount : ∀ cl ∈ labels, q.owns cl = true → ∀ c : ErrorCategory,
      ((labelledFailures labels db q).countP fun x => labelGroup x = ((cl.label, cl.address), c)) =
        (failuresTo db q cl.address).countP fun f => f.errorCategory = c := by
    intro cl hcl howns c
    rw [← countP_labelledFailures hcl howns]
    apply List.countP_congr
    intro x _
    simp only [labelGroup, Prod.mk.injEq, Bool.and_eq_true, decide_eq_true_eq]
  rw [labelRows, List.mem_map]
  constructor
  · rintro ⟨⟨k, n⟩, hmem, rfl⟩
    obtain ⟨⟨x, hx, rfl⟩, rfl⟩ := mem_countBy.mp hmem
    obtain ⟨hcl, howns, hf⟩ := mem_labelledFailures.mp hx
    exact ⟨x.1, hcl, howns, rfl, _, rfl, ⟨x.2, hf, rfl⟩,
      congrArg Int.ofNat (hcount x.1 hcl howns x.2.errorCategory)⟩
  · rintro ⟨cl, hcl, howns, hcontract, c, hc, ⟨f, hf, hfc⟩, hcnt⟩
    obtain ⟨label, address, category, cnt⟩ := r
    simp only [RawRow.contract, Prod.mk.injEq] at hcontract
    obtain ⟨rfl, rfl⟩ := hcontract
    obtain rfl : category = c.asWire := hc
    obtain rfl : cnt = _ := hcnt
    refine ⟨(((cl.label, cl.address), c), _), mem_countBy.mpr ⟨⟨(cl, f), ?_, ?_⟩, rfl⟩, ?_⟩
    · exact mem_labelledFailures.mpr ⟨hcl, howns, hf⟩
    · rw [labelGroup, hfc]
    · rw [hcount cl hcl howns c]

/-- The rows of a label add up to its failures. -/
theorem sum_labelRows {cl : ContractLabel} (hcl : cl ∈ labels) (howns : q.owns cl = true) :
    ((rowsOf RawRow.contract (cl.label, cl.address) (labelRows labels db q)).map RawRow.cnt).sum =
      (failuresTo db q cl.address).length := by
  have hrows : (rowsOf RawRow.contract (cl.label, cl.address) (labelRows labels db q)).map
        RawRow.cnt =
      (((countBy labelGroup (labelledFailures labels db q)).filter fun x =>
        decide (x.1.1 = (cl.label, cl.address))).map Prod.snd).map Nat.cast := by
    rw [rowsOf, labelRows, List.filter_map, List.map_map, List.map_map]
    rfl
  have hsum : (((countBy labelGroup (labelledFailures labels db q)).filter fun x =>
      decide (x.1.1 = (cl.label, cl.address))).map Prod.snd).sum =
      (labelledFailures labels db q).countP fun x =>
        decide ((labelGroup x).1 = (cl.label, cl.address)) :=
    sum_countBy fun k : (String × String) × ErrorCategory => decide (k.1 = (cl.label, cl.address))
  have hall := @countP_labelledFailures labels db q cl hcl howns fun _ => true
  simp only [Bool.and_true, List.countP_true] at hall
  rw [hrows, ← Nat.cast_list_sum, hsum, ← hall]
  rfl

/-! ## The report -/

/-- The points say of each label, among those asked for, how many failures its contract has in the
range, and how many of each category. -/
structure LabelReport (labels : LabelTable) (db : Database) (q : LabelFilter)
    (points : List FailedTxByLabelPoint) : Prop where
  sorted : points.Pairwise FailedTxByLabelPoint.Before
  nodup : (points.map FailedTxByLabelPoint.address).Nodup
  labelled : ∀ p ∈ points, ∃ cl ∈ labels, q.owns cl = true ∧ p.contract = (cl.label, cl.address)
  listed : ∀ cl ∈ labels, q.owns cl = true → failuresTo db q cl.address ≠ [] →
    cl.address ∈ points.map FailedTxByLabelPoint.address
  total : ∀ p ∈ points, p.totalFailures = (failuresTo db q p.address).length
  byCategory : ∀ p ∈ points, ∀ category n, p.byCategory.lookup category = some n ↔
    0 < n ∧ ∃ c : ErrorCategory, category = c.asWire ∧
      n = (failuresTo db q p.address).countP fun f => f.errorCategory = c
  /-- Every failure to a label asked for is counted in one point. -/
  sum : (points.map FailedTxByLabelPoint.totalFailures).sum =
    db.failedTransaction.rows.countP fun f => q.inRange f &&
      (recipient db f.txHash).any fun address => labels.rows.any fun cl =>
        q.owns cl && decide (cl.address = address)

/-- The totals of the addresses of some labels are the number of failures to them. -/
theorem sum_failuresTo {addresses : List String} (h : addresses.Nodup) :
    (addresses.map fun address => (failuresTo db q address).length).sum =
      db.failedTransaction.rows.countP fun f => q.inRange f &&
        (recipient db f.txHash).any fun address => decide (address ∈ addresses) := by
  have hone : ∀ address, (failuresTo db q address).length =
      db.failedTransaction.rows.countP fun f =>
        decide (recipient db f.txHash = some address) && q.inRange f := by
    intro address
    rw [failuresTo, ← List.countP_eq_length_filter, List.countP_filter]
  have hdisjoint : addresses.Pairwise fun a a' => ∀ f ∈ db.failedTransaction.rows,
      (decide (recipient db f.txHash = some a) && q.inRange f) = true →
        (decide (recipient db f.txHash = some a') && q.inRange f) = false := by
    refine h.imp ?_
    intro a a' hne f _ ha
    rw [Bool.and_eq_true, decide_eq_true_eq] at ha
    rw [ha.1, Bool.and_eq_false_iff]
    exact .inl (decide_eq_false fun heq => hne (Option.some.inj heq))
  simp only [hone]
  rw [← countP_any hdisjoint]
  apply List.countP_congr
  intro f _
  cases hto : recipient db f.txHash with
  | none => simp
  | some address => simp [and_comm, eq_comm (a := address)]

theorem labelReport_sum {points : List FailedTxByLabelPoint}
    (hnodup : (points.map FailedTxByLabelPoint.address).Nodup)
    (hlabelled : ∀ p ∈ points, ∃ cl ∈ labels, q.owns cl = true ∧
      p.contract = (cl.label, cl.address))
    (hlisted : ∀ cl ∈ labels, q.owns cl = true → failuresTo db q cl.address ≠ [] →
      cl.address ∈ points.map FailedTxByLabelPoint.address)
    (htotal : ∀ p ∈ points, p.totalFailures = (failuresTo db q p.address).length) :
    (points.map FailedTxByLabelPoint.totalFailures).sum =
      db.failedTransaction.rows.countP fun f => q.inRange f &&
        (recipient db f.txHash).any fun address => labels.rows.any fun cl =>
          q.owns cl && decide (cl.address = address) := by
  have hsums : points.map FailedTxByLabelPoint.totalFailures =
      ((points.map FailedTxByLabelPoint.address).map fun address =>
        (failuresTo db q address).length).map Nat.cast := by
    rw [List.map_map, List.map_map]
    exact List.map_congr_left htotal
  rw [hsums, ← Nat.cast_list_sum, sum_failuresTo hnodup]
  refine congrArg Nat.cast (List.countP_congr ?_)
  intro f hf
  rw [Bool.and_eq_true, Bool.and_eq_true]
  refine and_congr_right fun hrange => ?_
  rw [Option.any_eq_true, Option.any_eq_true]
  refine exists_congr fun address => and_congr_right fun hto => ?_
  rw [decide_eq_true_eq, List.any_eq_true]
  constructor
  · intro hmem
    obtain ⟨p, hp, rfl⟩ := List.mem_map.mp hmem
    obtain ⟨cl, hcl, howns, hcontract⟩ := hlabelled p hp
    have haddress : cl.address = p.address := (congrArg Prod.snd hcontract).symm
    exact ⟨cl, hcl, by rw [howns, decide_eq_true haddress]; rfl⟩
  · rintro ⟨cl, hcl, h⟩
    rw [Bool.and_eq_true, decide_eq_true_eq] at h
    obtain ⟨howns, rfl⟩ := h
    refine hlisted cl hcl howns (List.ne_nil_of_mem (a := f) ?_)
    exact List.mem_filter.mpr ⟨List.mem_filter.mpr ⟨hf, hrange⟩, decide_eq_true hto⟩

/-- The sorted points of the grouped rows are such a report. -/
theorem labelReport_of_sortedPoints {raw : List RawRow} {points : List FailedTxByLabelPoint}
    (hperm : raw.Perm (labelRows labels db q)) (h : SortedPoints raw points) :
    LabelReport labels db q points := by
  have hlabelled : ∀ p ∈ points, ∃ cl ∈ labels, q.owns cl = true ∧
      p.contract = (cl.label, cl.address) := by
    intro p hp
    obtain ⟨r, hr, hcontract⟩ := (h.contracts p.contract).mp (List.mem_map_of_mem hp)
    obtain ⟨cl, hcl, howns, hrow, -⟩ := mem_labelRows.mp (hperm.subset hr)
    exact ⟨cl, hcl, howns, by rw [← hcontract, hrow]⟩
  have hnodup : (points.map FailedTxByLabelPoint.address).Nodup := by
    refine List.Nodup.map_on ?_ h.nodup.of_map
    intro p hp p' hp' haddress
    obtain ⟨cl, hcl, -, hcontract⟩ := hlabelled p hp
    obtain ⟨cl', hcl', -, hcontract'⟩ := hlabelled p' hp'
    have hsame : cl = cl' := by
      refine List.inj_on_of_nodup_map labels.nodup hcl hcl' ?_
      have hcl : p.address = cl.address := congrArg Prod.snd hcontract
      have hcl' : p'.address = cl'.address := congrArg Prod.snd hcontract'
      rw [← hcl, ← hcl', haddress]
    refine List.inj_on_of_nodup_map h.nodup hp hp' ?_
    rw [hcontract, hcontract', hsame]
  have hlisted : ∀ cl ∈ labels, q.owns cl = true → failuresTo db q cl.address ≠ [] →
      cl.address ∈ points.map FailedTxByLabelPoint.address := by
    intro cl hcl howns hfailures
    obtain ⟨f, hf⟩ := List.exists_mem_of_ne_nil _ hfailures
    have hrow : ⟨cl.label, cl.address, f.errorCategory.asWire, _⟩ ∈ labelRows labels db q :=
      mem_labelRows.mpr ⟨cl, hcl, howns, rfl, f.errorCategory, rfl, ⟨f, hf, rfl⟩, rfl⟩
    have hcontract := (h.contracts _).mpr ⟨_, hperm.mem_iff.mpr hrow, rfl⟩
    obtain ⟨p, hp, heq⟩ := List.mem_map.mp hcontract
    exact List.mem_map.mpr ⟨p, hp, congrArg Prod.snd heq⟩
  have htotal : ∀ p ∈ points, p.totalFailures = (failuresTo db q p.address).length := by
    intro p hp
    obtain ⟨cl, hcl, howns, hcontract⟩ := hlabelled p hp
    have haddress : p.address = cl.address := congrArg Prod.snd hcontract
    rw [(h.points p hp).total, haddress, ← sum_labelRows hcl howns, hcontract]
    exact ((hperm.filter _).map _).sum_eq
  refine ⟨h.sorted, hnodup, hlabelled, hlisted, htotal, ?_,
    labelReport_sum hnodup hlabelled hlisted htotal⟩
  intro p hp category n
  obtain ⟨cl, hcl, howns, hcontract⟩ := hlabelled p hp
  have hlabel : p.label = cl.label := congrArg Prod.fst hcontract
  have haddress : p.address = cl.address := congrArg Prod.snd hcontract
  rw [(h.points p hp).counts, hperm.mem_iff, mem_labelRows, hlabel, haddress]
  constructor
  · rintro ⟨cl', hcl', -, hcontract', c, hc, ⟨f, hf, hfc⟩, hn⟩
    have hsame : cl.address = cl'.address := congrArg Prod.snd hcontract'
    rw [← hsame] at hf hn
    obtain rfl : n = _ := hn
    refine ⟨Int.natCast_pos.mpr ?_, c, hc, rfl⟩
    exact List.countP_pos_iff.mpr ⟨f, hf, decide_eq_true hfc⟩
  · rintro ⟨hpos, c, hc, hn⟩
    rw [hn, Int.natCast_pos] at hpos
    obtain ⟨f, hf, hfc⟩ := List.countP_pos_iff.mp hpos
    exact ⟨cl, hcl, howns, rfl, c, hc, ⟨f, hf, of_decide_eq_true hfc⟩, hn⟩

/-! ## The endpoint -/

variable {parseRfc3339 : String → Option Int}

theorem labelParams_limit {q : FailedTxByLabelQuery} {filter : LabelFilter} {limit : Int}
    (h : labelParams parseRfc3339 q = .ok (filter, limit)) : 1 ≤ limit ∧ limit ≤ 200 := by
  unfold labelParams at h
  obtain ⟨fromTs, -, h⟩ := bind_eq_ok.mp h
  obtain ⟨toTs, -, h⟩ := bind_eq_ok.mp h
  cases h
  omega

/-- What the endpoint answers is the first of the points of the report of its range and owner, up
to the limit, whatever the order in which the database returns the rows and the hash map is
drained. -/
theorem byLabel_reports {q : FailedTxByLabelQuery} {out : List FailedTxByLabelPoint}
    (h : Api.FailedTxByLabel parseRfc3339 labels db q out) :
    ∃ filter limit points, labelParams parseRfc3339 q = .ok (filter, limit) ∧
      LabelReport labels db filter points ∧ out = points.take limit.toNat ∧
      1 ≤ limit ∧ limit ≤ 200 ∧
      ∀ out', Api.FailedTxByLabel parseRfc3339 labels db q out' → out' = out := by
  obtain ⟨filter, limit, hparams, raw, hperm, entries, hiterates, rfl⟩ := h
  obtain ⟨hlimit, hmax⟩ := labelParams_limit hparams
  have hkeys : (raw.map RawRow.key).Nodup := (hperm.map _).nodup_iff.mpr nodup_labelRows
  have hcut : ∀ entries, pivotEntries entries limit = (sortedPoints entries).take limit.toNat :=
    fun _ => if_pos (by omega)
  refine ⟨filter, limit, sortedPoints entries, hparams,
    labelReport_of_sortedPoints hperm (sortedPoints_spec hkeys hiterates), hcut _, hlimit, hmax, ?_⟩
  rintro out' ⟨filter', limit', hparams', raw', hperm', entries', hiterates', rfl⟩
  rw [hparams] at hparams'
  cases hparams'
  rw [labelGroups_perm hkeys (hperm'.trans hperm.symm)] at hiterates'
  rw [hcut, hcut, sortedPoints_unique hiterates hiterates']

/-! ## Two contracts with one failure each -/

/-- The labels of two contracts and a failed call of each. -/
def labelledCalls : LabelTable × Database :=
  ((∅ : LabelTable).insertNew
      [⟨addressHex 3, "Router", none, 0⟩, ⟨addressHex 2, "Pool", none, 0⟩],
    { (Indexer.sampleAlerts [1, 2]).db with
      transaction := (∅ : KeyedTable Transaction.txHash).insertNew
        [{ Indexer.sampleTransaction 1 with toAddr := some (addressHex 3) },
          { Indexer.sampleTransaction 2 with toAddr := some (addressHex 2) }] })

theorem length_failuresTo_labelledCalls :
    (failuresTo labelledCalls.2 ⟨none, none, none⟩ (addressHex 2)).length = 1 ∧
      (failuresTo labelledCalls.2 ⟨none, none, none⟩ (addressHex 3)).length = 1 := by
  decide +kernel

/-- The points of their report with their totals. -/
def tiedPoints : List ((String × String) × Int) :=
  [(("Pool", addressHex 2), 1), (("Router", addressHex 3), 1)]

section Tie

variable {points : List FailedTxByLabelPoint}

/-- Each point is one of these. -/
theorem mem_tiedPoints (h : LabelReport labelledCalls.1 labelledCalls.2 ⟨none, none, none⟩ points)
    {p : FailedTxByLabelPoint} (hp : p ∈ points) :
    (p.contract, p.totalFailures) ∈ tiedPoints := by
  obtain ⟨hpool, hrouter⟩ := length_failuresTo_labelledCalls
  obtain ⟨cl, hcl, -, hcontract⟩ := h.labelled p hp
  have haddress : p.address = cl.address := congrArg Prod.snd hcontract
  rw [h.total p hp, haddress, hcontract]
  rcases KeyedTable.mem_of_mem_insertNew hcl with hcl | hcl
  · cases hcl
  · simp only [List.mem_cons, List.not_mem_nil, or_false] at hcl
    rcases hcl with rfl | rfl
    · rw [hrouter]
      exact List.mem_cons_of_mem _ List.mem_cons_self
    · rw [hpool]
      exact List.mem_cons_self

/-- Both contracts have failures, so both have a point. -/
theorem listed_tiedPoints
    (h : LabelReport labelledCalls.1 labelledCalls.2 ⟨none, none, none⟩ points) :
    ∀ x ∈ tiedPoints, x.1.2 ∈ points.map FailedTxByLabelPoint.address := by
  obtain ⟨hpool, hrouter⟩ := length_failuresTo_labelledCalls
  have hfailed : ∀ {address : String}, (failuresTo labelledCalls.2 ⟨none, none, none⟩
      address).length = 1 → failuresTo labelledCalls.2 ⟨none, none, none⟩ address ≠ [] := by
    intro address hlength
    apply List.ne_nil_of_length_pos
    rw [hlength]
    exact Nat.one_pos
  have hrows : ⟨addressHex 2, "Pool", none, 0⟩ ∈ labelledCalls.1.rows ∧
      ⟨addressHex 3, "Router", none, 0⟩ ∈ labelledCalls.1.rows := by
    decide +kernel
  intro x hx
  simp only [tiedPoints, List.mem_cons, List.not_mem_nil, or_false] at hx
  rcases hx with rfl | rfl
  · exact h.listed _ hrows.1 rfl (hfailed hpool)
  · exact h.listed _ hrows.2 rfl (hfailed hrouter)

/-- They are the points of the report, in some order. -/
theorem perm_tiedPoints
    (h : LabelReport labelledCalls.1 labelledCalls.2 ⟨none, none, none⟩ points) :
    (points.map fun p => (p.contract, p.totalFailures)).Perm tiedPoints := by
  have haddresses : ∀ x ∈ tiedPoints, ∀ y ∈ tiedPoints, x.1.2 = y.1.2 → x = y := by
    decide +kernel
  have hnodup : (points.map fun p => (p.contract, p.totalFailures)).Nodup := by
    apply List.Nodup.of_map fun x => x.1.2
    rw [List.map_map]
    exact h.nodup
  rw [List.perm_ext_iff_of_nodup hnodup (by decide +kernel)]
  intro x
  constructor
  · intro hx
    obtain ⟨p, hp, rfl⟩ := List.mem_map.mp hx
    exact mem_tiedPoints h hp
  · intro hx
    obtain ⟨p, hp, haddress⟩ := List.mem_map.mp (listed_tiedPoints h x hx)
    rw [haddresses x hx _ (mem_tiedPoints h hp) haddress.symm]
    exact List.mem_map_of_mem hp

/-- As many failures each: the label that comes first is in front. -/
theorem contracts_labelledCalls
    (h : LabelReport labelledCalls.1 labelledCalls.2 ⟨none, none, none⟩ points) :
    points.map (fun p => (p.contract, p.totalFailures)) = tiedPoints := by
  have hlabels : ∀ x ∈ tiedPoints, ∀ y ∈ tiedPoints, x.1.1 = y.1.1 → x = y := by
    decide +kernel
  have htotal : ∀ x ∈ tiedPoints, x.2 = 1 := by
    decide +kernel
  have hsorted : (points.map fun p => (p.contract, p.totalFailures)).Pairwise
      fun x y => x.1.1 ≤ y.1.1 := by
    rw [List.pairwise_map]
    apply h.sorted.imp_of_mem
    rintro p p' hp hp' (hless | ⟨-, hlabel | ⟨hlabel, -⟩⟩)
    · have hsame : p.totalFailures = p'.totalFailures :=
        (htotal _ (mem_tiedPoints h hp)).trans (htotal _ (mem_tiedPoints h hp')).symm
      omega
    · exact le_of_lt hlabel
    · exact le_of_eq hlabel
  have hperm := perm_tiedPoints h
  refine hperm.eq_of_pairwise ?_ hsorted (by decide +kernel)
  intro x y hx hy hxy hyx
  exact hlabels x (hperm.subset hx) y hy (le_antisymm hxy hyx)

end Tie

theorem byLabel_reports_labelledCalls : ∃ out : List FailedTxByLabelPoint,
    Api.FailedTxByLabel (fun _ => none) labelledCalls.1 labelledCalls.2
        ⟨none, none, none, some 1⟩ out ∧
      (∀ out', Api.FailedTxByLabel (fun _ => none) labelledCalls.1 labelledCalls.2
        ⟨none, none, none, some 1⟩ out' → out' = out) ∧
      out.map (fun p => (p.contract, p.totalFailures)) = [(("Pool", addressHex 2), 1)] := by
  obtain ⟨entries, hiterates⟩ := Iterates.exists_iteration
    (labelGroups (labelRows labelledCalls.1 labelledCalls.2 ⟨none, none, none⟩))
  have hanswer : Api.FailedTxByLabel (fun _ => none) labelledCalls.1 labelledCalls.2
      ⟨none, none, none, some 1⟩ (pivotEntries entries 1) :=
    ⟨⟨none, none, none⟩, 1, rfl, _, .refl _, entries, hiterates, rfl⟩
  obtain ⟨filter, limit, points, hparams, hreport, hout, -, -, hunique⟩ := byLabel_reports hanswer
  cases hparams
  refine ⟨_, hanswer, hunique, ?_⟩
  rw [hout, List.map_take, contracts_labelledCalls hreport]
  rfl

end TxIndexer.Proofs
