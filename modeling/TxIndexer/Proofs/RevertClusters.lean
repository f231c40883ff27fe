import TxIndexer.Db.RevertTemplate
import TxIndexer.Decoder.RevertReason

/-!
# Undecoded errors cluster by selector

An output that is decoded neither as an `Error(string)` nor as a `Panic(uint256)` is rendered as
hexadecimal digits, of which the template keeps the first eight: the selector. Outputs without a
selector have no data, and panics keep their code.
-/

namespace TxIndexer.Proofs

open Db Decoder Lib

/-- `decode_revert_reason` gives `reason`. -/
def DecodedAs (output : Bytes) (reason : String) : Prop :=
  decodeRevertReason output = .ok (.ok reason)

/-- The output has a selector, and is neither an `Error(string)` nor a `Panic(uint256)`. -/
structure Undecoded (output : Bytes) : Prop where
  selector : 4 ≤ output.length
  notError : output.take 4 ≠ errorSelector
  notPanic : ¬ (output.take 4 = panicSelector ∧ 36 ≤ output.length)

/-- The output is a `Panic(uint256)` with its code. -/
structure PanicOutput (output : Bytes) : Prop where
  selector : output.take 4 = panicSelector
  code : 36 ≤ output.length

/-- The last byte of the code. -/
def panicCode (output : Bytes) : UInt8 := output.getD 35 0

/-- `f` is an unknown failure whose reason was decoded from `output`. -/
def FailedWith (f : FailedTransaction) (output : Bytes) : Prop :=
  f.errorCategory = .unknown ∧ ∃ reason, f.revertReason = some reason ∧ DecodedAs output reason

variable {output output' : Bytes} {reason : String} {sp : SpaceClass}

/-! ## What is decoded -/

theorem Undecoded.decodedAs (h : Undecoded output) : DecodedAs output (bytesHex output) := by
  rw [DecodedAs, decodeRevertReason, if_neg (Nat.not_lt.mpr h.selector), if_neg h.notError,
    if_neg h.notPanic]

theorem decodedAs_of_short (h : output.length < 4) : DecodedAs output (bytesHex output) := by
  rw [DecodedAs, decodeRevertReason, if_pos h]

/-- The text of a panic. -/
def panicText (code : UInt8) : List Char := panicPrefix ++ (hexFixed 2 code.toNat ++ [')'])

theorem PanicOutput.decodedAs (h : PanicOutput output) :
    DecodedAs output (String.ofList (panicText (panicCode output))) := by
  have hlong : ¬ output.length < 4 := Nat.not_lt.mpr (le_trans (by decide) h.code)
  have hselector : output.take 4 ≠ errorSelector := by
    rw [h.selector]
    decide
  rw [DecodedAs, decodeRevertReason, if_neg hlong, if_neg hselector, if_pos ⟨h.selector, h.code⟩,
    List.append_assoc]
  rfl

theorem DecodedAs.unique {reason' : String} (h : DecodedAs output reason)
    (h' : DecodedAs output reason') : reason = reason' :=
  Except.ok.inj (Except.ok.inj (h.symm.trans h'))

/-! ## The templates -/

/-- `lower` leaves the digits of a rendering as they are. -/
theorem map_toLower_bytesToHex (output : Bytes) :
    (bytesToHex output).map Char.toLower = bytesToHex output := by
  have hall : (hexDigits.all fun c => c.toLower == c) = true := by decide
  refine (List.map_congr_left fun c hc => ?_).trans (List.map_id _)
  obtain ⟨b, -, hc⟩ := List.mem_flatMap.mp hc
  exact beq_iff_eq.mp (List.all_eq_true.mp hall c (mem_hexDigits_of_mem_hexFixed hc))

/-- The template of a custom error. -/
def customErrorTemplate (selector : Bytes) : List Char :=
  customErrorPrefix ++ '0' :: 'x' :: bytesToHex selector

theorem customErrorTemplate_inj {a b : Bytes} :
    customErrorTemplate a = customErrorTemplate b ↔ a = b := by
  refine ⟨fun h => bytesToHex_inj ?_, congrArg _⟩
  exact (List.cons.inj (List.cons.inj (List.append_cancel_left h)).2).2

theorem panicText_inj {a b : UInt8} : panicText a = panicText b ↔ a = b := by
  refine ⟨fun h => UInt8.toNat_inj.mp ?_, congrArg _⟩
  have hdigits := List.append_cancel_right (List.append_cancel_left h)
  exact hexFixed_inj 2 a.toNat_lt b.toNat_lt hdigits

theorem fnRevertTemplate_bytesHex (output : Bytes) :
    fnRevertTemplate sp (some (bytesHex output)) =
      if output = [] then noRevertData
      else if 4 ≤ output.length then customErrorTemplate (output.take 4)
      else undecodableOutput := by
  have hnil : bytesToHex output = [] ↔ output = [] := by
    rw [← List.length_eq_zero_iff, ← List.length_eq_zero_iff, length_bytesToHex]
    omega
  have hlong : 8 ≤ (bytesToHex output).length ↔ 4 ≤ output.length := by
    rw [length_bytesToHex]
    omega
  have htake : (bytesToHex output).take 8 = bytesToHex (output.take 4) := take_bytesToHex 4 output
  simp only [fnRevertTemplate, bytesHex, String.toList_ofList,
    revertTemplate_hex isHexDigit_bytesToHex, hnil, hlong, htake, List.map_cons,
    map_toLower_bytesToHex, customErrorTemplate]
  rfl

theorem fnRevertTemplate_panicText (code : UInt8) :
    fnRevertTemplate sp (some (String.ofList (panicText code))) = panicText code := by
  rw [fnRevertTemplate, String.toList_ofList]
  refine revertTemplate_panic ((isHexRun_iff (by rintro _ ⟨⟩; rfl)).mpr
    ⟨hexFixed 2 code.toNat, fun d hd => ?_, ?_, rfl⟩)
  · exact isHexDigit_of_mem (mem_hexDigits_of_mem_hexFixed hd)
  · rw [length_hexFixed]
    decide

/-- The template of an undecoded error holds its selector. -/
theorem Undecoded.template (h : Undecoded output) (hreason : DecodedAs output reason) :
    fnRevertTemplate sp (some reason) = customErrorTemplate (output.take 4) := by
  have hne : output ≠ [] := by
    rintro rfl
    exact absurd h.selector (by decide)
  rw [hreason.unique h.decodedAs, fnRevertTemplate_bytesHex, if_neg hne, if_pos h.selector]

theorem PanicOutput.template (h : PanicOutput output) (hreason : DecodedAs output reason) :
    fnRevertTemplate sp (some reason) = panicText (panicCode output) := by
  rw [hreason.unique h.decodedAs, fnRevertTemplate_panicText]

/-! ## The clusters -/

theorem clusterKind_of_short (h : output.length < 4) (hreason : DecodedAs output reason) :
    clusterKind (fnRevertTemplate sp (some reason)) = .noData := by
  rw [hreason.unique (decodedAs_of_short h), fnRevertTemplate_bytesHex,
    if_neg (Nat.not_le.mpr h)]
  by_cases hnil : output = []
  · rw [if_pos hnil]
    rfl
  · rw [if_neg hnil]
    rfl

variable {rows : List FailedTransaction} {out : List UnknownRevertCluster}
  {f g : FailedTransaction} {c : UnknownRevertCluster}

theorem FailedWith.template (sp : SpaceClass) (hf : FailedWith f output) :
    ∃ reason, DecodedAs output reason ∧ f.template sp = fnRevertTemplate sp (some reason) := by
  obtain ⟨-, reason, hsome, hreason⟩ := hf
  exact ⟨reason, hreason, by rw [FailedTransaction.template, hsome]⟩

/-- Another unknown failure is in the cluster when it has the same template. -/
theorem inCluster_iff (hf : InCluster sp f c) (hg : g.errorCategory = .unknown) :
    InCluster sp g c ↔ f.template sp = g.template sp := by
  rw [InCluster, hf.2]
  exact ⟨fun h => h.2.symm, fun h => ⟨hg, h.symm⟩⟩

/-- Undecoded errors have equal templates, and so share a cluster, exactly if their selectors are
equal; their clusters, those of panics and those of shorter outputs have the kinds they should;
panics share a cluster exactly if their codes end in the same byte. -/
theorem undecoded_cluster_by_selector (hview : VwUnknownRevertClusters sp rows out) :
    (∀ b b', Undecoded b → Undecoded b' → ∃ r r', DecodedAs b r ∧ DecodedAs b' r' ∧
      (fnRevertTemplate sp (some r) = fnRevertTemplate sp (some r') ↔ b.take 4 = b'.take 4)) ∧
    (∀ f ∈ rows, ∀ b, FailedWith f b → ∃ c ∈ out, InCluster sp f c ∧
      (Undecoded b → c.clusterKind = .customError) ∧
      (b.length < 4 → c.clusterKind = .noData) ∧
      (PanicOutput b → c.clusterKind = .panic)) ∧
    ∀ f ∈ rows, ∀ g ∈ rows, ∀ b b', FailedWith f b → FailedWith g b' → ∀ c ∈ out,
      InCluster sp f c →
        (Undecoded b → Undecoded b' → (InCluster sp g c ↔ b.take 4 = b'.take 4)) ∧
        (PanicOutput b → PanicOutput b' → (InCluster sp g c ↔ panicCode b = panicCode b')) := by
  refine ⟨?_, ?_, ?_⟩
  · intro b b' hb hb'
    refine ⟨_, _, hb.decodedAs, hb'.decodedAs, ?_⟩
    rw [hb.template hb.decodedAs, hb'.template hb'.decodedAs, customErrorTemplate_inj]
  · intro f hf b hfailed
    obtain ⟨c, hc, hfc⟩ := hview.exists_cluster hf hfailed.1
    obtain ⟨reason, hreason, htemplate⟩ := hfailed.template sp
    refine ⟨c, hc, hfc, ?_⟩
    rw [hview.kind hc, ← hfc.2, htemplate]
    refine ⟨fun hb => ?_, fun hb => clusterKind_of_short hb hreason, fun hb => ?_⟩
    · rw [hb.template hreason]
      exact clusterKind_customError _
    · rw [hb.template hreason]
      exact clusterKind_panic _
  · intro f hf g hg b b' hfailed hfailed' c hc hfc
    obtain ⟨reason, hreason, htemplate⟩ := hfailed.template sp
    obtain ⟨reason', hreason', htemplate'⟩ := hfailed'.template sp
    rw [inCluster_iff hfc hfailed'.1, htemplate, htemplate']
    refine ⟨fun hb hb' => ?_, fun hb hb' => ?_⟩
    · rw [hb.template hreason, hb'.template hreason', customErrorTemplate_inj]
    · rw [hb.template hreason, hb'.template hreason', panicText_inj]

/-- A failure that no rule of the classifier matched. -/
def unknownFailure (reason : String) : FailedTransaction where
  txHash := "0x01"
  errorCategory := .unknown
  revertReason := some reason
  failingFunction := none
  gasUsed := 21000
  timestamp := 1000

/-- The same custom error, with and without an argument. -/
def customErrorFailures : List FailedTransaction :=
  [unknownFailure (bytesHex [0x12, 0x34, 0x56, 0x78]),
    unknownFailure (bytesHex [0x12, 0x34, 0x56, 0x78, 0xff])]

theorem undecoded_cluster_by_selector_two : ∃ c,
    InCluster asciiSpace (unknownFailure (bytesHex [0x12, 0x34, 0x56, 0x78])) c ∧
    InCluster asciiSpace (unknownFailure (bytesHex [0x12, 0x34, 0x56, 0x78, 0xff])) c ∧
    c.clusterKind = .customError := by
  have hb : Undecoded [0x12, 0x34, 0x56, 0x78] := ⟨by decide, by decide, by decide⟩
  have hb' : Undecoded [0x12, 0x34, 0x56, 0x78, 0xff] := ⟨by decide, by decide, by decide⟩
  have hview : VwUnknownRevertClusters asciiSpace customErrorFailures
      [clusterOf asciiSpace customErrorFailures
        (customErrorTemplate [0x12, 0x34, 0x56, 0x78])] := by
    refine vwUnknownRevertClusters_of_same (List.cons_ne_nil _ _)
      (by simp [customErrorFailures, unknownFailure]) ?_
    simp only [customErrorFailures, List.forall_mem_cons, List.not_mem_nil, false_implies,
      implies_true, and_true]
    exact ⟨hb.template hb.decodedAs, hb'.template hb'.decodedAs⟩
  obtain ⟨-, hkinds, hshare⟩ := undecoded_cluster_by_selector hview
  obtain ⟨c, hc, hfc, hkind, -⟩ :=
    hkinds _ List.mem_cons_self _ ⟨rfl, _, rfl, hb.decodedAs⟩
  obtain ⟨hselector, -⟩ := hshare _ List.mem_cons_self _ (List.mem_cons_of_mem _ List.mem_cons_self)
    _ _ ⟨rfl, _, rfl, hb.decodedAs⟩ ⟨rfl, _, rfl, hb'.decodedAs⟩ c hc hfc
  exact ⟨c, hfc, (hselector hb hb').mpr rfl, hkind hb⟩

end TxIndexer.Proofs
