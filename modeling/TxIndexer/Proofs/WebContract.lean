import TxIndexer.Api.FailedTxJson
import TxIndexer.Web.FailedTx

/-!
# The web client reads what the API answers

Every body the endpoints of failed transactions answer with passes the checks of the web client,
and is read back as the rows it was rendered from. Integers come back as the binary64 numbers
nearest to them, which they are themselves up to `2 ^ 53`.
-/

namespace TxIndexer.Web

open Db Lib Api

variable (env : JsEnv) (renderTime renderDecimal : Int → String)

/-! ## What the rows are read as -/

@[inherit_doc parseFailedTransaction]
def viewFailedTransaction (f : Db.FailedTransaction) : FailedTransaction where
  txHash := f.txHash
  errorCategory := f.errorCategory
  revertReason := f.revertReason
  failingFunction := f.failingFunction
  gasUsed := Binary64.nearestInt f.gasUsed
  timestamp := renderTime f.timestamp

@[inherit_doc parseTraceLog]
def viewTraceLog (t : Nat × Db.TraceLog) : TraceLog where
  txHash := t.2.txHash
  callDepth := Binary64.nearestInt t.2.callDepth
  callType := t.2.callType
  fromAddr := t.2.fromAddr
  toAddr := t.2.toAddr
  value := renderDecimal t.2.value
  gasUsed := Binary64.nearestInt t.2.gasUsed
  input := t.2.input
  output := t.2.output
  error := t.2.error
  traceId := Binary64.nearestInt t.1

@[inherit_doc parseDecodedFunction]
def viewDecodedFunction (f : Detail.DecodedFunction) : DecodedFunction where
  selector := f.selector
  name := f.name
  signature := f.signature
  source := f.source
  args := f.args.map fun args => args.map fun a => ⟨a.ty, a.value⟩

@[inherit_doc parseDiagnosis]
def viewDiagnosis (d : Detail.Diagnosis) : Diagnosis := ⟨d.message, d.recommendedAction, d.source⟩

@[inherit_doc parseFailedTxDetail]
def viewFailedTxDetail (d : Detail.FailedTxDetail) : FailedTxDetail where
  failed := viewFailedTransaction renderTime d.failed
  callTree := d.callTree.map (viewTraceLog renderDecimal)
  callTreeTruncated := d.callTreeTruncated
  rootCause := d.rootCause.map (viewTraceLog renderDecimal)
  failingFunctionDecoded := d.failingFunctionDecoded.map viewDecodedFunction
  rootCauseDecoded := d.rootCauseDecoded.map viewDecodedFunction
  diagnosis := d.diagnosis.map viewDiagnosis

/-! ## Fields -/

section Fields

theorem readString_string (s : String) : Reads readString (some (.string s)) s := fun _ => rfl

theorem readOptionalString_jsonOption (o : Option String) :
    Reads readOptionalString (some (jsonOption .string o)) o := by
  intro path
  cases o <;> rfl

theorem readBoolean_bool (b : Bool) : Reads readBoolean (some (.bool b)) b := fun _ => rfl

theorem readDecimal_string (s : String) : Reads (readDecimal env) (some (.string s)) s := fun _ => rfl

/-- An integer of the program is read as the number nearest to it. -/
theorem readInteger_jsonInt {n : Int} (h : FitsI64 n) :
    Reads readInteger (some (jsonInt n)) (Binary64.nearestInt n) := by
  intro path
  have hliteral : jsNumber (toString n) = some (Binary64.nearestInt n : ℚ) := jsNumber_repr h
  simp only [readInteger, readNumber, jsonInt, hliteral, ok_bind, Rat.den_intCast, if_true,
    Rat.num_intCast]
  rfl

theorem readIsoDateTime_string {s : String} (h : (env.dateParse s).isSome) :
    Reads (readIsoDateTime env) (some (.string s)) s := by
  intro path
  simp only [readIsoDateTime, readString_string s _, ok_bind]
  rw [if_neg (by simp [Option.isSome_iff_ne_none.mp h])]
  rfl

/-- The name of a category is read as the category. -/
theorem normalizeErrorCategory_name (c : ErrorCategory) :
    Reads normalizeErrorCategory (some (.string (errorCategoryName c))) c := by
  intro path
  have htoken : categoryOfToken (errorCategoryName c) = c := by
    cases c <;> decide +kernel
  simp only [normalizeErrorCategory, htoken]

end Fields

/-! ## Rows -/

/-- The integer of a row is an `i64`, and the client can read its date. -/
structure FailedTransactionServed (f : Db.FailedTransaction) : Prop where
  gasUsed : FitsI64 f.gasUsed
  timestamp : (env.dateParse (renderTime f.timestamp)).isSome

variable {env renderTime renderDecimal}

theorem parseFailedTransaction_json {f : Db.FailedTransaction}
    (h : FailedTransactionServed env renderTime f) :
    Reads (parseFailedTransaction env) (some (failedTransactionJson renderTime f))
      (viewFailedTransaction renderTime f) := by
  intro path
  have hgas := readInteger_jsonInt h.gasUsed
  have hdate := readIsoDateTime_string env h.timestamp
  simp [parseFailedTransaction, failedTransactionJson, viewFailedTransaction, readRecord, property,
    ok_bind, readString_string _ _, readOptionalString_jsonOption _ _,
    normalizeErrorCategory_name _ _, hgas _, hdate _]

theorem parseTraceLog_json {t : Nat × Db.TraceLog} (h : TraceLogFits t) :
    Reads (parseTraceLog env) (some (traceLogJson renderDecimal t))
      (viewTraceLog renderDecimal t) := by
  intro path
  have hdepth := readInteger_jsonInt (fitsI64_of_i32 h.callDepth)
  have hgas := readInteger_jsonInt h.gasUsed
  have hid := readInteger_jsonInt h.traceId
  simp [parseTraceLog, traceLogJson, viewTraceLog, readRecord, property, ok_bind,
    readString_string _ _, readOptionalString_jsonOption _ _, readDecimal_string _ _ _, hdepth _,
    hgas _, hid _]

theorem parseDecodedArg_json (a : Decoder.DecodedArg) :
    Reads parseDecodedArg (some (decodedArgJson a)) ⟨a.ty, a.value⟩ := by
  intro path
  simp [parseDecodedArg, decodedArgJson, presentProperty, readRecord, property, ok_bind,
    readString_string _ _]

theorem parseArgs_json (args : Option (List Decoder.DecodedArg)) (path : String) :
    parseArgs (jsonOption (jsonArray decodedArgJson) args) path =
      .ok (args.map fun args => args.map fun a => ⟨a.ty, a.value⟩) := by
  cases args with
  | none => rfl
  | some args =>
      have hitems : readItems itemPath parseDecodedArg path 0
          (args.map fun a => some (decodedArgJson a)) = .ok (args.map fun a => ⟨a.ty, a.value⟩) :=
        readItems_of_reads (fun a _ => parseDecodedArg_json a) 0
      simp [parseArgs, jsonOption, jsonArray, hitems, Except.map, Function.comp_def]

theorem parseDecodedFunction_json (f : Detail.DecodedFunction) :
    Reads parseDecodedFunction (some (decodedFunctionJson f)) (viewDecodedFunction f) := by
  intro path
  simp [parseDecodedFunction, decodedFunctionJson, viewDecodedFunction, presentProperty, readRecord,
    property, ok_bind, readString_string _ _, readOptionalString_jsonOption _ _,
    parseArgs_json]

theorem parseDiagnosis_json (d : Detail.Diagnosis) :
    Reads parseDiagnosis (some (diagnosisJson d)) (viewDiagnosis d) := by
  intro path
  simp [parseDiagnosis, diagnosisJson, viewDiagnosis, readRecord, property, ok_bind,
    readString_string _ _, readOptionalString_jsonOption _ _]

/-- A member that may be `null`. -/
theorem parseExplicit_json {α β : Type} {parse : Parser β} {toJson : α → Json} {view : α → β}
    {obj : List (String × Json)} {key path : String} {o : Option α}
    (hmember : property obj key = some (jsonOption toJson o))
    (hobject : ∀ a, isNull (some (toJson a)) = false)
    (h : ∀ a ∈ o, Reads parse (some (toJson a)) (view a)) :
    parseExplicit parse obj key path = .ok (o.map view) := by
  have hwritten : some (jsonOption toJson o) = o.elim (some .null) fun a => some (toJson a) := by
    cases o <;> rfl
  have hread : Reads (readOptional isNull parse) (some (jsonOption toJson o)) (o.map view) := by
    rw [hwritten]
    exact readOptional_of_reads rfl hobject h
  simp only [parseExplicit, presentProperty, hmember, ok_bind, hread _]

theorem parseFailedTxDetail_json {d : Detail.FailedTxDetail} (h : FailedTxDetailFits d)
    (hdate : (env.dateParse (renderTime d.failed.timestamp)).isSome) :
    Reads (parseFailedTxDetail env) (some (failedTxDetailJson renderTime renderDecimal d))
      (viewFailedTxDetail renderTime renderDecimal d) := by
  intro path
  have hfailed : Reads (parseFailedTransaction env) (some (failedTransactionJson renderTime d.failed))
      (viewFailedTransaction renderTime d.failed) := parseFailedTransaction_json ⟨h.failed, hdate⟩
  have hitems : readItems itemPath (parseTraceLog env) s!"{path}.call_tree" 0
      (d.callTree.map fun t => some (traceLogJson renderDecimal t)) =
        .ok (d.callTree.map (viewTraceLog renderDecimal)) :=
    readItems_of_reads (fun t ht => parseTraceLog_json (h.callTree t ht)) 0
  obtain ⟨fields, hfields⟩ : ∃ fields,
      failedTxDetailJson renderTime renderDecimal d = .object fields := ⟨_, rfl⟩
  have hroot : parseExplicit (parseTraceLog env) fields "root_cause" path =
      .ok (d.rootCause.map (viewTraceLog renderDecimal)) :=
    parseExplicit_json (by cases hfields; simp [property]) (fun _ => rfl)
      fun t ht => parseTraceLog_json (h.rootCause t ht)
  have hfunction : parseExplicit parseDecodedFunction fields "failing_function_decoded" path =
      .ok (d.failingFunctionDecoded.map viewDecodedFunction) :=
    parseExplicit_json (by cases hfields; simp [property]) (fun _ => rfl)
      fun f _ => parseDecodedFunction_json f
  have hcause : parseExplicit parseDecodedFunction fields "root_cause_decoded" path =
      .ok (d.rootCauseDecoded.map viewDecodedFunction) :=
    parseExplicit_json (by cases hfields; simp [property]) (fun _ => rfl)
      fun f _ => parseDecodedFunction_json f
  have hdiagnosis : parseExplicit parseDiagnosis fields "diagnosis" path =
      .ok (d.diagnosis.map viewDiagnosis) :=
    parseExplicit_json (by cases hfields; simp [property]) (fun _ => rfl)
      fun d' _ => parseDiagnosis_json d'
  rw [parseFailedTxDetail, hfields]
  simp only [readRecord, ok_bind, hroot, hfunction, hcause, hdiagnosis]
  cases hfields
  simp [property, readArray, jsonArray, ok_bind, readBoolean_bool _ _, hfailed _, hitems, viewFailedTxDetail,
    Function.comp_def]

/-- The date of a point can be read. -/
structure FailedTxTrendPointServed (env : JsEnv) (renderTime : Int → String)
    (p : Db.FailedTxTrendPoint) : Prop where
  bucket : (env.dateParse (renderTime p.bucket)).isSome
  failureCount : FitsI64 p.failureCount

@[inherit_doc parseFailedTxTrendPoint]
def viewFailedTxTrendPoint (renderTime : Int → String) (p : Db.FailedTxTrendPoint) :
    FailedTxTrendPoint :=
  ⟨renderTime p.bucket, p.errorCategory, Binary64.nearestInt p.failureCount⟩

theorem parseFailedTxTrendPoint_json {p : Db.FailedTxTrendPoint}
    (h : FailedTxTrendPointServed env renderTime p) :
    Reads (parseFailedTxTrendPoint env) (some (failedTxTrendPointJson renderTime p))
      (viewFailedTxTrendPoint renderTime p) := by
  intro path
  simp [parseFailedTxTrendPoint, failedTxTrendPointJson, viewFailedTxTrendPoint, readRecord, property,
    ok_bind, readIsoDateTime_string env h.bucket _, normalizeErrorCategory_name _ _,
    readInteger_jsonInt h.failureCount _]

/-! ## Counts by category -/

theorem property_of_mem {fields : List (String × Json)} {key : String} {v : Json}
    (hnodup : (fields.map Prod.fst).Nodup) (hmem : (key, v) ∈ fields) :
    property fields key = some v := by
  induction fields with
  | nil => cases hmem
  | cons field fields ih =>
      rw [List.map_cons, List.nodup_cons] at hnodup
      rcases List.mem_cons.mp hmem with rfl | hmem
      · simp only [property, property_eq_none hnodup.1, Option.none_or, if_true]
      · simp only [property, ih hnodup.2 hmem, Option.some_or]

/-- An object of distinct keys has its members as entries. -/
theorem objectEntries_of_nodup {fields : List (String × Json)}
    (hnodup : (fields.map Prod.fst).Nodup) : objectEntries fields = fields := by
  have hkeys : ((fields.map Prod.fst).reverse.dedup).reverse = fields.map Prod.fst := by
    rw [(List.nodup_reverse.mpr hnodup).dedup, List.reverse_reverse]
  have hmembers : ∀ field ∈ fields,
      ((property fields field.1).map fun v => (field.1, v)) = some field := by
    intro field hfield
    rw [property_of_mem hnodup hfield]
    rfl
  rw [objectEntries, hkeys, List.filterMap_map]
  exact (List.filterMap_congr hmembers).trans List.filterMap_some

/-- What a point of the report is read as. -/
structure LabelPointRead (p : Db.FailedTxByLabelPoint) (w : FailedTxByLabelPoint) : Prop where
  label : w.label = p.label
  address : w.address = p.address
  totalFailures : w.totalFailures = Binary64.nearestInt p.totalFailures
  byCategory : ∃ entries, Iterates p.byCategory entries ∧
    w.byCategory = entries.map fun e => (e.1, Binary64.nearestInt e.2)

/-- The counts of a point are `i64`s. -/
structure LabelPointServed (p : Db.FailedTxByLabelPoint) : Prop where
  totalFailures : FitsI64 p.totalFailures
  byCategory : ∀ category count, p.byCategory.lookup category = some count → FitsI64 count

theorem readCounts_json {path : String} {entries : List (String × Int)}
    (h : ∀ e ∈ entries, FitsI64 e.2) :
    readCounts path (entries.map fun e => (e.1, jsonInt e.2)) =
      .ok (entries.map fun e => (e.1, Binary64.nearestInt e.2)) := by
  induction entries with
  | nil => rfl
  | cons e entries ih =>
      rw [List.forall_mem_cons] at h
      rw [List.map_cons, readCounts, readInteger_jsonInt h.1, ok_bind, ih h.2]
      rfl

theorem parseFailedTxByLabelPoint_json {p : Db.FailedTxByLabelPoint} {json : Json}
    (h : LabelPointServed p) (hjson : FailedTxByLabelPointJson p json) :
    ∃ w, Reads parseFailedTxByLabelPoint (some json) w ∧ LabelPointRead p w := by
  obtain ⟨entries, hentries, rfl⟩ := hjson
  have hfits : ∀ e ∈ entries, FitsI64 e.2 :=
    fun e he => h.byCategory e.1 e.2 (hentries.mem_iff.mp he)
  have hkeys : (((entries.map fun e => (e.1, jsonInt e.2))).map Prod.fst).Nodup := by
    rw [List.map_map]
    exact hentries.keys_nodup
  refine ⟨⟨p.label, p.address, Binary64.nearestInt p.totalFailures,
    entries.map fun e => (e.1, Binary64.nearestInt e.2)⟩, ?_, ⟨rfl, rfl, rfl, entries, hentries, rfl⟩⟩
  intro path
  simp only [parseFailedTxByLabelPoint, readRecord, ok_bind]
  simp [property, ok_bind, objectEntries_of_nodup hkeys, readCounts_json hfits,
    readString_string _ _, readInteger_jsonInt h.totalFailures _]

/-! ## Bodies -/

theorem parseApiResponse_json {α : Type} {parseData : Parser α} {data : Json} {a : α}
    (h : Reads parseData (some data) a) :
    parseApiResponse parseData (some (Api.apiResponse data)) = .ok ⟨a⟩ := by
  simp [parseApiResponse, Api.apiResponse, readRecord, property, ok_bind, h _]

theorem parseArray_json {α β : Type} {parse : Parser β} {toJson : α → Json} {view : α → β}
    {items : List α} (h : ∀ a ∈ items, Reads parse (some (toJson a)) (view a)) :
    Reads (parseArray parse) (some (jsonArray toJson items)) (items.map view) := by
  intro path
  simp only [parseArray, readArray, jsonArray, ok_bind, List.map_map]
  exact readItems_of_reads h 0

@[inherit_doc parsePaginationMeta]
def viewPaginationMeta (p : Api.PaginationMeta) : PaginationMeta where
  limit := Binary64.nearestInt p.limit
  offset := Binary64.nearestInt p.offset
  count := Binary64.nearestInt p.count
  total := Binary64.nearestInt p.total

theorem parseTotalPaginatedResponse_json {α β : Type} {parse : Parser β} {toJson : α → Json}
    {view : α → β} {items : List α} {p : Api.PaginationMeta} (hp : PaginationFits p)
    (h : ∀ a ∈ items, Reads parse (some (toJson a)) (view a)) :
    parseTotalPaginatedResponse parse (some (totalPaginatedResponse (jsonArray toJson items) p)) =
      .ok ⟨items.map view, viewPaginationMeta p⟩ := by
  simp [parseTotalPaginatedResponse, totalPaginatedResponse, parsePaginationMeta, viewPaginationMeta,
    readRecord, property, ok_bind, parseArray_json h _, readInteger_jsonInt hp.limit _,
    readInteger_jsonInt hp.offset _, readInteger_jsonInt hp.count _, readInteger_jsonInt hp.total _]

/-- What the endpoints of failed transactions answer passes the client's checks and is read as the
rows it was rendered from: a diagnosis with its call tree and decoded functions, a page of the
list, a series and a report by label. -/
theorem web_reads_api {d : Detail.FailedTxDetail} {rows : List Db.FailedTransaction}
    {page : Api.PaginationMeta} {points : List Db.FailedTxTrendPoint}
    {report : List Db.FailedTxByLabelPoint} {reportJson : List Json}
    (hd : FailedTxDetailFits d) (hdate : (env.dateParse (renderTime d.failed.timestamp)).isSome)
    (hrows : ∀ f ∈ rows, FailedTransactionServed env renderTime f) (hpage : PaginationFits page)
    (hpoints : ∀ p ∈ points, FailedTxTrendPointServed env renderTime p)
    (hreport : ∀ p ∈ report, LabelPointServed p)
    (hreportJson : List.Forall₂ FailedTxByLabelPointJson report reportJson) :
    parseFailedTxDetailEnvelope env
        (some (Api.apiResponse (failedTxDetailJson renderTime renderDecimal d))) =
      .ok ⟨viewFailedTxDetail renderTime renderDecimal d⟩ ∧
    parseFailedTxListEnvelope env
        (some (totalPaginatedResponse (jsonArray (failedTransactionJson renderTime) rows) page)) =
      .ok ⟨rows.map (viewFailedTransaction renderTime), viewPaginationMeta page⟩ ∧
    parseFailedTxTimeseriesEnvelope env
        (some (Api.apiResponse (jsonArray (failedTxTrendPointJson renderTime) points))) =
      .ok ⟨points.map (viewFailedTxTrendPoint renderTime)⟩ ∧
    ∃ read, parseFailedTxByLabelEnvelope (some (Api.apiResponse (.array reportJson))) = .ok ⟨read⟩ ∧
      List.Forall₂ LabelPointRead report read := by
  have hlist : ∀ f ∈ rows, Reads (parseFailedTransaction env)
      (some (failedTransactionJson renderTime f)) (viewFailedTransaction renderTime f) :=
    fun f hf => parseFailedTransaction_json (hrows f hf)
  have hseries : ∀ p ∈ points, Reads (parseFailedTxTrendPoint env)
      (some (failedTxTrendPointJson renderTime p)) (viewFailedTxTrendPoint renderTime p) :=
    fun p hp => parseFailedTxTrendPoint_json (hpoints p hp)
  refine ⟨parseApiResponse_json (parseFailedTxDetail_json hd hdate),
    parseTotalPaginatedResponse_json hpage hlist,
    parseApiResponse_json (parseArray_json hseries), ?_⟩
  have hitems : List.Forall₂ (fun p v => ∃ json, v = some json ∧ FailedTxByLabelPointJson p json)
      report (reportJson.map some) := by
    rw [List.forall₂_map_right_iff]
    exact hreportJson.imp fun _ json hjson => ⟨json, rfl, hjson⟩
  obtain ⟨read, hread, hview⟩ : ∃ read, readItems itemPath parseFailedTxByLabelPoint
      "response.data" 0 (reportJson.map some) = .ok read ∧
        List.Forall₂ LabelPointRead report read := by
    refine readItems_of_forall₂ (fun {p v} hp hv => ?_) hitems 0
    obtain ⟨json, rfl, hjson⟩ := hv
    exact parseFailedTxByLabelPoint_json (hreport p hp) hjson
  refine ⟨read, ?_, hview⟩
  simp [parseFailedTxByLabelEnvelope, parseApiResponse, Api.apiResponse, parseArray, readArray,
    readRecord, property, ok_bind, hread]

/-- `Date.parse` and the rendering of one date. -/
def sampleJsEnv : JsEnv where
  dateParse := fun s => if s = "2023-09-01T12:00:00Z" then some 1693569600000 else none
  numberToString := fun _ => ""

/-- A diagnosis and a page of one row. -/
theorem web_reads_api_sample : ∃ detail list,
    parseFailedTxDetailEnvelope sampleJsEnv
        (some (Api.apiResponse (failedTxDetailJson sampleRender toString sampleDetail))) =
      .ok ⟨detail⟩ ∧ detail.failed.errorCategory = .slippageAmountOut ∧
    parseFailedTxListEnvelope sampleJsEnv (some (totalPaginatedResponse
        (jsonArray (failedTransactionJson sampleRender) [sampleDetail.failed]) ⟨50, 0, 1, 1⟩)) =
      .ok list ∧ list.data.map (·.gasUsed) = [45000] ∧ list.pagination.limit = 50 := by
  have hrows : ∀ f ∈ [sampleDetail.failed], FailedTransactionServed sampleJsEnv sampleRender f := by
    intro f hf
    cases List.mem_singleton.mp hf
    exact ⟨by decide, by decide⟩
  obtain ⟨hdetail, hlist, -, -⟩ := @web_reads_api sampleJsEnv sampleRender toString sampleDetail
    [sampleDetail.failed] ⟨50, 0, 1, 1⟩ [] [] [] sampleDetail_fits (by decide) hrows
    ⟨by decide, by decide, by decide, by decide⟩ (fun _ h => absurd h List.not_mem_nil)
    (fun _ h => absurd h List.not_mem_nil) .nil
  refine ⟨_, _, hdetail, rfl, hlist, ?_, Binary64.nearestInt_of_le (by decide)⟩
  change [Binary64.nearestInt 45000] = [45000]
  rw [Binary64.nearestInt_of_le (by decide)]

end TxIndexer.Web
