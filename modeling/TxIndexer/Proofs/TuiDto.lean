import TxIndexer.Api.FailedTxJson
import TxIndexer.Tui.Dto

/-!
# The terminal UI reads what the API answers

The bodies of the two endpoints of failed transactions the terminal UI calls are read back as the
rows they were rendered from. Its integers are machine integers, so nothing is lost.
-/

namespace TxIndexer.Tui.Dto

open Db Lib Serde Api

variable (renderTime renderDecimal : Int → String)

/-! ## What the rows are read as -/

@[inherit_doc failedTransaction]
def viewFailedTransaction (f : Db.FailedTransaction) : FailedTransaction where
  txHash := f.txHash
  errorCategory := errorCategoryName f.errorCategory
  revertReason := f.revertReason
  failingFunction := f.failingFunction
  gasUsed := f.gasUsed
  timestamp := renderTime f.timestamp

@[inherit_doc traceLog]
def viewTraceLog (t : Nat × Db.TraceLog) : TraceLog where
  txHash := t.2.txHash
  callDepth := t.2.callDepth
  callType := t.2.callType
  fromAddr := t.2.fromAddr
  toAddr := t.2.toAddr
  value := renderDecimal t.2.value
  gasUsed := t.2.gasUsed
  input := t.2.input
  output := t.2.output
  error := t.2.error
  traceId := t.1

@[inherit_doc decodedFunction]
def viewDecodedFunction (f : Detail.DecodedFunction) : DecodedFunction where
  selector := f.selector
  name := f.name
  signature := f.signature
  source := f.source
  args := f.args.map fun args => args.map fun a => ⟨a.ty, a.value⟩

@[inherit_doc diagnosis]
def viewDiagnosis (d : Detail.Diagnosis) : Diagnosis := ⟨d.message, d.recommendedAction, d.source⟩

@[inherit_doc failedTxDetail]
def viewFailedTxDetail (d : Detail.FailedTxDetail) : FailedTxDetail where
  failed := viewFailedTransaction renderTime d.failed
  callTree := d.callTree.map (viewTraceLog renderDecimal)
  callTreeTruncated := d.callTreeTruncated
  rootCause := d.rootCause.map (viewTraceLog renderDecimal)
  failingFunctionDecoded := d.failingFunctionDecoded.map viewDecodedFunction
  rootCauseDecoded := d.rootCauseDecoded.map viewDecodedFunction
  diagnosis := d.diagnosis.map viewDiagnosis

/-! ## Fields -/

theorem i64_jsonInt {n : Int} (h : FitsI64 n) : Reads i64 (some (jsonInt n)) n := by
  intro p
  have hliteral : serdeI64 (toString n) = some n := serdeI64_repr h
  simp only [i64, jsonInt, hliteral]

theorem i32_jsonInt {n : Int} (h : -2 ^ 31 ≤ n ∧ n < 2 ^ 31) : Reads i32 (some (jsonInt n)) n := by
  intro p
  simp only [i32, i64_jsonInt (fitsI64_of_i32 h) _, ok_bind, if_pos h]
  rfl

/-- An `Option`. -/
theorem option_jsonOption {α β : Type} {read : Deserializer β} {toJson : α → Json} {view : α → β}
    {o : Option α} (hobject : ∀ a, isAbsent (some (toJson a)) = false)
    (h : ∀ a ∈ o, Reads read (some (toJson a)) (view a)) :
    Reads (option read) (some (jsonOption toJson o)) (o.map view) := by
  have hwritten : some (jsonOption toJson o) = o.elim (some .null) fun a => some (toJson a) := by
    cases o <;> rfl
  rw [hwritten]
  exact readOptional_of_reads rfl hobject h

theorem option_string (o : Option String) :
    Reads (option string) (some (jsonOption .string o)) o := by
  have h := option_jsonOption (o := o) (fun _ => rfl) fun s _ => string_string s
  rwa [Option.map_id'] at h

theorem vec_jsonArray {α β : Type} {read : Deserializer β} {toJson : α → Json} {view : α → β}
    {items : List α} (h : ∀ a ∈ items, Reads read (some (toJson a)) (view a)) :
    Reads (vec read) (some (jsonArray toJson items)) (items.map view) := by
  intro p
  simp only [vec, jsonArray, List.map_map]
  exact readItems_of_reads h 0

/-! ## Rows -/

variable {renderTime renderDecimal}

theorem failedTransaction_json {f : Db.FailedTransaction} (h : FitsI64 f.gasUsed) :
    Reads failedTransaction (some (failedTransactionJson renderTime f))
      (viewFailedTransaction renderTime f) := by
  intro p
  unfold failedTransaction failedTransactionJson
  rw [members_object (by simp)]
  simp [viewFailedTransaction, ok_bind, string_string _ _, option_string _ _, i64_jsonInt h _,
    List.lookup_cons]

theorem traceLog_json {t : Nat × Db.TraceLog} (h : TraceLogFits t) :
    Reads traceLog (some (traceLogJson renderDecimal t)) (viewTraceLog renderDecimal t) := by
  intro p
  unfold traceLog traceLogJson
  rw [members_object (by simp)]
  simp [viewTraceLog, ok_bind, string_string _ _, option_string _ _, i32_jsonInt h.callDepth _,
    i64_jsonInt h.gasUsed _, i64_jsonInt h.traceId _, List.lookup_cons]

theorem decodedArg_json (a : Decoder.DecodedArg) :
    Reads decodedArg (some (decodedArgJson a)) ⟨a.ty, a.value⟩ := by
  intro p
  unfold decodedArg decodedArgJson
  rw [members_object (by simp)]
  simp [ok_bind, string_string _ _, anyValue_some _ _, List.lookup_cons]

theorem decodedFunction_json (f : Detail.DecodedFunction) :
    Reads decodedFunction (some (decodedFunctionJson f)) (viewDecodedFunction f) := by
  intro p
  have hargs : Reads (option (vec decodedArg))
      (some (jsonOption (jsonArray decodedArgJson) f.args))
      (f.args.map fun args => args.map fun a => ⟨a.ty, a.value⟩) :=
    option_jsonOption (fun _ => rfl) fun args _ => vec_jsonArray fun a _ => decodedArg_json a
  unfold decodedFunction decodedFunctionJson
  rw [members_object (by simp)]
  simp [viewDecodedFunction, ok_bind, string_string _ _, option_string _ _, hargs _, List.lookup_cons]

theorem diagnosis_json (d : Detail.Diagnosis) :
    Reads diagnosis (some (diagnosisJson d)) (viewDiagnosis d) := by
  intro p
  unfold diagnosis diagnosisJson
  rw [members_object (by simp)]
  simp [viewDiagnosis, ok_bind, string_string _ _, option_string _ _, List.lookup_cons]

theorem failedTxDetail_json {d : Detail.FailedTxDetail} (h : FailedTxDetailFits d) :
    Reads failedTxDetail (some (failedTxDetailJson renderTime renderDecimal d))
      (viewFailedTxDetail renderTime renderDecimal d) := by
  intro p
  have htree : Reads (vec traceLog) (some (jsonArray (traceLogJson renderDecimal) d.callTree))
      (d.callTree.map (viewTraceLog renderDecimal)) :=
    vec_jsonArray fun t ht => traceLog_json (h.callTree t ht)
  have hroot : Reads (option traceLog) (some (jsonOption (traceLogJson renderDecimal) d.rootCause))
      (d.rootCause.map (viewTraceLog renderDecimal)) :=
    option_jsonOption (fun _ => rfl) fun t ht => traceLog_json (h.rootCause t ht)
  have hfunction : ∀ o : Option Detail.DecodedFunction, Reads (option decodedFunction)
      (some (jsonOption decodedFunctionJson o)) (o.map viewDecodedFunction) :=
    fun o => option_jsonOption (fun _ => rfl) fun f _ => decodedFunction_json f
  have hdiagnosis : Reads (option diagnosis) (some (jsonOption diagnosisJson d.diagnosis))
      (d.diagnosis.map viewDiagnosis) :=
    option_jsonOption (fun _ => rfl) fun d' _ => diagnosis_json d'
  unfold failedTxDetail failedTxDetailJson
  rw [members_object (by simp)]
  simp [viewFailedTxDetail, ok_bind, failedTransaction_json h.failed _, htree _, bool_bool _ _,
    hroot _, hfunction _ _, hdiagnosis _, List.lookup_cons]

theorem paginationMeta_json {page : Api.PaginationMeta} (h : PaginationFits page) :
    Reads paginationMeta
      (some (.object [("limit", jsonInt page.limit), ("offset", jsonInt page.offset),
        ("count", jsonInt page.count), ("total", jsonInt page.total)]))
      ⟨page.limit, page.offset, page.count, page.total⟩ := by
  intro p
  unfold paginationMeta
  rw [members_object (by simp)]
  simp [ok_bind, i64_jsonInt h.limit _, i64_jsonInt h.offset _, i64_jsonInt h.count _,
    i64_jsonInt h.total _, List.lookup_cons]

theorem totalPaginated_json {α β : Type} {read : Deserializer β} {toJson : α → Json} {view : α → β}
    {items : List α} {page : Api.PaginationMeta} (hpage : PaginationFits page)
    (h : ∀ a ∈ items, Reads read (some (toJson a)) (view a)) :
    Reads (totalPaginated read) (some (totalPaginatedResponse (jsonArray toJson items) page))
      ⟨items.map view, page.limit, page.offset, page.count, page.total⟩ := by
  intro p
  unfold totalPaginated totalPaginatedResponse
  rw [members_object (by simp)]
  simp [ok_bind, vec_jsonArray h _, paginationMeta_json hpage _, List.lookup_cons]

theorem apiResponse_json {β : Type} {read : Deserializer β} {data : Json} {b : β}
    (h : Reads read (some data) b) : apiResponse read (some (Api.apiResponse data)) () = .ok b := by
  unfold apiResponse Api.apiResponse
  rw [members_object (by simp)]
  simp [ok_bind, List.lookup_cons, h _]

/-- The terminal UI reads a diagnosis and a page of the list as the rows they were rendered from. -/
theorem tui_reads_api {d : Detail.FailedTxDetail} {rows : List Db.FailedTransaction}
    {page : Api.PaginationMeta} (hd : FailedTxDetailFits d) (hrows : ∀ f ∈ rows, FitsI64 f.gasUsed)
    (hpage : PaginationFits page) :
    detailBody (Api.apiResponse (failedTxDetailJson renderTime renderDecimal d)) =
      .ok (viewFailedTxDetail renderTime renderDecimal d) ∧
    listBody (totalPaginatedResponse (jsonArray (failedTransactionJson renderTime) rows) page) =
      .ok ⟨rows.map (viewFailedTransaction renderTime), page.limit, page.offset, page.count,
        page.total⟩ := by
  constructor
  · exact apiResponse_json (failedTxDetail_json hd)
  · exact totalPaginated_json hpage (fun f hf => failedTransaction_json (hrows f hf)) ()

/-- A diagnosis and a page of one row. -/
theorem tui_reads_api_sample : ∃ detail list,
    detailBody (Api.apiResponse (failedTxDetailJson sampleRender toString sampleDetail)) =
      .ok detail ∧ detail.rootCauseDecoded.map (·.name) = some "exactInputSingle" ∧
    listBody (totalPaginatedResponse
        (jsonArray (failedTransactionJson sampleRender) [sampleDetail.failed]) ⟨50, 0, 1, 1⟩) =
      .ok list ∧ list.data.map (·.gasUsed) = [45000] ∧ list.pagination.total = 1 := by
  have hrows : ∀ f ∈ [sampleDetail.failed], FitsI64 f.gasUsed := by
    intro f hf
    cases List.mem_singleton.mp hf
    decide
  obtain ⟨hdetail, hlist⟩ := @tui_reads_api sampleRender toString sampleDetail
    [sampleDetail.failed] ⟨50, 0, 1, 1⟩ sampleDetail_fits hrows
    ⟨by decide, by decide, by decide, by decide⟩
  exact ⟨_, _, hdetail, rfl, hlist, rfl, rfl⟩

end TxIndexer.Tui.Dto
