import TxIndexer.Proofs.TuiDto
import TxIndexer.Proofs.WebContract

/-!
# The two clients agree

The web client checks a body by hand and the terminal UI has `serde` do it; each takes bodies the
other refuses. Where both take a body they read the same from it, whoever wrote it: the same
texts, the same optional parts, the same calls in the same order, and integers that differ by the
rounding of JavaScript only.
-/

namespace TxIndexer.Proofs

open Db Lib Tui

/-! ## Fields -/

/-- An integer of the one and the number the other reads. -/
def IntAgrees (n m : Int) : Prop := m = Binary64.nearestInt n

/-- The web client knows every category the terminal UI knows, by the same name. -/
def CategoryAgrees (raw : String) (c : ErrorCategory) : Prop :=
  Dto.normalizeCategory raw ≠ "UNKNOWN" → c.asWire = Dto.normalizeCategory raw

theorem value_of_integer {l : NumberLiteral} {n : Int} (h : l.integer = some n) :
    l.value = (n : ℚ) := by
  unfold NumberLiteral.integer at h
  split at h
  · cases h
  · next hinteger =>
      rw [not_or, not_not, Option.not_isSome_iff_eq_none] at hinteger
      obtain ⟨hfraction, hexponent⟩ := hinteger
      simp only [NumberLiteral.value, hfraction, hexponent, List.append_nil, Option.getD_none,
        List.length_nil, Nat.cast_zero, sub_zero, zpow_zero, mul_one]
      split at h
      · next hnegative =>
          split at h
          · cases h
          · cases h
            rw [if_pos hnegative, neg_one_mul, Int.cast_neg, Int.cast_natCast]
      · next hpositive =>
          cases h
          rw [if_neg hpositive, one_mul, Int.cast_natCast]

theorem jsNumber_of_serdeI64 {literal : String} {n : Int} (h : serdeI64 literal = some n) :
    jsNumber literal = some (Binary64.nearestInt n : ℚ) := by
  rw [serdeI64, Option.filter_eq_some_iff] at h
  obtain ⟨hinteger, hfits⟩ := h
  obtain ⟨l, hparse, hl⟩ := Option.bind_eq_some_iff.mp hinteger
  obtain ⟨hlow, hhigh⟩ := of_decide_eq_true hfits
  rw [jsNumber, hparse, Option.bind_some, value_of_integer hl, Binary64.nearest_intCast (by omega)]

theorem i64_agree : ReadAlike IntAgrees Serde.i64 Web.readInteger := by
  intro v p path n m hn hm
  unfold Serde.i64 at hn
  split at hn
  · next literal _ _ =>
      split at hn
      · next k hk =>
          cases hn
          simp only [Web.readInteger, Web.readNumber, jsNumber_of_serdeI64 hk, ok_bind,
            Rat.den_intCast, if_true, Rat.num_intCast] at hm
          cases hm
          rfl
      · cases hn
  · cases hn
  · cases hn

theorem i32_agree : ReadAlike IntAgrees Serde.i32 Web.readInteger := by
  intro v p path n m hn hm
  obtain ⟨k, hk, hn⟩ := bind_eq_ok.mp hn
  split at hn
  · cases hn
    exact i64_agree _ _ _ _ _ hk hm
  · cases hn

theorem string_agree : ReadAlike Eq Serde.string Web.readString := by
  intro v p path s s' hs hs'
  unfold Serde.string at hs
  split at hs <;> cases hs
  cases hs'
  rfl

theorem decimal_agree (env : Web.JsEnv) : ReadAlike Eq Serde.string (Web.readDecimal env) := by
  intro v p path s s' hs hs'
  unfold Serde.string at hs
  split at hs <;> cases hs
  cases hs'
  rfl

theorem date_agree (env : Web.JsEnv) : ReadAlike Eq Serde.string (Web.readIsoDateTime env) := by
  intro v p path s s' hs hs'
  obtain ⟨iso, hiso, hs'⟩ := bind_eq_ok.mp hs'
  split at hs' <;> cases hs'
  exact string_agree _ _ _ _ _ hs hiso

theorem bool_agree : ReadAlike Eq Serde.bool Web.readBoolean := by
  intro v p path b b' hb hb'
  unfold Serde.bool at hb
  split at hb <;> cases hb
  cases hb'
  rfl

/-- The names the terminal UI knows. -/
def knownNames : List String := [
  "InsufficientBalance", "INSUFFICIENT_BALANCE", "InsufficientAllowance", "INSUFFICIENT_ALLOWANCE",
  "SlippageExceeded", "SLIPPAGE_EXCEEDED", "SlippageAmountOut", "SLIPPAGE_AMOUNT_OUT",
  "SlippageAmountIn", "SLIPPAGE_AMOUNT_IN", "SlippagePriceImpact", "SLIPPAGE_PRICE_IMPACT",
  "DeadlineExpired", "DEADLINE_EXPIRED", "Unauthorized", "UNAUTHORIZED", "TransferFailed",
  "TRANSFER_FAILED"]

theorem mem_knownNames {raw : String} (h : Dto.normalizeCategory raw ≠ "UNKNOWN") :
    raw ∈ knownNames := by
  by_contra hunknown
  simp only [knownNames, List.mem_cons, List.not_mem_nil, or_false, not_or] at hunknown
  apply h
  simp [Dto.normalizeCategory, hunknown]

theorem categoryAgrees (raw : String) : CategoryAgrees raw (Web.categoryOfToken raw) := by
  intro hknown
  have hnames : ∀ raw ∈ knownNames,
      (Web.categoryOfToken raw).asWire = Dto.normalizeCategory raw := by
    decide +kernel
  exact hnames raw (mem_knownNames hknown)

theorem category_agree : ReadAlike CategoryAgrees Serde.string Web.normalizeErrorCategory := by
  intro v p path raw c hraw hc
  unfold Serde.string at hraw
  split at hraw <;> cases hraw
  cases hc
  exact categoryAgrees raw

theorem optional_string_agree : ReadAlike (Option.Rel Eq) (Serde.option Serde.string) Web.readOptionalString := by
  apply string_agree.optional
  · intro v hv
    unfold Web.isNull at hv
    split at hv
    · rfl
    · cases hv
  · intro v path s hv hpresent hs
    unfold Serde.isAbsent at hv
    split at hv
    · cases hs
    · cases hpresent
    · cases hv

theorem rel_eq_iff {α : Type} {a b : Option α} (h : Option.Rel Eq a b) : a = b := by
  cases h with
  | some h => rw [h]
  | none => rfl

/-- Of a member that stands once, the first is the last. -/
theorem lookup_eq_property {fields : List (String × Json)} {name : String}
    (h : (fields.map Prod.fst).count name ≤ 1) : fields.lookup name = Web.property fields name := by
  induction fields with
  | nil => rfl
  | cons field fields ih =>
      obtain ⟨key, value⟩ := field
      rw [List.map_cons, List.count_cons] at h
      by_cases hname : key = name
      · have hrest : name ∉ fields.map Prod.fst := by
          rw [if_pos (beq_iff_eq.mpr hname)] at h
          exact List.count_eq_zero.mp (by omega)
        simp only [List.lookup_cons, Web.property, Web.property_eq_none hrest, hname, beq_self_eq_true,
          if_true, Option.none_or]
      · have hrest : (fields.map Prod.fst).count name ≤ 1 := le_trans (Nat.le_add_right _ _) h
        have hother : (name == key) = false := beq_eq_false_iff_ne.mpr (Ne.symm hname)
        simp only [List.lookup_cons, Web.property, hother, if_neg hname, Option.or_none, ih hrest]

/-- The fields of a struct are the properties the web client reads, when the value is an object. -/
theorem members_agree {names : List String} {v : Option Json} {m : String → Option Json}
    {path : String} {obj : List (String × Json)} (hm : Serde.members names v = .ok m)
    (hobj : Web.readRecord v path = .ok obj) : ∀ name ∈ names, m name = Web.property obj name := by
  unfold Web.readRecord at hobj
  split at hobj
  · cases hobj
    unfold Serde.members at hm
    dsimp only at hm
    split at hm
    · cases hm
    · next honce =>
        cases hm
        intro name hname
        exact lookup_eq_property (Nat.not_lt.mp fun htwice => honce ⟨name, hname, htwice⟩)
  · cases hobj

/-- Readers that agree do so on a field of a struct. -/
theorem agree_member {β β' : Type} {R : β → β' → Prop} {read : Serde.Deserializer β}
    {read' : Web.Parser β'} (h : ReadAlike R read read') {names : List String} {v : Option Json}
    {m : String → Option Json} {path : String} {obj : List (String × Json)}
    (hm : Serde.members names v = .ok m) (hobj : Web.readRecord v path = .ok obj) {name : String}
    (hname : name ∈ names) {p : Unit} {path' : String} {b : β} {b' : β'}
    (hb : read (m name) p = .ok b) (hb' : read' (Web.property obj name) path' = .ok b') : R b b' := by
  rw [members_agree hm hobj name hname] at hb
  exact h _ _ _ _ _ hb hb'

theorem property_of_present {obj : List (String × Json)} {key path expected : String} {v : Json}
    (h : Web.presentProperty obj key path expected = .ok v) : Web.property obj key = some v := by
  unfold Web.presentProperty at h
  split at h
  · cases h
  · next hv =>
      cases h
      exact hv

/-- An optional part that the web client wants to see. -/
theorem agree_explicit {β β' : Type} {R : β → β' → Prop} {read : Serde.Deserializer β}
    {read' : Web.Parser β'} (h : ReadAlike R read read') {names : List String} {v : Option Json}
    {m : String → Option Json} {path : String} {obj : List (String × Json)}
    (hm : Serde.members names v = .ok m) (hobj : Web.readRecord v path = .ok obj) {name : String}
    (hname : name ∈ names) {p : Unit} {path' : String} {b : Option β} {b' : Option β'}
    (hb : Serde.option read (m name) p = .ok b)
    (hb' : Web.parseExplicit read' obj name path' = .ok b') : Option.Rel R b b' := by
  obtain ⟨member, hmember, hb'⟩ := bind_eq_ok.mp hb'
  rw [members_agree hm hobj name hname, property_of_present hmember] at hb
  unfold Serde.option readOptional Serde.isAbsent at hb
  unfold readOptional Web.isNull at hb'
  cases member with
  | null =>
      cases hb
      cases hb'
      exact .none
  | _ =>
      obtain ⟨c, hc, rfl⟩ := map_eq_ok.mp hb
      obtain ⟨c', hc', rfl⟩ := map_eq_ok.mp hb'
      exact .some (h _ _ _ _ _ hc hc')

/-- Lists of things the readers agree on. -/
theorem agree_array {β β' : Type} {R : β → β' → Prop} {read : Serde.Deserializer β}
    {read' : Web.Parser β'} (h : ReadAlike R read read') :
    ReadAlike (List.Forall₂ R) (Serde.vec read) (Web.parseArray read') := by
  intro v p path bs bs' hbs hbs'
  unfold Serde.vec at hbs
  split at hbs
  · exact h.items hbs hbs'
  · cases hbs
  · cases hbs

/-! ## Rows -/

/-- What the two clients read of a failed transaction. -/
structure FailedTransactionAgrees (t : Dto.FailedTransaction) (w : Web.FailedTransaction) : Prop where
  txHash : t.txHash = w.txHash
  errorCategory : CategoryAgrees t.errorCategory w.errorCategory
  revertReason : t.revertReason = w.revertReason
  failingFunction : t.failingFunction = w.failingFunction
  gasUsed : IntAgrees t.gasUsed w.gasUsed
  timestamp : t.timestamp = w.timestamp

@[inherit_doc FailedTransactionAgrees]
structure TraceLogAgrees (t : Dto.TraceLog) (w : Web.TraceLog) : Prop where
  txHash : t.txHash = w.txHash
  callDepth : IntAgrees t.callDepth w.callDepth
  callType : t.callType = w.callType
  fromAddr : t.fromAddr = w.fromAddr
  toAddr : t.toAddr = w.toAddr
  value : t.value = w.value
  gasUsed : IntAgrees t.gasUsed w.gasUsed
  input : t.input = w.input
  output : t.output = w.output
  error : t.error = w.error
  traceId : IntAgrees t.traceId w.traceId

/-- What the two clients read of an argument. -/
structure DecodedArgAgrees (t : Dto.DecodedArg) (w : Web.DecodedArg) : Prop where
  ty : t.ty = w.ty
  value : t.value = w.value

/-- What the two clients read of a function. -/
structure DecodedFunctionAgrees (t : Dto.DecodedFunction) (w : Web.DecodedFunction) : Prop where
  selector : t.selector = w.selector
  name : t.name = w.name
  signature : t.signature = w.signature
  source : t.source = w.source
  args : Option.Rel (List.Forall₂ DecodedArgAgrees) t.args w.args

/-- What the two clients read of the text for a category. -/
structure DiagnosisAgrees (t : Dto.Diagnosis) (w : Web.Diagnosis) : Prop where
  message : t.message = w.message
  recommendedAction : t.recommendedAction = w.recommendedAction
  source : t.source = w.source

/-- What the two clients read of a diagnosis. -/
structure FailedTxDetailAgrees (t : Dto.FailedTxDetail) (w : Web.FailedTxDetail) : Prop where
  failed : FailedTransactionAgrees t.failed w.failed
  callTree : List.Forall₂ TraceLogAgrees t.callTree w.callTree
  callTreeTruncated : t.callTreeTruncated = w.callTreeTruncated
  rootCause : Option.Rel TraceLogAgrees t.rootCause w.rootCause
  failingFunctionDecoded :
    Option.Rel DecodedFunctionAgrees t.failingFunctionDecoded w.failingFunctionDecoded
  rootCauseDecoded : Option.Rel DecodedFunctionAgrees t.rootCauseDecoded w.rootCauseDecoded
  diagnosis : Option.Rel DiagnosisAgrees t.diagnosis w.diagnosis

theorem failedTransaction_agree (env : Web.JsEnv) :
    ReadAlike FailedTransactionAgrees Dto.failedTransaction (Web.parseFailedTransaction env) := by
  intro v p path t w ht hw
  simp only [Dto.failedTransaction, bind_eq_ok] at ht
  simp only [Web.parseFailedTransaction, bind_eq_ok] at hw
  obtain ⟨m, hm, hash, hhash, cat, hcat, reason, hreason, fn, hfn, gas, hgas, ts, hts, ht⟩ := ht
  obtain ⟨obj, hobj, hash', hhash', cat', hcat', reason', hreason', fn', hfn', gas', hgas', ts',
    hts', hw⟩ := hw
  cases ht
  cases hw
  exact {
    txHash := agree_member string_agree hm hobj (by simp) hhash hhash'
    errorCategory := agree_member category_agree hm hobj (by simp) hcat hcat'
    revertReason := rel_eq_iff (agree_member optional_string_agree hm hobj (by simp) hreason hreason')
    failingFunction := rel_eq_iff (agree_member optional_string_agree hm hobj (by simp) hfn hfn')
    gasUsed := agree_member i64_agree hm hobj (by simp) hgas hgas'
    timestamp := agree_member (date_agree env) hm hobj (by simp) hts hts' }

theorem traceLog_agree (env : Web.JsEnv) :
    ReadAlike TraceLogAgrees Dto.traceLog (Web.parseTraceLog env) := by
  intro v p path t w ht hw
  simp only [Dto.traceLog, bind_eq_ok] at ht
  simp only [Web.parseTraceLog, bind_eq_ok] at hw
  obtain ⟨m, hm, hash, hhash, depth, hdepth, ty, hty, src, hsrc, dst, hdst, val, hval, gas, hgas,
    inp, hinp, out, hout, err, herr, id, hid, ht⟩ := ht
  obtain ⟨obj, hobj, hash', hhash', depth', hdepth', ty', hty', src', hsrc', dst', hdst', val',
    hval', gas', hgas', inp', hinp', out', hout', err', herr', id', hid', hw⟩ := hw
  cases ht
  cases hw
  exact {
    txHash := agree_member string_agree hm hobj (by simp) hhash hhash'
    callDepth := agree_member i32_agree hm hobj (by simp) hdepth hdepth'
    callType := agree_member string_agree hm hobj (by simp) hty hty'
    fromAddr := agree_member string_agree hm hobj (by simp) hsrc hsrc'
    toAddr := rel_eq_iff (agree_member optional_string_agree hm hobj (by simp) hdst hdst')
    value := agree_member (decimal_agree env) hm hobj (by simp) hval hval'
    gasUsed := agree_member i64_agree hm hobj (by simp) hgas hgas'
    input := rel_eq_iff (agree_member optional_string_agree hm hobj (by simp) hinp hinp')
    output := rel_eq_iff (agree_member optional_string_agree hm hobj (by simp) hout hout')
    error := rel_eq_iff (agree_member optional_string_agree hm hobj (by simp) herr herr')
    traceId := agree_member i64_agree hm hobj (by simp) hid hid' }

theorem decodedArg_agree : ReadAlike DecodedArgAgrees Dto.decodedArg Web.parseDecodedArg := by
  intro v p path t w ht hw
  simp only [Dto.decodedArg, bind_eq_ok] at ht
  simp only [Web.parseDecodedArg, bind_eq_ok] at hw
  obtain ⟨m, hm, ty, hty, val, hval, ht⟩ := ht
  obtain ⟨obj, hobj, val', hval', ty', hty', hw⟩ := hw
  cases ht
  cases hw
  rw [members_agree hm hobj "value" (by simp), property_of_present hval'] at hval
  cases hval
  exact ⟨agree_member string_agree hm hobj (by simp) hty hty', rfl⟩

theorem decodedFunction_agree :
    ReadAlike DecodedFunctionAgrees Dto.decodedFunction Web.parseDecodedFunction := by
  intro v p path t w ht hw
  simp only [Dto.decodedFunction, bind_eq_ok] at ht
  simp only [Web.parseDecodedFunction, bind_eq_ok] at hw
  obtain ⟨m, hm, sel, hsel, name, hname, sig, hsig, src, hsrc, args, hargs, ht⟩ := ht
  obtain ⟨obj, hobj, raw, hraw, args', hargs', sel', hsel', name', hname', sig', hsig', src', hsrc',
    hw⟩ := hw
  cases ht
  cases hw
  rw [members_agree hm hobj "args" (by simp), property_of_present hraw] at hargs
  have hrel : Option.Rel (List.Forall₂ DecodedArgAgrees) args args' := by
    unfold Web.parseArgs at hargs'
    unfold Serde.option readOptional Serde.isAbsent at hargs
    cases raw with
    | null =>
        cases hargs
        cases hargs'
        exact .none
    | array items =>
        obtain ⟨bs, hbs, rfl⟩ := map_eq_ok.mp hargs
        obtain ⟨bs', hbs', rfl⟩ := map_eq_ok.mp hargs'
        exact .some (decodedArg_agree.items hbs hbs')
    | _ => cases hargs'
  exact {
    selector := agree_member string_agree hm hobj (by simp) hsel hsel'
    name := agree_member string_agree hm hobj (by simp) hname hname'
    signature := agree_member string_agree hm hobj (by simp) hsig hsig'
    source := rel_eq_iff (agree_member optional_string_agree hm hobj (by simp) hsrc hsrc')
    args := hrel }

theorem diagnosis_agree : ReadAlike DiagnosisAgrees Dto.diagnosis Web.parseDiagnosis := by
  intro v p path t w ht hw
  simp only [Dto.diagnosis, bind_eq_ok] at ht
  simp only [Web.parseDiagnosis, bind_eq_ok] at hw
  obtain ⟨m, hm, msg, hmsg, act, hact, src, hsrc, ht⟩ := ht
  obtain ⟨obj, hobj, msg', hmsg', act', hact', src', hsrc', hw⟩ := hw
  cases ht
  cases hw
  exact {
    message := agree_member string_agree hm hobj (by simp) hmsg hmsg'
    recommendedAction := rel_eq_iff (agree_member optional_string_agree hm hobj (by simp) hact hact')
    source := rel_eq_iff (agree_member optional_string_agree hm hobj (by simp) hsrc hsrc') }

theorem failedTxDetail_agree (env : Web.JsEnv) :
    ReadAlike FailedTxDetailAgrees Dto.failedTxDetail (Web.parseFailedTxDetail env) := by
  intro v p path t w ht hw
  simp only [Dto.failedTxDetail, bind_eq_ok] at ht
  simp only [Web.parseFailedTxDetail, bind_eq_ok] at hw
  obtain ⟨m, hm, failed, hfailed, tree, htree, cut, hcut, root, hroot, fn, hfn, cause, hcause, diag,
    hdiag, ht⟩ := ht
  obtain ⟨obj, hobj, items, hitems, cut', hcut', root', hroot', fn', hfn', cause', hcause', diag',
    hdiag', failed', hfailed', tree', htree', hw⟩ := hw
  cases ht
  cases hw
  have hcalls : List.Forall₂ TraceLogAgrees tree tree' := by
    rw [members_agree hm hobj "call_tree" (by simp)] at htree
    unfold Web.readArray at hitems
    split at hitems
    · next calls _ hcalls =>
        cases hitems
        rw [hcalls] at htree
        exact (traceLog_agree env).items htree htree'
    · cases hitems
  exact {
    failed := agree_member (failedTransaction_agree env) hm hobj (by simp) hfailed hfailed'
    callTree := hcalls
    callTreeTruncated := agree_member bool_agree hm hobj (by simp) hcut hcut'
    rootCause := agree_explicit (traceLog_agree env) hm hobj (by simp) hroot hroot'
    failingFunctionDecoded := agree_explicit decodedFunction_agree hm hobj (by simp) hfn hfn'
    rootCauseDecoded := agree_explicit decodedFunction_agree hm hobj (by simp) hcause hcause'
    diagnosis := agree_explicit diagnosis_agree hm hobj (by simp) hdiag hdiag' }

/-- What the two clients read of a page. -/
structure FailedTxPageAgrees (t : Dto.TotalPaginated Dto.FailedTransaction)
    (w : Web.TotalPaginatedResponse Web.FailedTransaction) : Prop where
  data : List.Forall₂ FailedTransactionAgrees t.data w.data
  limit : IntAgrees t.pagination.limit w.pagination.limit
  offset : IntAgrees t.pagination.offset w.pagination.offset
  count : IntAgrees t.pagination.count w.pagination.count
  total : IntAgrees t.pagination.total w.pagination.total

theorem failedTxPage_agree (env : Web.JsEnv) {body : Json}
    {t : Dto.TotalPaginated Dto.FailedTransaction}
    {w : Web.TotalPaginatedResponse Web.FailedTransaction} (ht : Dto.listBody body = .ok t)
    (hw : Web.parseFailedTxListEnvelope env (some body) = .ok w) : FailedTxPageAgrees t w := by
  simp only [Dto.listBody, Dto.totalPaginated, Dto.paginationMeta, bind_eq_ok] at ht
  simp only [Web.parseFailedTxListEnvelope, Web.parseTotalPaginatedResponse, Web.parsePaginationMeta,
    bind_eq_ok] at hw
  obtain ⟨m, hm, data, hdata, pages, ⟨n, hn, limit, hlimit, offset, hoffset, count, hcount, total,
    htotal, hpages⟩, ht⟩ := ht
  obtain ⟨obj, hobj, data', hdata', pages', ⟨page, hpage, limit', hlimit', offset', hoffset', count',
    hcount', total', htotal', hpages'⟩, hw⟩ := hw
  cases ht
  cases hw
  cases hpages
  cases hpages'
  rw [members_agree hm hobj "pagination" (by simp)] at hn
  exact {
    data := agree_member (agree_array (failedTransaction_agree env)) hm hobj (by simp) hdata hdata'
    limit := agree_member i64_agree hn hpage (by simp) hlimit hlimit'
    offset := agree_member i64_agree hn hpage (by simp) hoffset hoffset'
    count := agree_member i64_agree hn hpage (by simp) hcount hcount'
    total := agree_member i64_agree hn hpage (by simp) htotal htotal' }

/-- Whatever is served, where both clients take the body of a diagnosis or of a page of the list,
they read the same from it. -/
theorem clients_agree (env : Web.JsEnv) (body : Json) :
    (∀ t w, Dto.detailBody body = .ok t →
      Web.parseFailedTxDetailEnvelope env (some body) = .ok w → FailedTxDetailAgrees t w.data) ∧
    ∀ t w, Dto.listBody body = .ok t →
      Web.parseFailedTxListEnvelope env (some body) = .ok w → FailedTxPageAgrees t w := by
  refine ⟨fun t w ht hw => ?_, fun t w ht hw => failedTxPage_agree env ht hw⟩
  simp only [Dto.detailBody, Dto.apiResponse, bind_eq_ok] at ht
  simp only [Web.parseFailedTxDetailEnvelope, Web.parseApiResponse, bind_eq_ok] at hw
  obtain ⟨m, hm, ht⟩ := ht
  obtain ⟨obj, hobj, data, hdata, hw⟩ := hw
  cases hw
  exact agree_member (failedTxDetail_agree env) hm hobj (by simp) ht hdata

/-- The body of a diagnosis that both clients take. -/
theorem clients_agree_sample : ∃ body t w, Dto.detailBody body = .ok t ∧
    Web.parseFailedTxDetailEnvelope Web.sampleJsEnv (some body) = .ok ⟨w⟩ ∧
    FailedTxDetailAgrees t w ∧ w.callTree.map (·.error) = [some "Too little received"] := by
  have ht : Dto.detailBody (Api.apiResponse
      (Api.failedTxDetailJson Api.sampleRender toString Api.sampleDetail)) = .ok _ :=
    Dto.apiResponse_json (Dto.failedTxDetail_json Api.sampleDetail_fits)
  have hw : Web.parseFailedTxDetailEnvelope Web.sampleJsEnv (some (Api.apiResponse
      (Api.failedTxDetailJson Api.sampleRender toString Api.sampleDetail))) = .ok ⟨_⟩ :=
    Web.parseApiResponse_json (Web.parseFailedTxDetail_json Api.sampleDetail_fits (by decide))
  exact ⟨_, _, _, ht, hw, (clients_agree Web.sampleJsEnv _).1 _ _ ht hw, rfl⟩

end TxIndexer.Proofs
