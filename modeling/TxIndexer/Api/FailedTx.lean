import TxIndexer.Db.FailedTxQueries

/-!
# The failed-transaction endpoints

`crates/api/src/routes/failed_tx.rs`: the diagnosis of one failed transaction with its call tree,
and the paged list of failed transactions. Looking up function names and diagnosis texts is left
out.
-/

namespace TxIndexer.Api

open Db

/-- `ApiError` (`error.rs:9-26`), as far as these endpoints use it. -/
inductive ApiError where
  | notFound (message : String)
  | badRequest (message : String)
  deriving DecidableEq, Repr

/-- `MAX_CALL_TREE_FRAMES` (`failed_tx.rs:11`). -/
def maxCallTreeFrames : Nat := 2000

/-- `is_tx_hash` (`failed_tx.rs:14-19`): `0x` and 64 hexadecimal digits. -/
def isTxHash (s : String) : Bool :=
  match s.toList with
  | '0' :: 'x' :: h => h.length == 64 && h.all fun c => (hexValue c).isSome
  | _ => false

/-- Every rendered hash is one. -/
theorem isTxHash_hashHex (h : B256) : isTxHash (hashHex h) = true := by
  have hdigits : ∀ c ∈ hexFixed 64 h.toNat, (hexValue c).isSome := hexValue_isSome_hexFixed 64 _
  rw [isTxHash, hashHex, String.toList_ofList]
  simp only [length_hexFixed, beq_self_eq_true, Bool.true_and, List.all_eq_true]
  exact hdigits

/-- `FailedTxDetail` (`models.rs:496-525`) without the looked-up names and texts. -/
structure FailedTxDetail where
  failed : FailedTransaction
  callTree : List TraceLog
  callTreeTruncated : Bool
  rootCause : Option TraceLog
  deriving DecidableEq, Repr

/-- `get_failed_tx` (`failed_tx.rs:25-41`). -/
def getFailedTx (db : Database) (txHash : String) : Except ApiError FailedTxDetail :=
  if isTxHash txHash then
    match getFailedTransaction db txHash with
    | .error message => .error (.notFound message)
    | .ok failed =>
        let callTree := listTraceLogsByTx db txHash (maxCallTreeFrames + 1)
        let callTreeTruncated := decide (maxCallTreeFrames < callTree.length)
        .ok {
          failed
          callTree := if callTreeTruncated then callTree.take maxCallTreeFrames else callTree
          callTreeTruncated
          rootCause := (getFirstErrorFrame db txHash).map Prod.snd }
  else .error (.badRequest s!"invalid tx_hash (expected 0x + 64 hex): {txHash}")

/-- An answer is about the transaction that was asked for. -/
theorem getFailedTx_txHash {db : Database} {txHash : String} {detail : FailedTxDetail}
    (h : getFailedTx db txHash = .ok detail) : detail.failed.txHash = txHash := by
  unfold getFailedTx getFailedTransaction at h
  split at h
  · cases hlookup : db.failedTransaction.lookup txHash with
    | none => rw [hlookup] at h; cases h
    | some failed =>
        rw [hlookup] at h
        cases h
        exact (Lib.KeyedTable.lookup_eq_some.mp hlookup).2
  · cases h

/-- An answer lists the first rows of the stored trace and says whether there are more. -/
theorem getFailedTx_callTree {db : Database} {txHash : String} {detail : FailedTxDetail}
    (h : getFailedTx db txHash = .ok detail) :
    detail.callTree = (tracesOf db txHash).take maxCallTreeFrames ∧
      (detail.callTreeTruncated = true ↔ maxCallTreeFrames < (tracesOf db txHash).length) := by
  unfold getFailedTx at h
  split at h
  · cases hfailed : getFailedTransaction db txHash with
    | error message => rw [hfailed] at h; cases h
    | ok failed =>
        rw [hfailed] at h
        cases h
        have hlength : maxCallTreeFrames <
            (listTraceLogsByTx db txHash (maxCallTreeFrames + 1)).length ↔
            maxCallTreeFrames < (tracesOf db txHash).length := by
          rw [listTraceLogsByTx, List.length_take]
          omega
        refine ⟨?_, by simpa using hlength⟩
        by_cases hlong : maxCallTreeFrames <
            (listTraceLogsByTx db txHash (maxCallTreeFrames + 1)).length
        · simp only [hlong, decide_true, if_true]
          rw [listTraceLogsByTx, List.take_take, Nat.min_eq_left (Nat.le_succ _)]
        · simp only [hlong, decide_false, Bool.false_eq_true, if_false]
          rw [hlength, Nat.not_lt] at hlong
          rw [listTraceLogsByTx, List.take_of_length_le (Nat.le_succ_of_le hlong),
            List.take_of_length_le hlong]
  · cases h

/-- `FailedTxQuery` (`failed_tx.rs:129-142`). -/
structure FailedTxQuery where
  category : Option String
  fromText : Option String
  toText : Option String
  limit : Option Int
  offset : Option Int
  deriving DecidableEq, Repr

section Listing

-- `DateTime::parse_from_rfc3339`
variable (parseRfc3339 : String → Option Int)

/-- `parse_ts` (`failed_tx.rs:144-156`). -/
def parseTs (value : Option String) (field : String) : Except ApiError (Option Int) :=
  match value with
  | none => .ok none
  | some s =>
      if s = "" then .ok none
      else match parseRfc3339 s with
        | some ts => .ok (some ts)
        | none => .error (.badRequest
            s!"invalid `{field}` timestamp (expected RFC3339): {s}")

/-- The category filter of `list_failed_tx` (`failed_tx.rs:165-171`). -/
def parseCategory (value : Option String) : Except ApiError (Option ErrorCategory) :=
  match value with
  | none => .ok none
  | some s =>
      if s = "" then .ok none
      else match ErrorCategory.fromStr s with
        | some category => .ok (some category)
        | none => .error (.badRequest s!"invalid `category`: {s}")

/-- The checked parameters of a listing: the filter, the page size and the offset. -/
def listParams (q : FailedTxQuery) : Except ApiError (FailedTxFilter × Nat × Nat) := do
  let category ← parseCategory q.category
  let fromTs ← parseTs parseRfc3339 q.fromText "from"
  let toTs ← parseTs parseRfc3339 q.toText "to"
  let limit := min (max (q.limit.getD 20) 1) 100
  let offset := max (q.offset.getD 0) 0
  return (⟨category, fromTs, toTs⟩, limit.toNat, offset.toNat)

/-- The endpoint asks for pages of at least one row and at most 100. -/
theorem listParams_limit {q : FailedTxQuery} {filter : FailedTxFilter} {limit offset : Nat}
    (h : listParams parseRfc3339 q = .ok (filter, limit, offset)) : 0 < limit ∧ limit ≤ 100 := by
  unfold listParams at h
  cases hcategory : parseCategory q.category with
  | error e => rw [hcategory] at h; cases h
  | ok category =>
      cases hfrom : parseTs parseRfc3339 q.fromText "from" with
      | error e => rw [hcategory, hfrom] at h; cases h
      | ok fromTs =>
          cases hto : parseTs parseRfc3339 q.toText "to" with
          | error e => rw [hcategory, hfrom, hto] at h; cases h
          | ok toTs =>
              rw [hcategory, hfrom, hto] at h
              cases h
              omega

/-- `PaginationMeta` (`response.rs:30-41`). -/
structure PaginationMeta where
  limit : Nat
  offset : Nat
  count : Nat
  total : Nat
  deriving DecidableEq, Repr

/-- `list_failed_tx` (`failed_tx.rs:158-192`) may answer with a page and its metadata. -/
def ListFailedTx (db : Database) (q : FailedTxQuery) (rows : List FailedTransaction)
    (pagination : PaginationMeta) : Prop :=
  ∃ filter limit offset, listParams parseRfc3339 q = .ok (filter, limit, offset) ∧
    ListFailedTransactions db filter limit offset rows ∧
    pagination = ⟨limit, offset, rows.length, countFailedTransactions db filter⟩

end Listing

end TxIndexer.Api
