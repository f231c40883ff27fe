import TxIndexer.Db.Queries
import TxIndexer.Lib.Paging

/-!
# Reading failed transactions

`crates/db/src/queries.rs:597-724`: one failed transaction by its hash, the list of those that
meet a filter, newest first, a page at a time, and how many there are.
-/

namespace TxIndexer.Db

/-- `get_failed_transaction` (`queries.rs:601-613`). -/
def getFailedTransaction (db : Database) (txHash : String) : Except String FailedTransaction :=
  match db.failedTransaction.lookup txHash with
  | some failed => .ok failed
  | none => .error s!"failed transaction {txHash}"

/-- The filters of a listing; one that is `none` is not applied. -/
structure FailedTxFilter where
  category : Option ErrorCategory
  fromTs : Option Int
  toTs : Option Int
  deriving DecidableEq, Repr

/-- The `WHERE` clause both queries share. -/
def FailedTxFilter.admits (q : FailedTxFilter) (f : FailedTransaction) : Bool :=
  (q.category.all fun c => f.errorCategory = c) && (q.fromTs.all fun ts => ts ≤ f.timestamp) &&
    q.toTs.all fun ts => f.timestamp ≤ ts

/-- The rows that meet a filter. -/
def matchingFailedTxs (db : Database) (q : FailedTxFilter) : List FailedTransaction :=
  db.failedTransaction.rows.filter q.admits

/-- `list_failed_transactions` (`queries.rs:674-700`): `ORDER BY timestamp DESC LIMIT OFFSET`. -/
def ListFailedTransactions (db : Database) (q : FailedTxFilter) (limit offset : Nat)
    (out : List FailedTransaction) : Prop :=
  Lib.OrderByPage (fun f => OrderDual.toDual f.timestamp) limit offset (matchingFailedTxs db q) out

/-- `count_failed_transactions` (`queries.rs:706-724`). -/
def countFailedTransactions (db : Database) (q : FailedTxFilter) : Nat :=
  (matchingFailedTxs db q).length

theorem matchingFailedTxs_nodup (db : Database) (q : FailedTxFilter) :
    (matchingFailedTxs db q).Nodup :=
  (List.Nodup.of_map _ db.failedTransaction.nodup).filter _

end TxIndexer.Db
