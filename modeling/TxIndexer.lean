import TxIndexer.Lib.Transition
import TxIndexer.Lib.KeyedTable
import TxIndexer.Lib.OrderBy
import TxIndexer.Lib.HashChain
import TxIndexer.Lib.RoseTree
import TxIndexer.Std.Num
import TxIndexer.Std.Decimal
import TxIndexer.Std.Hex
import TxIndexer.Std.Utf8Lossy
import TxIndexer.Std.Utf8
import TxIndexer.Std.Abi
import TxIndexer.Std.Json
import TxIndexer.Decoder.Trace
import TxIndexer.Decoder.RevertReason
import TxIndexer.Decoder.Classifier
import TxIndexer.Decoder.Abi
import TxIndexer.Db.Models
import TxIndexer.Decoder.Events
import TxIndexer.Lib.SerialTable
import TxIndexer.Db.Schema
import TxIndexer.Db.Queries
import TxIndexer.Db.Rollback
import TxIndexer.Indexer.ProcessFailedTxs
import TxIndexer.Indexer.ProcessBlock
import TxIndexer.Db.Inserts
import TxIndexer.Indexer.BlockPlan
import TxIndexer.Proofs.Reprocess
import TxIndexer.Proofs.Diagnosis
import TxIndexer.Proofs.BlockRows
import TxIndexer.Proofs.Storable
import TxIndexer.Indexer.Fork
import TxIndexer.Indexer.Follow
import TxIndexer.Proofs.Checkpoint
import TxIndexer.Proofs.Reorg
import TxIndexer.Proofs.RootCause
import TxIndexer.Db.Validators
import TxIndexer.Db.AlertQueries
import TxIndexer.Indexer.Alerts
import TxIndexer.Indexer.AlertRuns
import TxIndexer.Proofs.Delivery
import TxIndexer.Proofs.Category
import TxIndexer.Proofs.RevertPanic
import TxIndexer.Proofs.WideningScan
import TxIndexer.Lib.DepthList
import TxIndexer.Lib.Paging
import TxIndexer.Api.FailedTx
import TxIndexer.Db.FailedTxQueries
import TxIndexer.Proofs.Paging
import TxIndexer.Proofs.CallTree
import TxIndexer.Proofs.Classifier
import TxIndexer.Proofs.Redaction
import TxIndexer.Proofs.LocalHosts
import TxIndexer.Proofs.Quantities
import TxIndexer.Proofs.Rollback
import TxIndexer.Proofs.RevertAbi
import TxIndexer.Proofs.DecodeArgs
import TxIndexer.Db.RateQueries
import TxIndexer.Indexer.RateAlerts
import TxIndexer.Proofs.RateDebounce
import TxIndexer.Lib.Cidr
import TxIndexer.Indexer.Connect
import TxIndexer.Proofs.Ssrf
import TxIndexer.Tui.App
import TxIndexer.Tui.Session
import TxIndexer.Proofs.Freshness
import TxIndexer.Db.UserProfile
import TxIndexer.Db.Firing
import TxIndexer.Proofs.UserProfile
import TxIndexer.Indexer.Invocations
import TxIndexer.Proofs.Backfill
import TxIndexer.Proofs.AdminWrites
import TxIndexer.Lib.BatchRounds
import TxIndexer.Indexer.DispatchCycles
import TxIndexer.Proofs.Starvation
import TxIndexer.Proofs.SwapDirection
import TxIndexer.Proofs.Attempts
import TxIndexer.Db.DeliveryRows
import TxIndexer.Proofs.Staleness
import TxIndexer.Proofs.TuiRange
import TxIndexer.Lib.BoundedPool
import TxIndexer.Indexer.DispatchPool
import TxIndexer.Proofs.DispatchPool
import TxIndexer.Lib.GroupFold
import TxIndexer.Db.LabelQueries
import TxIndexer.Proofs.LabelPivot
import TxIndexer.Lib.Tiling
import TxIndexer.Indexer.IndexRange
import TxIndexer.Proofs.FollowRanges
import TxIndexer.Lib.Replace
import TxIndexer.Lib.Words
import TxIndexer.Std.SqlText
import TxIndexer.Db.RevertTemplate
import TxIndexer.Proofs.RevertClusters
import TxIndexer.Proofs.TemplateFormats
import TxIndexer.Proofs.ClusterKinds
import TxIndexer.Lib.Nesting
import TxIndexer.Proofs.TypeLists
import TxIndexer.Lib.Service
import TxIndexer.Db.AdminQueries
import TxIndexer.Api.Serialize
import TxIndexer.Api.Admin
import TxIndexer.Proofs.AdminAuth
import TxIndexer.Proofs.AdminEffects
import TxIndexer.Proofs.AdminTables
import TxIndexer.Proofs.AdminSecrets
import TxIndexer.Proofs.AdminAlerts
import TxIndexer.Lib.Register
import TxIndexer.Proofs.AdminLabels
import TxIndexer.Client.Webhook
import TxIndexer.Lib.Interleave
import TxIndexer.Db.Scopes
import TxIndexer.Proofs.Interleaving
import TxIndexer.Proofs.ProfileOrder
import TxIndexer.Proofs.ChunkTriggers
import TxIndexer.Lib.CountBy
import TxIndexer.Lib.FloorTo
import TxIndexer.Db.Timeseries
import TxIndexer.Db.LabelJoin
import TxIndexer.Api.Analytics
import TxIndexer.Proofs.Timeseries
import TxIndexer.Proofs.LabelReport
import TxIndexer.Db.Lookups
import TxIndexer.Api.FailedTxDetail
import TxIndexer.Proofs.FailedTxDetail
import TxIndexer.Lib.Binary64
import TxIndexer.Std.JsonNumber
import TxIndexer.Lib.Reader
import TxIndexer.Std.Serde
import TxIndexer.Api.FailedTxJson
import TxIndexer.Web.Contract
import TxIndexer.Web.FailedTx
import TxIndexer.Tui.Dto
import TxIndexer.Proofs.WebContract
import TxIndexer.Proofs.TuiDto
import TxIndexer.Proofs.ClientsAgree
import TxIndexer.Tui.Query
import TxIndexer.Proofs.TuiList
