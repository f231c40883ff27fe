import TxIndexer.Db.AdminQueries
import TxIndexer.Std.Json

/-!
# Response bodies

How `serde` renders the rows of the admin API (`crates/db/src/models.rs`,
`crates/api/src/response.rs`). A `DateTime<Utc>` is rendered by `chrono`, which comes in as
`renderTime`.
-/

namespace TxIndexer.Api

open Db

/-- The body of a response. -/
inductive Body where
  | empty
  | text (s : String)
  | json (value : Json)

/-- A response: the status code and the body. -/
structure Response where
  status : Nat
  body : Body

/-- `ApiResponse` (`response.rs:5-8`). -/
def apiResponse (data : Json) : Json := .object [("data", data)]

/-- An integer. -/
def jsonInt (n : Int) : Json := .number (toString n)

/-- An `Option`, which is `null` if it is absent. -/
def jsonOption {α : Type} (toJson : α → Json) : Option α → Json
  | none => .null
  | some a => toJson a

/-- The derived `Serialize` of `ErrorCategory`: the name of the variant. -/
def errorCategoryName : ErrorCategory → String
  | .insufficientBalance => "InsufficientBalance"
  | .insufficientAllowance => "InsufficientAllowance"
  | .slippageExceeded => "SlippageExceeded"
  | .slippageAmountOut => "SlippageAmountOut"
  | .slippageAmountIn => "SlippageAmountIn"
  | .slippagePriceImpact => "SlippagePriceImpact"
  | .deadlineExpired => "DeadlineExpired"
  | .unauthorized => "Unauthorized"
  | .transferFailed => "TransferFailed"
  | .unknown => "Unknown"

/-- The text of `alert_subscription.sub_type`. -/
def subTypeText : SubType → String
  | .perEvent => "per_event"
  | .rateThreshold => "rate_threshold"

section Rows

variable (renderTime : Int → String)

/-- The fields of a subscription before and after its secret. -/
def subscriptionHead (r : SubscriptionRow) : List (String × Json) :=
  [("subscription_id", jsonInt r.subscriptionId),
   ("error_category", jsonOption (fun c => .string (errorCategoryName c)) r.errorCategory),
   ("to_addr", jsonOption .string r.toAddr),
   ("webhook_url", .string r.webhookUrl)]

@[inherit_doc subscriptionHead]
def subscriptionTail (r : SubscriptionRow) : List (String × Json) :=
  [("active", .bool r.active),
   ("created_at", .string (renderTime r.createdAt)),
   ("sub_type", .string (subTypeText r.subType)),
   ("threshold_count", jsonOption jsonInt r.thresholdCount),
   ("threshold_window_secs", jsonOption jsonInt r.thresholdWindowSecs),
   ("debounce_secs", jsonOption jsonInt r.debounceSecs)]

/-- `AlertSubscription` (`models.rs:548-572`), which skips the secret. -/
def alertSubscriptionJson (r : SubscriptionRow) : Json :=
  .object (subscriptionHead r ++ subscriptionTail renderTime r)

/-- `AlertSubscriptionCreated` (`models.rs:599-622`), which has it. -/
def alertSubscriptionCreatedJson (r : SubscriptionRow) : Json :=
  .object (subscriptionHead r ++ ("signing_secret", .string r.signingSecret) ::
    subscriptionTail renderTime r)

/-- `ContractLabel` (`models.rs:658-667`). -/
def contractLabelJson (r : ContractLabel) : Json :=
  .object [
    ("address", .string r.address),
    ("label", .string r.label),
    ("owner_id", jsonOption .string r.ownerId),
    ("created_at", .string (renderTime r.createdAt))]

end Rows

end TxIndexer.Api
