import TxIndexer.Api.Serialize
import TxIndexer.Db.Validators
import TxIndexer.Decoder.Abi
import TxIndexer.Lib.Service

/-!
# The admin API

`crates/api/src/auth.rs`, `routes/alerts.rs` and `routes/contract_labels.rs`: the key every
protected handler asks for, the checks on a request, and the one statement it then runs. A
request is what the router hands to a handler; a body, a path or a query that `axum` rejects
comes with the text it is rejected with.
-/

namespace TxIndexer.Api.Admin

open Db Decoder

/-- `ApiError` (`error.rs:9-26`). -/
inductive ApiError where
  | notFound (message : String)
  | badRequest (message : String)
  | unauthorized
  | internal (message : String)
  deriving DecidableEq, Repr

/-- `IntoResponse for ApiError` (`error.rs:45-56`). -/
def ApiError.intoResponse (e : ApiError) : Response :=
  let (status, message) := match e with
    | .notFound msg => (404, msg)
    | .badRequest msg => (400, msg)
    | .unauthorized => (401, "unauthorized")
    | .internal msg => (500, msg)
  { status, body := .json (.object [("error", .string message)]) }

/-! ## The key -/

/-- `HeaderValue::to_str`: visible ASCII, spaces and tabs only. -/
def headerToStr (value : Bytes) : Option Bytes :=
  if value.all fun b => b = 9 || (32 ≤ b && b < 127) then some value else none

/-- `BEARER_PREFIX`. -/
def bearerPrefix : Bytes := "Bearer ".toUTF8.toList

/-- The header value that carries a key. -/
def bearer (key : String) : Bytes := bearerPrefix ++ key.toUTF8.toList

/-- `AdminAuth::from_request_parts` (`auth.rs:44-67`) on the first `Authorization` header. -/
def adminAuth (key : String) (authorization : Option Bytes) : Except ApiError Unit :=
  match authorization with
  | none => .error .unauthorized
  | some header =>
      match headerToStr header with
      | none => .error .unauthorized
      | some value =>
          match value.dropPrefix? bearerPrefix with
          | none => .error .unauthorized
          | some token => if token = key.toUTF8.toList then .ok () else .error .unauthorized

/-! ## The checks on a request -/

/-- `CreateBody` (`alerts.rs:44-59`). -/
structure CreateBody where
  webhookUrl : String
  errorCategory : Option String
  toAddr : Option String
  subType : Option String
  thresholdCount : Option Int
  thresholdWindowSecs : Option Int
  debounceSecs : Option Int
  deriving DecidableEq, Repr

/-- `CreateLabelBody` (`contract_labels.rs:27-35`). -/
structure CreateLabelBody where
  address : String
  label : String
  ownerId : Option String
  deriving DecidableEq, Repr

/-- `MAX_WEBHOOK_URL_LEN`. -/
def maxWebhookUrlLen : Nat := 2048

/-- `MAX_LABEL_LEN` and `MAX_OWNER_ID_LEN`. -/
def maxLabelLen : Nat := 100

/-- `is_evm_address` (`alerts.rs:78-84`, `contract_labels.rs:37-43`). -/
def isEvmAddress (lower : List Char) : Bool :=
  match lower with
  | '0' :: 'x' :: hex => hex.length == 40 && hex.all fun c => (hexValue c).isSome
  | _ => false

/-- `str::to_ascii_lowercase`. -/
def toAsciiLowercase (s : List Char) : List Char := s.map Char.toLower

/-- What `getrandom` gives, if anything. -/
abbrev Entropy := Option (Vector UInt8 32)

/-- `generate_signing_secret` (`alerts.rs:68-76`). -/
def generateSigningSecret (entropy : Entropy) : Except ApiError String :=
  match entropy with
  | some buf => .ok (String.ofList (bytesToHex buf.toList))
  | none => .error (.internal "rng unavailable")

/-- `error_category` of `create_alert_subscription` (`alerts.rs:107-113`). -/
def checkErrorCategory (value : Option String) : Except ApiError (Option ErrorCategory) :=
  match value with
  | none => .ok none
  | some s =>
      if s = "" then .ok none
      else match ErrorCategory.fromStr s with
        | some category => .ok (some category)
        | none => .error (.badRequest s!"invalid `error_category`: {s}")

/-- `to_addr` of `create_alert_subscription` (`alerts.rs:115-126`). -/
def checkToAddr (value : Option String) : Except ApiError (Option String) :=
  match value with
  | none => .ok none
  | some s =>
      if s = "" then .ok none
      else
        let lower := toAsciiLowercase s.toList
        if isEvmAddress lower then .ok (some (String.ofList lower))
        else .error (.badRequest s!"invalid `to_addr` (expected 0x + 40 hex): {s}")

/-- `sub_type` of `create_alert_subscription` (`alerts.rs:129-137`). -/
def checkSubType (value : Option String) : Except ApiError SubType :=
  match value with
  | none => .ok .perEvent
  | some s =>
      if s = "" ∨ s = "per_event" then .ok .perEvent
      else if s = "rate_threshold" then .ok .rateThreshold
      else .error (.badRequest
        s!"invalid `sub_type` (expected 'per_event' or 'rate_threshold'): {s}")

/-- A required rate field (`alerts.rs:159-167`). -/
def requireRate (field bound : String) (value : Option Int) : Except ApiError Int :=
  match value with
  | some n => .ok n
  | none => .error (.badRequest s!"rate_threshold requires `{field}` ({bound})")

/-- A bound on a rate field (`alerts.rs:168-182`). -/
def checkRate (field bound : String) (least n : Int) : Except ApiError Unit :=
  if n < least then .error (.badRequest s!"`{field}` must be {bound}; got {n}") else .ok ()

/-- The rate fields of a subscription of either type (`alerts.rs:139-182`). -/
def checkRateFields (body : CreateBody) : SubType → Except ApiError (Option (Int × Int × Int))
  | .perEvent =>
      if body.thresholdCount.isSome ∨ body.thresholdWindowSecs.isSome ∨ body.debounceSecs.isSome then
        .error (.badRequest <| "per_event sub_type must not carry threshold_count / " ++
          "threshold_window_secs / debounce_secs")
      else .ok none
  | .rateThreshold => do
      let thresholdCount ← requireRate "threshold_count" "> 0" body.thresholdCount
      let thresholdWindowSecs ← requireRate "threshold_window_secs" "> 0" body.thresholdWindowSecs
      let debounceSecs ← requireRate "debounce_secs" ">= 0" body.debounceSecs
      checkRate "threshold_count" "> 0" 1 thresholdCount
      checkRate "threshold_window_secs" "> 0" 1 thresholdWindowSecs
      checkRate "debounce_secs" ">= 0" 0 debounceSecs
      return some (thresholdCount, thresholdWindowSecs, debounceSecs)

/-- `webhook_url` of `create_alert_subscription` (`alerts.rs:96-105`). -/
def checkWebhookUrl (net : NetText) (webhookUrl : String) : Except ApiError Unit :=
  if maxWebhookUrlLen < webhookUrl.utf8ByteSize then
    .error (.badRequest s!"webhook_url too long (max {maxWebhookUrlLen})")
  else
    match webhookUrlIsSafe net webhookUrl with
    | .error reason => .error (.badRequest ("unsafe webhook_url: " ++ reason.debug))
    | .ok () => .ok ()

/-- What `create_alert_subscription` stores. -/
structure CheckedSubscription where
  errorCategory : Option ErrorCategory
  toAddr : Option String
  signingSecret : String
  rate : Option (Int × Int × Int)
  deriving DecidableEq, Repr

/-- `create_alert_subscription` before its statement (`alerts.rs:96-182`). -/
def checkSubscription (net : NetText) (entropy : Entropy) (body : CreateBody) :
    Except ApiError CheckedSubscription := do
  checkWebhookUrl net body.webhookUrl
  let errorCategory ← checkErrorCategory body.errorCategory
  let toAddr ← checkToAddr body.toAddr
  let subType ← checkSubType body.subType
  let signingSecret ← generateSigningSecret entropy
  let rate ← checkRateFields body subType
  return { errorCategory, toAddr, signingSecret, rate }

/-- The address of a label request (`contract_labels.rs:55-61`, `100-105`). -/
def checkAddress (address : String) : Except ApiError String :=
  let lower := toAsciiLowercase (trim address.toList)
  if isEvmAddress lower then .ok (String.ofList lower)
  else .error (.badRequest s!"invalid `address` (expected 0x + 40 hex): {address}")

/-- The label of a label request (`contract_labels.rs:62-70`). -/
def checkLabel (label : String) : Except ApiError String :=
  let trimmed := String.ofList (trim label.toList)
  if trimmed = "" then .error (.badRequest "`label` must be non-empty")
  else if maxLabelLen < trimmed.utf8ByteSize then
    .error (.badRequest s!"`label` too long (max {maxLabelLen} bytes)")
  else .ok trimmed

/-- The owner of a label request (`contract_labels.rs:71-85`). -/
def checkOwnerId (ownerId : Option String) : Except ApiError (Option String) :=
  match ownerId with
  | none => .ok none
  | some s =>
      let trimmed := String.ofList (trim s.toList)
      if trimmed = "" then .ok none
      else if maxLabelLen < trimmed.utf8ByteSize then
        .error (.badRequest s!"`owner_id` too long (max {maxLabelLen} bytes)")
      else .ok (some trimmed)

/-- `create_contract_label` before its statement. -/
def checkContractLabel (body : CreateLabelBody) :
    Except ApiError (String × String × Option String) := do
  let address ← checkAddress body.address
  let label ← checkLabel body.label
  let ownerId ← checkOwnerId body.ownerId
  return (address, label, ownerId)

/-! ## The handlers -/

/-- The URL parser, the database's `LOWER`, and the rendering of a time. -/
structure ApiEnv where
  net : NetText
  sql : SqlLower
  renderTime : Int → String

/-- The tables the admin API writes. -/
structure AdminState where
  subscriptions : SubscriptionTable
  labels : LabelTable

/-- `ApiError::from(DbError::Sqlx(_))` (`error.rs:33-36`). -/
def databaseError : ApiError := .internal "database error"

section Handlers

variable (env : ApiEnv) (s : AdminState) (now : Int)

/-- The response with a row and its secret, or the error if there is no row. -/
def createdResponse (renderTime : Int → String) (status : Nat) (missing : ApiError) :
    Option SubscriptionRow → Except ApiError Response
  | none => .error missing
  | some row => .ok {
      status
      body := .json (apiResponse (alertSubscriptionCreatedJson renderTime row)) }

/-- `create_alert_subscription` (`alerts.rs:91-199`). -/
def createAlertSubscription (entropy : Entropy) (body : CreateBody) :
    AdminState × Except ApiError Response :=
  match checkSubscription env.net entropy body with
  | .error e => (s, .error e)
  | .ok sub =>
      let inserted := match sub.rate with
        | none => insertAlertSubscription s.subscriptions now sub.errorCategory sub.toAddr
            body.webhookUrl sub.signingSecret
        | some (thresholdCount, thresholdWindowSecs, debounceSecs) =>
            insertAlertSubscriptionRate s.subscriptions now sub.errorCategory sub.toAddr
              body.webhookUrl sub.signingSecret thresholdCount thresholdWindowSecs debounceSecs
      ({ s with subscriptions := inserted.1 },
        createdResponse env.renderTime 201 databaseError inserted.2)

/-- `list_alert_subscriptions` (`alerts.rs:203-213`). -/
def listSubscriptions (limit : Option Int) : Response :=
  let limit := min (max (limit.getD 100) 1) 500
  { status := 200
    body := .json (apiResponse (.array
      ((listAlertSubscriptions s.subscriptions limit.toNat).map
        (alertSubscriptionJson env.renderTime)))) }

/-- `deactivate_alert_subscription` (`alerts.rs:220-232`). -/
def deactivateSubscription (id : Int) : AdminState × Except ApiError Response :=
  let (subscriptions, affected) := s.subscriptions.deactivateAlertSubscription id
  ({ s with subscriptions },
    if affected = 0 then
      .error (.notFound s!"alert subscription {id} (not found or already inactive)")
    else .ok { status := 204, body := .empty })

/-- `rotate_alert_subscription_secret` (`alerts.rs:241-257`). -/
def rotateSubscriptionSecret (entropy : Entropy) (id : Int) :
    AdminState × Except ApiError Response :=
  match generateSigningSecret entropy with
  | .error e => (s, .error e)
  | .ok newSecret =>
      let (subscriptions, rotated) := s.subscriptions.rotateAlertSubscriptionSecret id newSecret
      ({ s with subscriptions }, createdResponse env.renderTime 200
        (.notFound s!"alert subscription {id} (not found or inactive — cannot rotate)") rotated)

/-- `create_contract_label` (`contract_labels.rs:50-89`). -/
def createContractLabel (body : CreateLabelBody) : AdminState × Except ApiError Response :=
  match checkContractLabel body with
  | .error e => (s, .error e)
  | .ok (address, label, ownerId) =>
      let (labels, row) := upsertContractLabel env.sql s.labels now address label ownerId
      ({ s with labels }, match row with
        | none => .error databaseError
        | some row => .ok {
            status := 201
            body := .json (apiResponse (contractLabelJson env.renderTime row)) })

/-- `delete_contract_label` (`contract_labels.rs:95-113`). -/
def deleteLabel (address : String) : AdminState × Except ApiError Response :=
  match checkAddress address with
  | .error e => (s, .error e)
  | .ok lower =>
      let (labels, affected) := deleteContractLabel env.sql s.labels lower
      ({ s with labels },
        if affected = 0 then .error (.notFound s!"contract_label {lower} (not found)")
        else .ok { status := 204, body := .empty })

end Handlers

/-! ## The service -/

/-- What an extractor answers, in plain text, when it rejects a request. -/
structure Rejection where
  status : Nat
  text : String
  deriving DecidableEq, Repr

/-- A request to one of the routes (`routes/mod.rs:82-102`), with what the extractors after
`AdminAuth` make of it. -/
inductive Request where
  | createAlertSubscription (body : Except Rejection CreateBody)
  | listAlertSubscriptions (limit : Except Rejection (Option Int))
  | deactivateAlertSubscription (id : Except Rejection Int)
  | rotateAlertSubscriptionSecret (id : Except Rejection Int)
  | createContractLabel (body : Except Rejection CreateLabelBody)
  | deleteContractLabel (address : Except Rejection String)

/-- The handler takes an `AdminAuth` (`routes/mod.rs:25-36`). -/
def Request.isProtected : Request → Bool
  | .listAlertSubscriptions _ => false
  | _ => true

/-- A request as it arrives: the clock of the database and what the random generator gives are
the environment's. -/
structure Call where
  now : Int
  authorization : Option Bytes
  entropy : Entropy
  request : Request

/-- The response of a handler (`IntoResponse for Result`). -/
def intoResponse : Except ApiError Response → Response
  | .ok response => response
  | .error e => e.intoResponse

/-- A handler behind an extractor. -/
def extracted {α : Type} (s : AdminState) (input : Except Rejection α)
    (handler : α → AdminState × Except ApiError Response) : AdminState × Response :=
  match input with
  | .error rejection => (s, { status := rejection.status, body := .text rejection.text })
  | .ok a =>
      let (s', result) := handler a
      (s', intoResponse result)

/-- What the handler does once its caller is let in. -/
def Request.run (env : ApiEnv) (s : AdminState) (now : Int) (entropy : Entropy) :
    Request → AdminState × Response
  | .createAlertSubscription body =>
      extracted s body (Admin.createAlertSubscription env s now entropy)
  | .listAlertSubscriptions limit =>
      extracted s limit fun limit => (s, .ok (listSubscriptions env s limit))
  | .deactivateAlertSubscription id => extracted s id (deactivateSubscription s)
  | .rotateAlertSubscriptionSecret id => extracted s id (rotateSubscriptionSecret env s entropy)
  | .createContractLabel body => extracted s body (Admin.createContractLabel env s now)
  | .deleteContractLabel address => extracted s address (deleteLabel env s)

/-- One request, handled with `key` as the admin key. -/
def handle (env : ApiEnv) (key : String) (s : AdminState) (c : Call) : AdminState × Response :=
  if c.request.isProtected then
    match adminAuth key c.authorization with
    | .error e => (s, e.intoResponse)
    | .ok () => c.request.run env s c.now c.entropy
  else c.request.run env s c.now c.entropy

end TxIndexer.Api.Admin
