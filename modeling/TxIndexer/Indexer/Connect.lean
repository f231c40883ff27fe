import TxIndexer.Indexer.RateAlerts

/-!
# Where a webhook request connects to

The HTTP client of `dispatch_loop` (`alerts.rs:526-532`) follows no redirect and uses no proxy.
It connects to a host that is an address literal directly, and asks the injected `SafeDnsResolver`
for the addresses of any other.
-/

namespace TxIndexer.Indexer

open Db

/-- The HTTP client's reading of a host as an address literal, and `Display` of an address. -/
structure HttpClient where
  literal : String → Option IpAddr
  displayIp : IpAddr → String

/-- The first address the guard refuses, with the reason. -/
def firstUnsafe (addrs : List IpAddr) : Option (IpAddr × UnsafeUrlReason) :=
  addrs.findSome? fun ip =>
    match ipIsSafe ip with
    | .ok () => none
    | .error reason => some (ip, reason)

/-- `SafeDnsResolver::resolve` (`alerts.rs:62-92`) on what the operating system answers. -/
def safeResolve (client : HttpClient) (answer : Except String (List IpAddr)) :
    Except String (List IpAddr) :=
  match answer with
  | .error e => .error e
  | .ok addrs =>
      match firstUnsafe addrs with
      | some (ip, reason) => .error ("DNS-time SSRF guard: resolved IP " ++ client.displayIp ip ++
          " rejected: " ++ reason.debug)
      | none => .ok addrs

/-- The addresses the client can open a connection to for a URL, when the operating system answers
`answer` for a name. -/
def connectTargets (net : NetText) (client : HttpClient)
    (answer : String → Except String (List IpAddr)) (url : String) : List IpAddr :=
  match (net.parseUrl url).bind Url.hostStr with
  | none => []
  | some host =>
      match client.literal host with
      | some ip => [ip]
      | none => ((safeResolve client (answer host)).toOption).getD []

/-- The URL parser writes an address literal the way the standard library reads it. -/
def CanonicalHosts (net : NetText) (client : HttpClient) : Prop :=
  ∀ url host ip, (net.parseUrl url).bind Url.hostStr = some host → client.literal host = some ip →
    net.parseIp (stripBrackets host) = some ip

/-- `dispatch_item` or `dispatch_rate_item` sends the request. -/
def Sends {κ : Type} (env : AlertEnv κ) (request : WebhookRequest) : Prop :=
  (∃ now ledger task ledger' next, TaskStep env now ledger task (.post request) ledger' next) ∨
    ∃ now dispatches task dispatches' next,
      RateTaskStep env now dispatches task (.post request) dispatches' next

/-- The resolver hands on an answer only if it lets every address through. -/
theorem safeResolve_eq_ok {client : HttpClient} {answer : Except String (List IpAddr)}
    {addrs : List IpAddr} :
    safeResolve client answer = .ok addrs ↔
      answer = .ok addrs ∧ ∀ ip ∈ addrs, ipIsSafe ip = .ok () := by
  have hnone : ∀ as : List IpAddr, firstUnsafe as = none ↔ ∀ ip ∈ as, ipIsSafe ip = .ok () := by
    intro as
    rw [firstUnsafe, List.findSome?_eq_none_iff]
    refine forall₂_congr fun ip _ => ?_
    cases ipIsSafe ip <;> simp
  cases answer with
  | error e => simp [safeResolve]
  | ok found =>
      cases hfirst : firstUnsafe found with
      | some refused =>
          simp only [safeResolve, hfirst, reduceCtorEq, Except.ok.injEq, false_iff, not_and]
          rintro rfl hall
          rw [(hnone found).mpr hall] at hfirst
          cases hfirst
      | none =>
          simp only [safeResolve, hfirst, Except.ok.injEq, iff_self_and]
          rintro rfl
          exact (hnone found).mp hfirst

/-- A request is built only after its URL has passed the check and its secret has been decoded. -/
theorem ok_of_checked {check : Except UnsafeUrlReason Unit} {key? : Option Bytes}
    {unsafeUrl : UnsafeUrlReason → String} {corrupt : String} {build : Bytes → WebhookRequest}
    {request : WebhookRequest}
    (h : (match check with
      | .error reason => .error (unsafeUrl reason)
      | .ok () =>
          match key? with
          | none => .error corrupt
          | some key => .ok (build key)) = (.ok request : Except String WebhookRequest)) :
    check = .ok () ∧ ∃ key, key? = some key ∧ build key = request := by
  cases check with
  | error reason => cases h
  | ok =>
      cases key? with
      | none => cases h
      | some key => exact ⟨rfl, key, rfl, Except.ok.inj h⟩

theorem prepareRequest_url {κ : Type} {env : AlertEnv κ} {item : AlertMatch}
    {request : WebhookRequest} (h : prepareRequest env item = .ok request) :
    webhookUrlIsSafe env.net request.url = .ok () := by
  unfold prepareRequest at h
  obtain ⟨hurl, key, -, rfl⟩ := ok_of_checked h
  exact hurl

theorem prepareRateRequest_url {κ : Type} {env : AlertEnv κ} {item : RateAlertMatch}
    {request : WebhookRequest} (h : prepareRateRequest env item = .ok request) :
    webhookUrlIsSafe env.net request.url = .ok () := by
  unfold prepareRateRequest at h
  obtain ⟨hurl, key, -, rfl⟩ := ok_of_checked h
  exact hurl

/-- Only a URL that passes the check is sent to. -/
theorem Sends.url {κ : Type} {env : AlertEnv κ} {request : WebhookRequest}
    (h : Sends env request) : webhookUrlIsSafe env.net request.url = .ok () := by
  rcases h with ⟨now, ledger, task, ledger', next, hstep⟩ |
    ⟨now, dispatches, task, dispatches', next, hstep⟩
  · cases hstep with
    | post hprepare => exact prepareRequest_url hprepare
  · cases hstep with
    | post hprepare => exact prepareRateRequest_url hprepare

end TxIndexer.Indexer
