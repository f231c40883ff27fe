import TxIndexer.Lib.Register
import TxIndexer.Proofs.AdminTables

/-!
# The label API is a map

Whatever the requests to the admin API and the spelling of the addresses in them, its label
routes answer as a map from lower-case addresses to labels would, and every other request, or one
that is not let in, leaves the labels alone.
-/

namespace TxIndexer.Api.Admin

open Db Lib

/-- A label and its owner, by address, and the moment since which there is one. -/
abbrev LabelRegister := Register String (String × Option String) Int

/-- A write or a removal of a label. -/
abbrev LabelCommand := RegisterCommand String (String × Option String) Int

/-- The map a table holds. -/
def labelRegister (t : LabelTable) : LabelRegister := fun address =>
  (t.lookup address).map fun r => ⟨(r.label, r.ownerId), r.createdAt⟩

/-- What a request asks of the labels once its checks have passed. -/
def Request.labelCommand (now : Int) : Request → Option LabelCommand
  | .createContractLabel (.ok body) =>
      match checkContractLabel body with
      | .ok (address, label, ownerId) =>
          if LabelTextsFit address label ownerId then some (.put address (label, ownerId) now)
          else none
      | .error _ => none
  | .deleteContractLabel (.ok address) =>
      match checkAddress address with
      | .ok lower => some (.erase lower)
      | .error _ => none
  | _ => none

/-- What a request asks of the labels if it is let in. -/
def Call.labelCommand (key : String) (c : Call) : Option LabelCommand :=
  match adminAuth key c.authorization with
  | .ok () => c.request.labelCommand c.now
  | .error _ => none

/-- What is answered when a command wrote or removed `entry`. -/
def labelAnswer (renderTime : Int → String) : LabelCommand →
    Option (Entry (String × Option String) Int) → Response
  | .put address _ _, some entry => {
      status := 201
      body := .json (apiResponse (contractLabelJson renderTime
        ⟨address, entry.value.1, entry.value.2, entry.since⟩)) }
  | .put _ _ _, none => databaseError.intoResponse
  | .erase _, some _ => { status := 204, body := .empty }
  | .erase address, none =>
      (ApiError.notFound s!"contract_label {address} (not found)").intoResponse

/-- The map behind the label routes. -/
def labelApi (renderTime : Int → String) (m : LabelRegister) (c : LabelCommand) :
    LabelRegister × Response :=
  ((m.apply c).1, labelAnswer renderTime c (m.apply c).2)

variable {env : ApiEnv} {key : String} {s : AdminState} {c : Call}

/-! ## One request -/

theorem createContractLabel_simulates {now : Int} {body : CreateLabelBody}
    {address label : String} {ownerId : Option String}
    (hcheck : checkContractLabel body = .ok (address, label, ownerId))
    (hfits : LabelTextsFit address label ownerId) :
    labelRegister (createContractLabel env s now body).1.labels =
        (labelApi env.renderTime (labelRegister s.labels) (.put address (label, ownerId) now)).1 ∧
      intoResponse (createContractLabel env s now body).2 =
        (labelApi env.renderTime (labelRegister s.labels) (.put address (label, ownerId) now)).2 := by
  have hlower := lower_of_checked env.sql (checkContractLabel_eq_ok hcheck).1
  have hlookup := upsertContractLabel_lookup env.sql s.labels now hfits
  rw [hlower] at hlookup
  have hsince : ((labelRegister s.labels address).map Entry.since).getD now =
      ((s.labels.lookup address).map ContractLabel.createdAt).getD now := by
    rw [labelRegister, Option.map_map]
    rfl
  have hrow : (upsertContractLabel env.sql s.labels now address label ownerId).2 =
      (upsertContractLabel env.sql s.labels now address label ownerId).1.lookup address := by
    simp only [upsertContractLabel, if_pos hfits, hlower]
  simp only [createContractLabel, hcheck]
  constructor
  · funext k
    rw [labelRegister, hlookup]
    by_cases hk : k = address
    · subst hk
      simp only [if_true, Option.map_some, labelApi, Register.apply, Function.update_self,
        Register.written, hsince]
    · simp only [if_neg hk, labelApi, Register.apply, Function.update_of_ne hk, labelRegister]
  · rw [hrow, hlookup, if_pos rfl]
    simp only [labelApi, Register.apply, labelAnswer, Register.written, hsince, intoResponse]

theorem deleteLabel_simulates {address lower : String} (hcheck : checkAddress address = .ok lower) :
    labelRegister (deleteLabel env s address).1.labels =
        (labelApi env.renderTime (labelRegister s.labels) (.erase lower)).1 ∧
      intoResponse (deleteLabel env s address).2 =
        (labelApi env.renderTime (labelRegister s.labels) (.erase lower)).2 := by
  have hlower := lower_of_checked env.sql (checkAddress_eq_ok hcheck).1
  simp only [deleteLabel, hcheck, deleteContractLabel, hlower]
  constructor
  · funext k
    rw [labelRegister, KeyedTable.lookup_deleteWhere_key]
    by_cases hk : k = lower
    · subst hk
      simp only [if_true, Option.map_none, labelApi, Register.apply, Function.update_self]
    · simp only [if_neg hk, labelApi, Register.apply, Function.update_of_ne hk, labelRegister]
  · simp only [KeyedTable.countP_key_eq_zero, labelApi, Register.apply, labelRegister]
    cases s.labels.lookup lower with
    | none => rfl
    | some r => rfl

/-- A request that is let in and asks something of the labels is answered as the map answers. -/
theorem handle_labels {q : LabelCommand} (h : c.labelCommand key = some q) :
    labelRegister (handle env key s c).1.labels =
        (labelApi env.renderTime (labelRegister s.labels) q).1 ∧
      (handle env key s c).2 = (labelApi env.renderTime (labelRegister s.labels) q).2 := by
  unfold Call.labelCommand at h
  cases hauth : adminAuth key c.authorization with
  | error e =>
      rw [hauth] at h
      cases h
  | ok u =>
      rw [hauth] at h
      have hrun : handle env key s c = c.request.run env s c.now c.entropy := by
        rw [handle, hauth]
        exact ite_self _
      rw [hrun]
      change c.request.labelCommand c.now = some q at h
      cases hreq : c.request with
      | createContractLabel body =>
          rw [hreq] at h
          cases body with
          | error rejection => cases h
          | ok body =>
              simp only [Request.labelCommand] at h
              split at h
              · next address label ownerId hcheck =>
                  split at h
                  · next hfits =>
                      cases h
                      exact createContractLabel_simulates hcheck hfits
                  · cases h
              · cases h
      | deleteContractLabel address =>
          rw [hreq] at h
          cases address with
          | error rejection => cases h
          | ok address =>
              simp only [Request.labelCommand] at h
              split at h
              · next lower hcheck =>
                  cases h
                  exact deleteLabel_simulates hcheck
              · cases h
      | createAlertSubscription body => rw [hreq] at h; cases h
      | listAlertSubscriptions limit => rw [hreq] at h; cases h
      | deactivateAlertSubscription id => rw [hreq] at h; cases h
      | rotateAlertSubscriptionSecret id => rw [hreq] at h; cases h

/-- Any other request leaves the labels alone. -/
theorem run_labels_of_none {now : Int} {entropy : Entropy} {r : Request}
    (h : r.labelCommand now = none) : (r.run env s now entropy).1.labels = s.labels := by
  cases r with
  | createContractLabel body =>
      cases body with
      | error rejection => rfl
      | ok body =>
          simp only [Request.labelCommand] at h
          simp only [Request.run, extracted, createContractLabel]
          cases hcheck : checkContractLabel body with
          | error e => rfl
          | ok checked =>
              obtain ⟨address, label, ownerId⟩ := checked
              simp only [hcheck] at h
              split at h
              · cases h
              · next hfits => simp only [upsertContractLabel, if_neg hfits]
  | deleteContractLabel address =>
      cases address with
      | error rejection => rfl
      | ok address =>
          simp only [Request.labelCommand] at h
          simp only [Request.run, extracted, deleteLabel]
          cases hcheck : checkAddress address with
          | error e => rfl
          | ok lower =>
              simp only [hcheck] at h
              cases h
  | createAlertSubscription body =>
      cases body with
      | error rejection => rfl
      | ok body =>
          simp only [Request.run, extracted, createAlertSubscription]
          split
          · rfl
          · rfl
  | listAlertSubscriptions limit =>
      cases limit with
      | error rejection => rfl
      | ok limit => rfl
  | deactivateAlertSubscription id =>
      cases id with
      | error rejection => rfl
      | ok id => rfl
  | rotateAlertSubscriptionSecret id =>
      cases id with
      | error rejection => rfl
      | ok id =>
          simp only [Request.run, extracted, rotateSubscriptionSecret]
          split
          · rfl
          · rfl

theorem handle_labels_of_none (h : c.labelCommand key = none) :
    (handle env key s c).1.labels = s.labels := by
  unfold Call.labelCommand at h
  unfold handle
  cases hauth : adminAuth key c.authorization with
  | ok u =>
      rw [hauth] at h
      split
      · exact run_labels_of_none h
      · exact run_labels_of_none h
  | error e =>
      split
      · rfl
      · next hopen =>
          -- only the list of subscriptions is open
          cases hreq : c.request with
          | listAlertSubscriptions limit =>
              have hnone : (Request.listAlertSubscriptions limit).labelCommand c.now = none := rfl
              exact run_labels_of_none hnone
          | createContractLabel body => rw [hreq] at hopen; exact absurd rfl hopen
          | deleteContractLabel address => rw [hreq] at hopen; exact absurd rfl hopen
          | createAlertSubscription body => rw [hreq] at hopen; exact absurd rfl hopen
          | deactivateAlertSubscription id => rw [hreq] at hopen; exact absurd rfl hopen
          | rotateAlertSubscriptionSecret id => rw [hreq] at hopen; exact absurd rfl hopen

/-! ## A run -/

/-- The commands decide the map alone. -/
theorem serve_labelApi (renderTime : Int → String) (m : LabelRegister) (cs : List LabelCommand) :
    (serve (labelApi renderTime) m cs).1 = (serve Register.apply m cs).1 :=
  (serve_simulates (R := Eq) (B := fun _ _ => True) (fun _ _ _ _ h => ⟨h ▸ rfl, trivial⟩) rfl).1

/-- For any requests, in any order, the requests that are let in and pass the checks of the label
routes are answered as the map answers their commands, and the table ends as that map. So a label
that no request has removed is the one last written, of the age of its first write; and one that
was removed has what was written since, if anything. -/
theorem serve_labels (env : ApiEnv) (key : String) (s : AdminState) (calls : List Call) :
    labelRegister (serve (handle env key) s calls).1.labels =
        (serve (labelApi env.renderTime) (labelRegister s.labels)
          (calls.filterMap (Call.labelCommand key))).1 ∧
      ((calls.zip (serve (handle env key) s calls).2).filterMap fun x =>
          (x.1.labelCommand key).map fun _ => x.2) =
        (serve (labelApi env.renderTime) (labelRegister s.labels)
          (calls.filterMap (Call.labelCommand key))).2 ∧
      (∀ address, RegisterCommand.erase address ∉ calls.filterMap (Call.labelCommand key) →
        labelRegister (serve (handle env key) s calls).1.labels address =
          Register.lastWritten (labelRegister s.labels address)
            (Register.writes address (calls.filterMap (Call.labelCommand key)))) ∧
      ∀ address before since,
        calls.filterMap (Call.labelCommand key) = before ++ .erase address :: since →
        RegisterCommand.erase address ∉ since →
        labelRegister (serve (handle env key) s calls).1.labels address =
          Register.lastWritten none (Register.writes address since) := by
  have hskip : ∀ (s : AdminState) (m : LabelRegister) (c : Call), labelRegister s.labels = m →
      c.labelCommand key = none → labelRegister (handle env key s c).1.labels = m :=
    fun _ _ _ hm hc => (congrArg labelRegister (handle_labels_of_none hc)).trans hm
  have hstep : ∀ (s : AdminState) (m : LabelRegister) (c : Call) (q : LabelCommand),
      labelRegister s.labels = m → c.labelCommand key = some q →
      labelRegister (handle env key s c).1.labels = (labelApi env.renderTime m q).1 ∧
        (handle env key s c).2 = (labelApi env.renderTime m q).2 :=
    fun _ _ _ _ hm hc => hm ▸ handle_labels hc
  obtain ⟨hmap, hanswers⟩ := serve_filterMap (R := fun s m => labelRegister s.labels = m)
    (B := Eq) hskip hstep (s := s) rfl calls
  refine ⟨hmap, List.forall₂_eq_eq_eq ▸ hanswers, ?_, ?_⟩
  · intro address hnever
    rw [hmap, serve_labelApi, Register.serve_apply_of_no_erase _ hnever]
  · intro address before since hsplit hsince
    rw [hmap, serve_labelApi, hsplit, Register.serve_apply_after_erase _ _ hsince]

end TxIndexer.Api.Admin
