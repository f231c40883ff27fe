import TxIndexer.Api.Admin

/-!
# What an admin request does

A request that is let through does one of six things to the tables: nothing, or one row is
inserted, deactivated, given a new secret, labelled or unlabelled. Everything the other modules
show of runs of the admin API is a case analysis over these six.
-/

namespace TxIndexer.Db

namespace SubscriptionTable

variable {t t' : SubscriptionTable} {now id : Int} {new : NewSubscription} {row : SubscriptionRow}

@[ext] theorem ext (htable : t.table = t'.table) (hnext : t.nextId = t'.nextId) : t = t' := by
  cases t; cases t'; simp_all

/-- Every id in use was drawn from the sequence. -/
def Sequenced (t : SubscriptionTable) : Prop := ∀ r ∈ t.table, r.subscriptionId < t.nextId

/-- An insert that succeeds adds the row it returns, under the next id. -/
theorem insert_eq_some (h : t.insert now new = (t', some row)) :
    row = new.row t.nextId now ∧ row.RateFieldsChk ∧ new.TextsFit ∧ t.nextId ≤ maxBigint ∧
      row.subscriptionId ∉ t.table.keys ∧ t'.table = t.table.insertNew [row] ∧
      t'.nextId = t.nextId + 1 := by
  unfold insert at h
  split at h
  · next hfits =>
      simp only at h
      split at h
      · next hchk =>
          cases h
          exact ⟨rfl, hchk.1, hfits.1, hfits.2, hchk.2, rfl, rfl⟩
      · cases h
  · cases h

/-- While the ids come from the sequence, an insert fails for a text the database cannot hold, at
the end of the sequence, or on the `CHECK`. -/
theorem insert_eq_none (hseq : t.Sequenced) (h : t.insert now new = (t', none))
    (hchk : (new.row t.nextId now).RateFieldsChk) :
    t' = t ∧ (¬ new.TextsFit ∨ maxBigint < t.nextId) := by
  have hfresh : (new.row t.nextId now).subscriptionId ∉ t.table.keys := by
    intro hmem
    obtain ⟨r, hr, hkey⟩ := List.mem_map.mp hmem
    have hlt := hseq r hr
    rw [hkey] at hlt
    exact absurd hlt (lt_irrefl _)
  unfold insert at h
  split at h
  · rw [dif_pos ⟨hchk, hfresh⟩] at h
    cases h
  · next hfits =>
      cases h
      refine ⟨rfl, ?_⟩
      by_contra hnot
      push Not at hnot
      exact hfits ⟨hnot.1, hnot.2⟩

/-- The rows after an insert that succeeds. -/
theorem mem_of_insert (h : t.insert now new = (t', some row)) {r : SubscriptionRow} :
    r ∈ t'.table ↔ r ∈ t.table ∨ r = row := by
  obtain ⟨-, -, -, -, hfresh, htable, -⟩ := insert_eq_some h
  have hnew : t.table.newRows [row] = [row] := by
    rw [Lib.KeyedTable.newRows, Lib.freshRows, if_neg hfresh, Lib.freshRows]
  rw [htable, Lib.KeyedTable.mem_insertNew, hnew, List.mem_singleton]

/-- The rows after an update. -/
theorem mem_update {p : SubscriptionRow → Bool} {f : SubscriptionRow → SubscriptionRow}
    (hkey : ∀ r, (f r).subscriptionId = r.subscriptionId)
    (hchk : ∀ r, r.RateFieldsChk → (f r).RateFieldsChk) {r' : SubscriptionRow} :
    r' ∈ (t.update p f hkey hchk).table ↔ ∃ r ∈ t.table, (if p r then f r else r) = r' :=
  List.mem_map

/-- An update that meets no row changes nothing. -/
theorem update_eq_self {p : SubscriptionRow → Bool} {f : SubscriptionRow → SubscriptionRow}
    (hkey : ∀ r, (f r).subscriptionId = r.subscriptionId)
    (hchk : ∀ r, r.RateFieldsChk → (f r).RateFieldsChk) (h : ∀ r ∈ t.table, p r = false) :
    t.update p f hkey hchk = t := by
  ext1
  · ext1
    show t.table.rows.map (fun r => if p r then f r else r) = t.table.rows
    calc t.table.rows.map (fun r => if p r then f r else r)
        = t.table.rows.map id := by
          apply List.map_congr_left
          intro r hr
          rw [h r hr]
          rfl
      _ = t.table.rows := List.map_id _
  · rfl

end SubscriptionTable

end TxIndexer.Db

namespace TxIndexer.Api.Admin

open Db Lib

/-! ## The checks -/

/-- The `INSERT` for a checked subscription. -/
def CheckedSubscription.new (sub : CheckedSubscription) (webhookUrl : String) :
    NewSubscription where
  errorCategory := sub.errorCategory
  toAddr := sub.toAddr
  webhookUrl
  signingSecret := sub.signingSecret
  subType := if sub.rate.isSome then .rateThreshold else .perEvent
  thresholdCount := sub.rate.map fun rate => rate.1
  thresholdWindowSecs := sub.rate.map fun rate => rate.2.1
  debounceSecs := sub.rate.map fun rate => rate.2.2

theorem createAlertSubscription_eq (env : ApiEnv) (s : AdminState) (now : Int) (entropy : Entropy)
    (body : CreateBody) {sub : CheckedSubscription}
    (h : checkSubscription env.net entropy body = .ok sub) :
    createAlertSubscription env s now entropy body =
      ({ s with subscriptions := (s.subscriptions.insert now (sub.new body.webhookUrl)).1 },
        createdResponse env.renderTime 201 databaseError
          (s.subscriptions.insert now (sub.new body.webhookUrl)).2) := by
  unfold createAlertSubscription
  rw [h]
  obtain ⟨errorCategory, toAddr, signingSecret, rate⟩ := sub
  cases rate with
  | none => rfl
  | some rate => rfl

/-- A checked address is 42 lower-case characters. -/
def IsCheckedAddress (address : String) : Prop :=
  isEvmAddress address.toList = true ∧ toAsciiLowercase address.toList = address.toList

/-- A checked label or owner is trimmed, not empty and not too long. -/
def IsCheckedLabel (label : String) : Prop :=
  label ≠ "" ∧ label.utf8ByteSize ≤ maxLabelLen ∧ ∃ s : String, label = String.ofList (Decoder.trim s.toList)

/-- Rate fields that satisfy the `CHECK`. -/
def RatesPositive (rate : Int × Int × Int) : Prop := 0 < rate.1 ∧ 0 < rate.2.1 ∧ 0 ≤ rate.2.2

theorem toLower_toLower (c : Char) : c.toLower.toLower = c.toLower := by
  unfold Char.toLower
  grind

theorem toAsciiLowercase_idem (cs : List Char) :
    toAsciiLowercase (toAsciiLowercase cs) = toAsciiLowercase cs := by
  rw [toAsciiLowercase, toAsciiLowercase, List.map_map]
  apply List.map_congr_left
  intro c _
  exact toLower_toLower c

theorem checkAddress_eq_ok {address key : String} (h : checkAddress address = .ok key) :
    IsCheckedAddress key ∧ key = String.ofList (toAsciiLowercase (Decoder.trim address.toList)) := by
  unfold checkAddress at h
  simp only at h
  split at h
  · next hevm =>
      cases h
      rw [IsCheckedAddress, String.toList_ofList]
      exact ⟨⟨hevm, toAsciiLowercase_idem _⟩, rfl⟩
  · cases h

theorem checkToAddr_eq_ok {value toAddr : Option String} (h : checkToAddr value = .ok toAddr) :
    ∀ a ∈ toAddr, IsCheckedAddress a := by
  unfold checkToAddr at h
  cases value with
  | none => cases h; intro a ha; cases ha
  | some s =>
      simp only at h
      split at h
      · cases h; intro a ha; cases ha
      · split at h
        · next hevm =>
            cases h
            intro a ha
            cases ha
            rw [IsCheckedAddress, String.toList_ofList]
            exact ⟨hevm, toAsciiLowercase_idem _⟩
        · cases h

theorem checkLabel_eq_ok {label trimmed : String} (h : checkLabel label = .ok trimmed) :
    IsCheckedLabel trimmed ∧ trimmed = String.ofList (Decoder.trim label.toList) := by
  unfold checkLabel at h
  simp only at h
  split at h
  · cases h
  · next hempty =>
      split at h
      · cases h
      · next hlong =>
          cases h
          exact ⟨⟨hempty, Nat.le_of_not_lt hlong, label, rfl⟩, rfl⟩

theorem checkOwnerId_eq_ok {ownerId trimmed : Option String}
    (h : checkOwnerId ownerId = .ok trimmed) : ∀ o ∈ trimmed, IsCheckedLabel o := by
  unfold checkOwnerId at h
  cases ownerId with
  | none => cases h; intro o ho; cases ho
  | some s =>
      simp only at h
      split at h
      · cases h; intro o ho; cases ho
      · next hempty =>
          split at h
          · cases h
          · next hlong =>
              cases h
              intro o ho
              cases ho
              exact ⟨hempty, Nat.le_of_not_lt hlong, s, rfl⟩

theorem checkWebhookUrl_eq_ok {net : NetText} {webhookUrl : String} :
    checkWebhookUrl net webhookUrl = .ok () ↔
      webhookUrl.utf8ByteSize ≤ maxWebhookUrlLen ∧ webhookUrlIsSafe net webhookUrl = .ok () := by
  unfold checkWebhookUrl
  split
  · next hlong => simp [Nat.not_le_of_lt hlong]
  · next hshort =>
      cases hsafe : webhookUrlIsSafe net webhookUrl with
      | error reason => simp
      | ok _ => simpa using Nat.le_of_not_lt hshort

theorem generateSigningSecret_eq_ok {entropy : Entropy} {secret : String} :
    generateSigningSecret entropy = .ok secret ↔
      ∃ buf ∈ entropy, secret = String.ofList (bytesToHex buf.toList) := by
  cases entropy with
  | none => simp [generateSigningSecret]
  | some buf => simp [generateSigningSecret, eq_comm]

theorem checkRate_eq_ok {field bound : String} {least n : Int} :
    checkRate field bound least n = .ok () ↔ least ≤ n := by
  unfold checkRate
  split <;> simp <;> omega

/-- Rate fields that pass satisfy the `CHECK`. -/
theorem checkRateFields_eq_ok {body : CreateBody} {subType : SubType}
    {rate : Option (Int × Int × Int)} (h : checkRateFields body subType = .ok rate) :
    (rate.isSome = true ↔ subType = .rateThreshold) ∧ ∀ r ∈ rate, RatesPositive r := by
  cases subType with
  | perEvent =>
      simp only [checkRateFields] at h
      split at h
      · cases h
      · cases h; simp
  | rateThreshold =>
      simp only [checkRateFields] at h
      obtain ⟨count, hcount, h⟩ := bind_eq_ok.mp h
      obtain ⟨window, hwindow, h⟩ := bind_eq_ok.mp h
      obtain ⟨debounce, hdebounce, h⟩ := bind_eq_ok.mp h
      obtain ⟨_, hcountPos, h⟩ := bind_eq_ok.mp h
      obtain ⟨_, hwindowPos, h⟩ := bind_eq_ok.mp h
      obtain ⟨_, hdebounceNonneg, h⟩ := bind_eq_ok.mp h
      cases h
      refine ⟨by simp, ?_⟩
      intro r hr
      cases hr
      exact ⟨checkRate_eq_ok.mp hcountPos, checkRate_eq_ok.mp hwindowPos,
        checkRate_eq_ok.mp hdebounceNonneg⟩

/-- What is known of a subscription that passes the checks. -/
structure CheckedSubscription.Sound (net : NetText) (entropy : Entropy) (webhookUrl : String)
    (sub : CheckedSubscription) : Prop where
  urlShort : webhookUrl.utf8ByteSize ≤ maxWebhookUrlLen
  urlSafe : webhookUrlIsSafe net webhookUrl = .ok ()
  toAddr : ∀ a ∈ sub.toAddr, IsCheckedAddress a
  secret : ∃ buf ∈ entropy, sub.signingSecret = String.ofList (bytesToHex buf.toList)
  rate : ∀ r ∈ sub.rate, RatesPositive r

theorem checkSubscription_eq_ok {net : NetText} {entropy : Entropy} {body : CreateBody}
    {sub : CheckedSubscription} (h : checkSubscription net entropy body = .ok sub) :
    sub.Sound net entropy body.webhookUrl := by
  unfold checkSubscription at h
  obtain ⟨_, hurl, h⟩ := bind_eq_ok.mp h
  obtain ⟨category, -, h⟩ := bind_eq_ok.mp h
  obtain ⟨toAddr, hto, h⟩ := bind_eq_ok.mp h
  obtain ⟨subType, -, h⟩ := bind_eq_ok.mp h
  obtain ⟨secret, hsecret, h⟩ := bind_eq_ok.mp h
  obtain ⟨rate, hrate, h⟩ := bind_eq_ok.mp h
  cases h
  obtain ⟨hshort, hsafe⟩ := checkWebhookUrl_eq_ok.mp hurl
  exact ⟨hshort, hsafe, checkToAddr_eq_ok hto, generateSigningSecret_eq_ok.mp hsecret,
    (checkRateFields_eq_ok hrate).2⟩

/-- The row of a checked subscription satisfies the `CHECK`. -/
theorem CheckedSubscription.Sound.rateFieldsChk {net : NetText} {entropy : Entropy}
    {webhookUrl : String} {sub : CheckedSubscription} (h : sub.Sound net entropy webhookUrl)
    (id now : Int) : ((sub.new webhookUrl).row id now).RateFieldsChk := by
  obtain ⟨errorCategory, toAddr, signingSecret, rate⟩ := sub
  cases rate with
  | none => exact .inl ⟨rfl, rfl, rfl, rfl⟩
  | some rate =>
      obtain ⟨hcount, hwindow, hdebounce⟩ := h.rate rate rfl
      exact .inr ⟨rfl, ⟨_, rfl, hcount⟩, ⟨_, rfl, hwindow⟩, ⟨_, rfl, hdebounce⟩⟩

/-! ## The effects -/

/-- The id and the secret of the subscription a response shows, as they stand in its body. -/
def told (r : Response) : Option (String × String) :=
  match r.body with
  | .json value =>
      match value.get "data" with
      | some data =>
          match data.get "subscription_id", data.getStr "signing_secret" with
          | some (.number id), some secret => some (id, secret)
          | _, _ => none
      | none => none
  | _ => none

theorem told_error (e : ApiError) : told e.intoResponse = none := by
  cases e <;> rfl

theorem told_failed (e : ApiError) : told (intoResponse (.error e)) = none := told_error e

theorem told_list (env : ApiEnv) (s : AdminState) (limit : Option Int) :
    told (listSubscriptions env s limit) = none := rfl

theorem told_label (status : Nat) (renderTime : Int → String) (row : ContractLabel) :
    told ⟨status, .json (apiResponse (contractLabelJson renderTime row))⟩ = none := rfl

/-- The response to a creation or a rotation shows the row's id and secret. -/
theorem told_created (status : Nat) (renderTime : Int → String) (row : SubscriptionRow) :
    told ⟨status, .json (apiResponse (alertSubscriptionCreatedJson renderTime row))⟩ =
      some (toString row.subscriptionId, row.signingSecret) := rfl

/-- What a request does to the tables, and what it is answered. -/
inductive Effect (env : ApiEnv) (s : AdminState) (c : Call) : AdminState → Response → Prop
  | quiet {r} (hquiet : told r = none) : Effect env s c s r
  | created {t row body sub} (hreq : c.request = .createAlertSubscription (.ok body))
      (hcheck : checkSubscription env.net c.entropy body = .ok sub)
      (hinsert : s.subscriptions.insert c.now (sub.new body.webhookUrl) = (t, some row)) :
      Effect env s c { s with subscriptions := t }
        ⟨201, .json (apiResponse (alertSubscriptionCreatedJson env.renderTime row))⟩
  | deactivated {id} (hreq : c.request = .deactivateAlertSubscription (.ok id)) :
      Effect env s c
        { s with subscriptions := (s.subscriptions.deactivateAlertSubscription id).1 }
        ⟨204, .empty⟩
  | rotated {id buf row} (hreq : c.request = .rotateAlertSubscriptionSecret (.ok id))
      (hentropy : c.entropy = some buf)
      (hrow : (s.subscriptions.rotateAlertSubscriptionSecret id
        (String.ofList (bytesToHex buf.toList))).2 = some row) :
      Effect env s c
        { s with subscriptions := (s.subscriptions.rotateAlertSubscriptionSecret id
            (String.ofList (bytesToHex buf.toList))).1 }
        ⟨200, .json (apiResponse (alertSubscriptionCreatedJson env.renderTime row))⟩
  | labelled {body address label ownerId row} (hreq : c.request = .createContractLabel (.ok body))
      (hcheck : checkContractLabel body = .ok (address, label, ownerId))
      (hrow : (upsertContractLabel env.sql s.labels c.now address label ownerId).2 = some row) :
      Effect env s c
        { s with labels := (upsertContractLabel env.sql s.labels c.now address label ownerId).1 }
        ⟨201, .json (apiResponse (contractLabelJson env.renderTime row))⟩
  | unlabelled {address lower} (hreq : c.request = .deleteContractLabel (.ok address))
      (hcheck : checkAddress address = .ok lower) :
      Effect env s c { s with labels := (deleteContractLabel env.sql s.labels lower).1 }
        ⟨204, .empty⟩

variable {env : ApiEnv} {key : String} {s : AdminState} {c : Call}

theorem createAlertSubscription_effect (hseq : s.subscriptions.Sequenced) {body : CreateBody}
    (hreq : c.request = .createAlertSubscription (.ok body)) :
    Effect env s c (c.request.run env s c.now c.entropy).1
      (c.request.run env s c.now c.entropy).2 := by
  rw [hreq]
  simp only [Request.run, extracted]
  cases hcheck : checkSubscription env.net c.entropy body with
  | error e =>
      simp only [createAlertSubscription, hcheck]
      exact .quiet (told_error e)
  | ok sub =>
      rw [createAlertSubscription_eq env s c.now c.entropy body hcheck]
      cases hinsert : s.subscriptions.insert c.now (sub.new body.webhookUrl) with
      | mk t result =>
          cases result with
          | some row => exact .created hreq hcheck hinsert
          | none =>
              -- the ids are the sequence's, so nothing has changed
              obtain ⟨hsame, -⟩ := SubscriptionTable.insert_eq_none hseq hinsert
                ((checkSubscription_eq_ok hcheck).rateFieldsChk _ _)
              rw [hsame]
              exact .quiet (told_error databaseError)

theorem deactivateSubscription_effect {id : Int}
    (hreq : c.request = .deactivateAlertSubscription (.ok id)) :
    Effect env s c (c.request.run env s c.now c.entropy).1
      (c.request.run env s c.now c.entropy).2 := by
  have heffect : Effect env s c
      { s with subscriptions := (s.subscriptions.deactivateAlertSubscription id).1 }
      ⟨204, .empty⟩ := .deactivated hreq
  rw [hreq]
  simp only [Request.run, extracted, deactivateSubscription]
  by_cases hnone : (s.subscriptions.deactivateAlertSubscription id).2 = 0
  · have hrows : ∀ r ∈ s.subscriptions.table, SubscriptionRow.isActive id r = false := by
      intro r hr
      exact Bool.eq_false_iff.mpr (List.countP_eq_zero.mp hnone r hr)
    have hsame : (s.subscriptions.deactivateAlertSubscription id).1 = s.subscriptions :=
      SubscriptionTable.update_eq_self _ SubscriptionRow.rateFieldsChk_deactivate hrows
    rw [if_pos hnone, hsame]
    exact .quiet (told_failed _)
  · rw [if_neg hnone]
    exact heffect

theorem rotateSubscriptionSecret_effect {id : Int}
    (hreq : c.request = .rotateAlertSubscriptionSecret (.ok id)) :
    Effect env s c (c.request.run env s c.now c.entropy).1
      (c.request.run env s c.now c.entropy).2 := by
  have hrun := hreq
  rw [hreq]
  simp only [Request.run, extracted, rotateSubscriptionSecret]
  cases hentropy : c.entropy with
  | none => exact .quiet (told_failed _)
  | some buf =>
      simp only [generateSigningSecret]
      cases hrow : (s.subscriptions.rotateAlertSubscriptionSecret id
          (String.ofList (bytesToHex buf.toList))).2 with
      | some row => exact .rotated hrun hentropy hrow
      | none =>
          -- no row is active under the id after the update, so none was before
          have hrows : ∀ r ∈ s.subscriptions.table, SubscriptionRow.isActive id r = false := by
            intro r hr
            have hafter := List.find?_eq_none.mp hrow
            rw [Bool.eq_false_iff]
            intro hactive
            refine hafter (SubscriptionRow.rotate (String.ofList (bytesToHex buf.toList)) r) ?_
              hactive
            exact (SubscriptionTable.mem_update _ (SubscriptionRow.rateFieldsChk_rotate _)).mpr
              ⟨r, hr, if_pos hactive⟩
          have hsame : (s.subscriptions.rotateAlertSubscriptionSecret id
              (String.ofList (bytesToHex buf.toList))).1 = s.subscriptions :=
            SubscriptionTable.update_eq_self _ (SubscriptionRow.rateFieldsChk_rotate _) hrows
          rw [hsame]
          exact .quiet (told_failed _)

theorem createContractLabel_effect {body : CreateLabelBody}
    (hreq : c.request = .createContractLabel (.ok body)) :
    Effect env s c (c.request.run env s c.now c.entropy).1
      (c.request.run env s c.now c.entropy).2 := by
  have hrun := hreq
  rw [hreq]
  simp only [Request.run, extracted, createContractLabel]
  cases hcheck : checkContractLabel body with
  | error e => exact .quiet (told_failed e)
  | ok checked =>
      obtain ⟨address, label, ownerId⟩ := checked
      simp only
      cases hrow : (upsertContractLabel env.sql s.labels c.now address label ownerId).2 with
      | some row => exact .labelled hrun hcheck hrow
      | none =>
          have hsame : (upsertContractLabel env.sql s.labels c.now address label ownerId).1 =
              s.labels := (upsertContractLabel_eq_none hrow).1
          rw [hsame]
          exact .quiet (told_failed _)

theorem deleteLabel_effect {address : String}
    (hreq : c.request = .deleteContractLabel (.ok address)) :
    Effect env s c (c.request.run env s c.now c.entropy).1
      (c.request.run env s c.now c.entropy).2 := by
  have hrun := hreq
  rw [hreq]
  simp only [Request.run, extracted, deleteLabel]
  cases hcheck : checkAddress address with
  | error e => exact .quiet (told_failed e)
  | ok lower =>
      simp only
      by_cases hnone : (deleteContractLabel env.sql s.labels lower).2 = 0
      · have hsame : (deleteContractLabel env.sql s.labels lower).1 = s.labels := by
          apply KeyedTable.deleteWhere_eq_self
          intro r hr
          exact Bool.eq_false_iff.mpr (List.countP_eq_zero.mp hnone r hr)
        rw [if_pos hnone, hsame]
        exact .quiet (told_failed _)
      · rw [if_neg hnone]
        exact .unlabelled hrun hcheck

/-- The effect of a request that is let through. -/
theorem run_effect (hseq : s.subscriptions.Sequenced) :
    Effect env s c (c.request.run env s c.now c.entropy).1
      (c.request.run env s c.now c.entropy).2 := by
  cases hreq : c.request with
  | createAlertSubscription body =>
      cases body with
      | error rejection => exact .quiet rfl
      | ok body => exact hreq ▸ createAlertSubscription_effect hseq hreq
  | listAlertSubscriptions limit =>
      cases limit with
      | error rejection => exact .quiet rfl
      | ok limit => exact .quiet (told_list env s limit)
  | deactivateAlertSubscription id =>
      cases id with
      | error rejection => exact .quiet rfl
      | ok id => exact hreq ▸ deactivateSubscription_effect hreq
  | rotateAlertSubscriptionSecret id =>
      cases id with
      | error rejection => exact .quiet rfl
      | ok id => exact hreq ▸ rotateSubscriptionSecret_effect hreq
  | createContractLabel body =>
      cases body with
      | error rejection => exact .quiet rfl
      | ok body => exact hreq ▸ createContractLabel_effect hreq
  | deleteContractLabel address =>
      cases address with
      | error rejection => exact .quiet rfl
      | ok address => exact hreq ▸ deleteLabel_effect hreq

/-- The effect of any request. -/
theorem handle_effect (hseq : s.subscriptions.Sequenced) :
    Effect env s c (handle env key s c).1 (handle env key s c).2 := by
  unfold handle
  split
  · split
    · exact .quiet (told_error _)
    · exact run_effect hseq
  · exact run_effect hseq

end TxIndexer.Api.Admin
