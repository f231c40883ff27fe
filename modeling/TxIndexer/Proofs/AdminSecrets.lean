import TxIndexer.Proofs.AdminTables

/-!
# Where a secret can be seen

The admin API with all its secrets blanked out computes the blanked image of what it computes, so
a run shows a secret only in the field the answer to a creation or a rotation has for it.
-/

namespace TxIndexer.Api.Admin

open Db Lib

/-- A secret that says nothing. -/
def blankBytes : Vector UInt8 32 := Vector.replicate 32 0

@[inherit_doc blankBytes]
def blankSecret : String := String.ofList (bytesToHex blankBytes.toList)

/-- The table with every secret blanked out. -/
def blankTable (t : SubscriptionTable) : SubscriptionTable :=
  t.update (fun _ => true) (SubscriptionRow.rotate blankSecret) (fun _ => rfl)
    (SubscriptionRow.rateFieldsChk_rotate blankSecret)

/-- The tables with every secret blanked out. -/
def AdminState.blank (s : AdminState) : AdminState :=
  { s with subscriptions := blankTable s.subscriptions }

/-- The random bytes, blanked out. -/
def blankEntropy (entropy : Entropy) : Entropy := entropy.map fun _ => blankBytes

/-- The call with its random bytes blanked out. -/
def Call.blank (c : Call) : Call := { c with entropy := blankEntropy c.entropy }

/-- The body without the secret it shows. -/
def hideSecret : Body → Body
  | .json (.object [("data", .object fields)]) =>
      .json (.object [("data", .object (fields.filter fun field =>
        decide (field.1 ≠ "signing_secret")))])
  | body => body

/-- The response without the secret it shows, if it shows one. -/
def withoutSecret (r : Response) : Response :=
  if (told r).isSome then { r with body := hideSecret r.body } else r

/-- Two answers are equal but for the secret of the subscription they show, and answers that show
none are equal. -/
def SameButSecret (r r' : Response) : Prop :=
  withoutSecret r = withoutSecret r' ∧ (told r).isSome = (told r').isSome

theorem SameButSecret.refl (r : Response) : SameButSecret r r := ⟨rfl, rfl⟩

theorem SameButSecret.symm {r r' : Response} (h : SameButSecret r r') : SameButSecret r' r :=
  ⟨h.1.symm, h.2.symm⟩

theorem SameButSecret.trans {r r' r'' : Response} (h : SameButSecret r r')
    (h' : SameButSecret r' r'') : SameButSecret r r'' :=
  ⟨h.1.trans h'.1, h.2.trans h'.2⟩

/-- Without its secret, a subscription is shown as the listing shows it. -/
theorem withoutSecret_created (status : Nat) (renderTime : Int → String)
    (row : SubscriptionRow) :
    withoutSecret ⟨status, .json (apiResponse (alertSubscriptionCreatedJson renderTime row))⟩ =
      ⟨status, .json (apiResponse (alertSubscriptionJson renderTime row))⟩ := by
  rw [withoutSecret, told_created, Option.isSome_some, if_pos rfl]
  rfl

theorem blankTable_rows (t : SubscriptionTable) :
    (blankTable t).table.rows = t.table.rows.map (SubscriptionRow.rotate blankSecret) := rfl

theorem blankTable_keys (t : SubscriptionTable) : (blankTable t).table.keys = t.table.keys := by
  rw [KeyedTable.keys, blankTable_rows, List.map_map]
  rfl

/-- The columns of an insert with a blank secret. -/
def NewSubscription.blank (new : NewSubscription) : NewSubscription :=
  { new with signingSecret := blankSecret }

/-- An insert does not look at secrets. -/
theorem insert_blank (t : SubscriptionTable) (now : Int) (new : NewSubscription)
    (hfits : TextFits new.signingSecret) :
    (blankTable t).insert now (NewSubscription.blank new) =
      (blankTable (t.insert now new).1,
        (t.insert now new).2.map (SubscriptionRow.rotate blankSecret)) := by
  have hblank : TextFits blankSecret := by
    rw [TextFits, blankSecret, String.toList_ofList]
    exact nul_not_mem_bytesToHex _
  have hguard : ((NewSubscription.blank new).TextsFit ∧ (blankTable t).nextId ≤ maxBigint) ↔
      (new.TextsFit ∧ t.nextId ≤ maxBigint) := by
    show (Nullable TextFits new.toAddr ∧ TextFits new.webhookUrl ∧ TextFits blankSecret) ∧
      t.nextId ≤ maxBigint ↔
        (Nullable TextFits new.toAddr ∧ TextFits new.webhookUrl ∧ TextFits new.signingSecret) ∧
          t.nextId ≤ maxBigint
    simp only [hfits, hblank]
  have hrow : (((NewSubscription.blank new).row (blankTable t).nextId now).RateFieldsChk ∧
      ((NewSubscription.blank new).row (blankTable t).nextId now).subscriptionId ∉
        (blankTable t).table.keys) ↔
      ((new.row t.nextId now).RateFieldsChk ∧
        (new.row t.nextId now).subscriptionId ∉ t.table.keys) := by
    rw [blankTable_keys]
    exact Iff.rfl
  unfold SubscriptionTable.insert
  by_cases hg : new.TextsFit ∧ t.nextId ≤ maxBigint
  · rw [if_pos hg, if_pos (hguard.mpr hg)]
    by_cases hr : (new.row t.nextId now).RateFieldsChk ∧
        (new.row t.nextId now).subscriptionId ∉ t.table.keys
    · simp only
      rw [dif_pos hr, dif_pos (hrow.mpr hr)]
      refine Prod.ext (SubscriptionTable.ext (KeyedTable.ext ?_) rfl) rfl
      have hnew : t.table.newRows [new.row t.nextId now] = [new.row t.nextId now] := by
        rw [KeyedTable.newRows, freshRows, if_neg hr.2, freshRows]
      have hnew' : (blankTable t).table.newRows
          [(NewSubscription.blank new).row (blankTable t).nextId now] =
          [(NewSubscription.blank new).row (blankTable t).nextId now] := by
        rw [KeyedTable.newRows, freshRows, if_neg (hrow.mpr hr).2, freshRows]
      show (blankTable t).table.rows ++ (blankTable t).table.newRows _ =
        (t.table.rows ++ t.table.newRows _).map (SubscriptionRow.rotate blankSecret)
      rw [hnew', hnew, List.map_append, blankTable_rows]
      rfl
    · simp only
      rw [dif_neg hr, dif_neg fun h => hr (hrow.mp h)]
      rfl
  · rw [if_neg hg, if_neg fun h => hg (hguard.mp h)]
    rfl

/-- Neither does a deactivation. -/
theorem deactivate_blank (t : SubscriptionTable) (id : Int) :
    (blankTable t).deactivateAlertSubscription id =
      (blankTable (t.deactivateAlertSubscription id).1, (t.deactivateAlertSubscription id).2) := by
  refine Prod.ext (SubscriptionTable.ext (KeyedTable.ext ?_) rfl) ?_
  · show (t.table.rows.map fun r => r.rotate blankSecret).map
        (fun r => if SubscriptionRow.isActive id r then r.deactivate else r) =
      (t.table.rows.map fun r => if SubscriptionRow.isActive id r then r.deactivate else r).map
        fun r => r.rotate blankSecret
    rw [List.map_map, List.map_map]
    apply List.map_congr_left
    intro r _
    show (if SubscriptionRow.isActive id r then (r.rotate blankSecret).deactivate
      else r.rotate blankSecret) =
        (if SubscriptionRow.isActive id r then r.deactivate else r).rotate blankSecret
    split <;> rfl
  · show (t.table.rows.map fun r => r.rotate blankSecret).countP (SubscriptionRow.isActive id) =
      t.table.rows.countP (SubscriptionRow.isActive id)
    rw [List.countP_map]
    rfl

/-- A rotation writes what it is given and does not look at what was there. -/
theorem rotate_blank (t : SubscriptionTable) (id : Int) (newSecret : String) :
    (blankTable t).rotateAlertSubscriptionSecret id blankSecret =
      (blankTable (t.rotateAlertSubscriptionSecret id newSecret).1,
        (t.rotateAlertSubscriptionSecret id newSecret).2.map
          (SubscriptionRow.rotate blankSecret)) := by
  have hrows : ((t.table.rows.map fun r => r.rotate blankSecret).map
        fun r => if SubscriptionRow.isActive id r then r.rotate blankSecret else r) =
      (t.table.rows.map fun r => if SubscriptionRow.isActive id r then r.rotate newSecret
        else r).map fun r => r.rotate blankSecret := by
    rw [List.map_map, List.map_map]
    apply List.map_congr_left
    intro r _
    show (if SubscriptionRow.isActive id r then (r.rotate blankSecret).rotate blankSecret
      else r.rotate blankSecret) =
        (if SubscriptionRow.isActive id r then r.rotate newSecret else r).rotate blankSecret
    split <;> rfl
  refine Prod.ext (SubscriptionTable.ext (KeyedTable.ext hrows) rfl) ?_
  show ((t.table.rows.map fun r => r.rotate blankSecret).map
      fun r => if SubscriptionRow.isActive id r then r.rotate blankSecret else r).find?
        (SubscriptionRow.isActive id) =
    ((t.table.rows.map fun r => if SubscriptionRow.isActive id r then r.rotate newSecret
      else r).find? (SubscriptionRow.isActive id)).map (SubscriptionRow.rotate blankSecret)
  rw [hrows, List.find?_map]
  rfl

/-- The listing is the same. -/
theorem listSubscriptions_blank (env : ApiEnv) (s : AdminState) (limit : Option Int) :
    listSubscriptions env s.blank limit = listSubscriptions env s limit := by
  have hrows : ∀ n, (listAlertSubscriptions (blankTable s.subscriptions) n).map
        (alertSubscriptionJson env.renderTime) =
      (listAlertSubscriptions s.subscriptions n).map (alertSubscriptionJson env.renderTime) := by
    intro n
    have hsorted : ((s.subscriptions.table.rows.map
          (SubscriptionRow.rotate blankSecret)).mergeSort
            fun a b => decide (b.subscriptionId ≤ a.subscriptionId)) =
        (s.subscriptions.table.rows.mergeSort
          fun a b => decide (b.subscriptionId ≤ a.subscriptionId)).map
            (SubscriptionRow.rotate blankSecret) := by
      symm
      apply List.map_mergeSort
      intro a _ b _
      rfl
    rw [listAlertSubscriptions, blankTable_rows, hsorted, ← List.map_take, List.map_map]
    rfl
  unfold listSubscriptions
  simp only [AdminState.blank, hrows]

theorem generateSigningSecret_blank (entropy : Entropy) :
    generateSigningSecret (blankEntropy entropy) =
      (generateSigningSecret entropy).map fun _ => blankSecret := by
  cases entropy <;> rfl

/-- The checks do not depend on the random bytes. -/
theorem checkSubscription_blank (net : NetText) (entropy : Entropy) (body : CreateBody) :
    checkSubscription net (blankEntropy entropy) body =
      (checkSubscription net entropy body).map fun sub =>
        { sub with signingSecret := blankSecret } := by
  unfold checkSubscription
  rw [generateSigningSecret_blank]
  cases checkWebhookUrl net body.webhookUrl with
  | error e => rfl
  | ok _ =>
      cases checkErrorCategory body.errorCategory with
      | error e => rfl
      | ok category =>
          cases checkToAddr body.toAddr with
          | error e => rfl
          | ok toAddr =>
              cases checkSubType body.subType with
              | error e => rfl
              | ok subType =>
                  cases generateSigningSecret entropy with
                  | error e => rfl
                  | ok secret =>
                      cases hrate : checkRateFields body subType with
                      | error e => simp only [Except.map, bind, Except.bind, hrate]
                      | ok rate =>
                          simp only [Except.map, bind, Except.bind, hrate, pure, Except.pure]

/-! ## One request -/

variable {env : ApiEnv} {key : String} {s : AdminState} {c : Call}

/-- The blanked request does what the request does, blanked. -/
def Blanked (result result' : AdminState × Response) : Prop :=
  result'.1 = result.1.blank ∧ SameButSecret result.2 result'.2

/-- The response that shows a row shows the blanked row with a blank secret. -/
theorem createdResponse_blank (renderTime : Int → String) (status : Nat) (missing : ApiError)
    (row : Option SubscriptionRow) :
    SameButSecret (intoResponse (createdResponse renderTime status missing row))
      (intoResponse (createdResponse renderTime status missing
        (row.map (SubscriptionRow.rotate blankSecret)))) := by
  cases row with
  | none => exact .refl _
  | some row =>
      refine ⟨?_, rfl⟩
      show withoutSecret ⟨status, .json (apiResponse (alertSubscriptionCreatedJson renderTime row))⟩ =
        withoutSecret ⟨status, .json (apiResponse (alertSubscriptionCreatedJson renderTime
          (row.rotate blankSecret)))⟩
      rw [withoutSecret_created, withoutSecret_created]
      rfl

theorem createAlertSubscription_blank (now : Int) (entropy : Entropy) (body : CreateBody) :
    Blanked
      (extracted s (.ok body) (createAlertSubscription env s now entropy))
      (extracted s.blank (.ok body) (createAlertSubscription env s.blank now
        (blankEntropy entropy))) := by
  have hblank := checkSubscription_blank env.net entropy body
  simp only [extracted]
  cases hcheck : checkSubscription env.net entropy body with
  | error e =>
      rw [hcheck] at hblank
      simp only [createAlertSubscription, hcheck, hblank, Except.map]
      exact ⟨rfl, .refl _⟩
  | ok sub =>
      rw [hcheck] at hblank
      have hfits : TextFits sub.signingSecret := by
        obtain ⟨buf, -, hsecret⟩ := (checkSubscription_eq_ok hcheck).secret
        rw [hsecret, TextFits, String.toList_ofList]
        exact nul_not_mem_bytesToHex _
      rw [createAlertSubscription_eq env s now entropy body hcheck,
        createAlertSubscription_eq env s.blank now (blankEntropy entropy) body hblank]
      have hinsert : s.blank.subscriptions.insert now
          (CheckedSubscription.new { sub with signingSecret := blankSecret } body.webhookUrl) =
          (blankTable (s.subscriptions.insert now (sub.new body.webhookUrl)).1,
            (s.subscriptions.insert now (sub.new body.webhookUrl)).2.map
              (SubscriptionRow.rotate blankSecret)) :=
        insert_blank s.subscriptions now (sub.new body.webhookUrl) hfits
      rw [hinsert]
      exact ⟨rfl, createdResponse_blank ..⟩

theorem rotateSubscriptionSecret_blank (entropy : Entropy) (id : Int) :
    Blanked
      (extracted s (.ok id) (rotateSubscriptionSecret env s entropy))
      (extracted s.blank (.ok id) (rotateSubscriptionSecret env s.blank
        (blankEntropy entropy))) := by
  cases entropy with
  | none => exact ⟨rfl, .refl _⟩
  | some buf =>
      have hrotate : s.blank.subscriptions.rotateAlertSubscriptionSecret id
          (String.ofList (bytesToHex blankBytes.toList)) = _ :=
        rotate_blank s.subscriptions id (String.ofList (bytesToHex buf.toList))
      simp only [extracted, rotateSubscriptionSecret, generateSigningSecret, blankEntropy,
        Option.map_some, hrotate]
      exact ⟨rfl, createdResponse_blank ..⟩

theorem deactivateSubscription_blank (id : Int) :
    Blanked (extracted s (.ok id) (deactivateSubscription s))
      (extracted s.blank (.ok id) (deactivateSubscription s.blank)) := by
  have hdeactivate : s.blank.subscriptions.deactivateAlertSubscription id = _ :=
    deactivate_blank s.subscriptions id
  simp only [extracted, deactivateSubscription, hdeactivate]
  exact ⟨rfl, .refl _⟩

/-- The blanked tables and the blanked call give the blanked tables, and the same answer but for
a secret. -/
theorem run_blank (env : ApiEnv) (s : AdminState) (c : Call) :
    Blanked (c.request.run env s c.now c.entropy)
      (c.blank.request.run env s.blank c.blank.now c.blank.entropy) := by
  show Blanked (c.request.run env s c.now c.entropy)
    (c.request.run env s.blank c.now (blankEntropy c.entropy))
  cases c.request with
  | createAlertSubscription body =>
      cases body with
      | error rejection => exact ⟨rfl, .refl _⟩
      | ok body => exact createAlertSubscription_blank ..
  | listAlertSubscriptions limit =>
      cases limit with
      | error rejection => exact ⟨rfl, .refl _⟩
      | ok limit =>
          simp only [Request.run, extracted, listSubscriptions_blank]
          exact ⟨rfl, .refl _⟩
  | deactivateAlertSubscription id =>
      cases id with
      | error rejection => exact ⟨rfl, .refl _⟩
      | ok id => exact deactivateSubscription_blank id
  | rotateAlertSubscriptionSecret id =>
      cases id with
      | error rejection => exact ⟨rfl, .refl _⟩
      | ok id => exact rotateSubscriptionSecret_blank ..
  | createContractLabel body =>
      cases body with
      | error rejection => exact ⟨rfl, .refl _⟩
      | ok body =>
          simp only [Request.run, extracted, createContractLabel]
          cases checkContractLabel body with
          | error e => exact ⟨rfl, .refl _⟩
          | ok checked => exact ⟨rfl, .refl _⟩
  | deleteContractLabel address =>
      cases address with
      | error rejection => exact ⟨rfl, .refl _⟩
      | ok address =>
          simp only [Request.run, extracted, deleteLabel]
          cases checkAddress address with
          | error e => exact ⟨rfl, .refl _⟩
          | ok lower => exact ⟨rfl, .refl _⟩

theorem handle_blank (env : ApiEnv) (key : String) (s : AdminState) (c : Call) :
    Blanked (handle env key s c) (handle env key s.blank c.blank) := by
  have hrun := run_blank env s c
  unfold handle
  cases hprotected : c.request.isProtected with
  | false =>
      have hprotected' : c.blank.request.isProtected = false := hprotected
      simp only [hprotected', Bool.false_eq_true, if_false]
      exact hrun
  | true =>
      have hprotected' : c.blank.request.isProtected = true := hprotected
      simp only [hprotected', if_true]
      cases hauth : adminAuth key c.authorization with
      | error e =>
          have hauth' : adminAuth key c.blank.authorization = .error e := hauth
          simp only [hauth']
          exact ⟨rfl, .refl _⟩
      | ok u =>
          have hauth' : adminAuth key c.blank.authorization = .ok u := hauth
          simp only [hauth']
          exact hrun

/-! ## Two runs -/

/-- Secrets stay secret. Two runs on the same requests, from tables that differ only in the
secrets and with different random bytes for the new ones, give the same answers, except that an
answer to a creation or to a rotation shows the secret it has just drawn; and their tables again
differ only in the secrets. In particular no listing depends on a secret. -/
theorem serve_secrets (env : ApiEnv) (key : String) {s t : AdminState} (h : s.blank = t.blank)
    {calls calls' : List Call} (hcalls : List.Forall₂ (fun c c' => c.blank = c'.blank) calls calls') :
    (serve (handle env key) s calls).1.blank = (serve (handle env key) t calls').1.blank ∧
      List.Forall₂ SameButSecret (serve (handle env key) s calls).2
        (serve (handle env key) t calls').2 := by
  refine serve_related (R := fun s t : AdminState => s.blank = t.blank) (B := SameButSecret) ?_ h
    hcalls
  intro s t c c' hst hcc
  obtain ⟨hstate, hanswer⟩ := handle_blank env key s c
  obtain ⟨hstate', hanswer'⟩ := handle_blank env key t c'
  rw [← hst, ← hcc] at hstate' hanswer'
  exact ⟨hstate.symm.trans hstate', hanswer.trans hanswer'.symm⟩

/-- The administrator of the sample with other secrets. -/
def sampleCalls' : List Call :=
  sampleCalls.map fun c => { c with entropy := c.entropy.map fun _ => Vector.replicate 32 9 }

theorem blank_sampleCalls' :
    List.Forall₂ (fun c c' => Call.blank c = Call.blank c') sampleCalls sampleCalls' := by
  rw [sampleCalls', List.forall₂_map_right_iff, List.forall₂_same]
  intro c _
  simp only [Call.blank, blankEntropy, Option.map_map]
  rfl

theorem serve_secrets_sample :
    List.Forall₂ SameButSecret (serve (handle sampleApiEnv "key") ⟨.empty, ∅⟩ sampleCalls).2
      (serve (handle sampleApiEnv "key") ⟨.empty, ∅⟩ sampleCalls').2 :=
  (serve_secrets sampleApiEnv "key" rfl blank_sampleCalls').2

end TxIndexer.Api.Admin
