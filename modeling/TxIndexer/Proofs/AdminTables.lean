import TxIndexer.Proofs.AdminEffects
import TxIndexer.Indexer.AlertRuns
import TxIndexer.Std.SqlText
import Std.Data.String.ToInt

/-!
# The tables under the admin API

What holds of the rows after any run of the admin API: they have passed the checks, so the
dispatcher can send every subscription; a subscription is never forgotten or brought back to
life; and its secret is the one its owner was last told.
-/

namespace TxIndexer.Api.Admin

open Db Lib

/-! ## Every row has passed the checks -/

/-- What the API checks of a subscription. -/
structure CheckedRow (net : NetText) (r : SubscriptionRow) : Prop where
  urlShort : r.webhookUrl.utf8ByteSize ≤ maxWebhookUrlLen
  urlSafe : webhookUrlIsSafe net r.webhookUrl = .ok ()
  toAddr : ∀ a ∈ r.toAddr, IsCheckedAddress a
  secret : ∃ key : Vector UInt8 32, r.signingSecret = String.ofList (bytesToHex key.toList)

/-- What the API checks of a label. -/
structure CheckedLabel (r : ContractLabel) : Prop where
  address : IsCheckedAddress r.address
  label : IsCheckedLabel r.label
  ownerId : ∀ o ∈ r.ownerId, IsCheckedLabel o

/-- All rows have passed the checks, and the ids were drawn from the sequence. -/
structure AdminState.Checked (net : NetText) (s : AdminState) : Prop where
  sequenced : s.subscriptions.Sequenced
  subscriptions : ∀ r ∈ s.subscriptions.table, CheckedRow net r
  labels : ∀ r ∈ s.labels, CheckedLabel r

variable {env : ApiEnv} {key : String} {s s' : AdminState} {c : Call} {response : Response}

theorem checkContractLabel_eq_ok {body : CreateLabelBody} {address label : String}
    {ownerId : Option String} (h : checkContractLabel body = .ok (address, label, ownerId)) :
    IsCheckedAddress address ∧ IsCheckedLabel label ∧ ∀ o ∈ ownerId, IsCheckedLabel o := by
  unfold checkContractLabel at h
  obtain ⟨_, haddress, h⟩ := bind_eq_ok.mp h
  obtain ⟨_, hlabel, h⟩ := bind_eq_ok.mp h
  obtain ⟨_, howner, h⟩ := bind_eq_ok.mp h
  cases h
  exact ⟨(checkAddress_eq_ok haddress).1, (checkLabel_eq_ok hlabel).1, checkOwnerId_eq_ok howner⟩

theorem isEvmAddress_digits {cs : List Char} (h : isEvmAddress cs = true) :
    ∃ digits, cs = '0' :: 'x' :: digits ∧ digits.length = 40 ∧
      ∀ c ∈ digits, isHexDigit c = true := by
  unfold isEvmAddress at h
  split at h
  · next digits =>
      rw [Bool.and_eq_true, beq_iff_eq, List.all_eq_true] at h
      exact ⟨digits, rfl, h.1, h.2⟩
  · cases h

/-- The characters of a checked address are ASCII and not upper-case letters. -/
theorem IsCheckedAddress.ascii {address : String} (h : IsCheckedAddress address) :
    ∀ c ∈ address.toList, c.toNat < 128 ∧ ¬ ('A' ≤ c ∧ c ≤ 'Z') := by
  obtain ⟨hevm, hlower⟩ := h
  intro c hc
  constructor
  · obtain ⟨digits, hcs, -, hdigits⟩ := isEvmAddress_digits hevm
    rw [hcs] at hc
    rcases List.mem_cons.mp hc with rfl | hc
    · decide
    · rcases List.mem_cons.mp hc with rfl | hc
      · decide
      · exact lt_of_le_of_lt (toNat_of_isHexDigit (hdigits c hc)).2 (by decide)
  · rintro ⟨hlow, hhigh⟩
    have hsame : c.toLower = c := List.map_inj_left.mp (hlower.trans (List.map_id _).symm) c hc
    unfold Char.toLower at hsame
    rw [dif_pos ⟨hlow, hhigh⟩] at hsame
    have hval := congrArg (fun d : Char => d.val) hsame
    grind

/-- A checked address is a text the database can hold. -/
theorem IsCheckedAddress.fits {address : String} (h : IsCheckedAddress address) :
    TextFits address := by
  intro hnul
  obtain ⟨digits, hcs, -, hdigits⟩ := isEvmAddress_digits h.1
  rw [hcs] at hnul
  rcases List.mem_cons.mp hnul with hnul | hnul
  · cases hnul
  · rcases List.mem_cons.mp hnul with hnul | hnul
    · cases hnul
    · exact absurd (toNat_of_isHexDigit (hdigits _ hnul)).1 (by decide)

theorem lower_of_checked (sql : SqlLower) {address : String} (h : IsCheckedAddress address) :
    sql.lower address = address := sql.fixed address h.ascii

/-! ### One request -/

theorem mem_upsertContractLabel {sql : SqlLower} {t : LabelTable} {now : Int}
    {address label : String} {ownerId : Option String} {r : ContractLabel}
    (h : r ∈ (upsertContractLabel sql t now address label ownerId).1) :
    r ∈ t ∨ (r.address = sql.lower address ∧ r.label = label ∧ r.ownerId = ownerId) := by
  by_cases hfits : LabelTextsFit address label ownerId
  · have hlookup := KeyedTable.lookup_eq_some.mpr ⟨h, rfl⟩
    rw [upsertContractLabel_lookup sql t now hfits] at hlookup
    split at hlookup
    · next hkey =>
        right
        have hrow := Option.some.inj hlookup
        rw [← hrow]
        exact ⟨hkey, rfl, rfl⟩
    · exact .inl (KeyedTable.lookup_eq_some.mp hlookup).1
  · rw [upsertContractLabel, if_neg hfits] at h
    exact .inl h

/-- The rows after a deactivation are the old ones, some of them deactivated. -/
theorem mem_deactivate {t : SubscriptionTable} {id : Int} {r' : SubscriptionRow} :
    r' ∈ (t.deactivateAlertSubscription id).1.table ↔
      ∃ r ∈ t.table, (if SubscriptionRow.isActive id r then r.deactivate else r) = r' :=
  SubscriptionTable.mem_update _ SubscriptionRow.rateFieldsChk_deactivate

/-- The rows after a rotation are the old ones, some of them with the new secret. -/
theorem mem_rotate {t : SubscriptionTable} {id : Int} {newSecret : String}
    {r' : SubscriptionRow} :
    r' ∈ (t.rotateAlertSubscriptionSecret id newSecret).1.table ↔
      ∃ r ∈ t.table, (if SubscriptionRow.isActive id r then r.rotate newSecret else r) = r' :=
  SubscriptionTable.mem_update _ (SubscriptionRow.rateFieldsChk_rotate newSecret)

/-- A request leaves every row checked. -/
theorem Effect.checked (h : Effect env s c s' response) (hs : s.Checked env.net) :
    s'.Checked env.net := by
  cases h with
  | quiet => exact hs
  | @created t row body sub hreq hcheck hinsert =>
      have hsound := checkSubscription_eq_ok hcheck
      obtain ⟨hrow, -, -, -, -, -, hnext⟩ := SubscriptionTable.insert_eq_some hinsert
      refine ⟨?_, ?_, hs.labels⟩
      · intro r hr
        show r.subscriptionId < t.nextId
        rw [hnext]
        rcases (SubscriptionTable.mem_of_insert hinsert).mp hr with hr | rfl
        · exact lt_trans (hs.sequenced r hr) (lt_add_one _)
        · rw [hrow]
          exact lt_add_one _
      · intro r hr
        rcases (SubscriptionTable.mem_of_insert hinsert).mp hr with hr | rfl
        · exact hs.subscriptions r hr
        · obtain ⟨buf, -, hsecret⟩ := hsound.secret
          rw [hrow]
          exact ⟨hsound.urlShort, hsound.urlSafe, hsound.toAddr, buf, hsecret⟩
  | deactivated hreq =>
      refine ⟨?_, ?_, hs.labels⟩
      · intro r' hr'
        obtain ⟨r, hr, rfl⟩ := mem_deactivate.mp hr'
        split
        · exact hs.sequenced r hr
        · exact hs.sequenced r hr
      · intro r' hr'
        obtain ⟨r, hr, rfl⟩ := mem_deactivate.mp hr'
        obtain ⟨hshort, hsafe, hto, hsecret⟩ := hs.subscriptions r hr
        split
        · exact ⟨hshort, hsafe, hto, hsecret⟩
        · exact ⟨hshort, hsafe, hto, hsecret⟩
  | @rotated id buf row hreq hentropy hrow =>
      refine ⟨?_, ?_, hs.labels⟩
      · intro r' hr'
        obtain ⟨r, hr, rfl⟩ := mem_rotate.mp hr'
        split
        · exact hs.sequenced r hr
        · exact hs.sequenced r hr
      · intro r' hr'
        obtain ⟨r, hr, rfl⟩ := mem_rotate.mp hr'
        obtain ⟨hshort, hsafe, hto, hsecret⟩ := hs.subscriptions r hr
        split
        · exact ⟨hshort, hsafe, hto, buf, rfl⟩
        · exact ⟨hshort, hsafe, hto, hsecret⟩
  | labelled hreq hcheck hrow =>
      obtain ⟨haddress, hlabel, howner⟩ := checkContractLabel_eq_ok hcheck
      refine ⟨hs.sequenced, hs.subscriptions, ?_⟩
      intro r hr
      rcases mem_upsertContractLabel hr with hr | ⟨hkey, hlabel', howner'⟩
      · exact hs.labels r hr
      · constructor
        · rw [hkey, lower_of_checked env.sql haddress]
          exact haddress
        · rw [hlabel']
          exact hlabel
        · rw [howner']
          exact howner
  | unlabelled hreq hcheck =>
      refine ⟨hs.sequenced, hs.subscriptions, ?_⟩
      intro r hr
      exact hs.labels r (KeyedTable.mem_deleteWhere.mp hr).1

theorem handle_checked (hs : s.Checked env.net) : (handle env key s c).1.Checked env.net :=
  (handle_effect hs.sequenced).checked hs

/-- Every run leaves every row checked. -/
theorem serve_checked (key : String) (hs : s.Checked env.net) (calls : List Call) :
    (serve (handle env key) s calls).1.Checked env.net :=
  serve_invariant hs fun _ _ _ h => handle_checked h

/-- The dispatcher's own checks of a checked row pass. -/
theorem CheckedRow.prepareRequest {κ : Type} {alerts : Indexer.AlertEnv κ} {net : NetText}
    {r : SubscriptionRow} (hnet : alerts.net = net) (h : CheckedRow net r) (txHash : String) :
    ∃ request, Indexer.prepareRequest alerts
      ⟨r.subscriptionId, txHash, r.webhookUrl, r.signingSecret⟩ = .ok request := by
  obtain ⟨key, hkey⟩ := h.secret
  have hdecode : hexDecode r.signingSecret.toList = some key.toList := by
    rw [hkey, String.toList_ofList, hexDecode_bytesToHex]
  exact ⟨_, Indexer.prepareRequest_eq_ok (hnet ▸ h.urlSafe) hdecode⟩

/-- The texts of a checked subscription fit the database, the URL apart. -/
theorem CheckedSubscription.Sound.textsFit {net : NetText} {entropy : Entropy}
    {webhookUrl : String} {sub : CheckedSubscription} (h : sub.Sound net entropy webhookUrl) :
    (sub.new webhookUrl).TextsFit ↔ TextFits webhookUrl := by
  obtain ⟨buf, -, hsecret⟩ := h.secret
  have hto : Nullable TextFits sub.toAddr := fun a ha => (h.toAddr a ha).fits
  have hsecretFits : TextFits sub.signingSecret := by
    rw [hsecret, TextFits, String.toList_ofList]
    exact nul_not_mem_bytesToHex _
  exact ⟨fun hfits => hfits.2.1, fun hfits => ⟨hto, hfits, hsecretFits⟩⟩

/-- While the ids come from the sequence, a checked subscription is stored, unless its URL has a
NUL character in it or the sequence is at its end. -/
theorem createAlertSubscription_checked (hs : s.Checked env.net) {now : Int} {entropy : Entropy}
    {body : CreateBody} {sub : CheckedSubscription}
    (hcheck : checkSubscription env.net entropy body = .ok sub) :
    (createAlertSubscription env s now entropy body).2 =
      if TextFits body.webhookUrl ∧ s.subscriptions.nextId ≤ maxBigint then
        .ok ⟨201, .json (apiResponse (alertSubscriptionCreatedJson env.renderTime
          ((sub.new body.webhookUrl).row s.subscriptions.nextId now)))⟩
      else .error databaseError := by
  have hsound := checkSubscription_eq_ok hcheck
  rw [createAlertSubscription_eq env s now entropy body hcheck]
  cases hinsert : s.subscriptions.insert now (sub.new body.webhookUrl) with
  | mk t result =>
      cases result with
      | some row =>
          obtain ⟨hrow, -, hfits, hnext, -⟩ := SubscriptionTable.insert_eq_some hinsert
          rw [if_pos ⟨hsound.textsFit.mp hfits, hnext⟩, hrow]
          rfl
      | none =>
          obtain ⟨-, hreason⟩ := SubscriptionTable.insert_eq_none hs.sequenced hinsert
            (hsound.rateFieldsChk _ _)
          rw [if_neg]
          · rfl
          · rintro ⟨hfits, hnext⟩
            rcases hreason with hreason | hreason
            · exact hreason (hsound.textsFit.mpr hfits)
            · exact absurd hnext (not_le.mpr hreason)

/-- In every state the admin API reaches, each row has passed the checks, so that no send is
ever given up for its URL or its secret; and a subscription that passes them is stored: neither
the primary key nor the `CHECK` of the table refuses it. -/
theorem serve_sendable (env : ApiEnv) (key : String) {s : AdminState} (hs : s.Checked env.net)
    (calls : List Call) :
    (serve (handle env key) s calls).1.Checked env.net ∧
      (∀ {κ : Type} (alerts : Indexer.AlertEnv κ), alerts.net = env.net →
        ∀ r ∈ (serve (handle env key) s calls).1.subscriptions.table, ∀ txHash,
          ∃ request, Indexer.prepareRequest alerts
            ⟨r.subscriptionId, txHash, r.webhookUrl, r.signingSecret⟩ = .ok request) ∧
      ∀ now entropy body sub, checkSubscription env.net entropy body = .ok sub →
        TextFits body.webhookUrl →
        (serve (handle env key) s calls).1.subscriptions.nextId ≤ maxBigint →
        (createAlertSubscription env (serve (handle env key) s calls).1 now entropy body).2 =
          .ok ⟨201, .json (apiResponse (alertSubscriptionCreatedJson env.renderTime
            ((sub.new body.webhookUrl).row
              (serve (handle env key) s calls).1.subscriptions.nextId now)))⟩ := by
  have hchecked := serve_checked key hs calls
  refine ⟨hchecked, ?_, ?_⟩
  · intro κ alerts hnet r hr txHash
    exact (hchecked.subscriptions r hr).prepareRequest hnet txHash
  · intro now entropy body sub hcheck hfits hnext
    rw [createAlertSubscription_checked hchecked hcheck, if_pos ⟨hfits, hnext⟩]

/-- The environment of the sample dispatchers, and plain times. -/
def sampleApiEnv : ApiEnv where
  net := Indexer.sampleEnv.net
  sql := asciiLower
  renderTime := toString

/-- An administrator subscribes, rotates the secret and labels a contract. -/
def sampleCalls : List Call :=
  let authorization := some (bearer "key")
  [⟨10, authorization, some (Vector.replicate 32 0x0b), .createAlertSubscription
      (.ok ⟨"https://example.com/hook", none, none, none, none, none, none⟩)⟩,
    ⟨20, authorization, some (Vector.replicate 32 0x0c), .rotateAlertSubscriptionSecret (.ok 1)⟩,
    ⟨30, authorization, none, .createContractLabel
      (.ok ⟨"0xE592427A0AEce92De3Edee1F18E0157C05861564", " Router ", none⟩)⟩]

theorem checked_empty (net : NetText) : AdminState.Checked net ⟨.empty, ∅⟩ :=
  ⟨fun _ hr => absurd hr List.not_mem_nil, fun _ hr => absurd hr List.not_mem_nil,
    fun _ hr => absurd hr List.not_mem_nil⟩

theorem serve_sendable_sample :
    (serve (handle sampleApiEnv "key") ⟨.empty, ∅⟩ sampleCalls).1.Checked sampleApiEnv.net :=
  (serve_sendable sampleApiEnv "key" (checked_empty _) sampleCalls).1

/-! ## A subscription's life -/

/-- What may become of a row: it keeps all but its flag and its secret, an inactive row keeps
these too, and it is never active again. -/
structure Later (r r' : SubscriptionRow) : Prop where
  same : { r with signingSecret := r'.signingSecret, active := r'.active } = r'
  ended : r.active = false → r' = r

theorem Later.refl (r : SubscriptionRow) : Later r r := ⟨rfl, fun _ => rfl⟩

theorem Later.trans {r r' r'' : SubscriptionRow} (h : Later r r') (h' : Later r' r'') :
    Later r r'' := by
  constructor
  · rw [← h'.same, ← h.same]
  · intro hended
    have hsame := h.ended hended
    rw [hsame] at h'
    exact h'.ended hended

theorem Later.deactivate (id : Int) (r : SubscriptionRow) :
    Later r (if SubscriptionRow.isActive id r then r.deactivate else r) := by
  split
  · next hactive =>
      refine ⟨rfl, ?_⟩
      intro hended
      rw [SubscriptionRow.isActive, hended] at hactive
      simp at hactive
  · exact .refl r

theorem Later.rotate (id : Int) (newSecret : String) (r : SubscriptionRow) :
    Later r (if SubscriptionRow.isActive id r then r.rotate newSecret else r) := by
  split
  · next hactive =>
      refine ⟨rfl, ?_⟩
      intro hended
      rw [SubscriptionRow.isActive, hended] at hactive
      simp at hactive
  · exact .refl r

/-- Every subscription is still there, and the new ones have new ids. -/
structure Kept (t t' : SubscriptionTable) : Prop where
  sequence : t.nextId ≤ t'.nextId
  kept : ∀ r ∈ t.table, ∃ r' ∈ t'.table, Later r r'
  origin : ∀ r' ∈ t'.table, (∃ r ∈ t.table, Later r r') ∨ t.nextId ≤ r'.subscriptionId

theorem Kept.refl (t : SubscriptionTable) : Kept t t :=
  ⟨le_refl _, fun r hr => ⟨r, hr, .refl r⟩, fun r hr => .inl ⟨r, hr, .refl r⟩⟩

theorem Kept.trans {t t' t'' : SubscriptionTable} (h : Kept t t') (h' : Kept t' t'') :
    Kept t t'' := by
  refine ⟨h.sequence.trans h'.sequence, ?_, ?_⟩
  · intro r hr
    obtain ⟨r', hr', hlater⟩ := h.kept r hr
    obtain ⟨r'', hr'', hlater'⟩ := h'.kept r' hr'
    exact ⟨r'', hr'', hlater.trans hlater'⟩
  · intro r'' hr''
    rcases h'.origin r'' hr'' with ⟨r', hr', hlater'⟩ | hnew
    · rcases h.origin r' hr' with ⟨r, hr, hlater⟩ | hnew
      · exact .inl ⟨r, hr, hlater.trans hlater'⟩
      · right
        rw [← hlater'.same]
        exact hnew
    · exact .inr (h.sequence.trans hnew)

/-- An update that lets every row live on keeps the table. -/
theorem kept_of_mem_iff {t t' : SubscriptionTable} {f : SubscriptionRow → SubscriptionRow}
    (hnext : t'.nextId = t.nextId) (hrows : ∀ r', r' ∈ t'.table ↔ ∃ r ∈ t.table, f r = r')
    (hlater : ∀ r, Later r (f r)) : Kept t t' := by
  refine ⟨hnext.ge, ?_, ?_⟩
  · intro r hr
    exact ⟨f r, (hrows _).mpr ⟨r, hr, rfl⟩, hlater r⟩
  · intro r' hr'
    obtain ⟨r, hr, rfl⟩ := (hrows r').mp hr'
    exact .inl ⟨r, hr, hlater r⟩

theorem Effect.kept (h : Effect env s c s' response) : Kept s.subscriptions s'.subscriptions := by
  cases h with
  | quiet => exact .refl _
  | created hreq hcheck hinsert =>
      obtain ⟨hrow, -, -, -, -, -, hnext⟩ := SubscriptionTable.insert_eq_some hinsert
      refine ⟨?_, ?_, ?_⟩
      · exact hnext ▸ le_of_lt (lt_add_one _)
      · intro r hr
        exact ⟨r, (SubscriptionTable.mem_of_insert hinsert).mpr (.inl hr), .refl r⟩
      · intro r hr
        rcases (SubscriptionTable.mem_of_insert hinsert).mp hr with hr | rfl
        · exact .inl ⟨r, hr, .refl r⟩
        · right
          rw [hrow]
          exact le_refl _
  | deactivated hreq => exact kept_of_mem_iff rfl (fun _ => mem_deactivate) (.deactivate _)
  | rotated hreq hentropy hrow => exact kept_of_mem_iff rfl (fun _ => mem_rotate) (.rotate _ _)
  | labelled | unlabelled => exact .refl _

/-- Over any run of the admin API no subscription is forgotten: it keeps its id, its filters, its
URL, its type and its rate, is never active again once it is deactivated, and keeps its secret
from then on. A subscription that is new has an id that was never given out before. -/
theorem serve_kept (env : ApiEnv) (key : String) {s : AdminState} (hs : s.Checked env.net)
    (calls : List Call) :
    Kept s.subscriptions (serve (handle env key) s calls).1.subscriptions := by
  refine (serve_invariant (P := fun s' : AdminState =>
    s'.Checked env.net ∧ Kept s.subscriptions s'.subscriptions) ⟨hs, .refl _⟩ ?_).2
  rintro s' c - ⟨hchecked, hkept⟩
  exact ⟨handle_checked hchecked, hkept.trans (handle_effect hchecked.sequenced).kept⟩

theorem serve_kept_sample :
    Kept .empty (serve (handle sampleApiEnv "key") ⟨.empty, ∅⟩ sampleCalls).1.subscriptions :=
  serve_kept sampleApiEnv "key" (checked_empty _) sampleCalls

/-! ## The secret its owner knows -/

/-- The secret the answers last showed for a subscription. -/
def lastTold (id : Int) (answers : List Response) : Option String :=
  (answers.filterMap told).reverse.lookup (toString id)

theorem lastTold_concat_of_none {id : Int} {answers : List Response} {answer : Response}
    (h : told answer = none) : lastTold id (answers ++ [answer]) = lastTold id answers := by
  simp only [lastTold, List.filterMap_append, List.filterMap_cons, h, List.filterMap_nil,
    List.append_nil]

theorem lastTold_concat_of_some {id id' : Int} {secret : String} {answers : List Response}
    {answer : Response} (h : told answer = some (toString id', secret)) :
    lastTold id (answers ++ [answer]) =
      if id = id' then some secret else lastTold id answers := by
  have hkey : (toString id == toString id') = decide (id = id') := by
    rw [Bool.eq_iff_iff, beq_iff_eq, decide_eq_true_eq]
    exact Int.repr_inj
  simp only [lastTold, List.filterMap_append, List.filterMap_cons, h, List.filterMap_nil,
    List.reverse_append, List.reverse_cons, List.reverse_nil, List.nil_append,
    List.singleton_append, List.lookup_cons, hkey]
  by_cases hid : id = id'
  · simp [hid]
  · simp [hid]

/-- The secret of a row: the one last shown for it, or else the one it had before the run. -/
def Known (before : SubscriptionTable) (answers : List Response) (r : SubscriptionRow) : Prop :=
  lastTold r.subscriptionId answers = some r.signingSecret ∨
    lastTold r.subscriptionId answers = none ∧ ∃ r₀ ∈ before.table,
      r₀.subscriptionId = r.subscriptionId ∧ r₀.signingSecret = r.signingSecret

/-- The row a rotation returns is the one row with the id, which is active, with the new secret. -/
theorem rotate_eq_some {t : SubscriptionTable} {id : Int} {newSecret : String}
    {row : SubscriptionRow} (h : (t.rotateAlertSubscriptionSecret id newSecret).2 = some row) :
    row.subscriptionId = id ∧ ∀ r ∈ t.table, r.subscriptionId = id →
      SubscriptionRow.isActive id r = true ∧ row = r.rotate newSecret := by
  have hmem : row ∈ (t.rotateAlertSubscriptionSecret id newSecret).1.table :=
    List.mem_of_find?_eq_some h
  have hactive : SubscriptionRow.isActive id row = true := List.find?_some h
  have hrowId : row.subscriptionId = id := (of_decide_eq_true hactive).1
  refine ⟨hrowId, ?_⟩
  intro r hr hid
  obtain ⟨r₀, hr₀, hrow⟩ := mem_rotate.mp hmem
  have hid₀ : r₀.subscriptionId = id := by
    rw [← hrowId, ← hrow]
    split <;> rfl
  have hsame : r₀ = r := List.inj_on_of_nodup_map t.table.nodup hr₀ hr (hid₀.trans hid.symm)
  subst hsame
  cases hr₀active : SubscriptionRow.isActive id r₀ with
  | true =>
      rw [hr₀active, if_pos rfl] at hrow
      exact ⟨rfl, hrow.symm⟩
  | false =>
      rw [hr₀active] at hrow
      simp only [Bool.false_eq_true, if_false] at hrow
      rw [← hrow, hr₀active] at hactive
      cases hactive

theorem Effect.known (h : Effect env s c s' response) (hs : s.Checked env.net)
    {before : SubscriptionTable} {answers : List Response}
    (hknown : ∀ r ∈ s.subscriptions.table, Known before answers r) :
    ∀ r ∈ s'.subscriptions.table, Known before (answers ++ [response]) r := by
  have hquiet : told response = none → ∀ r ∈ s.subscriptions.table,
      Known before (answers ++ [response]) r := by
    intro hnone r hr
    rw [Known, lastTold_concat_of_none hnone]
    exact hknown r hr
  cases h with
  | quiet hnone => exact hquiet hnone
  | labelled hreq hcheck hrow => exact hquiet (told_label _ _ _)
  | unlabelled hreq hcheck => exact hquiet rfl
  | deactivated hreq =>
      intro r' hr'
      obtain ⟨r, hr, rfl⟩ := mem_deactivate.mp hr'
      have hr := hquiet rfl r hr
      split
      · exact hr
      · exact hr
  | @created t row body sub hreq hcheck hinsert =>
      have hrow := (SubscriptionTable.insert_eq_some hinsert).1
      intro r hr
      rw [Known, lastTold_concat_of_some (told_created 201 env.renderTime row)]
      rcases (SubscriptionTable.mem_of_insert hinsert).mp hr with hr | rfl
      · have hlt := hs.sequenced r hr
        have hne : r.subscriptionId ≠ row.subscriptionId := by
          rw [hrow]
          exact ne_of_lt hlt
        rw [if_neg hne]
        exact hknown r hr
      · exact .inl (if_pos rfl)
  | @rotated id buf row hreq hentropy hrow =>
      obtain ⟨hrowId, hunique⟩ := rotate_eq_some hrow
      intro r' hr'
      obtain ⟨r, hr, rfl⟩ := mem_rotate.mp hr'
      rw [Known, lastTold_concat_of_some (told_created 200 env.renderTime row), hrowId]
      by_cases hid : r.subscriptionId = id
      · obtain ⟨hactive, hrow⟩ := hunique r hr hid
        rw [if_pos hactive]
        left
        rw [SubscriptionRow.rotate_subscriptionId, if_pos hid, hrow]
      · have hinactive : SubscriptionRow.isActive id r = false := by
          simp [SubscriptionRow.isActive, hid]
        rw [hinactive]
        simp only [Bool.false_eq_true, if_false]
        rw [if_neg hid]
        exact hknown r hr

/-- At any moment of a run the secret of a subscription, with which its webhooks are signed, is
the one that the answers last showed for it, or the one it had before the run if they have not
shown any. -/
theorem serve_known (env : ApiEnv) (key : String) {s : AdminState} (hs : s.Checked env.net)
    (calls : List Call) :
    ∀ r ∈ (serve (handle env key) s calls).1.subscriptions.table,
      Known s.subscriptions (serve (handle env key) s calls).2 r := by
  induction calls using List.reverseRecOn with
  | nil =>
      intro r hr
      exact .inr ⟨rfl, r, hr, rfl, rfl⟩
  | append_singleton calls c ih =>
      have hchecked := serve_checked key hs calls
      rw [serve_concat]
      exact (handle_effect hchecked.sequenced).known hchecked ih

theorem serve_known_sample :
    ∃ r ∈ (serve (handle sampleApiEnv "key") ⟨.empty, ∅⟩ sampleCalls).1.subscriptions.table,
      Known .empty (serve (handle sampleApiEnv "key") ⟨.empty, ∅⟩ sampleCalls).2 r := by
  have hsome : (serve (handle sampleApiEnv "key") ⟨.empty, ∅⟩
      sampleCalls).1.subscriptions.table.rows ≠ [] := by
    decide +kernel
  obtain ⟨r, hr⟩ := List.exists_mem_of_ne_nil _ hsome
  exact ⟨r, hr, serve_known sampleApiEnv "key" (checked_empty _) sampleCalls r hr⟩

end TxIndexer.Api.Admin
