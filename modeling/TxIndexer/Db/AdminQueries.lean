import TxIndexer.Db.RateQueries

/-!
# The tables of the admin API

`alert_subscription` with all its columns, its `CHECK` and the sequence of its ids, and
`contract_label`, with the statements of `crates/db/src/queries.rs` the API runs on them. A
statement that fails changes nothing but the sequence.
-/

namespace TxIndexer.Db

/-! ## Subscriptions -/

/-- A row of `alert_subscription` (`models.rs:548-572`). -/
structure SubscriptionRow where
  subscriptionId : Int
  errorCategory : Option ErrorCategory
  toAddr : Option String
  webhookUrl : String
  signingSecret : String
  active : Bool
  createdAt : Int
  subType : SubType
  thresholdCount : Option Int
  thresholdWindowSecs : Option Int
  debounceSecs : Option Int
  deriving DecidableEq, Repr

/-- `alert_subscription_rate_fields_chk` (`20240108000001_add_alert_subscription_rate.sql:22-33`). -/
def SubscriptionRow.RateFieldsChk (r : SubscriptionRow) : Prop :=
  (r.subType = .perEvent ∧ r.thresholdCount = none ∧ r.thresholdWindowSecs = none ∧
    r.debounceSecs = none) ∨
  (r.subType = .rateThreshold ∧ (∃ n ∈ r.thresholdCount, 0 < n) ∧
    (∃ n ∈ r.thresholdWindowSecs, 0 < n) ∧ ∃ n ∈ r.debounceSecs, 0 ≤ n)

instance : DecidablePred SubscriptionRow.RateFieldsChk :=
  fun _ => inferInstanceAs (Decidable (_ ∨ _))

/-- `UPDATE … SET active = FALSE` on one row. -/
def SubscriptionRow.deactivate (r : SubscriptionRow) : SubscriptionRow := { r with active := false }

/-- `UPDATE … SET signing_secret = …` on one row. -/
def SubscriptionRow.rotate (newSecret : String) (r : SubscriptionRow) : SubscriptionRow :=
  { r with signingSecret := newSecret }

@[simp] theorem SubscriptionRow.deactivate_subscriptionId (r : SubscriptionRow) :
    r.deactivate.subscriptionId = r.subscriptionId := rfl

@[simp] theorem SubscriptionRow.rotate_subscriptionId (newSecret : String)
    (r : SubscriptionRow) : (r.rotate newSecret).subscriptionId = r.subscriptionId := rfl

theorem SubscriptionRow.rateFieldsChk_deactivate (r : SubscriptionRow) (h : r.RateFieldsChk) :
    r.deactivate.RateFieldsChk := h

theorem SubscriptionRow.rateFieldsChk_rotate (newSecret : String) (r : SubscriptionRow)
    (h : r.RateFieldsChk) : (r.rotate newSecret).RateFieldsChk := h

/-- The table `alert_subscription`, and what `nextval` of its `BIGSERIAL` key gives next. -/
structure SubscriptionTable where
  table : Lib.KeyedTable SubscriptionRow.subscriptionId
  rateFieldsChk : ∀ r ∈ table, r.RateFieldsChk
  nextId : Int

namespace SubscriptionTable

/-- The table as the migrations leave it. -/
def empty : SubscriptionTable := ⟨∅, fun _ hr => absurd hr List.not_mem_nil, 1⟩

/-- An update that touches neither the key nor a rate column. -/
def update (t : SubscriptionTable) (p : SubscriptionRow → Bool)
    (f : SubscriptionRow → SubscriptionRow) (hkey : ∀ r, (f r).subscriptionId = r.subscriptionId)
    (hchk : ∀ r, r.RateFieldsChk → (f r).RateFieldsChk) : SubscriptionTable where
  table := t.table.modify p f hkey
  rateFieldsChk := by
    intro r' hr'
    obtain ⟨r, hr, rfl⟩ := List.mem_map.mp hr'
    split
    · exact hchk r (t.rateFieldsChk r hr)
    · exact t.rateFieldsChk r hr
  nextId := t.nextId

end SubscriptionTable

/-- The columns an `INSERT INTO alert_subscription` names. -/
structure NewSubscription where
  errorCategory : Option ErrorCategory
  toAddr : Option String
  webhookUrl : String
  signingSecret : String
  subType : SubType
  thresholdCount : Option Int
  thresholdWindowSecs : Option Int
  debounceSecs : Option Int
  deriving DecidableEq, Repr

/-- The row with the default values of the other columns. -/
def NewSubscription.row (new : NewSubscription) (subscriptionId now : Int) : SubscriptionRow where
  subscriptionId
  errorCategory := new.errorCategory
  toAddr := new.toAddr
  webhookUrl := new.webhookUrl
  signingSecret := new.signingSecret
  active := true
  createdAt := now
  subType := new.subType
  thresholdCount := new.thresholdCount
  thresholdWindowSecs := new.thresholdWindowSecs
  debounceSecs := new.debounceSecs

/-- The texts of the new row are texts of the database. -/
def NewSubscription.TextsFit (new : NewSubscription) : Prop :=
  Nullable TextFits new.toAddr ∧ TextFits new.webhookUrl ∧ TextFits new.signingSecret

instance : DecidablePred NewSubscription.TextsFit := fun _ => inferInstanceAs (Decidable (_ ∧ _))

/-- The largest `BIGINT`, where the sequence ends. -/
def maxBigint : Int := 2 ^ 63 - 1

/-- `INSERT INTO alert_subscription … RETURNING …`; `none` is an error of the database. The
sequence moves on before the constraints are checked. -/
def SubscriptionTable.insert (t : SubscriptionTable) (now : Int) (new : NewSubscription) :
    SubscriptionTable × Option SubscriptionRow :=
  if new.TextsFit ∧ t.nextId ≤ maxBigint then
    let row := new.row t.nextId now
    if h : row.RateFieldsChk ∧ row.subscriptionId ∉ t.table.keys then
      ({ table := t.table.insertNew [row]
         rateFieldsChk := by
          intro r hr
          rcases Lib.KeyedTable.mem_of_mem_insertNew hr with hr | hr
          · exact t.rateFieldsChk r hr
          · rw [List.mem_singleton.mp hr]
            exact h.1
         nextId := t.nextId + 1 }, some row)
    else ({ t with nextId := t.nextId + 1 }, none)
  else (t, none)

/-- `insert_alert_subscription` (`queries.rs:945-970`). -/
def insertAlertSubscription (t : SubscriptionTable) (now : Int)
    (errorCategory : Option ErrorCategory) (toAddr : Option String)
    (webhookUrl signingSecret : String) : SubscriptionTable × Option SubscriptionRow :=
  t.insert now {
    errorCategory, toAddr, webhookUrl, signingSecret
    subType := .perEvent
    thresholdCount := none
    thresholdWindowSecs := none
    debounceSecs := none }

/-- `insert_alert_subscription_rate` (`queries.rs:1134-1166`). -/
def insertAlertSubscriptionRate (t : SubscriptionTable) (now : Int)
    (errorCategory : Option ErrorCategory) (toAddr : Option String)
    (webhookUrl signingSecret : String) (thresholdCount thresholdWindowSecs debounceSecs : Int) :
    SubscriptionTable × Option SubscriptionRow :=
  t.insert now {
    errorCategory, toAddr, webhookUrl, signingSecret
    subType := .rateThreshold
    thresholdCount := some thresholdCount
    thresholdWindowSecs := some thresholdWindowSecs
    debounceSecs := some debounceSecs }

/-- `ORDER BY subscription_id DESC LIMIT $1`. -/
def listAlertSubscriptions (t : SubscriptionTable) (limit : Nat) : List SubscriptionRow :=
  (t.table.rows.mergeSort fun a b => decide (b.subscriptionId ≤ a.subscriptionId)).take limit

/-- `WHERE subscription_id = $1 AND active = TRUE`. -/
def SubscriptionRow.isActive (subscriptionId : Int) (r : SubscriptionRow) : Bool :=
  decide (r.subscriptionId = subscriptionId ∧ r.active = true)

namespace SubscriptionTable

/-- `deactivate_alert_subscription` (`queries.rs:993-1007`), with the number of rows updated. -/
def deactivateAlertSubscription (t : SubscriptionTable) (subscriptionId : Int) :
    SubscriptionTable × Nat :=
  (t.update (SubscriptionRow.isActive subscriptionId) SubscriptionRow.deactivate
      (fun _ => rfl) SubscriptionRow.rateFieldsChk_deactivate,
    t.table.rows.countP (SubscriptionRow.isActive subscriptionId))

/-- `rotate_alert_subscription_secret` (`queries.rs:1101-1123`), with the row updated, if
there is one. -/
def rotateAlertSubscriptionSecret (t : SubscriptionTable) (subscriptionId : Int)
    (newSecret : String) : SubscriptionTable × Option SubscriptionRow :=
  let rotated := t.update (SubscriptionRow.isActive subscriptionId)
    (SubscriptionRow.rotate newSecret) (fun _ => rfl)
    (SubscriptionRow.rateFieldsChk_rotate newSecret)
  (rotated, rotated.table.rows.find? (SubscriptionRow.isActive subscriptionId))

end SubscriptionTable

/-! ## Labels -/

/-- A row of `contract_label` (`models.rs:658-667`). -/
structure ContractLabel where
  address : String
  label : String
  ownerId : Option String
  createdAt : Int
  deriving DecidableEq, Repr

/-- The table `contract_label`. -/
abbrev LabelTable := Lib.KeyedTable ContractLabel.address

/-- `LOWER`, whose result on other characters is up to the locale of the database. -/
structure SqlLower where
  lower : String → String
  fixed : ∀ s : String, (∀ c ∈ s.toList, c.toNat < 128 ∧ ¬ ('A' ≤ c ∧ c ≤ 'Z')) → lower s = s

/-- `LOWER` in the `C` locale. -/
def asciiLower : SqlLower where
  lower s := String.ofList (s.toList.map Char.toLower)
  fixed s hs := by
    have hsame : s.toList.map Char.toLower = s.toList := by
      calc s.toList.map Char.toLower = s.toList.map id := by
            apply List.map_congr_left
            intro c hc
            exact dif_neg (hs c hc).2
        _ = s.toList := List.map_id _
    rw [hsame, String.ofList_toList]

/-- What an insert brings fits its columns. -/
def LabelTextsFit (address label : String) (ownerId : Option String) : Prop :=
  TextFits address ∧ TextFits label ∧ Nullable TextFits ownerId

instance (address label : String) (ownerId : Option String) :
    Decidable (LabelTextsFit address label ownerId) := inferInstanceAs (Decidable (_ ∧ _))

/-- `upsert_contract_label` (`queries.rs:1273-1292`), with the row inserted or updated; `none` is
an error of the database. -/
def upsertContractLabel (sql : SqlLower) (t : LabelTable) (now : Int) (address label : String)
    (ownerId : Option String) : LabelTable × Option ContractLabel :=
  if LabelTextsFit address label ownerId then
    let key := sql.lower address
    let upserted := (t.modify (fun r => decide (r.address = key))
      (fun r => { r with label, ownerId }) fun _ => rfl).insertNew [⟨key, label, ownerId, now⟩]
    (upserted, upserted.lookup key)
  else (t, none)

/-- An upsert leaves the new label and owner under the address, and the moment of the first
insert; it touches no other row. -/
theorem upsertContractLabel_lookup (sql : SqlLower) (t : LabelTable) (now : Int)
    {address label : String} {ownerId : Option String} (hfits : LabelTextsFit address label ownerId)
    (k : String) :
    (upsertContractLabel sql t now address label ownerId).1.lookup k =
      if k = sql.lower address then
        some ⟨k, label, ownerId, ((t.lookup k).map ContractLabel.createdAt).getD now⟩
      else t.lookup k := by
  simp only [upsertContractLabel, if_pos hfits, Lib.KeyedTable.lookup_insertNew,
    Lib.KeyedTable.lookup_modify]
  by_cases hk : k = sql.lower address
  · subst hk
    cases hrow : t.lookup (sql.lower address) with
    | none => simp
    | some r =>
        have hkey := (Lib.KeyedTable.lookup_eq_some.mp hrow).2
        simp [hkey]
  · have hne : sql.lower address ≠ k := fun h => hk h.symm
    cases hrow : t.lookup k with
    | none => simp [hk, hne]
    | some r =>
        have hkey := (Lib.KeyedTable.lookup_eq_some.mp hrow).2
        simp [hkey, hk]

/-- An upsert that fails changes nothing. -/
theorem upsertContractLabel_eq_none {sql : SqlLower} {t : LabelTable} {now : Int}
    {address label : String} {ownerId : Option String}
    (h : (upsertContractLabel sql t now address label ownerId).2 = none) :
    (upsertContractLabel sql t now address label ownerId).1 = t ∧
      ¬ LabelTextsFit address label ownerId := by
  by_cases hfits : LabelTextsFit address label ownerId
  · have hrow := upsertContractLabel_lookup sql t now hfits (sql.lower address)
    rw [if_pos rfl] at hrow
    have hsome : (upsertContractLabel sql t now address label ownerId).2 =
        (upsertContractLabel sql t now address label ownerId).1.lookup (sql.lower address) := by
      simp only [upsertContractLabel, if_pos hfits]
    rw [hsome, hrow] at h
    cases h
  · refine ⟨?_, hfits⟩
    simp only [upsertContractLabel, if_neg hfits]

/-- `delete_contract_label` (`queries.rs:1296-1302`), with the number of rows deleted. -/
def deleteContractLabel (sql : SqlLower) (t : LabelTable) (address : String) : LabelTable × Nat :=
  let key := fun r : ContractLabel => decide (r.address = sql.lower address)
  (t.deleteWhere key, t.rows.countP key)

end TxIndexer.Db
