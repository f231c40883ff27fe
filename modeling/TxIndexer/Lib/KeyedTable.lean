import Mathlib.Data.List.Nodup

/-!
# Tables with a unique key

A table is its rows in insertion order together with the proof that no two rows share a key,
so a table that breaks its primary key cannot be built. `insertNew` is the insert that skips
the rows whose key is taken, by the table or by an earlier row of the same batch; `modify` and
`deleteWhere` are the key-preserving update and the delete.
-/

namespace TxIndexer.Lib

variable {α κ : Type} [DecidableEq κ]

/-- The rows of a batch that an insert skipping taken keys adds, `seen` being the taken keys. -/
def freshRows (key : α → κ) : List κ → List α → List α
  | _, [] => []
  | seen, r :: rs =>
      if key r ∈ seen then freshRows key seen rs
      else r :: freshRows key (key r :: seen) rs

theorem freshRows_subset (key : α → κ) :
    ∀ (seen : List κ) (rs : List α), freshRows key seen rs ⊆ rs
  | _, [] => by simp [freshRows]
  | seen, r :: rs => by
      unfold freshRows
      split
      · exact List.Subset.trans (freshRows_subset key seen rs) (List.subset_cons_self r rs)
      · exact List.cons_subset_cons r (freshRows_subset key (key r :: seen) rs)

/-- The keys a batch adds are new and pairwise distinct. -/
theorem freshRows_keys (key : α → κ) (rs : List α) :
    ∀ seen : List κ, ((freshRows key seen rs).map key).Nodup ∧
      ∀ r ∈ freshRows key seen rs, key r ∉ seen := by
  induction rs with
  | nil => intro seen; simp [freshRows]
  | cons r rs ih =>
      intro seen
      unfold freshRows
      split
      · exact ih seen
      · rename_i hr
        obtain ⟨hnodup, hnew⟩ := ih (key r :: seen)
        refine ⟨?_, ?_⟩
        · rw [List.map_cons, List.nodup_cons]
          refine ⟨?_, hnodup⟩
          intro hmem
          obtain ⟨r', hr', hkey⟩ := List.mem_map.mp hmem
          exact hnew r' hr' (hkey ▸ List.mem_cons_self)
        · intro r' hr'
          rcases List.mem_cons.mp hr' with rfl | hr'
          · exact hr
          · exact fun h => hnew r' hr' (List.mem_cons_of_mem _ h)

/-- Of the rows with key `k` a batch adds the first, unless `k` is taken. -/
theorem freshRows_find? (key : α → κ) (k : κ) (rs : List α) :
    ∀ seen : List κ, (freshRows key seen rs).find? (fun r => key r = k) =
      if k ∈ seen then none else rs.find? (fun r => key r = k) := by
  induction rs with
  | nil => intro seen; simp [freshRows]
  | cons r rs ih =>
      intro seen
      unfold freshRows
      by_cases hr : key r ∈ seen
      · rw [if_pos hr, ih seen]
        by_cases hk : k ∈ seen
        · simp [hk]
        · have hne : key r ≠ k := fun h => hk (h ▸ hr)
          simp [hk, hne]
      · rw [if_neg hr]
        by_cases hkr : key r = k
        · subst hkr
          simp [hr]
        · have hmem : k ∈ key r :: seen ↔ k ∈ seen := by simp [Ne.symm hkr]
          simp [hkr, ih, hmem]

/-- A batch whose keys are all taken adds nothing. -/
theorem freshRows_eq_nil (key : α → κ) :
    ∀ (seen : List κ) (rs : List α), (∀ r ∈ rs, key r ∈ seen) → freshRows key seen rs = []
  | _, [], _ => rfl
  | seen, r :: rs, h => by
      unfold freshRows
      rw [if_pos (h r List.mem_cons_self)]
      exact freshRows_eq_nil key seen rs fun r' hr' => h r' (List.mem_cons_of_mem r hr')

/-- A batch of new and distinct keys is added whole. -/
theorem freshRows_eq_self (key : α → κ) (rs : List α) : ∀ seen : List κ, (rs.map key).Nodup →
    (∀ r ∈ rs, key r ∉ seen) → freshRows key seen rs = rs := by
  induction rs with
  | nil => intro seen _ _; rfl
  | cons r rs ih =>
      intro seen hnodup hnew
      rw [List.map_cons, List.nodup_cons] at hnodup
      unfold freshRows
      rw [if_neg (hnew r List.mem_cons_self), ih (key r :: seen) hnodup.2]
      intro r' hr' hmem
      rcases List.mem_cons.mp hmem with heq | hseen
      · exact hnodup.1 (heq ▸ List.mem_map_of_mem hr')
      · exact hnew r' (List.mem_cons_of_mem r hr') hseen

/-- Every key of a batch is taken once the batch is in. -/
theorem freshRows_covers (key : α → κ) (rs : List α) :
    ∀ seen : List κ, ∀ r ∈ rs, key r ∈ seen ∨ key r ∈ (freshRows key seen rs).map key := by
  induction rs with
  | nil => intro seen r hr; cases hr
  | cons r rs ih =>
      intro seen r' hr'
      unfold freshRows
      rcases List.mem_cons.mp hr' with rfl | hr'
      · by_cases h : key r' ∈ seen
        · exact .inl h
        · right; simp [h]
      · split
        · exact ih seen r' hr'
        · rcases ih (key r :: seen) r' hr' with h | h
          · rcases List.mem_cons.mp h with h | h
            · right; simp [h]
            · exact .inl h
          · right; rw [List.map_cons]; exact List.mem_cons_of_mem _ h

/-- Rows in insertion order, no two with the same key. -/
structure KeyedTable (key : α → κ) where
  rows : List α
  nodup : (rows.map key).Nodup

namespace KeyedTable

variable {key : α → κ}

omit [DecidableEq κ] in
@[ext] theorem ext {t u : KeyedTable key} (h : t.rows = u.rows) : t = u := by
  cases t; cases u; simp_all

instance : EmptyCollection (KeyedTable key) := ⟨⟨[], List.nodup_nil⟩⟩

instance : Membership α (KeyedTable key) := ⟨fun t r => r ∈ t.rows⟩

omit [DecidableEq κ] in
theorem mem_def {t : KeyedTable key} {r : α} : r ∈ t ↔ r ∈ t.rows := Iff.rfl

/-- The keys in use. -/
def keys (t : KeyedTable key) : List κ := t.rows.map key

/-- The row with key `k`. -/
def lookup (t : KeyedTable key) (k : κ) : Option α := t.rows.find? fun r => key r = k

/-- The rows of a batch that `insertNew` adds to `t`. -/
def newRows (t : KeyedTable key) (rs : List α) : List α := freshRows key t.keys rs

/-- Insert a batch, skipping the rows whose key is taken. -/
def insertNew (t : KeyedTable key) (rs : List α) : KeyedTable key where
  rows := t.rows ++ t.newRows rs
  nodup := by
    obtain ⟨hnodup, hnew⟩ := freshRows_keys key rs t.keys
    rw [List.map_append, List.nodup_append]
    refine ⟨t.nodup, hnodup, ?_⟩
    rintro k hk k' hk' rfl
    obtain ⟨r, hr, rfl⟩ := List.mem_map.mp hk'
    exact hnew r hr hk

/-- Rewrite the rows that meet `p` by `f`, which keeps the key. -/
def modify (t : KeyedTable key) (p : α → Bool) (f : α → α) (hf : ∀ r, key (f r) = key r) :
    KeyedTable key where
  rows := t.rows.map fun r => if p r then f r else r
  nodup := by
    have hkey : key ∘ (fun r => if p r then f r else r) = key := by
      funext r
      simp only [Function.comp_apply]
      split
      · exact hf r
      · rfl
    rw [List.map_map, hkey]
    exact t.nodup

/-- Delete the rows that meet `p`. -/
def deleteWhere (t : KeyedTable key) (p : α → Bool) : KeyedTable key where
  rows := t.rows.filter fun r => !p r
  nodup := t.nodup.sublist (List.filter_sublist.map key)

@[simp] theorem insertNew_rows (t : KeyedTable key) (rs : List α) :
    (t.insertNew rs).rows = t.rows ++ t.newRows rs := rfl

@[simp] theorem newRows_nil (t : KeyedTable key) : t.newRows [] = [] := rfl

@[simp] theorem insertNew_nil (t : KeyedTable key) : t.insertNew [] = t := by
  ext1; simp

omit [DecidableEq κ] in
theorem mem_deleteWhere {t : KeyedTable key} {p : α → Bool} {r : α} :
    r ∈ t.deleteWhere p ↔ r ∈ t ∧ p r = false := by
  simp [mem_def, deleteWhere]

omit [DecidableEq κ] in
theorem deleteWhere_eq_self {t : KeyedTable key} {p : α → Bool} (h : ∀ r ∈ t, p r = false) :
    t.deleteWhere p = t := by
  ext1
  rw [deleteWhere, List.filter_eq_self]
  intro r hr
  rw [h r hr]
  rfl

theorem mem_insertNew {t : KeyedTable key} {rs : List α} {r : α} :
    r ∈ t.insertNew rs ↔ r ∈ t ∨ r ∈ t.newRows rs := by
  simp [mem_def]

/-- A row of the table after an insert was there before or comes from the batch. -/
theorem mem_of_mem_insertNew {t : KeyedTable key} {rs : List α} {r : α}
    (h : r ∈ t.insertNew rs) : r ∈ t ∨ r ∈ rs :=
  (mem_insertNew.mp h).imp_right fun h => freshRows_subset key _ _ h

theorem lookup_eq_none {t : KeyedTable key} {k : κ} : t.lookup k = none ↔ k ∉ t.keys := by
  simp [lookup, keys]

/-- The row with a key is the only row with that key. -/
theorem lookup_eq_some {t : KeyedTable key} {k : κ} {r : α} :
    t.lookup k = some r ↔ r ∈ t ∧ key r = k := by
  constructor
  · intro h
    have hkey := List.find?_some h
    exact ⟨List.mem_of_find?_eq_some h, by simpa using hkey⟩
  · rintro ⟨hmem, rfl⟩
    cases hfind : t.lookup (key r) with
    | none =>
        exact absurd (List.mem_map_of_mem hmem) (lookup_eq_none.mp hfind)
    | some r' =>
        have hkey : key r' = key r := by simpa using List.find?_some hfind
        have hmem' : r' ∈ t.rows := List.mem_of_find?_eq_some hfind
        rw [List.inj_on_of_nodup_map t.nodup hmem' hmem hkey]

/-- The rows with a key are the one it finds, if any. -/
theorem filter_key (t : KeyedTable key) (k : κ) :
    t.rows.filter (fun r => key r = k) = (t.lookup k).toList := by
  cases hk : t.lookup k with
  | none =>
      rw [Option.toList_none, List.filter_eq_nil_iff]
      intro r hr heq
      exact lookup_eq_none.mp hk (List.mem_map.mpr ⟨r, hr, of_decide_eq_true heq⟩)
  | some r =>
      obtain ⟨hr, rfl⟩ := lookup_eq_some.mp hk
      have hnodup : (t.rows.filter fun r' => key r' = key r).Nodup :=
        (List.Nodup.of_map key t.nodup).filter _
      rw [Option.toList_some]
      refine List.perm_singleton.mp ((List.perm_ext_iff_of_nodup hnodup
        (List.nodup_singleton r)).mpr fun r' => ?_)
      rw [List.mem_filter, decide_eq_true_eq, List.mem_singleton]
      constructor
      · rintro ⟨hr', hkey⟩
        exact List.inj_on_of_nodup_map t.nodup hr' hr hkey
      · rintro rfl
        exact ⟨hr, rfl⟩

/-- Deleting by a key leaves the other keys what they find. -/
theorem lookup_deleteWhere_key (t : KeyedTable key) (k k' : κ) :
    (t.deleteWhere fun r => decide (key r = k)).lookup k' =
      if k' = k then none else t.lookup k' := by
  split
  · next hk =>
      subst hk
      rw [lookup_eq_none]
      intro hmem
      obtain ⟨r, hr, hkey⟩ := List.mem_map.mp hmem
      exact absurd hkey (of_decide_eq_false (mem_deleteWhere.mp hr).2)
  · next hk =>
      cases hrow : t.lookup k' with
      | none =>
          rw [lookup_eq_none] at hrow ⊢
          exact fun hmem => hrow ((List.filter_sublist.map key).subset hmem)
      | some r =>
          obtain ⟨hr, rfl⟩ := lookup_eq_some.mp hrow
          exact lookup_eq_some.mpr ⟨mem_deleteWhere.mpr ⟨hr, decide_eq_false hk⟩, rfl⟩

/-- No row is counted under a key exactly when it finds none. -/
theorem countP_key_eq_zero (t : KeyedTable key) (k : κ) :
    t.rows.countP (fun r => decide (key r = k)) = 0 ↔ t.lookup k = none := by
  rw [List.countP_eq_length_filter, filter_key, List.length_eq_zero_iff, Option.toList_eq_nil_iff]

/-- After an update a key finds its old row, rewritten if the update meets it. -/
theorem lookup_modify (t : KeyedTable key) (p : α → Bool) (f : α → α)
    (hf : ∀ r, key (f r) = key r) (k : κ) :
    (t.modify p f hf).lookup k = (t.lookup k).map fun r => if p r then f r else r := by
  show (t.rows.map fun r => if p r then f r else r).find? (fun r => key r = k) = _
  rw [List.find?_map]
  have hkey : (fun r => decide (key r = k)) ∘ (fun r => if p r then f r else r) =
      fun r => decide (key r = k) := by
    funext r
    simp only [Function.comp_apply]
    split
    · rw [hf]
    · rfl
  rw [hkey]
  rfl

/-- After an insert a key finds its old row, or else the first row of the batch with it. -/
theorem lookup_insertNew (t : KeyedTable key) (rs : List α) (k : κ) :
    (t.insertNew rs).lookup k =
      (t.lookup k).or (rs.find? fun r => key r = k) := by
  have hsplit : (t.insertNew rs).lookup k =
      (t.lookup k).or ((t.newRows rs).find? fun r => key r = k) := by
    simp [lookup, List.find?_append]
  rw [hsplit]
  cases hk : t.lookup k with
  | some r => rfl
  | none =>
      rw [newRows, freshRows_find?, if_neg (lookup_eq_none.mp hk)]

theorem keys_subset_insertNew (t : KeyedTable key) (rs : List α) :
    t.keys ⊆ (t.insertNew rs).keys := by
  simp [keys]

theorem newRows_eq_nil {t : KeyedTable key} {rs : List α} (h : ∀ r ∈ rs, key r ∈ t.keys) :
    t.newRows rs = [] := freshRows_eq_nil key _ rs h

theorem insertNew_eq_self {t : KeyedTable key} {rs : List α} (h : ∀ r ∈ rs, key r ∈ t.keys) :
    t.insertNew rs = t := by
  ext1; simp [newRows_eq_nil h]

/-- An empty table takes a batch with distinct keys as it is. -/
theorem rows_insertNew_empty {rs : List α} (h : (rs.map key).Nodup) :
    ((∅ : KeyedTable key).insertNew rs).rows = rs :=
  freshRows_eq_self key rs [] h fun _ _ => List.not_mem_nil

/-- The keys of a batch are in the table once the batch is inserted. -/
theorem mem_keys_insertNew (t : KeyedTable key) (rs : List α) :
    ∀ r ∈ rs, key r ∈ (t.insertNew rs).keys := by
  intro r hr
  rcases freshRows_covers key rs t.keys r hr with h | h
  · exact t.keys_subset_insertNew rs h
  · simp [keys, newRows] at h ⊢
    exact .inr h

/-- The keys after an insert are the old ones and those of the batch. -/
theorem mem_keys_insertNew_iff {t : KeyedTable key} {rs : List α} {k : κ} :
    k ∈ (t.insertNew rs).keys ↔ k ∈ t.keys ∨ k ∈ rs.map key := by
  constructor
  · intro hk
    obtain ⟨r, hr, rfl⟩ := List.mem_map.mp hk
    exact (mem_of_mem_insertNew hr).imp List.mem_map_of_mem List.mem_map_of_mem
  · rintro (hold | hnew)
    · exact t.keys_subset_insertNew rs hold
    · obtain ⟨r, hr, rfl⟩ := List.mem_map.mp hnew
      exact t.mem_keys_insertNew rs r hr

/-! ### Views -/

section View

variable {β : Type} {key' : β → κ} {f : α → Option β} {hf : ∀ r b, f r = some b → key' b = key r}

omit [DecidableEq κ] in
theorem keys_filterMap (hf : ∀ r b, f r = some b → key' b = key r) (rows : List α) :
    ((rows.filterMap f).map key').Sublist (rows.map key) := by
  induction rows with
  | nil => exact List.Sublist.refl []
  | cons r rows ih =>
      cases hr : f r with
      | none =>
          rw [List.filterMap_cons_none hr, List.map_cons]
          exact ih.cons _
      | some b =>
          rw [List.filterMap_cons_some hr, List.map_cons, List.map_cons, hf r b hr]
          exact ih.cons_cons _

/-- The rows `f` keeps, in its form, under their keys. -/
def filterMapRows (t : KeyedTable key) (f : α → Option β)
    (hf : ∀ r b, f r = some b → key' b = key r) : KeyedTable key' where
  rows := t.rows.filterMap f
  nodup := t.nodup.sublist (keys_filterMap hf t.rows)

omit [DecidableEq κ] in
theorem mem_filterMapRows {t : KeyedTable key} {b : β} :
    b ∈ t.filterMapRows f hf ↔ ∃ r ∈ t, f r = some b := List.mem_filterMap

omit [DecidableEq κ] in
theorem keys_filterMapRows_subset (t : KeyedTable key) :
    (t.filterMapRows f hf).keys ⊆ t.keys := (keys_filterMap hf t.rows).subset

/-- An insert is seen as the insert of what the view makes of the row. -/
theorem filterMapRows_insertNew {t : KeyedTable key} {r : α} (hfresh : key r ∉ t.keys) :
    (t.insertNew [r]).filterMapRows f hf = (t.filterMapRows f hf).insertNew (f r).toList := by
  have hnew : t.newRows [r] = [r] := by
    rw [newRows, freshRows, if_neg hfresh, freshRows]
  ext1
  cases hr : f r with
  | none =>
      show (t.rows ++ t.newRows [r]).filterMap f = t.rows.filterMap f ++ _
      rw [hnew, List.filterMap_append, List.filterMap_cons_none hr]
      rfl
  | some b =>
      have hfresh' : key' b ∉ (t.filterMapRows f hf).keys := by
        rw [hf r b hr]
        exact fun hmem => hfresh (keys_filterMapRows_subset t hmem)
      have hnew' : (t.filterMapRows f hf).newRows [b] = [b] := by
        rw [newRows, freshRows, if_neg hfresh', freshRows]
      show (t.rows ++ t.newRows [r]).filterMap f =
        t.rows.filterMap f ++ (t.filterMapRows f hf).newRows [b]
      rw [hnew, hnew', List.filterMap_append, List.filterMap_cons_some hr, List.filterMap_nil]

omit [DecidableEq κ] in
/-- An update is seen as an update, if the view says so of every row. -/
theorem filterMapRows_modify {t : KeyedTable key} {p : α → Bool} {g : α → α}
    (hg : ∀ r, key (g r) = key r) {p' : β → Bool} {g' : β → β} (hg' : ∀ b, key' (g' b) = key' b)
    (h : ∀ r, f (if p r then g r else r) = (f r).map fun b => if p' b then g' b else b) :
    (t.modify p g hg).filterMapRows f hf = (t.filterMapRows f hf).modify p' g' hg' := by
  ext1
  show (t.rows.map fun r => if p r then g r else r).filterMap f =
    (t.rows.filterMap f).map fun b => if p' b then g' b else b
  rw [List.filterMap_map, List.map_filterMap]
  exact congrArg (fun view => t.rows.filterMap view) (funext h)

end View

/-! ### Tables that agree on some keys -/

section AgreeOn

variable {p : κ → Prop} {t t' : KeyedTable key} {rs : List α}

/-- The same row, or none, under each of these keys. -/
def AgreeOn (p : κ → Prop) (t t' : KeyedTable key) : Prop := ∀ k, p k → t.lookup k = t'.lookup k

theorem AgreeOn.refl (t : KeyedTable key) : AgreeOn p t t := fun _ _ => rfl

theorem AgreeOn.symm (h : AgreeOn p t t') : AgreeOn p t' t := fun k hk => (h k hk).symm

theorem AgreeOn.trans {t'' : KeyedTable key} (h : AgreeOn p t t') (h' : AgreeOn p t' t'') :
    AgreeOn p t t'' := fun k hk => (h k hk).trans (h' k hk)

theorem AgreeOn.mem_keys (h : AgreeOn p t t') {k : κ} (hk : p k) : k ∈ t.keys ↔ k ∈ t'.keys := by
  rw [← not_iff_not, ← lookup_eq_none, ← lookup_eq_none, h k hk]

/-- They take the same rows of a batch with such keys. -/
theorem AgreeOn.newRows (h : AgreeOn p t t') (hrs : ∀ r ∈ rs, p (key r)) :
    t.newRows rs = t'.newRows rs := by
  have hfresh : ∀ (rs : List α) (seen seen' : List κ),
      (∀ r ∈ rs, key r ∈ seen ↔ key r ∈ seen') →
      freshRows key seen rs = freshRows key seen' rs := by
    intro rs
    induction rs with
    | nil => intro seen seen' _; rfl
    | cons r rs ih =>
        intro seen seen' hseen
        have hr := hseen r List.mem_cons_self
        rw [freshRows, freshRows]
        by_cases htaken : key r ∈ seen
        · rw [if_pos htaken, if_pos (hr.mp htaken)]
          exact ih seen seen' fun r' hr' => hseen r' (List.mem_cons_of_mem _ hr')
        · rw [if_neg htaken, if_neg (mt hr.mpr htaken)]
          refine congrArg (r :: ·) (ih _ _ fun r' hr' => ?_)
          rw [List.mem_cons, List.mem_cons, hseen r' (List.mem_cons_of_mem _ hr')]
  exact hfresh rs _ _ fun r hr => h.mem_keys (hrs r hr)

theorem AgreeOn.insertNew (h : AgreeOn p t t') (rs : List α) :
    AgreeOn p (t.insertNew rs) (t'.insertNew rs) := by
  intro k hk
  rw [lookup_insertNew, lookup_insertNew, h k hk]

/-- A batch with other keys leaves them alone. -/
theorem agreeOn_insertNew (hrs : ∀ r ∈ rs, ¬ p (key r)) : AgreeOn p (t.insertNew rs) t := by
  intro k hk
  have hnone : rs.find? (fun r => decide (key r = k)) = none := by
    rw [List.find?_eq_none]
    intro r hr heq
    exact hrs r hr (of_decide_eq_true heq ▸ hk)
  rw [lookup_insertNew, hnone, Option.or_none]

/-- Tables that agree on all keys have the same rows, perhaps in another order. -/
theorem AgreeOn.perm (h : AgreeOn p t t') (hall : ∀ k, p k) : t.rows.Perm t'.rows := by
  rw [List.perm_ext_iff_of_nodup t.nodup.of_map t'.nodup.of_map]
  intro r
  have hmem : ∀ u : KeyedTable key, r ∈ u.rows ↔ u.lookup (key r) = some r := by
    intro u
    rw [lookup_eq_some]
    exact (and_iff_left rfl).symm
  rw [hmem, hmem, h (key r) (hall _)]

end AgreeOn

end KeyedTable

end TxIndexer.Lib
