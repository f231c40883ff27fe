import TxIndexer.Lib.Service

/-!
# Readers of values

A reader checks a value and turns it into data; it is told where the value stands, for its
errors. Two facts about readers compose: that a reader takes a value for what it was written from,
wherever it stands, and that two readers, where both accept a value, take it for related things.
-/

namespace TxIndexer.Lib

variable {V P P' E E' α β γ β' γ' : Type}

/-- A reader of values. -/
abbrev Reader (V P E β : Type) := V → P → Except E β

/-- A reader takes a value for `b`. -/
def Reads (read : Reader V P E β) (v : V) (b : β) : Prop := ∀ p, read v p = .ok b

/-- Two readers agree on every value both accept. -/
def ReadAlike (R : β → β' → Prop) (read : Reader V P E β) (read' : Reader V P' E' β') : Prop :=
  ∀ v p p' b b', read v p = .ok b → read' v p' = .ok b' → R b b'

/-- A reader of the items of a list, each at its place. -/
def readItems (place : P → Nat → P) (read : Reader V P E β) (p : P) :
    Nat → List V → Except E (List β)
  | _, [] => .ok []
  | i, v :: vs => do
      let b ← read v (place p i)
      let bs ← readItems place read p (i + 1) vs
      return b :: bs

/-- A value that may be absent. -/
def readOptional (absent : V → Bool) (read : Reader V P E β) : Reader V P E (Option β) :=
  fun v p => if absent v then .ok none else (read v p).map some

theorem map_eq_ok {x : Except E α} {f : α → β} {b : β} :
    x.map f = .ok b ↔ ∃ a, x = .ok a ∧ f a = b := by
  cases x with
  | error e => simp [Except.map]
  | ok a => simp [Except.map]

/-! ## Written values -/

theorem ok_bind (a : α) (f : α → Except E β) : Except.ok a >>= f = f a := rfl

section Reads

variable {read : Reader V P E β} {write : α → V} {view : α → β}

theorem readItems_of_reads {place : P → Nat → P} {p : P} {as : List α}
    (h : ∀ a ∈ as, Reads read (write a) (view a)) (i : Nat) :
    readItems place read p i (as.map write) = .ok (as.map view) := by
  induction as generalizing i with
  | nil => rfl
  | cons a as ih =>
      rw [List.forall_mem_cons] at h
      rw [List.map_cons, readItems, h.1, ih h.2]
      rfl

/-- The same where what is written and what is read are only related to the data. -/
theorem readItems_of_forall₂ {S : α → V → Prop} {R : α → β → Prop} {place : P → Nat → P} {p : P}
    {as : List α} {vs : List V} (h : ∀ {a v}, a ∈ as → S a v → ∃ b, Reads read v b ∧ R a b)
    (hwritten : List.Forall₂ S as vs) (i : Nat) :
    ∃ bs, readItems place read p i vs = .ok bs ∧ List.Forall₂ R as bs := by
  induction hwritten generalizing i with
  | nil => exact ⟨[], rfl, .nil⟩
  | cons hv _ ih =>
      obtain ⟨b, hb, hab⟩ := h List.mem_cons_self hv
      obtain ⟨bs, hbs, hrest⟩ := ih (fun ha => h (List.mem_cons_of_mem _ ha)) (i + 1)
      exact ⟨b :: bs, by rw [readItems, hb, ok_bind, hbs]; rfl, .cons hab hrest⟩

theorem readOptional_of_reads {absent : V → Bool} {none' : V} {a : Option α}
    (hnone : absent none' = true) (hsome : ∀ a, absent (write a) = false)
    (h : ∀ x ∈ a, Reads read (write x) (view x)) :
    Reads (readOptional absent read) (a.elim none' write) (a.map view) := by
  intro p
  cases a with
  | none =>
      rw [readOptional, Option.elim_none, if_pos hnone]
      rfl
  | some a =>
      rw [readOptional, Option.elim_some, if_neg (by simp [hsome]), h a rfl]
      rfl

end Reads

/-! ## Agreement -/

section ReadAlike

variable {R : β → β' → Prop} {read : Reader V P E β} {read' : Reader V P' E' β'}

theorem ReadAlike.items {place : P → Nat → P} {place' : P' → Nat → P'} {p : P} {p' : P'}
    (h : ReadAlike R read read') {vs : List V} {i i' : Nat} {bs : List β} {bs' : List β'}
    (hread : readItems place read p i vs = .ok bs)
    (hread' : readItems place' read' p' i' vs = .ok bs') : List.Forall₂ R bs bs' := by
  induction vs generalizing i i' bs bs' with
  | nil =>
      cases hread
      cases hread'
      exact .nil
  | cons v vs ih =>
      unfold readItems at hread hread'
      obtain ⟨b, hb, hread⟩ := bind_eq_ok.mp hread
      obtain ⟨bs, hbs, hread⟩ := bind_eq_ok.mp hread
      obtain ⟨b', hb', hread'⟩ := bind_eq_ok.mp hread'
      obtain ⟨bs', hbs', hread'⟩ := bind_eq_ok.mp hread'
      cases hread
      cases hread'
      exact .cons (h _ _ _ _ _ hb hb') (ih hbs hbs')

/-- Readers of absent values agree too, if the second accepts nothing that is absent to the first
only. -/
theorem ReadAlike.optional {absent absent' : V → Bool} (h : ReadAlike R read read')
    (habsent : ∀ v, absent' v = true → absent v = true)
    (hpresent : ∀ v p b, absent v = true → absent' v = false → read' v p ≠ .ok b) :
    ReadAlike (Option.Rel R) (readOptional absent read) (readOptional absent' read') := by
  intro v p p' b b' hb hb'
  unfold readOptional at hb hb'
  cases hv' : absent' v with
  | true =>
      rw [if_pos (habsent v hv')] at hb
      rw [if_pos hv'] at hb'
      cases hb
      cases hb'
      exact .none
  | false =>
      rw [if_neg (by simp [hv'])] at hb'
      obtain ⟨c', hc', rfl⟩ := map_eq_ok.mp hb'
      cases hv : absent v with
      | true => exact absurd hc' (hpresent v p' c' hv hv')
      | false =>
          rw [if_neg (by simp [hv])] at hb
          obtain ⟨c, hc, rfl⟩ := map_eq_ok.mp hb
          exact .some (h _ _ _ _ _ hc hc')

end ReadAlike

end TxIndexer.Lib
