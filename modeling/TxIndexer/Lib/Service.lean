import Mathlib.Data.List.Forall2

/-!
# Request handlers

A handler maps a state and a request to the state after it and the answer. `serve` handles
requests in order. What one request preserves, a run preserves; and two handlers whose steps
keep their states and answers related do so over runs on related requests, which is the rule for
a refinement and for a comparison of two runs.
-/

namespace TxIndexer.Lib

variable {σ τ ρ ρ' ω ω' : Type*}

/-- The state after the requests, and the answer to each of them. -/
def serve (handle : σ → ρ → σ × ω) : σ → List ρ → σ × List ω
  | s, [] => (s, [])
  | s, r :: rs =>
      let rest := serve handle (handle s r).1 rs
      (rest.1, (handle s r).2 :: rest.2)

variable {handle : σ → ρ → σ × ω} {handle' : τ → ρ' → τ × ω'}

@[simp] theorem serve_nil (s : σ) : serve handle s [] = (s, []) := rfl

@[simp] theorem serve_cons (s : σ) (r : ρ) (rs : List ρ) :
    serve handle s (r :: rs) =
      ((serve handle (handle s r).1 rs).1, (handle s r).2 :: (serve handle (handle s r).1 rs).2) :=
  rfl

theorem serve_append (s : σ) (rs rs' : List ρ) :
    serve handle s (rs ++ rs') =
      ((serve handle (serve handle s rs).1 rs').1,
        (serve handle s rs).2 ++ (serve handle (serve handle s rs).1 rs').2) := by
  induction rs generalizing s with
  | nil => rfl
  | cons r rs ih => simp only [List.cons_append, serve_cons, ih]

/-- The last request is handled in the state the others leave. -/
theorem serve_concat (s : σ) (rs : List ρ) (r : ρ) :
    serve handle s (rs ++ [r]) =
      ((handle (serve handle s rs).1 r).1,
        (serve handle s rs).2 ++ [(handle (serve handle s rs).1 r).2]) :=
  serve_append s rs [r]

/-- What each request preserves holds after every run. -/
theorem serve_invariant {P : σ → Prop} {s : σ} {rs : List ρ} (h0 : P s)
    (hstep : ∀ s, ∀ r ∈ rs, P s → P (handle s r).1) : P (serve handle s rs).1 := by
  induction rs generalizing s with
  | nil => exact h0
  | cons r rs ih =>
      apply ih (hstep s r List.mem_cons_self h0)
      intro s' r' hr'
      exact hstep s' r' (List.mem_cons_of_mem r hr')

/-- Two handlers whose steps keep the states and the answers related do so over whole runs. -/
theorem serve_related {R : σ → τ → Prop} {Q : ρ → ρ' → Prop} {B : ω → ω' → Prop}
    (hstep : ∀ s t r q, R s t → Q r q →
      R (handle s r).1 (handle' t q).1 ∧ B (handle s r).2 (handle' t q).2)
    {s : σ} {t : τ} {rs : List ρ} {qs : List ρ'} (h : R s t) (hreq : List.Forall₂ Q rs qs) :
    R (serve handle s rs).1 (serve handle' t qs).1 ∧
      List.Forall₂ B (serve handle s rs).2 (serve handle' t qs).2 := by
  induction hreq generalizing s t with
  | nil => exact ⟨h, .nil⟩
  | cons hq _ ih =>
      obtain ⟨hstate, hanswer⟩ := hstep _ _ _ _ h hq
      obtain ⟨hrest, hanswers⟩ := ih hstate
      exact ⟨hrest, .cons hanswer hanswers⟩

/-- `serve_related` for requests that are the same on both sides. -/
theorem serve_simulates {R : σ → τ → Prop} {B : ω → ω' → Prop} {handle' : τ → ρ → τ × ω'}
    {rs : List ρ}
    (hstep : ∀ s t, ∀ r ∈ rs, R s t →
      R (handle s r).1 (handle' t r).1 ∧ B (handle s r).2 (handle' t r).2)
    {s : σ} {t : τ} (h : R s t) :
    R (serve handle s rs).1 (serve handle' t rs).1 ∧
      List.Forall₂ B (serve handle s rs).2 (serve handle' t rs).2 := by
  refine serve_related (Q := fun r q => r ∈ rs ∧ q = r) ?_ h ?_
  · rintro s t r _ hst ⟨hr, rfl⟩
    exact hstep s t _ hr hst
  · rw [List.forall₂_same]
    exact fun r hr => ⟨hr, rfl⟩

/-- A handler simulates another that knows only some of its requests, when it leaves the states
related on the others. Then so does a run, and the answers to the requests that both know are
related. -/
theorem serve_filterMap {R : σ → τ → Prop} {B : ω → ω' → Prop} {f : ρ → Option ρ'}
    (hskip : ∀ s t r, R s t → f r = none → R (handle s r).1 t)
    (hstep : ∀ s t r q, R s t → f r = some q →
      R (handle s r).1 (handle' t q).1 ∧ B (handle s r).2 (handle' t q).2)
    {s : σ} {t : τ} (h : R s t) (rs : List ρ) :
    R (serve handle s rs).1 (serve handle' t (rs.filterMap f)).1 ∧
      List.Forall₂ B
        ((rs.zip (serve handle s rs).2).filterMap fun x => (f x.1).map fun _ => x.2)
        (serve handle' t (rs.filterMap f)).2 := by
  induction rs generalizing s t with
  | nil => exact ⟨h, .nil⟩
  | cons r rs ih =>
      cases hf : f r with
      | none =>
          simp only [serve_cons, List.zip_cons_cons, List.filterMap_cons, hf, Option.map_none]
          exact ih (hskip s t r h hf)
      | some q =>
          obtain ⟨hstate, hanswer⟩ := hstep s t r q h hf
          obtain ⟨hrest, hanswers⟩ := ih hstate
          simp only [serve_cons, List.zip_cons_cons, List.filterMap_cons, hf, Option.map_some]
          exact ⟨hrest, .cons hanswer hanswers⟩

/-- A chain of checks passes when each of them does. -/
theorem bind_eq_ok {ε α β : Type} {x : Except ε α} {f : α → Except ε β} {b : β} :
    (x >>= f) = .ok b ↔ ∃ a, x = .ok a ∧ f a = .ok b := by
  cases x with
  | error e =>
      constructor
      · intro h
        cases h
      · rintro ⟨a, h, -⟩
        cases h
  | ok a =>
      constructor
      · exact fun h => ⟨a, rfl, h⟩
      · rintro ⟨a', ha, h⟩
        cases ha
        exact h

/-- Requests that change nothing can be left out: the state at the end and the answers to the
others are the same. -/
theorem serve_filter {p : ρ → Bool} (hrefused : ∀ s r, p r = false → (handle s r).1 = s)
    (s : σ) (rs : List ρ) :
    (serve handle s (rs.filter p)).1 = (serve handle s rs).1 ∧
      (rs.filter p).zip (serve handle s (rs.filter p)).2 =
        (rs.zip (serve handle s rs).2).filter fun x => p x.1 := by
  induction rs generalizing s with
  | nil => exact ⟨rfl, rfl⟩
  | cons r rs ih =>
      cases hp : p r with
      | true =>
          obtain ⟨hstate, hanswers⟩ := ih (handle s r).1
          simp only [List.filter_cons, hp, if_true, serve_cons, List.zip_cons_cons, hanswers,
            and_true]
          exact hstate
      | false =>
          have hsame := hrefused s r hp
          simp only [List.filter_cons, hp, Bool.false_eq_true, if_false, serve_cons,
            List.zip_cons_cons, hsame]
          exact ih s

end TxIndexer.Lib
