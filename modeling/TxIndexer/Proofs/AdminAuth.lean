import TxIndexer.Api.Admin

/-!
# Who may administer

The protected routes admit one header value and answer everything else alike. A run with
requests of callers that do not have the key in it is therefore the run without them, and what
such callers see does not depend on the key.
-/

namespace TxIndexer.Api.Admin

open Decoder

variable {env : ApiEnv} {key : String} {s : AdminState} {c : Call}

theorem headerToStr_eq_some {value text : Bytes} :
    headerToStr value = some text ↔
      text = value ∧ value.all (fun b => b = 9 || (32 ≤ b && b < 127)) = true := by
  unfold headerToStr
  split
  · next h => simp [h, eq_comm]
  · next h => simp [h]

theorem dropPrefix?_bearerPrefix {value token : Bytes} :
    value.dropPrefix? bearerPrefix = some token ↔ value = bearerPrefix ++ token := by
  rw [List.dropPrefix?_eq_some_iff]
  simp only [beq_iff_eq, exists_eq_right]

/-- The key passes behind the prefix, if a header can carry it at all, and nothing else does. -/
theorem adminAuth_eq_ok {authorization : Option Bytes} :
    adminAuth key authorization = .ok () ↔
      authorization = some (bearer key) ∧ (headerToStr (bearer key)).isSome = true := by
  constructor
  · intro h
    unfold adminAuth at h
    cases authorization with
    | none => cases h
    | some header =>
        simp only at h
        cases htext : headerToStr header with
        | none => rw [htext] at h; cases h
        | some text =>
            rw [htext] at h
            simp only at h
            cases htoken : text.dropPrefix? bearerPrefix with
            | none => rw [htoken] at h; cases h
            | some token =>
                rw [htoken] at h
                simp only at h
                split at h
                · next hkey =>
                    have hheader := (headerToStr_eq_some.mp htext).1
                    have hvalue : header = bearer key := by
                      rw [← hheader, dropPrefix?_bearerPrefix.mp htoken, hkey, bearer]
                    rw [hvalue] at htext
                    rw [htext]
                    exact ⟨congrArg some hvalue, rfl⟩
                · cases h
  · rintro ⟨rfl, hsome⟩
    obtain ⟨text, htext⟩ := Option.isSome_iff_exists.mp hsome
    have htoken : text.dropPrefix? bearerPrefix = some key.toUTF8.toList := by
      rw [(headerToStr_eq_some.mp htext).1, dropPrefix?_bearerPrefix, bearer]
    simp only [adminAuth, htext, htoken, if_true]

/-- Whatever is wrong with a header, the answer is the same. -/
theorem adminAuth_error {authorization : Option Bytes} {e : ApiError}
    (h : adminAuth key authorization = .error e) : e = .unauthorized := by
  unfold adminAuth at h
  repeat' split at h
  all_goals first | exact (Except.error.inj h).symm | cases h

/-- The router lets the call through to its handler. -/
def admitted (key : String) (c : Call) : Bool :=
  !c.request.isProtected || (adminAuth key c.authorization).isOk

theorem handle_of_admitted (h : admitted key c = true) :
    handle env key s c = c.request.run env s c.now c.entropy := by
  unfold handle
  cases hprotected : c.request.isProtected with
  | false => rfl
  | true =>
      rw [admitted, hprotected] at h
      cases hauth : adminAuth key c.authorization with
      | ok _ => rfl
      | error e => rw [hauth] at h; cases h

/-- A call that is not let through changes nothing and is told nothing. -/
theorem handle_of_not_admitted (h : admitted key c = false) :
    handle env key s c = (s, ApiError.unauthorized.intoResponse) := by
  unfold handle
  cases hprotected : c.request.isProtected with
  | false => rw [admitted, hprotected] at h; cases h
  | true =>
      cases hauth : adminAuth key c.authorization with
      | ok _ => rw [admitted, hprotected, hauth] at h; cases h
      | error e => rw [adminAuth_error hauth]; rfl

/-- A protected call without the key is not let through. -/
theorem admitted_of_ne_bearer (h : c.authorization ≠ some (bearer key)) :
    admitted key c = !c.request.isProtected := by
  have hauth : (adminAuth key c.authorization).isOk = false := by
    cases hresult : adminAuth key c.authorization with
    | ok _ => exact absurd (adminAuth_eq_ok.mp hresult).1 h
    | error e => rfl
  rw [admitted, hauth, Bool.or_false]

/-- Intruders are harmless. In every run, the tables end up as if the calls that are not let
through had not been made, and so do the answers to all other calls; each of them gets the same
answer; and in a run in which nobody has either of two keys, it makes no difference which of
them is the admin key. -/
theorem serve_without_intruders (env : ApiEnv) (key : String) (s : AdminState)
    (calls : List Call) :
    (Lib.serve (handle env key) s calls).1 =
        (Lib.serve (handle env key) s (calls.filter (admitted key))).1 ∧
      (calls.zip (Lib.serve (handle env key) s calls).2).filter (fun x => admitted key x.1) =
        (calls.filter (admitted key)).zip
          (Lib.serve (handle env key) s (calls.filter (admitted key))).2 ∧
      (∀ x ∈ calls.zip (Lib.serve (handle env key) s calls).2, admitted key x.1 = false →
        x.2 = ApiError.unauthorized.intoResponse) ∧
      ∀ key' : String, (∀ c ∈ calls, c.authorization ≠ some (bearer key) ∧
          c.authorization ≠ some (bearer key')) →
        Lib.serve (handle env key) s calls = Lib.serve (handle env key') s calls := by
  have hrefused : ∀ s c, admitted key c = false → (handle env key s c).1 = s := by
    intro s c h
    rw [handle_of_not_admitted h]
  obtain ⟨hstate, hanswers⟩ := Lib.serve_filter hrefused s calls
  refine ⟨hstate.symm, hanswers.symm, ?_, ?_⟩
  · clear hstate hanswers
    induction calls generalizing s with
    | nil => intro x hx; cases hx
    | cons c calls ih =>
        intro x hx hnot
        rcases List.mem_cons.mp hx with rfl | hx
        · exact congrArg Prod.snd (handle_of_not_admitted hnot)
        · exact ih (handle env key s c).1 x hx hnot
  · intro key' hkeys
    clear hstate hanswers
    induction calls generalizing s with
    | nil => rfl
    | cons c calls ih =>
        obtain ⟨hkey, hkey'⟩ := hkeys c List.mem_cons_self
        have hstep : handle env key s c = handle env key' s c := by
          have hsame : admitted key c = admitted key' c := by
            rw [admitted_of_ne_bearer hkey, admitted_of_ne_bearer hkey']
          cases hc : admitted key c with
          | true => rw [handle_of_admitted hc, handle_of_admitted (hsame ▸ hc)]
          | false => rw [handle_of_not_admitted hc, handle_of_not_admitted (hsame ▸ hc)]
        have hrest := ih (handle env key' s c).1 fun c hc => hkeys c (List.mem_cons_of_mem _ hc)
        simp only [Lib.serve_cons, hstep, hrest]

end TxIndexer.Api.Admin
