import LuxRpcNet.NetState

/-! How the server runs handlers, and when a handler's throw leaves the state as it found it.

The server runs one request after another. A handler that throws is caught at the dispatch
boundary, the caller gets the exception as its reply, and whatever the handler wrote before the
throw stays written for the next request. The spec asks that every failure leave the pre-call
state, that is, that every check come before the first write. Three properties of a computation say this compositionally:
it writes nothing (`ReadOnly`), it never throws (`NoThrow`), or it throws only from the state
it was given (`Atomic`). Read-only checks followed by writes that cannot throw are `Atomic`, and
the handlers' proofs put the pieces together along the code's own order. -/

namespace LuxRpcNet

variable [NetBase] {α β : Type}

/-- Writes nothing: whether it returns or throws, the state is the one it was given. -/
def ReadOnly (x : RPC α) : Prop := ∀ s, stateOf (x s) = s

/-- Throws only from the state it was given: no write comes before a throw. -/
def Atomic (x : RPC α) : Prop := ∀ s e s', x s = .error e s' → s' = s

/-- Never throws. -/
def NoThrow (x : RPC α) : Prop := ∀ s e s', x s ≠ .error e s'

theorem bind_of_ok {x : RPC α} {s s₁ : NodeState} {a : α} (h : x s = .ok a s₁) (f : α → RPC β) :
    (x >>= f) s = f a s₁ := by
  simp only [bind, EStateM.bind, h]

theorem bind_of_error {x : RPC α} {s s₁ : NodeState} {e : RPCException} (h : x s = .error e s₁)
    (f : α → RPC β) : (x >>= f) s = .error e s₁ := by
  simp only [bind, EStateM.bind, h]

theorem ReadOnly.atomic {x : RPC α} (hx : ReadOnly x) : Atomic x := by
  intro s e s' h
  simpa [h] using hx s

theorem NoThrow.atomic {x : RPC α} (hx : NoThrow x) : Atomic x :=
  fun s e s' h => absurd h (hx s e s')

theorem readOnly_pure (a : α) : ReadOnly (pure a : RPC α) := fun _ => rfl

theorem readOnly_throw (e : RPCException) : ReadOnly (throw e : RPC α) := fun _ => rfl

theorem readOnly_get : ReadOnly (get : RPC NodeState) := fun _ => rfl

theorem readOnly_ofExcept (x : Except RPCException α) : ReadOnly (ofExcept x) := by
  cases x <;> exact fun _ => rfl

/-- A typed read that returned read its value. -/
theorem eq_ok_of_ofExcept {x : Except RPCException α} {s s' : NodeState} {a : α}
    (h : ofExcept x s = .ok a s') : x = .ok a := by
  cases x <;> cases h
  rfl

theorem readOnly_ite {c : Prop} [Decidable c] {x y : RPC α} (hx : ReadOnly x) (hy : ReadOnly y) :
    ReadOnly (if c then x else y) := by
  split <;> assumption

theorem ReadOnly.bind {x : RPC α} {f : α → RPC β} (hx : ReadOnly x) (hf : ∀ a, ReadOnly (f a)) :
    ReadOnly (x >>= f) := by
  intro s
  have hs := hx s
  cases h : x s with
  | ok a s₁ =>
      rw [h, stateOf_ok] at hs
      rw [bind_of_ok h, ← hs]
      exact hf a s₁
  | error e s₁ =>
      rw [h, stateOf_error] at hs
      rw [bind_of_error h, stateOf_error, hs]

/-- A read-only step that a returning computation took returned from the state it was given. -/
theorem ReadOnly.bind_ok {x : RPC α} {f : α → RPC β} (hx : ReadOnly x) {s s' : NodeState} {b : β}
    (h : (x >>= f) s = .ok b s') : ∃ a, x s = .ok a s ∧ f a s = .ok b s' := by
  have hs := hx s
  cases hr : x s with
  | ok a s₁ =>
      rw [hr, stateOf_ok] at hs
      subst hs
      exact ⟨a, rfl, by rwa [bind_of_ok hr] at h⟩
  | error e s₁ => rw [bind_of_error hr] at h; cases h

/-- A computation that returned passed each check that throws on failure. -/
theorem ok_of_ite_throw {c : Prop} [Decidable c] {e : RPCException} {y : RPC α} {s s' : NodeState}
    {a : α} (h : (if c then throw e else y) s = .ok a s') : ¬c ∧ y s = .ok a s' := by
  by_cases hc : c
  · rw [if_pos hc] at h; cases h
  · rw [if_neg hc] at h; exact ⟨hc, h⟩

theorem noThrow_pure (a : α) : NoThrow (pure a : RPC α) := fun _ _ _ => nofun

theorem noThrow_get : NoThrow (get : RPC NodeState) := fun _ _ _ => nofun

theorem noThrow_set (s₀ : NodeState) : NoThrow (set s₀ : RPC PUnit) := fun _ _ _ => nofun

theorem noThrow_modify (f : NodeState → NodeState) : NoThrow (modify f : RPC PUnit) :=
  fun _ _ _ => nofun

theorem noThrow_emit (ev : NetEvent) : NoThrow (emit ev) := noThrow_modify _

theorem noThrow_ite {c : Prop} [Decidable c] {x y : RPC α} (hx : NoThrow x) (hy : NoThrow y) :
    NoThrow (if c then x else y) := by
  split <;> assumption

theorem NoThrow.bind {x : RPC α} {f : α → RPC β} (hx : NoThrow x) (hf : ∀ a, NoThrow (f a)) :
    NoThrow (x >>= f) := by
  intro s e s'
  cases h : x s with
  | ok a s₁ => rw [bind_of_ok h]; exact hf a s₁ e s'
  | error e₁ s₁ => exact absurd h (hx s e₁ s₁)

theorem atomic_ite {c : Prop} [Decidable c] {x y : RPC α} (hx : Atomic x) (hy : Atomic y) :
    Atomic (if c then x else y) := by
  split <;> assumption

/-- A read-only check followed by an atomic continuation is atomic. -/
theorem Atomic.bind_of_readOnly {x : RPC α} {f : α → RPC β} (hx : ReadOnly x)
    (hf : ∀ a, Atomic (f a)) : Atomic (x >>= f) := by
  intro s e s' he
  have hs := hx s
  cases h : x s with
  | ok a s₁ =>
      rw [h, stateOf_ok] at hs
      rw [bind_of_ok h, hs] at he
      exact hf a s e s' he
  | error e₁ s₁ =>
      rw [h, stateOf_error] at hs
      rw [bind_of_error h] at he
      cases he
      exact hs

/-- An atomic computation followed by one that cannot throw is atomic. -/
theorem Atomic.bind_noThrow {x : RPC α} {f : α → RPC β} (hx : Atomic x)
    (hf : ∀ a, NoThrow (f a)) : Atomic (x >>= f) := by
  intro s e s' he
  cases h : x s with
  | ok a s₁ => rw [bind_of_ok h] at he; exact absurd he (hf a s₁ e s')
  | error e₁ s₁ =>
      rw [bind_of_error h] at he
      cases he
      exact hx s _ _ h

/-- A handler that takes no parameters: the help flag, or any parameter, gets the help text;
otherwise the body runs. -/
def withoutParams (method : String) (body : RPC α) (params : List UniValue) (fHelp : Bool) :
    RPC α :=
  if fHelp || params.length != 0 then throw (.usage method) else body

theorem withoutParams_nil (method : String) (body : RPC α) :
    withoutParams method body [] false = body := rfl

/-- The state left: the one given when the help text was thrown, the body's otherwise. -/
theorem stateOf_withoutParams (method : String) (body : RPC α) (params : List UniValue)
    (fHelp : Bool) (s : NodeState) :
    stateOf (withoutParams method body params fHelp s) = s ∨
      stateOf (withoutParams method body params fHelp s) = stateOf (body s) := by
  unfold withoutParams
  split
  · exact .inl rfl
  · exact .inr rfl

theorem readOnly_withoutParams {method : String} {body : RPC α} (h : ReadOnly body)
    (params : List UniValue) (fHelp : Bool) : ReadOnly (withoutParams method body params fHelp) :=
  readOnly_ite (readOnly_throw _) h

theorem withoutParams_atomic {method : String} {body : RPC α} (h : Atomic body)
    (params : List UniValue) (fHelp : Bool) : Atomic (withoutParams method body params fHelp) :=
  atomic_ite (readOnly_throw _).atomic h

/-- The reply a caller gets: the handler's value, or the exception it threw. -/
def replyOf : EStateM.Result RPCException NodeState α → Except RPCException α
  | .ok a _ => .ok a
  | .error e _ => .error e

/-- Requests served in order. Each runs on the state the previous one left, whether it returned
or threw; the log pairs each request with its reply. -/
def serveAll {ρ : Type} (handler : ρ → RPC α) :
    List ρ → NodeState → NodeState × List (ρ × Except RPCException α)
  | [], s => (s, [])
  | r :: rs, s =>
      let result := handler r s
      let rest := serveAll handler rs (stateOf result)
      (rest.1, (r, replyOf result) :: rest.2)

@[simp] theorem serveAll_nil {ρ : Type} (handler : ρ → RPC α) (s : NodeState) :
    serveAll handler [] s = (s, []) := rfl

theorem serveAll_cons {ρ : Type} (handler : ρ → RPC α) (r : ρ) (rs : List ρ) (s : NodeState) :
    serveAll handler (r :: rs) s =
      ((serveAll handler rs (stateOf (handler r s))).1,
        (r, replyOf (handler r s)) :: (serveAll handler rs (stateOf (handler r s))).2) := rfl

end LuxRpcNet
