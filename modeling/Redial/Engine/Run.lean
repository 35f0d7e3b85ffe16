import Redial.Request

/-! # Runs

    A run reads and changes a request and the state of its surroundings, reports events
    as it goes, and ends with a value or a fault.  What has been changed and reported
    before a fault stays. -/

namespace Redial

/-! ## Section 1: Outcomes and runs -/

/-- How a run ended: its result, what it left behind, and what it reported, in order. -/
structure Outcome (ε σ α : Type) where
  result : Except Fault α
  request : Request
  state : σ
  events : List ε

/-- A computation on a request and on surroundings of type `σ` that reports events of type
    `ε`. -/
def Run (ε σ α : Type) : Type := Request → σ → Outcome ε σ α

namespace Run

variable {ε σ α β : Type}

/-- Ends at once with a value. -/
def pure (a : α) : Run ε σ α := fun r s => ⟨.ok a, r, s, []⟩

/-- Ends at once with a fault. -/
def throw (f : Fault) : Run ε σ α := fun r s => ⟨.error f, r, s, []⟩

/-- One run after the other; a fault ends both. -/
def bind (x : Run ε σ α) (f : α → Run ε σ β) : Run ε σ β := fun r s =>
  match x r s with
  | ⟨.ok a, r, s, events⟩ =>
    match f a r s with
    | ⟨result, r, s, more⟩ => ⟨result, r, s, events ++ more⟩
  | ⟨.error e, r, s, events⟩ => ⟨.error e, r, s, events⟩

instance : Monad (Run ε σ) where
  pure := Run.pure
  bind := Run.bind

/-! ## Section 2: Single steps -/

/-- The request as it is now. -/
def request : Run ε σ Request := fun r s => ⟨.ok r, r, s, []⟩

/-- Replaces the request. -/
def setRequest (r : Request) : Run ε σ Unit := fun _ s => ⟨.ok (), r, s, []⟩

/-- The state of the surroundings as it is now. -/
def state : Run ε σ σ := fun r s => ⟨.ok s, r, s, []⟩

/-- Replaces the state of the surroundings. -/
def setState (s : σ) : Run ε σ Unit := fun r _ => ⟨.ok (), r, s, []⟩

/-- Reports an event. -/
def emit (e : ε) : Run ε σ Unit := fun r s => ⟨.ok (), r, s, [e]⟩

/-- The value of a checked computation, or its fault. -/
def lift : Except Fault α → Run ε σ α
  | .ok a => pure a
  | .error f => throw f

/-- The same run, with every event changed by a function. -/
def mapEvents {ε' : Type} (f : ε → ε') (x : Run ε σ α) : Run ε' σ α := fun r s =>
  let o := x r s
  ⟨o.result, o.request, o.state, o.events.map f⟩

/-- Turns a fault that satisfies a test into a value; other faults end the run. -/
def capture (p : Fault → Bool) (x : Run ε σ α) : Run ε σ (Except Fault α) := fun r s =>
  let o := x r s
  match o.result with
  | .ok a => ⟨.ok (.ok a), o.request, o.state, o.events⟩
  | .error f =>
    if p f then ⟨.ok (.error f), o.request, o.state, o.events⟩
    else ⟨.error f, o.request, o.state, o.events⟩

/-- One run after the other on the same request and state, whatever the earlier ones came
    to; answers how each ended. -/
def trail (f : α → Run ε σ β) (r : Request) (s : σ) : List α → List (Outcome ε σ β)
  | [] => []
  | a :: rest =>
    let o := f a r s
    o :: trail f o.request o.state rest

/-! ## Section 3: Small laws -/

@[simp] theorem pure_apply (a : α) (r : Request) (s : σ) :
    (Pure.pure a : Run ε σ α) r s = ⟨.ok a, r, s, []⟩ := rfl

theorem bind_apply (x : Run ε σ α) (f : α → Run ε σ β) (r : Request) (s : σ) :
    (x >>= f) r s =
      match x r s with
      | ⟨.ok a, r', s', events⟩ =>
        match f a r' s' with
        | ⟨result, r'', s'', more⟩ => ⟨result, r'', s'', events ++ more⟩
      | ⟨.error e, r', s', events⟩ => ⟨.error e, r', s', events⟩ := rfl

theorem pure_bind (a : α) (f : α → Run ε σ β) : (Pure.pure a >>= f) = f a := by
  funext r s
  rfl

theorem bind_pure (x : Run ε σ α) : (x >>= Pure.pure) = x := by
  funext r s
  rw [bind_apply]
  match h : x r s with
  | ⟨.ok a, r', s', events⟩ => simp
  | ⟨.error e, r', s', events⟩ => rfl

theorem bind_assoc {γ : Type} (x : Run ε σ α) (f : α → Run ε σ β) (g : β → Run ε σ γ) :
    (x >>= f) >>= g = x >>= fun a => f a >>= g := by
  funext r s
  simp only [bind_apply]
  match x r s with
  | ⟨.error e, r', s', events⟩ => rfl
  | ⟨.ok a, r', s', events⟩ =>
    simp only
    match f a r' s' with
    | ⟨.error e, r'', s'', more⟩ => rfl
    | ⟨.ok b, r'', s'', more⟩ =>
      simp only
      match g b r'' s'' with
      | ⟨result, r3, s3, most⟩ => simp [List.append_assoc]

instance : LawfulMonad (Run ε σ) := LawfulMonad.mk' _
  (by intro α x; exact bind_pure x)
  (by intro α β a f; exact pure_bind a f)
  (by intro α β γ x f g; exact bind_assoc x f g)

end Run

end Redial
