import Redial.Proofs.Likeness.Execution

/-! # Where an execution takes its surroundings

    An execution changes the state of its surroundings by its calls alone.  So if a
    relation holds between the states before and after every call, and can be chained,
    it holds between the states before and after the execution.

    For that the execution is compared with itself: two states are alike if they are the
    same, and related to the one at the beginning. -/

namespace Redial

variable {R σ ε α β : Type} {T : σ → σ → Prop}

/-! ## Section 1: Runs that go along a relation -/

/-- A run that relates every state to the one it leaves, also when it ends with a fault. -/
def Run.Goes (T : σ → σ → Prop) (x : Run ε σ α) : Prop := ∀ r s, T s (x r s).state

theorem Run.Goes.left {x : Run ε σ α} (hx : x.Goes T) {r r' : Request} {s s' : σ}
    {a : Except Fault α} {events : List ε} (run : x r s = ⟨a, r', s', events⟩) : T s s' := by
  have hleft := hx r s
  rwa [run] at hleft

/-- A relation that can be chained. -/
structure Chains (T : σ → σ → Prop) : Prop where
  refl : ∀ s, T s s
  trans : ∀ {s s' s''}, T s s' → T s' s'' → T s s''

namespace Run

theorem goes_pure (hT : Chains T) (a : α) : (pure a : Run ε σ α).Goes T := fun _ s => hT.refl s

theorem goes_throw (hT : Chains T) (f : Fault) : (throw f : Run ε σ α).Goes T :=
  fun _ s => hT.refl s

theorem goes_lift (hT : Chains T) (x : Except Fault α) : (lift x : Run ε σ α).Goes T := by
  cases x <;> exact fun _ s => hT.refl s

theorem goes_emit (hT : Chains T) (e : ε) : (emit e : Run ε σ Unit).Goes T :=
  fun _ s => hT.refl s

theorem goes_bind (hT : Chains T) {x : Run ε σ α} {f : α → Run ε σ β} (hx : x.Goes T)
    (hf : ∀ a, (f a).Goes T) : (x >>= f).Goes T := by
  intro r s
  have hfirst := hx r s
  rcases cases x r s with ⟨e, r', s', events, hrun⟩ | ⟨a, r', s', events, hrun⟩
  · rw [bind_error hrun]
    rwa [hrun] at hfirst
  · rw [hrun] at hfirst
    rw [bind_ok hrun]
    exact hT.trans hfirst (hf a r' s')

end Run

/-- Surroundings all of whose calls go along the relation. -/
structure Hooks.Go (h : Hooks R σ) (T : σ → σ → Prop) : Prop where
  sleep : ∀ span s, T s (h.sleep span s)
  wait : ∀ span s, T s (h.wait span s).2
  writeSource : ∀ id, (h.writeSource id).Goes T
  announce : ∀ staged, (h.announce staged).Goes T
  exchange : ∀ staged body, (h.exchange staged body).Goes T
  resetPolicy : ∀ id, (h.resetPolicy id).Goes T
  isBackoffRequired : ∀ id status, (h.isBackoffRequired id status).Goes T
  nextBackoff : ∀ id, (h.nextBackoff id).Goes T
  handle : ∀ id response supportsRetry, (h.handle id response supportsRetry).Goes T
  onRequest : ∀ id info, (h.onRequest id info).Goes T
  onRetry : ∀ id info, (h.onRetry id info).Goes T
  onSuccess : ∀ id info, (h.onSuccess id info).Goes T
  onFailure : ∀ id info, (h.onFailure id info).Goes T

/-- What is related more closely is related. -/
theorem Hooks.Go.mono {T' : σ → σ → Prop} {h : Hooks R σ} (hh : h.Go T)
    (hmono : ∀ s s', T s s' → T' s s') : h.Go T' where
  sleep span s := hmono _ _ (hh.sleep span s)
  wait span s := hmono _ _ (hh.wait span s)
  writeSource id r s := hmono _ _ (hh.writeSource id r s)
  announce staged r s := hmono _ _ (hh.announce staged r s)
  exchange staged body r s := hmono _ _ (hh.exchange staged body r s)
  resetPolicy id r s := hmono _ _ (hh.resetPolicy id r s)
  isBackoffRequired id status r s := hmono _ _ (hh.isBackoffRequired id status r s)
  nextBackoff id r s := hmono _ _ (hh.nextBackoff id r s)
  handle id response supportsRetry r s := hmono _ _ (hh.handle id response supportsRetry r s)
  onRequest id info r s := hmono _ _ (hh.onRequest id info r s)
  onRetry id info r s := hmono _ _ (hh.onRetry id info r s)
  onSuccess id info r s := hmono _ _ (hh.onSuccess id info r s)
  onFailure id info r s := hmono _ _ (hh.onFailure id info r s)

/-! ## Section 2: A run compared with itself -/

/-- Requests are the same; states are the same, and related to a first one. -/
def routeLikeness (R : Type) (T : σ → σ → Prop) (first : σ) : Likeness R σ (Event R) where
  request := Eq
  state s₁ s₂ := s₁ = s₂ ∧ T first s₁
  shown := some
  course h := .of_eq h
  spent left h := Request.spent_congr left h
  moved status target h := Request.redirected_congr status target h

/-- A run that goes along the relation is like itself. -/
theorem Run.Goes.alike (hT : Chains T) {x : Run (Event R) σ α} (hx : x.Goes T) (first : σ) :
    (routeLikeness R T first).Alike .never Eq x x := by
  rintro r _ s _ rfl ⟨rfl, hs⟩
  exact .inl ⟨Likeness.Ends.same _, rfl, ⟨rfl, hT.trans hs (hx r s)⟩, rfl⟩

theorem Run.Goes.alike_ofHook (hT : Chains T) {x : Hook σ α} (hx : x.Goes T) (first : σ) :
    (routeLikeness R T first).Alike .never Eq (Run.ofHook x) (Run.ofHook x) := by
  have hcall : (Run.ofHook x : Run (Event R) σ α).Goes T := hx
  exact hcall.alike hT first

/-- A run that is like itself wherever it starts goes along the relation. -/
theorem Run.goes_of_alike (hT : Chains T) {x : Run (Event R) σ α}
    (hx : ∀ first, (routeLikeness R T first).Alike .never Eq x x) : x.Goes T := by
  intro r s
  have hstart : (routeLikeness R T s).state s s := ⟨rfl, hT.refl s⟩
  have hagree := (hx s).agree (Eq.refl r) hstart
  exact hagree.state.2

namespace Hooks.Go

variable {h : Hooks R σ}

theorem surroundings (hh : h.Go T) (hT : Chains T) (first : σ) :
    Hooks.Alike (routeLikeness R T first) h h where
  log := .inl rfl
  now hs := congrArg h.now hs.1
  decode := rfl
  supports := rfl
  transportName := rfl
  resetPolicy id := (hh.resetPolicy id).alike_ofHook hT first
  isBackoffRequired id status := (hh.isBackoffRequired id status).alike_ofHook hT first
  nextBackoff id := (hh.nextBackoff id).alike_ofHook hT first
  handle id response supportsRetry :=
    (hh.handle id response supportsRetry).alike_ofHook hT first
  onRequest id info := (hh.onRequest id info).alike_ofHook hT first
  onRetry id info := (hh.onRetry id info).alike_ofHook hT first
  onSuccess id info := (hh.onSuccess id info).alike_ofHook hT first
  onFailure id info := (hh.onFailure id info).alike_ofHook hT first

theorem time (hh : h.Go T) (hT : Chains T) (first : σ) :
    Hooks.AlikeInTime (routeLikeness R T first) h h where
  sleep span := by
    rintro s _ ⟨rfl, hs⟩
    exact ⟨rfl, hT.trans hs (hh.sleep span s)⟩
  checkPause cancellable span := by
    rintro s _ ⟨rfl, -⟩
    rfl
  isCancelled hs := congrArg h.isCancelled hs.1
  wait span := by
    rintro s _ ⟨rfl, hs⟩
    exact ⟨rfl, rfl, hT.trans hs (hh.wait span s)⟩

/-- The parts of an execution that is compared with itself. -/
theorem parts [Arith R] (hh : h.Go T) (hT : Chains T) (cancellable : Bool) (first : σ) :
    Engine.PartsAlike (routeLikeness R T first) .never Eq h h cancellable cancellable := by
  refine Engine.partsAlike_inTime (hh.surroundings hT first) (hh.time hT first) cancellable
    (Engine.alike_stage ?_) ?_
  · rintro r _ rfl
    exact ⟨rfl, rfl, rfl⟩
  · rintro staged _ rfl
    exact Engine.alike_transmitSame (fun id => (hh.writeSource id).alike_ofHook hT first) rfl rfl
      ((hh.announce staged).alike_ofHook hT first)
      fun body => (hh.exchange staged body).alike_ofHook hT first

end Hooks.Go

/-! ## Section 3: Parts of an execution -/

namespace Engine

variable [Arith R] {h : Hooks R σ}

section parts

variable (hT : Chains T) (hh : h.Go T) (cancellable : Bool) (callbacks : Slot Callbacks)
include hT hh

theorem goes_resetPolicy : (resetPolicy h).Goes T :=
  Run.goes_of_alike hT fun first => alike_resetPolicy (hh.parts hT true first)

omit [Arith R] in
theorem goes_ask (response : Response) (supportsRetry : Bool) (handler : Handler) :
    (ask h response supportsRetry handler).Goes T := by
  have hcall : (Run.ofHook (ask h response supportsRetry handler) : Run (Event R) σ Bool).Goes T :=
    Run.goes_of_alike hT fun first =>
      alike_ask (hh.surroundings hT first) response supportsRetry handler
  exact hcall

theorem goes_opening (n : Nat) : (opening h cancellable callbacks n).Goes T :=
  Run.goes_of_alike hT fun first => alike_opening (hh.parts hT cancellable first) callbacks n

theorem goes_exchange (staged : Staged) : (exchange h staged).Goes T :=
  Run.goes_of_alike hT fun first => alike_exchange (hh.parts hT true first) rfl

theorem goes_offer (response : Response) : (offer h cancellable response).Goes T :=
  Run.goes_of_alike hT fun first => alike_offer (hh.parts hT cancellable first) response

theorem goes_announce (n : Nat) (reason : Reason) (waited : R) (error : Option Fault)
    (status : Option Int) : (announce h callbacks n reason waited error status).Goes T :=
  Run.goes_of_alike hT fun first =>
    alike_announce (hh.parts hT true first) callbacks n reason waited error status

theorem goes_report (start : R) (n : Nat) (error : Fault) (status : Option Int) :
    (report h callbacks start n error status).Goes T :=
  Run.goes_of_alike hT fun first =>
    alike_report (hh.parts hT true first) callbacks start n error status

theorem goes_succeed (start : R) (n : Nat) (response : Response) :
    (succeed h callbacks start n response).Goes T :=
  Run.goes_of_alike hT fun first =>
    alike_succeed (hh.parts hT true first) callbacks start n response

theorem goes_attempts (start : R) (limit n : Nat) :
    (attempts h cancellable callbacks start limit n).Goes T :=
  Run.goes_of_alike hT fun first =>
    alike_attempts (hh.parts hT cancellable first) callbacks start limit n

/-- An execution goes where the calls into its surroundings go. -/
theorem goes_execute (limit : Nat) : (execute h cancellable limit).Goes T :=
  Run.goes_of_alike hT fun first => alike_execute (hh.parts hT cancellable first) limit

end parts

end Engine

end Redial
