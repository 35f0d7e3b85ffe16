import Redial.Proofs.Outcome
import Redial.Redirect

/-! # Runs that are alike

    Two runs are compared step by step.  A `Likeness` says which requests and which
    states are alike, and what of an event is compared.  Two runs are alike if from
    a like start they end alike, having shown the same:

    * either both return like values or end with the same fault, and leave like
      requests and like states,
    * or the first one was cut off.  A `Cut` says by which faults that may happen,
      and after which events; up to there both have shown the same.

    One lemma per combinator says that runs which are put together from like parts
    are alike.  No run is unfolded beyond them. -/

namespace Redial

variable {R σ α β γ : Type}

/-! ## Section 1: What is compared -/

/-- A value that a run may return. -/
def Run.MayReturn {ε : Type} (x : Run ε σ α) (a : α) : Prop := ∃ r s, (x r s).result = .ok a

/-- Requests that agree on all that decides the course of a run.  What a transmission
    carries is not among it. -/
structure Request.SameCourse (r₁ r₂ : Request) : Prop where
  method : r₁.method = r₂.method
  url : r₁.url = r₂.url
  retries : r₁.retries = r₂.retries
  policy : r₁.policy = r₂.policy
  handler : r₁.handler = r₂.handler
  followRedirects : r₁.followRedirects = r₂.followRedirects
  retryOnFailure : r₁.retryOnFailure = r₂.retryOnFailure
  raiseOnError : r₁.raiseOnError = r₂.raiseOnError
  callbacks : r₁.callbacks = r₂.callbacks
  replacement : r₁.replacement = r₂.replacement

theorem Request.SameCourse.refl (r : Request) : r.SameCourse r :=
  ⟨rfl, rfl, rfl, rfl, rfl, rfl, rfl, rfl, rfl, rfl⟩

section same

variable {r₁ r₂ : Request}

theorem Request.SameCourse.of_eq (h : r₁ = r₂) : r₁.SameCourse r₂ := h ▸ .refl r₁

theorem Request.spent_congr (left : Number Float) (h : r₁ = r₂) :
    { r₁ with retries := left } = { r₂ with retries := left } := by rw [h]

theorem Request.redirected_congr (status : Int) (target : String) (h : r₁ = r₂) :
    r₁.redirected status target = r₂.redirected status target := by rw [h]

end same

/-- What two runs are compared by.  Like requests take the same course, and stay alike
    when both spend a retry and when both are moved. -/
structure Likeness (R σ β : Type) where
  request : Request → Request → Prop
  state : σ → σ → Prop
  /-- What is compared of an event; none if it is left out. -/
  shown : Event R → Option β
  course : ∀ {r₁ r₂}, request r₁ r₂ → r₁.SameCourse r₂
  spent : ∀ {r₁ r₂} left, request r₁ r₂ →
    request { r₁ with retries := left } { r₂ with retries := left }
  moved : ∀ {r₁ r₂} status target, request r₁ r₂ →
    request (r₁.redirected status target) (r₂.redirected status target)

/-- How the first of two runs may be cut off: by these faults, after these events.  What
    went before does not matter, and the engine never retries after such a fault. -/
structure Cut (R : Type) where
  cuts : Fault → List (Event R) → Prop
  after : ∀ {f events} earlier, cuts f events → cuts f (earlier ++ events)
  final : ∀ {f events}, cuts f events → f.isExchange = false

/-- The first run is not cut off. -/
def Cut.never : Cut R := ⟨fun _ _ => False, fun _ h => h, nofun⟩

namespace Likeness

variable {L : Likeness R σ β} {C : Cut R}

/-- What is compared of the events of a run, in order. -/
def view (L : Likeness R σ β) (events : List (Event R)) : List β := events.filterMap L.shown

theorem view_append (L : Likeness R σ β) (xs ys : List (Event R)) :
    L.view (xs ++ ys) = L.view xs ++ L.view ys := List.filterMap_append

/-- Two runs end alike: with like values, or with the same fault. -/
inductive Ends (V : α → α → Prop) : Except Fault α → Except Fault α → Prop where
  | ok {a₁ a₂ : α} (like : V a₁ a₂) : Ends V (.ok a₁) (.ok a₂)
  | error (f : Fault) : Ends V (.error f) (.error f)

theorem Ends.eq {x₁ x₂ : Except Fault α} (he : Ends Eq x₁ x₂) : x₁ = x₂ := by
  cases he with
  | ok like => exact congrArg Except.ok like
  | error f => rfl

theorem Ends.same (x : Except Fault α) : Ends Eq x x := by
  cases x with
  | error f => exact .error f
  | ok a => exact .ok rfl

theorem Ends.mono {V V' : α → α → Prop} (hV : ∀ a₁ a₂, V a₁ a₂ → V' a₁ a₂)
    {x₁ x₂ : Except Fault α} (he : Ends V x₁ x₂) : Ends V' x₁ x₂ := by
  cases he with
  | ok like => exact .ok (hV _ _ like)
  | error f => exact .error f

theorem Ends.and {V : α → α → Prop} {P : α → Prop} {x₁ x₂ : Except Fault α} (he : Ends V x₁ x₂)
    (hP : ∀ a, x₁ = .ok a → P a) : Ends (fun a₁ a₂ => V a₁ a₂ ∧ P a₁) x₁ x₂ := by
  cases he with
  | ok like => exact .ok ⟨like, hP _ rfl⟩
  | error f => exact .error f

theorem Ends.trans {V W : α → α → Prop} {x y z : Except Fault α} (hx : Ends V x y)
    (hy : Ends W y z) : Ends (fun a c => ∃ b, V a b ∧ W b c) x z := by
  cases hx with
  | ok like =>
    cases hy with
    | ok like' => exact .ok ⟨_, like, like'⟩
  | error f =>
    cases hy with
    | error => exact .error f

/-- The two runs agree. -/
structure Agree (L : Likeness R σ β) (V : α → α → Prop) (o₁ o₂ : Outcome (Event R) σ α) :
    Prop where
  ends : Ends V o₁.result o₂.result
  request : L.request o₁.request o₂.request
  state : L.state o₁.state o₂.state
  events : L.view o₁.events = L.view o₂.events

/-- The first run was cut off where the second went on. -/
structure CutOff (L : Likeness R σ β) (C : Cut R) (o₁ o₂ : Outcome (Event R) σ α) : Prop where
  fault : ∃ f, o₁.result = .error f ∧ C.cuts f o₁.events
  events : L.view o₁.events <+: L.view o₂.events

/-- The two outcomes are alike. -/
def Outcomes (L : Likeness R σ β) (C : Cut R) (V : α → α → Prop)
    (o₁ o₂ : Outcome (Event R) σ α) : Prop :=
  L.Agree V o₁ o₂ ∨ L.CutOff C o₁ o₂

/-- The two runs are alike. -/
def Alike (L : Likeness R σ β) (C : Cut R) (V : α → α → Prop) (x₁ x₂ : Run (Event R) σ α) :
    Prop :=
  ∀ r₁ r₂ s₁ s₂, L.request r₁ r₂ → L.state s₁ s₂ → L.Outcomes C V (x₁ r₁ s₁) (x₂ r₂ s₂)

/-! ## Section 2: Runs of one step -/

section steps

variable {V : α → α → Prop}

theorem alike_pure {a₁ a₂ : α} (ha : V a₁ a₂) : L.Alike C V (pure a₁) (pure a₂) :=
  fun _ _ _ _ hr hs => .inl ⟨.ok ha, hr, hs, rfl⟩

theorem alike_throw (f : Fault) : L.Alike C V (Run.throw f) (Run.throw f) :=
  fun _ _ _ _ hr hs => .inl ⟨.error f, hr, hs, rfl⟩

theorem alike_lift {x₁ x₂ : Except Fault α} (hx : Ends V x₁ x₂) :
    L.Alike C V (Run.lift x₁) (Run.lift x₂) := by
  cases hx with
  | ok like => exact alike_pure like
  | error f => exact alike_throw f

theorem alike_request : L.Alike C L.request Run.request Run.request :=
  fun _ _ _ _ hr hs => .inl ⟨.ok hr, hr, hs, rfl⟩

theorem alike_state : L.Alike C L.state Run.state Run.state :=
  fun _ _ _ _ hr hs => .inl ⟨.ok hs, hr, hs, rfl⟩

theorem alike_setRequest {r₁ r₂ : Request} (hr : L.request r₁ r₂) :
    L.Alike C Eq (Run.setRequest r₁) (Run.setRequest r₂) :=
  fun _ _ _ _ _ hs => .inl ⟨.ok rfl, hr, hs, rfl⟩

theorem alike_setState {s₁ s₂ : σ} (hs : L.state s₁ s₂) :
    L.Alike C Eq (Run.setState s₁) (Run.setState s₂) :=
  fun _ _ _ _ hr _ => .inl ⟨.ok rfl, hr, hs, rfl⟩

theorem alike_emit {e₁ e₂ : Event R} (he : L.shown e₁ = L.shown e₂) :
    L.Alike C Eq (Run.emit e₁) (Run.emit e₂) :=
  fun _ _ _ _ hr hs => .inl ⟨.ok rfl, hr, hs, by simp [view, List.filterMap_cons, he]⟩

end steps

/-! ## Section 3: Composed runs -/

section compose

variable {V : α → α → Prop} {W : γ → γ → Prop}

/-- What was shown before changes nothing. -/
theorem Outcomes.after {o₁ o₂ : Outcome (Event R) σ α} (ho : L.Outcomes C V o₁ o₂)
    {e₁ e₂ : List (Event R)} (he : L.view e₁ = L.view e₂) :
    L.Outcomes C V (o₁.after e₁) (o₂.after e₂) := by
  rcases ho with ⟨hends, hr, hs, hevents⟩ | ⟨⟨f, hresult, hcut⟩, hevents⟩
  · refine .inl ⟨hends, hr, hs, ?_⟩
    rw [Outcome.after_events, Outcome.after_events, view_append, view_append, he, hevents]
  · refine .inr ⟨⟨f, hresult, C.after e₁ hcut⟩, ?_⟩
    rw [Outcome.after_events, Outcome.after_events, view_append, view_append, he]
    exact (List.prefix_append_right_inj _).mpr hevents

/-- A composed run shows what its first part shows, and perhaps more. -/
theorem view_bind (L : Likeness R σ β) (x : Run (Event R) σ α) (f : α → Run (Event R) σ γ)
    (r : Request) (s : σ) : L.view (x r s).events <+: L.view ((x >>= f) r s).events := by
  rcases hrun : x r s with ⟨fault | a, r', s', events⟩
  · have hsame : ((x >>= f) r s).events = events := by rw [Run.bind_error hrun]
    exact hsame ▸ List.prefix_rfl
  · rw [Run.bind_ok hrun, Outcome.after_events, view_append]
    exact List.prefix_append _ _

theorem alike_bind {x₁ x₂ : Run (Event R) σ α} {f₁ f₂ : α → Run (Event R) σ γ}
    (hx : L.Alike C V x₁ x₂) (hf : ∀ a₁ a₂, V a₁ a₂ → L.Alike C W (f₁ a₁) (f₂ a₂)) :
    L.Alike C W (x₁ >>= f₁) (x₂ >>= f₂) := by
  intro r₁ r₂ s₁ s₂ hr hs
  have hfirst := hx r₁ r₂ s₁ s₂ hr hs
  have hmore := L.view_bind x₂ f₂ r₂ s₂
  rcases hrun₁ : x₁ r₁ s₁ with ⟨y₁, r₁', s₁', e₁⟩
  rcases hrun₂ : x₂ r₂ s₂ with ⟨y₂, r₂', s₂', e₂⟩
  rw [hrun₁, hrun₂] at hfirst
  rcases hfirst with ⟨hends, hr', hs', hevents⟩ | ⟨⟨f, hresult, hcut⟩, hevents⟩
  · simp only at hends hr' hs' hevents
    cases hends with
    | error f =>
      rw [Run.bind_error hrun₁, Run.bind_error hrun₂]
      exact .inl ⟨.error f, hr', hs', hevents⟩
    | ok like =>
      rw [Run.bind_ok hrun₁, Run.bind_ok hrun₂]
      exact (hf _ _ like r₁' r₂' s₁' s₂' hr' hs').after hevents
  -- the first run is cut off in its first part, whatever the second one does after it
  · simp only at hresult hevents hcut
    subst hresult
    rw [hrun₂] at hmore
    rw [Run.bind_error hrun₁]
    exact .inr ⟨⟨f, rfl, hcut⟩, hevents.trans hmore⟩

/-- One after the other, if nothing of the first is used. -/
theorem alike_seq {x₁ x₂ : Run (Event R) σ α} {y₁ y₂ : Run (Event R) σ γ}
    (hx : L.Alike C V x₁ x₂) (hy : L.Alike C W y₁ y₂) :
    L.Alike C W (x₁ >>= fun _ => y₁) (x₂ >>= fun _ => y₂) := alike_bind hx fun _ _ _ => hy

theorem alike_ite {p₁ p₂ : Prop} [Decidable p₁] [Decidable p₂] {x₁ x₂ y₁ y₂ : Run (Event R) σ α}
    (hp : p₁ ↔ p₂) (hx : L.Alike C V x₁ x₂) (hy : L.Alike C V y₁ y₂) :
    L.Alike C V (if p₁ then x₁ else y₁) (if p₂ then x₂ else y₂) := by
  by_cases h : p₂
  · rwa [if_pos h, if_pos (hp.mpr h)]
  · rwa [if_neg h, if_neg fun h₁ => h (hp.mp h₁)]

/-- Capturing the faults of failed exchanges: a run that is cut off stays so. -/
theorem alike_capture {x₁ x₂ : Run (Event R) σ α} (hx : L.Alike C V x₁ x₂) :
    L.Alike C (Ends V) (Run.capture Fault.isExchange x₁) (Run.capture Fault.isExchange x₂) := by
  intro r₁ r₂ s₁ s₂ hr hs
  have hrun := hx r₁ r₂ s₁ s₂ hr hs
  rcases hrun₁ : x₁ r₁ s₁ with ⟨y₁, r₁', s₁', e₁⟩
  rcases hrun₂ : x₂ r₂ s₂ with ⟨y₂, r₂', s₂', e₂⟩
  rw [hrun₁, hrun₂] at hrun
  rcases hrun with ⟨hends, hr', hs', hevents⟩ | ⟨⟨f, hresult, hcut⟩, hevents⟩
  · simp only at hends hr' hs' hevents
    cases hends with
    | ok like =>
      rw [Run.capture_ok hrun₁, Run.capture_ok hrun₂]
      exact .inl ⟨.ok (.ok like), hr', hs', hevents⟩
    | error f =>
      rw [Run.capture_error hrun₁, Run.capture_error hrun₂]
      refine .inl ⟨?_, hr', hs', hevents⟩
      cases f.isExchange with
      | true => exact .ok (.error f)
      | false => exact .error f
  · simp only at hresult hevents hcut
    subst hresult
    obtain ⟨-, -, hsame⟩ := Run.capture_leaves Fault.isExchange x₂ r₂ s₂
    have hfinal : f.isExchange = false := C.final hcut
    rw [Run.capture_error hrun₁, hfinal]
    refine .inr ⟨⟨f, rfl, hcut⟩, ?_⟩
    rw [hsame, hrun₂]
    exact hevents

/-- Like values of one kind are like values of another. -/
theorem Alike.mono {V' : α → α → Prop} {x₁ x₂ : Run (Event R) σ α} (hx : L.Alike C V x₁ x₂)
    (hV : ∀ a₁ a₂, V a₁ a₂ → V' a₁ a₂) : L.Alike C V' x₁ x₂ := by
  intro r₁ r₂ s₁ s₂ hr hs
  rcases hx r₁ r₂ s₁ s₂ hr hs with ⟨hends, hr', hs', hevents⟩ | hcut
  · exact .inl ⟨hends.mono hV, hr', hs', hevents⟩
  · exact .inr hcut

/-- Runs that are alike return values that they may return. -/
theorem Alike.returned {x₁ x₂ : Run (Event R) σ α} (hx : L.Alike C V x₁ x₂) :
    L.Alike C (fun a₁ a₂ => V a₁ a₂ ∧ x₁.MayReturn a₁) x₁ x₂ := by
  intro r₁ r₂ s₁ s₂ hr hs
  rcases hx r₁ r₂ s₁ s₂ hr hs with ⟨hends, hr', hs', hevents⟩ | hcut
  · exact .inl ⟨hends.and fun a ha => ⟨r₁, s₁, ha⟩, hr', hs', hevents⟩
  · exact .inr hcut

/-- What cuts off in one sense cuts off in another. -/
theorem Alike.recut {C' : Cut R} {x₁ x₂ : Run (Event R) σ α} (hx : L.Alike C V x₁ x₂)
    (hC : ∀ r s f, C.cuts f (x₁ r s).events → C'.cuts f (x₁ r s).events) : L.Alike C' V x₁ x₂ := by
  intro r₁ r₂ s₁ s₂ hr hs
  rcases hx r₁ r₂ s₁ s₂ hr hs with hagree | ⟨⟨f, hresult, hcut⟩, hevents⟩
  · exact .inl hagree
  · exact .inr ⟨⟨f, hresult, hC r₁ s₁ f hcut⟩, hevents⟩

/-- Runs that are alike without any cut are alike. -/
theorem Alike.uncut {x₁ x₂ : Run (Event R) σ α} (hx : L.Alike .never V x₁ x₂) :
    L.Alike C V x₁ x₂ := hx.recut fun _ _ _ hnever => hnever.elim

/-- Runs that are never cut off agree. -/
theorem Alike.agree {x₁ x₂ : Run (Event R) σ α} (hx : L.Alike .never V x₁ x₂) {r₁ r₂ : Request}
    {s₁ s₂ : σ} (hr : L.request r₁ r₂) (hs : L.state s₁ s₂) :
    L.Agree V (x₁ r₁ s₁) (x₂ r₂ s₂) := by
  rcases hx r₁ r₂ s₁ s₂ hr hs with hagree | ⟨⟨f, -, hnever⟩, -⟩
  · exact hagree
  · exact hnever.elim

/-- Two runs are alike if next to both it makes no difference to do nothing. -/
theorem Alike.through {a : α} {x₁ x₂ : Run (Event R) σ α}
    (h₁ : L.Alike .never V x₁ (pure a)) (h₂ : L.Alike .never V (pure a) x₂) :
    L.Alike .never (fun a₁ a₂ => ∃ b, V a₁ b ∧ V b a₂) x₁ x₂ := by
  intro r₁ r₂ s₁ s₂ hr hs
  -- the first run comes first, and the second one goes on from where it left
  obtain ⟨hends₁, hr₁, hs₁, hevents₁⟩ := h₁.agree hr hs
  obtain ⟨hends₂, hr₂, hs₂, hevents₂⟩ := h₂.agree hr₁ hs₁
  exact .inl ⟨hends₁.trans hends₂, hr₂, hs₂, hevents₁.trans hevents₂⟩

end compose

/-! ## Section 4: Calls into the surroundings -/

section hooks

/-- Lines of the debug log are alike if both runs write them or if they are left out. -/
theorem alike_log {debug₁ debug₂ : Bool} {channel : Channel} {text₁ text₂ : String}
    (hlog : (debug₁ = debug₂ ∧ text₁ = text₂) ∨ ∀ text, L.shown (.log channel text) = none) :
    L.Alike C Eq (Run.ofHook (Run.log debug₁ channel text₁))
      (Run.ofHook (Run.log debug₂ channel text₂)) := by
  intro r₁ r₂ s₁ s₂ hr hs
  have hlog₁ := Run.log_apply debug₁ channel text₁ r₁ s₁
  have hlog₂ := Run.log_apply debug₂ channel text₂ r₂ s₂
  rw [Run.ofHook_eq hlog₁, Run.ofHook_eq hlog₂]
  refine .inl ⟨.ok rfl, hr, hs, ?_⟩
  rcases hlog with ⟨rfl, rfl⟩ | hhidden
  · rfl
  · cases debug₁ <;> cases debug₂ <;>
      simp [view, Event.ofNote, hhidden]

end hooks

end Likeness

/-! ## Section 5: Surroundings that are alike -/

/-- A call into the surroundings that goes on. -/
theorem Run.ofHook_bind (x : Hook σ α) (f : α → Hook σ γ) :
    (Run.ofHook (x >>= f) : Run (Event R) σ γ) = Run.ofHook x >>= fun a => Run.ofHook (f a) := by
  funext r s
  rcases hrun : x r s with ⟨fault | a, r', s', notes⟩
  · rw [Run.bind_error (Run.ofHook_eq hrun), Run.ofHook_eq (Run.bind_error hrun)]
  · rw [Run.bind_ok (Run.ofHook_eq hrun)]
    simp only [Run.ofHook, Run.mapEvents, Run.bind_ok hrun, Outcome.after, List.map_append]

@[simp] theorem Run.ofHook_pure (a : α) :
    (Run.ofHook (Pure.pure a : Hook σ α) : Run (Event R) σ α) = Pure.pure a := rfl

@[simp] theorem Run.ofHook_lift (x : Except Fault α) :
    (Run.ofHook (Run.lift x : Hook σ α) : Run (Event R) σ α) = Run.lift x := by
  cases x <;> rfl

/-- Surroundings whose answers are alike: to the policy's, the handlers' and the
    callbacks' questions, and about the time and the transport. -/
structure Hooks.Alike (L : Likeness R σ β) (h₁ h₂ : Hooks R σ) : Prop where
  log : h₁.debug = h₂.debug ∨ ∀ channel text, L.shown (.log channel text) = none
  now : ∀ {s₁ s₂}, L.state s₁ s₂ → h₁.now s₁ = h₂.now s₂
  decode : h₁.decode = h₂.decode
  supports : h₁.supports = h₂.supports
  transportName : h₁.transportName = h₂.transportName
  resetPolicy : ∀ id,
    L.Alike .never Eq (Run.ofHook (h₁.resetPolicy id)) (Run.ofHook (h₂.resetPolicy id))
  isBackoffRequired : ∀ id status,
    L.Alike .never Eq (Run.ofHook (h₁.isBackoffRequired id status))
      (Run.ofHook (h₂.isBackoffRequired id status))
  nextBackoff : ∀ id,
    L.Alike .never Eq (Run.ofHook (h₁.nextBackoff id)) (Run.ofHook (h₂.nextBackoff id))
  handle : ∀ id response supportsRetry,
    L.Alike .never Eq (Run.ofHook (h₁.handle id response supportsRetry))
      (Run.ofHook (h₂.handle id response supportsRetry))
  onRequest : ∀ id info,
    L.Alike .never Eq (Run.ofHook (h₁.onRequest id info)) (Run.ofHook (h₂.onRequest id info))
  onRetry : ∀ id info,
    L.Alike .never Eq (Run.ofHook (h₁.onRetry id info)) (Run.ofHook (h₂.onRetry id info))
  onSuccess : ∀ id info,
    L.Alike .never Eq (Run.ofHook (h₁.onSuccess id info)) (Run.ofHook (h₂.onSuccess id info))
  onFailure : ∀ id info,
    L.Alike .never Eq (Run.ofHook (h₁.onFailure id info)) (Run.ofHook (h₂.onFailure id info))

/-- Surroundings in which time passes alike. -/
structure Hooks.AlikeInTime (L : Likeness R σ β) (h₁ h₂ : Hooks R σ) : Prop where
  sleep : ∀ span {s₁ s₂}, L.state s₁ s₂ → L.state (h₁.sleep span s₁) (h₂.sleep span s₂)
  checkPause : ∀ cancellable span {s₁ s₂}, L.state s₁ s₂ →
    h₁.checkPause cancellable span s₁ = h₂.checkPause cancellable span s₂
  isCancelled : ∀ {s₁ s₂}, L.state s₁ s₂ → h₁.isCancelled s₁ = h₂.isCancelled s₂
  wait : ∀ span {s₁ s₂}, L.state s₁ s₂ →
    (h₁.wait span s₁).1 = (h₂.wait span s₂).1 ∧
      L.state (h₁.wait span s₁).2 (h₂.wait span s₂).2

end Redial
