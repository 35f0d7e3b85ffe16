import Redial.Proofs.Account.Preserved
import Redial.Proofs.Backoff.Hosting

/-! # The pauses of a run

    Only a question to a policy makes a pause.  So an invariant of the pauses made so far
    and of the state of the surroundings holds as long as attempts are made, if all other
    calls keep it for the same pauses, and a question to the policy carries it on to the
    pauses with the one it makes.

    The last question of a run may end it with a fault, in the midst of its pause.  What
    is wanted of the pauses then is a consequence of its own, which every question to the
    policy has to leave. -/

namespace Redial

variable {R σ : Type}

/-! ## Section 1: Pauses among events -/

/-- The pauses that were made, in seconds, in order. -/
def pauses (events : List (Event R)) : List R :=
  events.filterMap fun
    | .slept span | .waited span => some span
    | _ => none

@[simp] theorem pauses_append (xs ys : List (Event R)) :
    pauses (xs ++ ys) = pauses xs ++ pauses ys := List.filterMap_append

/-- A pause is a step. -/
theorem pauses_steps (events : List (Event R)) : pauses (steps events) = pauses events := by
  induction events with
  | nil => rfl
  | cons e events ih =>
    cases e <;>
      simpa [steps, Event.isStep, pauses, List.filter_cons, List.filterMap_cons] using ih

namespace Engine

theorem pauses_resetEvents (r : Request) : pauses (resetEvents r : List (Event R)) = [] := by
  unfold resetEvents
  split <;> rfl

variable [Arith R] {h : Hooks R σ} {cancellable : Bool}

/-- The pause that a question leads to. -/
def Consult.pauses : Consult R → List R
  | .pause millis _ =>
    match seconds millis with
    | .ok span => [span]
    | .error _ => []
  | _ => []

@[simp] theorem Consult.pauses_required (status : Int) (answer : Except Fault Bool) :
    (Consult.required status answer : Consult R).pauses = [] := rfl

@[simp] theorem Consult.pauses_next (answer : Except Fault (Number R)) :
    (Consult.next answer).pauses = [] := rfl

@[simp] theorem Consult.pauses_unpaused (millis : Number R) (why : ArithFault) :
    (Consult.unpaused millis why).pauses = [] := rfl

@[simp] theorem Consult.pauses_redirect (target : Except Fault (Option String)) :
    (Consult.redirect target : Consult R).pauses = [] := rfl

theorem Consult.pauses_pause {millis : Number R} {span : R} (hspan : seconds millis = .ok span)
    (ended : Except Fault Unit) : (Consult.pause millis ended).pauses = [span] := by
  unfold Consult.pauses
  dsimp only
  rw [hspan]

theorem Consult.pauses_events (c : Consult R) :
    Redial.pauses (c.events cancellable) = c.pauses := by
  match c with
  | .pause millis ended =>
    unfold Consult.events Consult.pauses
    dsimp only
    cases (seconds millis : Except ArithFault R) with
    | ok span => cases cancellable <;> rfl
    | error f => rfl
  | .handler _ | .redirect _ | .unpaused _ _ => rfl
  | .required _ (.ok _) | .required _ (.error _) => rfl
  | .next (.ok _) | .next (.error _) => rfl

/-- The pauses that an attempt leads to. -/
def Turn.pauses (t : Turn R σ) : List R := t.consults.flatMap Consult.pauses

theorem Turn.pauses_steps (t : Turn R σ) : Redial.pauses (t.steps cancellable) = t.pauses := by
  show Redial.pauses (t.consults.flatMap (Consult.events cancellable)) = _
  unfold Redial.pauses Turn.pauses
  rw [List.filterMap_flatMap]
  exact congrArg (List.flatMap · t.consults) (funext Consult.pauses_events)

/-- The pauses of an execution are those that its attempts lead to. -/
theorem Executed.pauses_eq {r : Request} {s : σ} {turns : List (Turn R σ)}
    {ending : Option Ending} {o : Outcome (Event R) σ (Option Response)}
    (he : Executed h cancellable r s turns ending o) :
    Redial.pauses o.events = turns.flatMap Turn.pauses := by
  have hreset : Redial.pauses
      (if ending = some .refused then [] else resetEvents r : List (Event R)) = [] := by
    split
    · rfl
    · exact pauses_resetEvents r
  rw [← Redial.pauses_steps, he.steps_eq, pauses_append, hreset, List.nil_append]
  unfold Redial.pauses
  rw [List.filterMap_flatMap]
  exact congrArg (List.flatMap · turns) (funext Turn.pauses_steps)

/-! ## Section 2: Invariants of the pauses so far -/

/-- What a part of a run makes of an invariant, if it makes some pauses: the consequence
    holds, and the invariant as well if the run goes on. -/
structure Carried {α : Type} (id : Nat) (I : List R → σ → Prop) (J : List R → Prop)
    (ps : List R) (o : Outcome (Event R) σ α) : Prop where
  bound : J ps
  onward : ∀ a, o.result = .ok a → o.request.policy = .hook id ∧ I ps o.state

/-- An invariant `I` of the pauses so far, with a consequence `J`. -/
structure Paces (h : Hooks R σ) (cancellable : Bool) (id : Nat) (I : List R → σ → Prop)
    (J : List R → Prop) : Prop where
  bound : ∀ {ps s}, I ps s → J ps
  /-- No call replaces the policy of the request. -/
  requests : h.Preserve fun r => r.policy = .hook id
  /-- All calls but those to the policy keep the invariant. -/
  calls : (h.sparing id).Go fun s s' => ∀ ps, I ps s → I ps s'
  /-- A question to the policy carries it on. -/
  asked : ∀ {status r s cs o}, PolicyAsked h cancellable status r s cs o →
    r.policy = .hook id → ∀ {ps}, I ps s → Carried id I J (ps ++ cs.flatMap Consult.pauses) o

omit [Arith R] in
theorem chains_paces {I : List R → σ → Prop} :
    Chains fun s s' => ∀ ps, I ps s → I ps s' where
  refl _ _ := id
  trans hfirst hsecond ps hs := hsecond ps (hfirst ps hs)

section parts

variable {callbacks : Slot Callbacks} {start : R} {n : Nat} {id : Nat}
  {I : List R → σ → Prop} {J : List R → Prop} {ps : List R}

/-- A handler makes no pause. -/
theorem HandlerAsked.paced (hk : Paces h cancellable id I J) {response : Response} {r : Request}
    {s : σ} {cs : List (Consult R)} {o : Outcome (Event R) σ Bool}
    (ha : HandlerAsked h response r s cs o) (hr : r.policy = .hook id) (hs : I ps s) :
    cs.flatMap Consult.pauses = [] ∧ o.request.policy = .hook id ∧ I ps o.state := by
  have hpolicy := ha.preserved hk.requests hr
  cases ha with
  | absent | misplaced => exact ⟨rfl, hpolicy, hs⟩
  | @asked handler answer r' s' notes hook call =>
    rw [← ask_congr (k := h.sparing id) (h := h) rfl rfl] at call
    exact ⟨rfl, hpolicy, (goes_ask chains_paces hk.calls response true handler).left call ps hs⟩

/-- Of the three triggers the policy alone makes a pause. -/
theorem Offered.paced (hk : Paces h cancellable id I J) {response : Response} {r : Request}
    {s : σ} {cs : List (Consult R)} {o : Outcome (Event R) σ (Option (Reason × R))}
    (ho : Offered h cancellable response r s cs o) (hr : r.policy = .hook id) (hs : I ps s) :
    Carried id I J (ps ++ cs.flatMap Consult.pauses) o := by
  cases ho with
  | handlerFailed handler | claimed handler =>
    obtain ⟨hnone, hpolicy, hstate⟩ := handler.paced hk hr hs
    rw [hnone, List.append_nil]
    exact ⟨hk.bound hs, fun _ _ => ⟨hpolicy, hstate⟩⟩
  | policyFailed handler policy =>
    obtain ⟨hnone, hpolicy, hstate⟩ := handler.paced hk hr hs
    rw [List.flatMap_append, hnone, List.nil_append]
    exact ⟨(hk.asked policy hpolicy hstate).bound, nofun⟩
  | paused handler policy =>
    obtain ⟨hnone, hpolicy, hstate⟩ := handler.paced hk hr hs
    rw [List.flatMap_append, hnone, List.nil_append]
    have hasked := hk.asked policy hpolicy hstate
    exact ⟨hasked.bound, fun _ _ => hasked.onward _ rfl⟩
  | redirectFailed handler policy | stayed handler policy | moved handler policy =>
    obtain ⟨hnone, hpolicy, hstate⟩ := handler.paced hk hr hs
    have hasked := hk.asked policy hpolicy hstate
    rw [List.flatMap_append, List.flatMap_append, hnone, List.nil_append,
      List.flatMap_singleton, Consult.pauses_redirect, List.append_nil]
    exact ⟨hasked.bound, fun _ _ => hasked.onward _ rfl⟩

theorem Settled.paced (hk : Paces h cancellable id I J) {t : Turn R σ}
    {trigger : Except Fault (Option (Reason × R))} {e : List (Event R)}
    (hs : Settled h cancellable t trigger e) (hanswered : t.answered.policy = .hook id)
    (hstate : I ps t.answeredAt) :
    Carried id I J (ps ++ t.pauses)
      (⟨trigger, t.settled, t.settledAt, e⟩ : Outcome (Event R) σ (Option (Reason × R))) := by
  unfold Turn.pauses
  cases hs with
  | lost _ _ unasked | resent _ _ unasked | success _ _ unasked | unfunded _ _ _ unasked =>
    rw [unasked.1, unasked.2.1, unasked.2.2, List.flatMap_nil, List.append_nil]
    exact ⟨hk.bound hstate, fun _ _ => ⟨hanswered, hstate⟩⟩
  | offered _ _ _ _ questions => exact questions.paced hk hanswered hstate

/-- An attempt that leads to another one keeps the invariant. -/
theorem Attempted.paced (hk : Paces h cancellable id I J) {r : Request} {s : σ}
    {t : Option (Turn R σ)} {ending : Option Ending} {o : Outcome (Event R) σ (Option Response)}
    (ha : Attempted h cancellable callbacks start n r s t ending o) (hr : r.policy = .hook id)
    (hs : I ps s) :
    J (ps ++ t.toList.flatMap Turn.pauses) ∧
      (ending = none → o.request.policy = .hook id ∧
        I (ps ++ t.toList.flatMap Turn.pauses) o.state) := by
  have hrequest : o.request.policy = .hook id :=
    (ha.preserved hk.requests (fun _ _ _ h => h) (fun _ _ h => h) hr).1
  have hanswered : ∀ {turn : Turn R σ} {r₁ s₁ e₁ y e₂},
      opening h cancellable callbacks n r s = ⟨.ok turn.staged, r₁, s₁, e₁⟩ →
      exchange h turn.staged r₁ s₁ = ⟨y, turn.answered, turn.answeredAt, e₂⟩ →
      I ps turn.answeredAt := by
    intro turn r₁ s₁ e₁ y e₂ run₁ run₂
    rw [← exchange_sparing h id] at run₂
    exact (goes_exchange chains_paces hk.calls turn.staged).left run₂ ps
      ((goes_opening chains_paces hk.calls cancellable callbacks n).left run₁ ps hs)
  cases ha with
  | cancelled | unsent =>
    rw [Option.toList_none, List.flatMap_nil, List.append_nil]
    exact ⟨hk.bound hs, nofun⟩
  | @broken t f r₁ s₁ e₁ e₂ clear opened run₁ run₂ answer unasked =>
    rw [Option.toList_some, List.flatMap_singleton, Turn.pauses, unasked.1, List.flatMap_nil,
      List.append_nil]
    exact ⟨hk.bound hs, nofun⟩
  | @taken t r₁ s₁ e₁ e₂ e₃ trigger ending o clear opened run₁ run₂ settled closed =>
    rw [Option.toList_some, List.flatMap_singleton]
    have hpolicy : t.answered.policy = .hook id :=
      (preserves_exchange hk.requests t.staged).left run₂
        ((preserves_opening hk.requests cancellable callbacks n).left run₁ hr)
    have hcarried := settled.paced hk hpolicy (hanswered run₁ run₂)
    refine ⟨hcarried.bound, fun hagain => ⟨hrequest, ?_⟩⟩
    cases closed with
    | @retried reason waited r₁ _ _ _ spend run =>
      obtain ⟨-, hstate⟩ := hcarried.onward _ rfl
      exact (goes_announce chains_paces hk.calls callbacks n reason waited t.error t.status).left
        run _ hstate
    | _ => cases hagain

/-- However far a run goes, its pauses are bounded. -/
theorem Course.paced (hk : Paces h cancellable id I J) {r : Request} {s : σ}
    {turns : List (Turn R σ)} {ending : Option Ending}
    {o : Outcome (Event R) σ (Option Response)}
    (hc : Course h cancellable callbacks start n r s turns ending o) (hr : r.policy = .hook id)
    (hs : I ps s) : J (ps ++ turns.flatMap Turn.pauses) := by
  induction hc generalizing ps with
  | cut =>
    rw [List.flatMap_nil, List.append_nil]
    exact hk.bound hs
  | last attempt => exact (attempt.paced hk hr hs).1
  | again attempt rest ih =>
    obtain ⟨hrequest, hstate⟩ := (attempt.paced hk hr hs).2 rfl
    rw [Option.toList_some, List.flatMap_singleton] at hstate
    rw [List.flatMap_cons, ← List.append_assoc]
    exact ih hrequest hstate

/-- The pauses of an execution are bounded, if the reset of the policy establishes the
    invariant. -/
theorem Executed.paced (hk : Paces h cancellable id I J) {r : Request} {s : σ}
    {turns : List (Turn R σ)} {ending : Option Ending}
    {o : Outcome (Event R) σ (Option Response)}
    (he : Executed h cancellable r s turns ending o) (hnone : J [])
    (hreset : ∀ {r' s' e}, resetPolicy h r s = ⟨.ok (), r', s', e⟩ →
      r'.policy = .hook id ∧ I [] s') : J (Redial.pauses o.events) := by
  rw [he.pauses_eq]
  cases he with
  | refused | unreset => exact hnone
  | run method reset course =>
    obtain ⟨hrequest, hstate⟩ := hreset reset
    exact course.paced hk hrequest hstate

end parts

end Engine

end Redial
