import Redial.Proofs.Answers
import Redial.Proofs.Likeness.Travel
import Redial.Proofs.Triggers

/-! # Cancelling a run

    A cancel event may be set at any moment of a run, by anyone, and stays set.  The
    engine looks for it when an attempt begins and while it waits before a retry, and
    nowhere else.  So what comes of it depends on where the run is at that moment.

    The moments of an attempt that was sent are its beginning, its answer and the end
    of its questions.  The argument goes backwards: if the event is clear at one moment
    then it was clear at every moment before, and an attempt begins with it clear.  What
    the engine does with an answer is known from the account of the attempt alone. -/

namespace Redial

variable {R σ : Type}

/-- A cancel event that stays set once it is set, and a wait that answers whether it
    ended with the event set.  A wait for an event that is set is over at once, whatever
    its length. -/
structure Hooks.CancelEvent (h : Hooks R σ) : Prop where
  stays : h.Go fun s s' => h.isCancelled s = true → h.isCancelled s' = true
  begins : ∀ span s, h.isCancelled s = true → h.checkPause true span s = .ok ()
  told : ∀ span s, (h.wait span s).1 = h.isCancelled (h.wait span s).2

namespace Engine

/-! ## Section 1: Where an attempt takes its surroundings -/

section travel

variable [Arith R] {h : Hooks R σ} {T : σ → σ → Prop} {cancellable : Bool}
  {callbacks : Slot Callbacks} {start : R} {n : Nat}

theorem Settled.goes (hT : Chains T) (hh : h.Go T) {t : Turn R σ}
    {trigger : Except Fault (Option (Reason × R))} {e : List (Event R)}
    (hs : Settled h cancellable t trigger e) : T t.answeredAt t.settledAt := by
  cases hs with
  | lost _ _ unasked | resent _ _ unasked | success _ _ unasked | unfunded _ _ _ unasked =>
    rw [unasked.2.2]
    exact hT.refl _
  | @offered response _ _ _ _ _ run => exact (goes_offer hT hh cancellable response).left run

theorem Closed.goes (hT : Chains T) (hh : h.Go T) {t : Turn R σ}
    {trigger : Except Fault (Option (Reason × R))} {ending : Option Ending}
    {o : Outcome (Event R) σ (Option Response)}
    (hc : Closed h callbacks start n t trigger ending o) : T t.settledAt o.state := by
  cases hc with
  | halted | cancelledPausing | overdrawn | returned | undescribed => exact hT.refl _
  | @unretried reason waited _ _ _ _ _ _ run | @retried reason waited _ _ _ _ _ run =>
    exact (goes_announce hT hh callbacks n reason waited t.error t.status).left run
  | @lost f _ _ _ _ run | @lostUntold f _ _ _ _ _ run =>
    exact (goes_report hT hh callbacks start n f none).left run
  | @succeeded response _ _ _ _ _ run | @succeededUntold response _ _ _ _ _ _ run =>
    exact (goes_succeed hT hh callbacks start n response).left run
  | @rejected response error _ _ _ _ _ _ _ run
  | @rejectedUntold response error _ _ _ _ _ _ _ _ run =>
    exact (goes_report hT hh callbacks start n (.response error) (some response.status)).left run

/-- An attempt goes along the relation from each of its moments to the next. -/
theorem Attempted.goes (hT : Chains T) (hh : h.Go T) {r : Request} {s : σ} {t : Turn R σ}
    {ending : Option Ending} {o : Outcome (Event R) σ (Option Response)}
    (ha : Attempted h cancellable callbacks start n r s (some t) ending o) :
    T t.openedAt t.answeredAt ∧ T t.answeredAt t.settledAt ∧ T t.settledAt o.state := by
  have hanswered : ∀ {r₁ s₁ e₁ y e₂},
      opening h cancellable callbacks n r s = ⟨.ok t.staged, r₁, s₁, e₁⟩ →
      exchange h t.staged r₁ s₁ = ⟨y, t.answered, t.answeredAt, e₂⟩ → T s t.answeredAt :=
    fun run₁ run₂ => hT.trans ((goes_opening hT hh cancellable callbacks n).left run₁)
      ((goes_exchange hT hh t.staged).left run₂)
  cases ha with
  | broken _ opened run₁ run₂ _ unasked =>
    rw [opened.2, unasked.2.2]
    exact ⟨hanswered run₁ run₂, hT.refl _, hT.refl _⟩
  | taken _ opened run₁ run₂ settled closed =>
    rw [opened.2]
    exact ⟨hanswered run₁ run₂, settled.goes hT hh, closed.goes hT hh⟩

end travel

/-! ## Section 2: While the event is clear -/

section clear

variable [Arith R] {h : Hooks R σ} {callbacks : Slot Callbacks} {start : R} {n : Nat}

/-- The event is clear at every moment of an attempt. -/
structure Turn.Clear (h : Hooks R σ) (t : Turn R σ) : Prop where
  opened : h.isCancelled t.openedAt = false
  answered : h.isCancelled t.answeredAt = false
  settled : h.isCancelled t.settledAt = false

omit [Arith R] in
theorem chains_stays (h : Hooks R σ) :
    Chains fun s s' => h.isCancelled s = true → h.isCancelled s' = true where
  refl _ := id
  trans hfirst hsecond hset := hsecond (hfirst hset)

omit [Arith R] in
/-- What is clear now was clear before. -/
theorem clear_before {s s' : σ} (stays : h.isCancelled s = true → h.isCancelled s' = true)
    (clear : h.isCancelled s' = false) : h.isCancelled s = false := by
  rw [Bool.eq_false_iff] at clear ⊢
  exact fun hset => clear (stays hset)

/-- If the event is clear after an attempt then it was clear all the time. -/
theorem Attempted.clear (hh : h.CancelEvent) {cancellable : Bool} {r : Request} {s : σ}
    {t : Turn R σ} {ending : Option Ending} {o : Outcome (Event R) σ (Option Response)}
    (ha : Attempted h cancellable callbacks start n r s (some t) ending o)
    (clear : h.isCancelled o.state = false) : t.Clear h := by
  obtain ⟨hanswered, hsettled, hleft⟩ := ha.goes (chains_stays h) hh.stays
  -- backwards, from the state that the attempt leaves
  have settled : h.isCancelled t.settledAt = false := clear_before hleft clear
  have answered : h.isCancelled t.answeredAt = false := clear_before hsettled settled
  exact ⟨clear_before hanswered answered, answered, settled⟩

/-- An attempt that was staged, and not sent, after the event was found clear. -/
def StagedAlone (h : Hooks R σ) (o : Outcome (Event R) σ (Option Response)) : Prop :=
  ∃ callbacks k r checkedAt f e, h.isCancelled checkedAt = false ∧
    opening h true callbacks k r checkedAt = ⟨.error f, o.request, o.state, e⟩

/-- Attempts are made while the event is clear, and the last one began with it clear. -/
structure Begun (h : Hooks R σ) (s : σ) (turns : List (Turn R σ)) (ending : Option Ending)
    (o : Outcome (Event R) σ (Option Response)) : Prop where
  /-- An attempt that is sent finds the event clear. -/
  opened : ∀ t ∈ turns, h.isCancelled s = false ∧ h.isCancelled t.openedAt = false
  /-- All the time before the last one the event was clear. -/
  earlier : ∀ t ∈ turns.dropLast, t.Clear h
  /-- So it was before an attempt that is staged and not sent, which finds it clear, too. -/
  unsent : ending = some .unsent →
    h.isCancelled s = false ∧ (∀ t ∈ turns, t.Clear h) ∧ StagedAlone h o

theorem Course.begun (hh : h.CancelEvent) {r : Request} {s : σ} {turns : List (Turn R σ)}
    {ending : Option Ending} {o : Outcome (Event R) σ (Option Response)}
    (hc : Course h true callbacks start n r s turns ending o) : Begun h s turns ending o := by
  induction hc with
  | cut => exact ⟨by simp, by simp, nofun⟩
  | @last n r s t ending o attempt =>
    cases t with
    | none =>
      refine ⟨by simp, by simp, fun hunsent => ?_⟩
      cases attempt with
      | cancelled => cases hunsent
      | unsent clear run =>
        have hclear : h.isCancelled s = false := clear
        exact ⟨hclear, by simp, _, _, _, _, _, _, hclear, run⟩
    | some t =>
      obtain ⟨clear, -, hopened, -⟩ := attempt.opens
      refine ⟨?_, by simp, fun hunsent => ?_⟩
      · rintro _ ht
        cases Option.mem_toList.mp ht
        exact ⟨clear, by rwa [hopened]⟩
      -- an attempt that was sent ends in another way
      · cases hunsent
        cases attempt with
        | taken _ _ _ _ _ closed => cases closed
  | @again n r r' s s' t e turns ending o attempt rest ih =>
    obtain ⟨clear, -, hopened, -⟩ := attempt.opens
    have hs : h.isCancelled s = false := clear
    -- this attempt is clear as soon as the next one is known to begin so
    have hturn : h.isCancelled s' = false → t.Clear h := attempt.clear hh
    refine ⟨?_, ?_, fun hunsent => ?_⟩
    · rintro u hu
      rcases List.mem_cons.mp hu with rfl | hrest
      · exact ⟨hs, by rwa [hopened]⟩
      · exact ⟨hs, (ih.opened u hrest).2⟩
    · intro u hu
      match turns with
      | [] => exact absurd hu List.not_mem_nil
      | v :: turns =>
        rw [List.dropLast_cons_of_ne_nil (List.cons_ne_nil v turns)] at hu
        rcases List.mem_cons.mp hu with rfl | hrest
        · exact hturn (ih.opened v List.mem_cons_self).1
        · exact ih.earlier u hrest
    · obtain ⟨hs', hturns, hstaged⟩ := ih.unsent hunsent
      refine ⟨hs, fun u hu => ?_, hstaged⟩
      rcases List.mem_cons.mp hu with rfl | hrest
      · exact hturn hs'
      · exact hturns u hrest

theorem Executed.begun (hh : h.CancelEvent) {r : Request} {s : σ} {turns : List (Turn R σ)}
    {ending : Option Ending} {o : Outcome (Event R) σ (Option Response)}
    (he : Executed h true r s turns ending o) : Begun h s turns ending o := by
  cases he with
  | refused | unreset => exact ⟨by simp, by simp, nofun⟩
  | run method reset course =>
    have hbegun := course.begun hh
    have hs := clear_before ((goes_resetPolicy (chains_stays h) hh.stays).left reset)
    refine ⟨fun t ht => ?_, hbegun.earlier, fun hunsent => ?_⟩
    · exact ⟨hs (hbegun.opened t ht).1, (hbegun.opened t ht).2⟩
    · obtain ⟨hclear, hturns, hstaged⟩ := hbegun.unsent hunsent
      exact ⟨hs hclear, hturns, hstaged⟩

end clear

/-! ## Section 3: Pauses -/

section pauses

variable [Arith R] {h : Hooks R σ} {cancellable : Bool} {callbacks : Slot Callbacks} {start : R}
  {n : Nat}

theorem PolicyAsked.pause_call {status : Int} {r : Request} {s : σ} {cs : List (Consult R)}
    {o : Outcome (Event R) σ (Option R)} (hp : PolicyAsked h cancellable status r s cs o)
    {millis : Number R} {ended : Except Fault Unit} (hpause : .pause millis ended ∈ cs) :
    ∃ span r₂ s₂ e, Fit h cancellable millis s₂ span ∧
      pause h cancellable millis r₂ s₂ = ⟨ended, o.request, o.state, e⟩ := by
  cases hp with
  | cut _ _ _ _ fit _ paused | paused _ _ _ _ fit paused =>
    simp only [List.mem_cons, reduceCtorEq, Consult.pause.injEq, List.not_mem_nil, or_false,
      false_or] at hpause
    obtain ⟨rfl, rfl⟩ := hpause
    exact ⟨_, _, _, _, fit, paused⟩
  | _ => simp at hpause

theorem PolicyAsked.unfit {status : Int} {r : Request} {s : σ} {cs : List (Consult R)}
    {o : Outcome (Event R) σ (Option R)} (hp : PolicyAsked h cancellable status r s cs o)
    {millis : Number R} {why : ArithFault} (hpause : .unpaused millis why ∈ cs) :
    Unfit h cancellable millis o.state why := by
  cases hp with
  | unpaused _ _ _ _ unfit =>
    simp only [List.mem_cons, reduceCtorEq, Consult.unpaused.injEq, List.not_mem_nil, or_false,
      false_or] at hpause
    obtain ⟨rfl, rfl⟩ := hpause
    exact unfit
  | _ => simp at hpause

/-- A pause that is made ends with the fault of the cancel event exactly if the event is
    set by then. -/
theorem Attempted.pause_ends (hh : h.CancelEvent) {r : Request} {s : σ} {t : Turn R σ}
    {ending : Option Ending} {o : Outcome (Event R) σ (Option Response)}
    (ha : Attempted h true callbacks start n r s (some t) ending o) {millis : Number R}
    {ended : Except Fault Unit} (hpause : .pause millis ended ∈ t.consults) :
    h.isCancelled t.settledAt = true ↔ ended = .error .cancelledWaiting := by
  obtain ⟨_, _, _, _, _, -, questions, -⟩ := ha.asked hpause
  obtain ⟨-, _, _, _, _, _, hmem, policy⟩ := questions.of_pausing hpause rfl
  obtain ⟨span, r₂, s₂, e₂, hfit, hcall⟩ := policy.pause_call hmem
  rw [pause_apply hfit, Bool.true_and, if_pos rfl, hh.told] at hcall
  -- the wait answers whether the event is set in the state that it leaves
  have hstate : (h.wait span s₂).2 = t.settledAt := congrArg Outcome.state hcall
  have hended := congrArg Outcome.result hcall
  rw [hstate] at hended
  simp only at hended
  rw [← hended]
  cases h.isCancelled t.settledAt <;> simp

/-- A wait that has a length and cannot begin finds the event clear. -/
theorem Attempted.unpaused_clear (hh : h.CancelEvent) {r : Request} {s : σ} {t : Turn R σ}
    {ending : Option Ending} {o : Outcome (Event R) σ (Option Response)}
    (ha : Attempted h true callbacks start n r s (some t) ending o) {millis : Number R}
    {why : ArithFault} (hpause : .unpaused millis why ∈ t.consults) {span : R}
    (hspan : seconds millis = .ok span) : h.isCancelled t.settledAt = false := by
  obtain ⟨_, _, _, _, _, -, questions, -⟩ := ha.asked hpause
  obtain ⟨-, _, _, _, _, _, hmem, policy⟩ := questions.of_pausing hpause rfl
  have hunfit : Unfit h true millis t.settledAt why := policy.unfit hmem
  rw [Bool.eq_false_iff]
  exact fun hset => hunfit.not_fit ⟨hspan, hh.begins span _ hset⟩

/-- A pause that the cancel event ended is the end of the run.  No retry is spent and no
    callback is told, so only the surroundings have changed the request meanwhile. -/
theorem Attempted.cut {r : Request} {s : σ} {t : Turn R σ} {ending : Option Ending}
    {o : Outcome (Event R) σ (Option Response)}
    (ha : Attempted h cancellable callbacks start n r s (some t) ending o) (hcut : t.Cut) :
    ending = some .cancelledPausing ∧ o.result = .error .cancelledWaiting ∧
      o.state = t.settledAt ∧ t.closing = [] ∧ ∀ P, h.Preserve P → P t.opened → P o.request := by
  obtain ⟨-, rfl, -⟩ := ha.opens
  have hanswered : ∀ P, h.Preserve P → P t.opened → P t.answered := fun P hp => ha.answered hp
  obtain ⟨millis, hpause⟩ := id hcut
  obtain ⟨_, _, _, _, _, rfl, questions, closed⟩ := ha.asked hpause
  cases questions.stopped_by hpause rfl
  obtain ⟨hstay, -⟩ := questions.of_pausing hpause rfl
  cases closed with
  | halted uncut => exact absurd hcut uncut
  | cancelledPausing _ closing =>
    exact ⟨rfl, rfl, rfl, closing, fun P hp hr =>
      questions.unmoved hp (fun _ => hstay _) (hanswered P hp hr)⟩

end pauses

/-! ## Section 4: Runs -/

section runs

variable [Arith R] {h : Hooks R σ} {callbacks : Slot Callbacks} {start : R} {n : Nat}

/-- A pause that the cancel event ended leaves the event set. -/
theorem Attempted.cut_set (hh : h.CancelEvent) {r : Request} {s : σ} {t : Turn R σ}
    {ending : Option Ending} {o : Outcome (Event R) σ (Option Response)}
    (ha : Attempted h true callbacks start n r s (some t) ending o) (hcut : t.Cut) :
    h.isCancelled t.settledAt = true := by
  obtain ⟨millis, hpause⟩ := hcut
  exact (ha.pause_ends hh hpause).mpr rfl

/-- The engine raises that a run was cancelled only while the event is set. -/
theorem Attempted.set (hh : h.CancelEvent) {r : Request} {s : σ} {t : Option (Turn R σ)}
    {ending : Option Ending} {o : Outcome (Event R) σ (Option Response)}
    (ha : Attempted h true callbacks start n r s t ending o)
    (hending : ending = some .cancelled ∨ ending = some .cancelledPausing) :
    h.isCancelled o.state = true := by
  cases t with
  | none =>
    cases ha with
    | cancelled set => exact set
    | unsent => simp at hending
  | some t =>
    have hcut : t.Cut := by
      cases ha with
      | broken => simp at hending
      | taken _ _ _ _ _ closed =>
        cases closed with
        | cancelledPausing cut => exact cut
        | _ => simp at hending
    rw [(ha.cut hcut).2.2.1]
    exact ha.cut_set hh hcut

theorem Course.set (hh : h.CancelEvent) {r : Request} {s : σ} {turns : List (Turn R σ)}
    {ending : Option Ending} {o : Outcome (Event R) σ (Option Response)}
    (hc : Course h true callbacks start n r s turns ending o)
    (hending : ending = some .cancelled ∨ ending = some .cancelledPausing) :
    h.isCancelled o.state = true := by
  induction hc with
  | cut => simp at hending
  | last attempt => exact attempt.set hh hending
  | again attempt rest ih => exact ih hending

theorem Executed.set (hh : h.CancelEvent) {r : Request} {s : σ} {turns : List (Turn R σ)}
    {ending : Option Ending} {o : Outcome (Event R) σ (Option Response)}
    (he : Executed h true r s turns ending o)
    (hending : ending = some .cancelled ∨ ending = some .cancelledPausing) :
    h.isCancelled o.state = true := by
  cases he with
  | refused | unreset => simp at hending
  | run method reset course => exact course.set hh hending

/-- How a run with a cancel event goes, whenever the event is set. -/
structure CancelsSafely (h : Hooks R σ) (s : σ) (turns : List (Turn R σ))
    (ending : Option Ending) (o : Outcome (Event R) σ (Option Response)) : Prop
    extends Begun h s turns ending o where
  /-- Nothing is built or handed to the transport but by these attempts. -/
  sent : Redial.sent o.events = turns.map Turn.staged
  built : Built turns ending o.events
  /-- A wait ends with the fault of the cancel event exactly if it ends with the event
      set, -/
  waits : ∀ t ∈ turns, ∀ millis ended, .pause millis ended ∈ t.consults →
    (h.isCancelled t.settledAt = true ↔ ended = .error .cancelledWaiting)
  /-- and that is the end of the run: no retry is taken from the budget or told, so that
      the request is the one that the attempt began with, up to what the surroundings
      made of it. -/
  cut : ∀ t ∈ turns, t.Cut → turns.getLast? = some t ∧ ending = some .cancelledPausing ∧
    o.result = .error .cancelledWaiting ∧ o.state = t.settledAt ∧ t.closing = [] ∧
    ∀ P, h.Preserve P → P t.opened → P o.request
  /-- A wait that has a length and cannot begin finds the event clear. -/
  unpaused : ∀ t ∈ turns, ∀ millis why span, .unpaused millis why ∈ t.consults →
    seconds millis = .ok span → h.isCancelled t.settledAt = false
  /-- A success is returned, unless the callback that is told of it raises. -/
  success : ∀ t ∈ turns, ∀ response, t.answer = .ok response → response.isSuccess = true →
    turns.getLast? = some t ∧
      (ending = some .succeeded ∧ o.result = .ok (some response) ∨ ending = some .untold)
  /-- A response that no trigger accepts is returned or raised as an error, unless the
      callback that is told of the error raises. -/
  final : ∀ t ∈ turns, ∀ response, t.Final response → turns.getLast? = some t ∧
    (t.settled.raiseOnError.isSet = false →
      ending = some .returned ∧ o.result = .ok (some response)) ∧
    (t.settled.raiseOnError.isSet = true →
      ∀ error, ResponseError.ofResponseBy h.decode response none = .ok error →
        ending = some .rejected ∧ o.result = .error (.response error) ∨ ending = some .untold)
  /-- The run answers what its ending says. -/
  answers : ∀ e, ending = some e → e.Answers o.result
  /-- The engine raises that the run was cancelled only while the event is set, and tells
      no callback how the run ended. -/
  cancelled : ending = some .cancelled ∨ ending = some .cancelledPausing →
    h.isCancelled o.state = true ∧ o.events.filter Event.isVerdict = []

theorem Executed.cancelsSafely (hh : h.CancelEvent) {r : Request} {s : σ}
    {turns : List (Turn R σ)} {ending : Option Ending}
    {o : Outcome (Event R) σ (Option Response)} (he : Executed h true r s turns ending o) :
    CancelsSafely h s turns ending o where
  toBegun := he.begun hh
  sent := he.sent_eq
  built := he.built
  waits := by
    intro t ht millis ended hpause
    obtain ⟨_, _, _, _, _, _, _, hattempted, -⟩ := he.attempted_of_mem ht
    exact hattempted.pause_ends hh hpause
  cut := by
    intro t ht hcut
    obtain ⟨_, _, _, _, _, e, o', hattempted, hturn⟩ := he.attempted_of_mem ht
    obtain ⟨rfl, hresult, hstate, hclosing, hrequest⟩ := hattempted.cut hcut
    rcases hturn with hnone | ⟨rfl, hlast, _, rfl⟩
    · cases hnone
    · exact ⟨hlast, rfl, hresult, hstate, hclosing, hrequest⟩
  unpaused := by
    intro t ht millis why span hpause hspan
    obtain ⟨_, _, _, _, _, _, _, hattempted, -⟩ := he.attempted_of_mem ht
    exact hattempted.unpaused_clear hh hpause hspan
  success := by
    intro t ht response answer good
    obtain ⟨_, _, _, _, _, e, o', hattempted, hturn⟩ := he.attempted_of_mem ht
    have hends := hattempted.success answer good
    rcases hturn with rfl | ⟨rfl, hlast, _, rfl⟩
    · simp at hends
    · exact ⟨hlast, hends⟩
  final := by
    intro t ht response hfinal
    obtain ⟨_, _, _, _, _, e, o', hattempted, hturn⟩ := he.attempted_of_mem ht
    obtain ⟨hover, hends⟩ := hattempted.final hfinal
    rcases hturn with hnone | ⟨rfl, hlast, _, rfl⟩
    · exact absurd hnone hover
    · exact ⟨hlast, hends⟩
  answers := by
    rintro e rfl
    exact he.answers
  cancelled hending := ⟨he.set hh hending, he.untold hending⟩

/-- However and whenever the event is set, a run is cancelled safely. -/
theorem execute_cancels_safely (hh : h.CancelEvent) (limit : Nat) (r : Request) (s : σ) :
    ∃ turns ending, Executed h true r s turns ending (execute h true limit r s) ∧
      CancelsSafely h s turns ending (execute h true limit r s) := by
  obtain ⟨turns, ending, hexecuted, -⟩ := executed h true limit r s
  exact ⟨turns, ending, hexecuted, hexecuted.cancelsSafely hh⟩

end runs

/-- Playback with a cancel event that the first exchange sets, and with its own callback
    for successes. -/
def cancelling [Arith R] (p : Playback R) (onSuccess : Nat → SuccessInfo R → Hook Nat Unit) :
    Hooks R Nat :=
  { p.hooks with
    isCancelled := fun k => decide (0 < k)
    checkPause := fun cancellable span k => systemCheck cancellable (decide (0 < k)) span
    wait := fun _ k => (decide (0 < k), k)
    onSuccess := onSuccess }

theorem cancelEvent_cancelling [Arith R] (p : Playback R)
    {onSuccess : Nat → SuccessInfo R → Hook Nat Unit}
    (hgoes : ∀ id info r k, (onSuccess id info r k).state = k) :
    (cancelling p onSuccess).CancelEvent where
  stays :=
    { sleep := fun _ _ => id
      wait := fun _ _ => id
      writeSource := fun _ _ _ => id
      announce := fun _ _ _ => id
      exchange := fun _ _ _ k _ => decide_eq_true (Nat.succ_pos k)
      resetPolicy := fun _ _ _ => id
      isBackoffRequired := fun _ _ _ _ => id
      nextBackoff := fun _ _ _ => id
      handle := fun _ _ _ _ _ => id
      onRequest := fun _ _ _ _ => id
      onRetry := fun _ _ _ _ => id
      onSuccess := fun i info r k hset => by rwa [← hgoes i info r k] at hset
      onFailure := fun _ _ _ _ => id }
  begins span k hset := by
    have hpositive : decide (0 < k) = true := hset
    show checkWait (decide (0 < k)) span = .ok ()
    rw [hpositive]
    rfl
  told _ _ := rfl

/-- An event that is set while the response comes in, and a policy that wants a pause
    then. -/
theorem execute_cancels_safely_pausing :
    let h : Hooks Rat Nat := cancelling ⟨fun _ => .ok ⟨503, "", [], []⟩,
      fun _ _ => false, fun _ _ => true, fun _ => .whole 250⟩ fun _ _ => pure ()
    let r : Request := { Request.make "GET" (.text "http://a/") none Headers.empty with
      policy := .hook 0 }
    h.CancelEvent ∧ ∃ turns ending, Executed h true r 0 turns ending (execute h true 11 r 0) ∧
      CancelsSafely h 0 turns ending (execute h true 11 r 0) := by
  intro h r
  have hh : h.CancelEvent := cancelEvent_cancelling _ fun _ _ _ _ => rfl
  exact ⟨hh, execute_cancels_safely hh 11 r 0⟩

/-- A success that comes in while the run is cancelled is not always returned: the callback
    that is told of it may raise. -/
theorem success_lost_by_callback :
    let h : Hooks Rat Nat := cancelling { script := fun _ => .ok ⟨200, "", [], []⟩ }
      fun _ _ => Run.throw (.raised "ValueError" ⟨.ordinary, "boom"⟩)
    let r : Request := { Request.make "GET" (.text "http://a/") none Headers.empty with
      callbacks := .hook { Callbacks.none with onSuccess := some 0 } }
    h.CancelEvent ∧
      (execute h true 11 r 0).result = .error (.raised "ValueError" ⟨.ordinary, "boom"⟩) ∧
      h.isCancelled (execute h true 11 r 0).state = true ∧
      (Redial.sent (execute h true 11 r 0).events).length = 1 ∧
      (execute h true 11 r 0).events.any (fun
        | .succeeded info => info.response.isSuccess
        | _ => false) = true := by
  intro h r
  exact ⟨cancelEvent_cancelling _ fun _ _ _ _ => rfl, by rfl, by decide +kernel,
    by decide +kernel, by decide +kernel⟩

end Engine

end Redial
