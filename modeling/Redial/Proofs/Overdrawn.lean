import Redial.Proofs.Failures

/-! # Budgets that are changed while a response is offered

    The engine looks at the budget before it offers a response to the triggers, and
    takes one from it after one of them has accepted.  In between the handler and the
    policy may assign any budget.  A failed exchange is offered to nobody, so nothing
    comes between the look and the spending.

    If every budget that is assigned is a non-negative integer, the spending fails
    exactly if a response was accepted and nothing was left.  The run then ends with
    the fault of the budget, in place of the response, and no callback hears of it.
    Otherwise every retry costs exactly one. -/

namespace Redial.Engine

variable {R σ : Type}

/-! ## Section 1: Empty budgets -/

/-- A request with some integer budget. -/
def Budgeted (r : Request) : Prop := ∃ b, Funded b r

/-- What is raised when nothing is left to be spent. -/
def overdraft : Fault := .belowZero Setting.retries.name "-1"

/-- From an empty budget nothing can be spent. -/
theorem Funded.spent_none {r : Request} (hr : Funded 0 r) : spent? r = .error overdraft := by
  have hset : r.setRetries (.number (.whole (-1))) = .error overdraft := by
    have hnegative : (Number.whole (-1) : Number Float).isNegative = true := by decide
    have hcheck : checkNonNegative Setting.retries.name (.number (.whole (-1)))
        = .error overdraft := by
      simp only [checkNonNegative, Value.number?, hnegative, if_true]
      rfl
    unfold Request.setRetries
    rw [hcheck]
    rfl
  unfold spent?
  rw [Number.sub_one_of_int? hr]
  exact hset

/-- An integer budget can be spent exactly if it is not empty. -/
theorem Budgeted.spent_cases {r : Request} (hr : Budgeted r) :
    (Funded 0 r ∧ spent? r = .error overdraft) ∨
      ∃ b : Nat, Funded (b + 1) r ∧ spent? r = .ok { r with retries := .whole (b : Int) } := by
  obtain ⟨b, hb⟩ := hr
  cases b with
  | zero => exact .inl ⟨hb, hb.spent_none⟩
  | succ b => exact .inr ⟨b, hb, hb.spent_eq⟩

theorem Budgeted.spent {r r' : Request} (hs : spent? r = .ok r') (hr : Budgeted r) :
    Budgeted r' := by
  rcases hr.spent_cases with ⟨-, hnone⟩ | ⟨b, -, hspent⟩
  · rw [hnone] at hs
    exact absurd hs nofun
  · rw [hspent] at hs
    cases hs
    exact ⟨b, rfl⟩

/-! ## Section 2: Accepted responses -/

variable [Arith R] {h : Hooks R σ} {cancellable : Bool} {callbacks : Slot Callbacks} {start : R}
  {n : Nat}

/-- Whether the response was accepted when this was asked: the handler claimed it, the
    pause was made, or the request was moved. -/
def Consult.accepts : Consult R → Bool
  | .handler (.ok claimed) => claimed
  | .pause _ (.ok _) => true
  | .redirect (.ok target) => target.isSome
  | _ => false

omit [Arith R] in
theorem HandlerAsked.accepts_iff {response : Response} {r : Request} {s : σ}
    {cs : List (Consult R)} {o : Outcome (Event R) σ Bool}
    (ha : HandlerAsked h response r s cs o) :
    cs.any Consult.accepts = true ↔ o.result = .ok true := by
  cases ha with
  | absent | misplaced => simp [Consult.accepts]
  | @asked handler answer => cases answer <;> simp [Consult.accepts]

theorem PolicyAsked.accepts_iff {status : Int} {r : Request} {s : σ} {cs : List (Consult R)}
    {o : Outcome (Event R) σ (Option R)} (ha : PolicyAsked h cancellable status r s cs o) :
    cs.any Consult.accepts = true ↔ ∃ waited, o.result = .ok (some waited) := by
  cases ha <;> simp [Consult.accepts]

/-- The questions accept a response exactly if one of them does. -/
theorem Offered.accepts_iff {response : Response} {r : Request} {s : σ} {cs : List (Consult R)}
    {o : Outcome (Event R) σ (Option (Reason × R))}
    (ho : Offered h cancellable response r s cs o) :
    cs.any Consult.accepts = true ↔ ∃ accepted, o.result = .ok (some accepted) := by
  cases ho with
  | handlerFailed handler | claimed handler => simp [handler.accepts_iff]
  | policyFailed handler policy | paused handler policy =>
    rw [List.any_append, Bool.or_eq_true, handler.accepts_iff, policy.accepts_iff]
    simp
  | redirectFailed handler policy | stayed handler policy | moved handler policy =>
    rw [List.any_append, List.any_append, Bool.or_eq_true, Bool.or_eq_true, handler.accepts_iff,
      policy.accepts_iff]
    simp [Consult.accepts]

/-- A failed exchange that is retried. -/
def Turn.Resent (t : Turn R σ) : Prop :=
  (∃ f, f.isExchange = true ∧ t.answer = .error f) ∧ t.resends = true

/-- An answer was accepted with nothing left in the budget. -/
structure Turn.Overdrawn (t : Turn R σ) : Prop where
  accepted : t.consults.any Consult.accepts = true
  empty : Funded 0 t.settled

/-- An accepted response is unsuccessful, and was offered with a budget. -/
theorem Settled.offered_of_accepted {t : Turn R σ}
    {trigger : Except Fault (Option (Reason × R))} {e : List (Event R)}
    (hs : Settled h cancellable t trigger e) (ht : t.consults.any Consult.accepts = true) :
    (∃ accepted, trigger = .ok (some accepted)) ∧
      ∃ response, t.answer = .ok response ∧ response.isSuccess = false ∧
        t.answered.retries.isPositive = true := by
  have hasked : ¬ t.Unasked := by
    rintro ⟨hconsults, -⟩
    rw [hconsults] at ht
    exact absurd ht Bool.false_ne_true
  cases hs with
  | lost _ _ unasked | resent _ _ unasked | success _ _ unasked => exact absurd unasked hasked
  | unfunded _ _ _ unasked => exact absurd unasked hasked
  | offered answer bad funded run questions =>
    exact ⟨questions.accepts_iff.mp ht, _, answer, bad, funded⟩

/-! ## Section 3: One attempt -/

theorem Settled.budgeted (hp : h.Preserve Budgeted) {t : Turn R σ}
    {trigger : Except Fault (Option (Reason × R))} {e : List (Event R)}
    (hs : Settled h cancellable t trigger e) (ht : Budgeted t.answered) : Budgeted t.settled :=
  hs.preserved hp (fun _ _ _ hr => hr) ht

/-- What the surroundings assign is an integer, and so is what a retry leaves. -/
theorem Attempted.budgeted (hp : h.Preserve Budgeted) {r : Request} {s : σ}
    {t : Option (Turn R σ)} {ending : Option Ending} {o : Outcome (Event R) σ (Option Response)}
    (ha : Attempted h cancellable callbacks start n r s t ending o) (hr : Budgeted r) :
    Budgeted o.request ∧ ∀ turn ∈ t, Budgeted turn.answered ∧ Budgeted turn.settled := by
  have hanswered : ∀ turn, t = some turn → Budgeted turn.answered := by
    rintro turn rfl
    exact ha.answered hp hr
  cases ha with
  | cancelled => exact ⟨hr, by simp⟩
  | unsent clear run => exact ⟨(preserves_opening hp cancellable callbacks n).left run hr, by simp⟩
  | @broken t _ _ _ _ _ _ _ _ _ _ unasked _ =>
    have hbudget : Budgeted t.answered := hanswered t rfl
    refine ⟨hbudget, fun turn hturn => ?_⟩
    cases Option.mem_some.mp hturn
    exact ⟨hbudget, by rwa [unasked.2.1]⟩
  | @taken t _ _ _ _ _ _ _ _ _ _ _ _ settled closed =>
    have hsettled : Budgeted t.settled := settled.budgeted hp (hanswered t rfl)
    refine ⟨?_, fun turn hturn => ?_⟩
    · rcases closed.preserved with ⟨_, _, r', -, hspent, -, hleft⟩ | ⟨-, hleft⟩
      · exact hleft Budgeted hp (Budgeted.spent hspent hsettled)
      · exact hleft Budgeted hp hsettled
    · cases Option.mem_some.mp hturn
      exact ⟨hanswered t rfl, hsettled⟩

/-- An answer that leads to a retry costs exactly one, or was accepted with nothing left.
    A failed exchange is never among the latter. -/
theorem Settled.spends (hp : h.Preserve Budgeted) {t : Turn R σ} {reason : Reason} {waited : R}
    {e : List (Event R)} (hs : Settled h cancellable t (.ok (some (reason, waited))) e)
    (ht : Budgeted t.answered) :
    (t.Overdrawn ∧ spent? t.settled = .error overdraft) ∨
      ∃ b : Nat, Funded (b + 1) t.settled ∧
        spent? t.settled = .ok { t.settled with retries := .whole (b : Int) } := by
  have hsettled : Budgeted t.settled := hs.budgeted hp ht
  rcases hsettled.spent_cases with ⟨hempty, hnone⟩ | hspent
  · cases hs with
    | resent answer again unasked =>
      -- nothing came between the look at the budget and the spending
      rw [unasked.2.1] at hempty
      have hzero : t.answered.retries.isZero = true := (Number.isZero_of_int? hempty).mpr rfl
      simp [Turn.resends, hzero] at again
    | offered answer bad funded run questions =>
      exact .inl ⟨⟨questions.accepts_iff.mpr ⟨_, rfl⟩, hempty⟩, hnone⟩
  · exact .inr hspent

/-- The run ends with the fault of the budget exactly if an answer was accepted with
    nothing left. -/
theorem Attempted.overdrawn_iff (hp : h.Preserve Budgeted) {r : Request} {s : σ} {t : Turn R σ}
    {ending : Option Ending} {o : Outcome (Event R) σ (Option Response)}
    (ha : Attempted h cancellable callbacks start n r s (some t) ending o) (hr : Budgeted r) :
    ending = some .overdrawn ↔ t.Overdrawn := by
  have hanswered : Budgeted t.answered := ha.answered hp hr
  cases ha with
  | broken _ _ _ _ _ unasked _ =>
    refine iff_of_false nofun fun hover => ?_
    have haccepted := hover.accepted
    rw [unasked.1] at haccepted
    exact absurd haccepted Bool.false_ne_true
  | taken _ _ _ _ settled closed =>
    -- what is not accepted is not overdrawn, and has another ending
    have hrest : (∀ accepted, _ ≠ Except.ok (some accepted)) → ¬ t.Overdrawn :=
      fun hnone hover =>
        have ⟨⟨accepted, htrigger⟩, _⟩ := settled.offered_of_accepted hover.accepted
        hnone accepted htrigger
    cases closed with
    | overdrawn spend closing =>
      refine iff_of_true rfl ?_
      rcases settled.spends hp hanswered with ⟨hover, -⟩ | ⟨b, -, hspent⟩
      · exact hover
      · rw [hspent] at spend
        exact absurd spend nofun
    | unretried spend run closing | retried spend run closing =>
      refine iff_of_false nofun fun hover => ?_
      rw [hover.empty.spent_none] at spend
      exact absurd spend nofun
    | halted | cancelledPausing | lost | lostUntold | succeeded | succeededUntold | returned
    | undescribed | rejected | rejectedUntold => exact iff_of_false nofun (hrest nofun)

/-- What is left of an attempt without budget: the fault, the request as the triggers left
    it, and no report. -/
theorem Attempted.overdraft {r : Request} {s : σ} {t : Turn R σ}
    {o : Outcome (Event R) σ (Option Response)}
    (ha : Attempted h cancellable callbacks start n r s (some t) (some .overdrawn) o)
    (ht : t.Overdrawn) :
    o.result = .error Engine.overdraft ∧ o.request = t.settled ∧ failures o.events = [] := by
  have hevents : failures o.events = failures t.closing := by
    rw [← failures_own, ha.own_events_sent, t.failures_events]
  cases ha with
  | taken _ _ _ _ settled closed =>
    cases closed with
    | overdrawn spend closing =>
      rw [ht.empty.spent_none] at spend
      cases spend
      refine ⟨rfl, rfl, ?_⟩
      rw [hevents, closing]
      rfl

/-! ## Section 4: Runs -/

/-- How the budget goes along a run. -/
structure Spends (turns : List (Turn R σ)) (ending : Option Ending)
    (o : Outcome (Event R) σ (Option Response)) : Prop where
  /-- What is asked for and what is spent from are integers. -/
  budgets : ∀ t ∈ turns, Budgeted t.answered ∧ Budgeted t.settled
  /-- A trigger is asked about an unsuccessful response, and only with a budget. -/
  offered : ∀ t ∈ turns, t.consults.any Consult.accepts = true →
    ∃ response b, t.answer = .ok response ∧ response.isSuccess = false ∧ Funded (b + 1) t.answered
  /-- A retry costs exactly one, unless nothing was left of an accepted answer's budget. -/
  one : ∀ t ∈ turns, t.consults.any Consult.accepts = true ∨ t.Resent → t.Overdrawn ∨
    ∃ b : Nat, Funded (b + 1) t.settled ∧
      spent? t.settled = .ok { t.settled with retries := .whole (b : Int) }
  /-- The spending fails exactly then. -/
  fails : ending = some .overdrawn ↔ ∃ t ∈ turns, t.Overdrawn
  /-- It ends the run with its own fault in place of the response, told to nobody. -/
  ends : ∀ t ∈ turns, t.Overdrawn → turns.getLast? = some t ∧ o.result = .error overdraft ∧
    o.request = t.settled ∧ failures o.events = []

omit [Arith R] in
/-- Where nothing was sent nothing is spent. -/
theorem Spends.nil {ending : Option Ending} {o : Outcome (Event R) σ (Option Response)}
    (hending : ending ≠ some .overdrawn) : Spends ([] : List (Turn R σ)) ending o where
  budgets := by simp
  offered := by simp
  one := by simp
  fails := by simpa using hending
  ends := by simp

omit [Arith R] in
/-- What was reported before makes no difference, if it is no error. -/
theorem Spends.after {turns : List (Turn R σ)} {ending : Option Ending}
    {o : Outcome (Event R) σ (Option Response)} (hs : Spends turns ending o) {e : List (Event R)}
    (he : failures e = []) : Spends turns ending (o.after e) where
  budgets := hs.budgets
  offered := hs.offered
  one := hs.one
  fails := hs.fails
  ends t ht hover := by
    obtain ⟨hlast, hresult, hrequest, hfailures⟩ := hs.ends t ht hover
    refine ⟨hlast, hresult, hrequest, ?_⟩
    rw [Outcome.after_events, failures_append, he, hfailures]
    rfl

omit [Arith R] in
/-- An attempt that leads to another one comes in front. -/
theorem Spends.cons {t : Turn R σ} {turns : List (Turn R σ)} {ending : Option Ending}
    {o₁ o : Outcome (Event R) σ (Option Response)} (ht : Spends [t] none o₁)
    (hs : Spends turns ending o) : Spends (t :: turns) ending o := by
  have hmem : t ∈ [t] := List.mem_singleton_self t
  have hfunded : ¬ t.Overdrawn := fun hover => by
    have hnone := ht.fails.mpr ⟨t, hmem, hover⟩
    exact absurd hnone nofun
  refine ⟨?_, ?_, ?_, ?_, ?_⟩
  · exact List.forall_mem_cons.mpr ⟨ht.budgets t hmem, hs.budgets⟩
  · exact List.forall_mem_cons.mpr ⟨ht.offered t hmem, hs.offered⟩
  · exact List.forall_mem_cons.mpr ⟨ht.one t hmem, hs.one⟩
  · rw [hs.fails]
    simp [hfunded]
  · refine List.forall_mem_cons.mpr ⟨fun hover => absurd hover hfunded, ?_⟩
    intro turn hturn hover
    obtain ⟨hlast, hends⟩ := hs.ends turn hturn hover
    refine ⟨?_, hends⟩
    rw [List.getLast?_cons, hlast]
    rfl

theorem Attempted.offered_of_accepted (hp : h.Preserve Budgeted) {r : Request} {s : σ}
    {t : Turn R σ} {ending : Option Ending} {o : Outcome (Event R) σ (Option Response)}
    (ha : Attempted h cancellable callbacks start n r s (some t) ending o) (hr : Budgeted r)
    (haccepted : t.consults.any Consult.accepts = true) :
    ∃ response b, t.answer = .ok response ∧ response.isSuccess = false ∧
      Funded (b + 1) t.answered := by
  obtain ⟨b, hb⟩ := ha.answered hp hr
  cases ha with
  | broken _ _ _ _ _ unasked _ =>
    rw [unasked.1] at haccepted
    exact absurd haccepted Bool.false_ne_true
  | taken _ _ _ _ settled closed =>
    obtain ⟨-, response, hanswer, hbad, hpositive⟩ := settled.offered_of_accepted haccepted
    have hlarge : 0 < (b : Int) := (Number.isPositive_of_int? hb).mp hpositive
    obtain ⟨c, rfl⟩ : ∃ c, b = c + 1 := ⟨b - 1, by omega⟩
    exact ⟨response, c, hanswer, hbad, hb⟩

theorem Attempted.spends_one (hp : h.Preserve Budgeted) {r : Request} {s : σ}
    {t : Turn R σ} {ending : Option Ending} {o : Outcome (Event R) σ (Option Response)}
    (ha : Attempted h cancellable callbacks start n r s (some t) ending o) (hr : Budgeted r)
    (hretry : t.consults.any Consult.accepts = true ∨ t.Resent) :
    t.Overdrawn ∨ ∃ b : Nat, Funded (b + 1) t.settled ∧
      spent? t.settled = .ok { t.settled with retries := .whole (b : Int) } := by
  have hanswered : Budgeted t.answered := ha.answered hp hr
  cases ha with
  | broken _ _ _ run₂ answer unasked _ =>
    rcases hretry with haccepted | ⟨⟨f, hexchange, hanswer⟩, -⟩
    · rw [unasked.1] at haccepted
      exact absurd haccepted Bool.false_ne_true
    · rw [answer] at hanswer
      cases hanswer
      rw [exchange_broken run₂] at hexchange
      exact absurd hexchange Bool.false_ne_true
  | @taken _ _ _ _ _ _ trigger _ _ _ _ _ _ settled closed =>
    have htrigger : ∃ accepted, trigger = .ok (some accepted) := by
      rcases hretry with haccepted | ⟨⟨f, -, hanswer⟩, hagain⟩
      · exact (settled.offered_of_accepted haccepted).1
      · cases settled with
        | lost _ final _ =>
          rw [final] at hagain
          exact absurd hagain Bool.false_ne_true
        | resent => exact ⟨_, rfl⟩
        | success answer _ _ | unfunded answer _ _ _ | offered answer _ _ _ _ =>
          rw [answer] at hanswer
          exact absurd hanswer nofun
    obtain ⟨⟨reason, waited⟩, rfl⟩ := htrigger
    exact (settled.spends hp hanswered).imp_left And.left

/-- One attempt keeps its books, whatever comes of it. -/
theorem Attempted.spends (hp : h.Preserve Budgeted) {r : Request} {s : σ} {t : Option (Turn R σ)}
    {ending : Option Ending} {o : Outcome (Event R) σ (Option Response)}
    (ha : Attempted h cancellable callbacks start n r s t ending o) (hr : Budgeted r) :
    Spends t.toList ending o := by
  cases t with
  | none =>
    refine Spends.nil ?_
    cases ha <;> exact nofun
  | some t =>
    have hover := ha.overdrawn_iff hp hr
    have hone {P : Turn R σ → Prop} (ht : P t) : ∀ turn ∈ (some t).toList, P turn := by
      simpa using ht
    refine ⟨hone ((ha.budgeted hp hr).2 t rfl), hone (ha.offered_of_accepted hp hr),
      hone (ha.spends_one hp hr), ?_, hone fun hempty => ⟨rfl, ?_⟩⟩
    · rw [hover]
      simp
    · obtain rfl := hover.mpr hempty
      exact ha.overdraft hempty

theorem Course.spends (hp : h.Preserve Budgeted) {r : Request} {s : σ} {turns : List (Turn R σ)}
    {ending : Option Ending} {o : Outcome (Event R) σ (Option Response)}
    (hc : Course h cancellable callbacks start n r s turns ending o) (hr : Budgeted r) :
    Spends turns ending o := by
  induction hc with
  | cut => exact Spends.nil nofun
  | last attempt => exact attempt.spends hp hr
  | again attempt rest ih =>
    have hrest := ih (attempt.budgeted hp hr).1
    exact Spends.cons (attempt.spends hp hr) (hrest.after attempt.again_untold)

/-- If the surroundings assign non-negative integers to the budget, taking one from it
    fails exactly if a trigger accepted a response and left nothing.  The run then ends
    with the fault of the budget, which is told to nobody, and not with the response.
    In every other case a retry costs exactly one. -/
theorem execute_overdraws_iff (hp : h.Preserve Budgeted) {r : Request} (hr : Budgeted r)
    (cancellable : Bool) (limit : Nat) (s : σ) :
    ∃ turns ending, Executed h cancellable r s turns ending (execute h cancellable limit r s) ∧
      Spends turns ending (execute h cancellable limit r s) := by
  obtain ⟨turns, ending, hexecuted, -⟩ := executed h cancellable limit r s
  refine ⟨turns, ending, hexecuted, ?_⟩
  generalize execute h cancellable limit r s = o at hexecuted
  cases hexecuted with
  | refused | unreset => exact Spends.nil nofun
  | run method reset course =>
    have hcourse := course.spends hp ((preserves_resetPolicy hp).left reset hr)
    refine hcourse.after ?_
    rw [← failures_own, resetPolicy_own reset, failures_resetEvents]

/-- A handler that accepts a response and assigns an empty budget. -/
theorem execute_overdraws_iff_emptied :
    let p : Playback Rat := ⟨fun _ => .ok ⟨503, "", [], []⟩, fun _ _ => true,
      fun _ _ => false, fun _ => .whole 0⟩
    let h : Hooks Rat Nat := { p.hooks with
      handle := fun _ _ _ => fun r s => ⟨.ok true, { r with retries := .whole 0 }, s, []⟩ }
    let r : Request := { Request.make "GET" (.text "http://a/") none Headers.empty with
      handler := .hook (.leaf "Emptying" 0) }
    h.Preserve Budgeted ∧ Budgeted r ∧
      ∃ turns ending, Spends turns ending (execute h false 2 r 0) ∧
        (execute h false 2 r 0).result = .error overdraft ∧
        (sent (execute h false 2 r 0).events).length = 1 := by
  intro p h r
  have hkeep : p.hooks.Preserve Budgeted :=
    Hooks.Keep.preserve (φ := id) (Playback.keep p) Budgeted
  have hp : h.Preserve Budgeted := { hkeep with handle := fun _ _ _ _ _ _ => ⟨0, rfl⟩ }
  have hr : Budgeted r := ⟨10, rfl⟩
  obtain ⟨turns, ending, -, hspends⟩ := execute_overdraws_iff hp hr false 2 0
  exact ⟨hp, hr, turns, ending, hspends, rfl, by decide +kernel⟩

end Redial.Engine
