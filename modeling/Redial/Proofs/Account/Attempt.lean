import Redial.Proofs.Account.Consult
import Redial.Proofs.Account.Sending

/-! # What becomes of one attempt

    An attempt is cut where its meaning changes: it is opened, it is sent, its answer
    is offered to the triggers, and it is closed by a retry or by an ending of the
    run.  A `Turn` is the account of an attempt that was sent, with the request and
    the state at each cut; an `Ending` says why a run went no further.  The relation
    `Attempted` gives the rules, and `attempted` says that `Engine.attempt` follows
    them. -/

namespace Redial.Engine

variable {R σ : Type}

/-! ## Section 1: Accounts -/

/-- The account of an attempt that was sent. -/
structure Turn (R σ : Type) where
  /-- The request and the state as the attempt begins. -/
  opened : Request
  openedAt : σ
  staged : Staged
  /-- The response, or the failure of the exchange. -/
  answer : Except Fault Response
  /-- The request and the state when the answer is there. -/
  answered : Request
  answeredAt : σ
  /-- The questions that the answer raises. -/
  consults : List (Consult R)
  /-- The request and the state after the questions. -/
  settled : Request
  settledAt : σ
  /-- What callbacks are told at the end of the attempt. -/
  closing : List (Event R)

/-- Why a run goes no further. -/
inductive Ending where
  /-- The method is refused. -/
  | refused
  /-- The policy cannot be reset. -/
  | unreset
  /-- The cancel event is set when an attempt begins. -/
  | cancelled
  /-- An attempt cannot be staged, or the callback that is told of it raises. -/
  | unsent
  /-- The exchange raises what is no failed exchange. -/
  | broken
  /-- A failed exchange is raised again. -/
  | lost
  /-- A success is returned. -/
  | succeeded
  /-- An unsuccessful response is raised as an error. -/
  | rejected
  /-- An unsuccessful response is returned. -/
  | returned
  /-- The cancel event ends the pause before a retry. -/
  | cancelledPausing
  /-- The handler, the policy, the clock or the redirect rule raises. -/
  | halted
  /-- No error can be made from an unsuccessful response. -/
  | undescribed
  /-- The callback that is told of the ending raises. -/
  | untold
  /-- The budget cannot be spent. -/
  | overdrawn
  /-- The callback that is told of a retry raises. -/
  | unretried
  deriving DecidableEq

/-- How many of the attempts that were sent cost no retry: the last one, unless the
    run ended before it was sent or after its retry was spent. -/
def Ending.free : Ending → Nat
  | .refused | .unreset | .cancelled | .unsent | .unretried => 0
  | _ => 1

/-! ## Section 2: The parts of an attempt -/

variable [Arith R]

/-- The part of an attempt that takes its answer. -/
def take (h : Hooks R σ) (cancellable : Bool) (callbacks : Slot Callbacks) (start : R) (n : Nat) :
    Except Fault Response → Run (Event R) σ (Option Response)
  | .error fault => takeFailure h callbacks start n fault
  | .ok response => takeResponse h cancellable callbacks start n response

/-- The end of an attempt whose response no success answers, by the trigger that accepted it. -/
def closeResponse (h : Hooks R σ) (callbacks : Slot Callbacks) (start : R) (n : Nat)
    (response : Response) : Option (Reason × R) → Run (Event R) σ (Option Response)
  | some (reason, waited) => do
    retry h callbacks n reason waited none (some response.status)
    return none
  | none => do
    conclude h callbacks start n response
    return some response

theorem takeFailure_eq (h : Hooks R σ) (callbacks : Slot Callbacks) (start : R) (n : Nat)
    (f : Fault) (r : Request) (s : σ) :
    takeFailure h callbacks start n f r s =
      if (r.retryOnFailure.isSet && !r.retries.isZero) = true then
        (retry h callbacks n .failure Arith.zero (some f) none >>= fun _ => pure none) r s
      else
        (fail h callbacks start n f none >>= fun _ =>
          retry h callbacks n .failure Arith.zero (some f) none >>= fun _ => pure none) r s := by
  unfold takeFailure
  rw [Run.request_bind]
  cases r.retryOnFailure.isSet <;> cases r.retries.isZero <;> rfl

theorem takeResponse_eq (h : Hooks R σ) (cancellable : Bool) (callbacks : Slot Callbacks)
    (start : R) (n : Nat) (response : Response) (r : Request) (s : σ) :
    takeResponse h cancellable callbacks start n response r s =
      if response.isSuccess = true then
        (succeed h callbacks start n response >>= fun _ => pure (some response)) r s
      else if r.retries.isPositive = true then
        (offer h cancellable response >>= closeResponse h callbacks start n response) r s
      else closeResponse h callbacks start n response none r s := by
  unfold takeResponse
  cases response.isSuccess with
  | true => rfl
  | false =>
    rw [if_neg Bool.false_ne_true, if_neg Bool.false_ne_true, Run.request_bind]
    cases r.retries.isPositive with
    | true =>
      rw [if_pos rfl, if_pos rfl]
      congr 1
    | false => rfl

theorem attempt_eq (h : Hooks R σ) (cancellable : Bool) (callbacks : Slot Callbacks) (start : R)
    (n : Nat) :
    attempt h cancellable callbacks start n =
      opening h cancellable callbacks n >>= fun staged =>
        exchange h staged >>= take h cancellable callbacks start n := by
  unfold attempt opening exchange
  -- both sides make the same calls in the same order, and only nest them differently
  simp only [bind_assoc, pure_bind]
  congr 1; funext _
  congr 1; funext staged
  congr 1; funext r
  congr 1; funext _
  congr 1; funext result
  cases result with
  | error fault => simp only [pure_bind]; rfl
  | ok raw => simp only [bind_assoc, pure_bind]; rfl

/-- What callbacks are told before a retry. -/
def retryInfo (r : Request) (n : Nat) (reason : Reason) (waited : R) (error : Option Fault)
    (status : Option Int) : RetryInfo R :=
  ⟨r.url, r.method, n + 2, r.retries, reason, waited, error, status⟩

/-- What callbacks are told of an error that is about to be raised. -/
def failureInfo (h : Hooks R σ) (start : R) (n : Nat) (error : Fault) (status : Option Int)
    (r : Request) (s : σ) : FailureInfo R :=
  ⟨r.url, r.method, n + 1, error, status, Arith.sub (h.now s) start⟩

/-- What callbacks are told of a success. -/
def successInfo (h : Hooks R σ) (start : R) (n : Nat) (response : Response) (r : Request)
    (s : σ) : SuccessInfo R :=
  ⟨r.url, r.method, n + 1, response, Arith.sub (h.now s) start⟩

/-- The request with one retry less. -/
def spent? (r : Request) : Except Fault Request := do
  let left ← (r.retries.sub (.whole 1)).mapError .arithmetic
  r.setRetries (.number left)

/-- The part of a retry after the budget is spent. -/
def announce (h : Hooks R σ) (callbacks : Slot Callbacks) (n : Nat) (reason : Reason) (waited : R)
    (error : Option Fault) (status : Option Int) : Run (Event R) σ Unit := do
  let r ← Run.request
  logRequest h ("retried (" ++ reason.text ++ ", " ++ r.retries.text ++ " retries left)")
  let info := retryInfo r n reason waited error status
  tell callbacks Callbacks.onRetry "on_retry" (.retried info) (h.onRetry · info)

/-- The report of an error, before it is raised. -/
def report (h : Hooks R σ) (callbacks : Slot Callbacks) (start : R) (n : Nat) (error : Fault)
    (status : Option Int) : Run (Event R) σ Unit := do
  logRequest h ("failed: " ++ error.message)
  let r ← Run.request
  let s ← Run.state
  let info := failureInfo h start n error status r s
  tell callbacks Callbacks.onFailure "on_failure" (.failed info) (h.onFailure · info)

theorem fail_eq (h : Hooks R σ) (callbacks : Slot Callbacks) (start : R) (n : Nat)
    (error : Fault) (status : Option Int) :
    fail h callbacks start n error status
      = report h callbacks start n error status >>= fun _ => Run.throw error := by
  unfold fail report
  simp only [bind_assoc]
  rfl

omit [Arith R] in
theorem spendRetry_eq (r : Request) (s : σ) :
    (spendRetry : Run (Event R) σ Unit) r s =
      match spent? r with
      | .ok r' => ⟨.ok (), r', s, []⟩
      | .error f => ⟨.error f, r, s, []⟩ := by
  unfold spendRetry spent?
  simp only [Run.request_bind]
  cases (r.retries.sub (.whole 1)).mapError Fault.arithmetic with
  | error f => rfl
  | ok left =>
    show (Run.lift (r.setRetries (.number left)) >>= fun r => Run.setRequest r) r s =
      match r.setRetries (.number left) with
      | .ok r' => ⟨.ok (), r', s, []⟩
      | .error f => ⟨.error f, r, s, []⟩
    cases r.setRetries (.number left) with
    | error f => rfl
    | ok r' => rfl

/-! ## Section 3: The rules -/

/-- An answer that is offered to no trigger. -/
def Turn.Unasked (t : Turn R σ) : Prop :=
  t.consults = [] ∧ t.settled = t.answered ∧ t.settledAt = t.answeredAt

/-- The failure that an attempt met. -/
def Turn.error (t : Turn R σ) : Option Fault :=
  match t.answer with
  | .error f => some f
  | .ok _ => none

/-- The status that an attempt was answered with. -/
def Turn.status (t : Turn R σ) : Option Int :=
  match t.answer with
  | .error _ => none
  | .ok response => some response.status

/-- Whether a failed exchange is retried. -/
def Turn.resends (t : Turn R σ) : Bool :=
  t.answered.retryOnFailure.isSet && !t.answered.retries.isZero

/-- The cancel event ended the pause that the answer led to. -/
def Turn.Cut (t : Turn R σ) : Prop :=
  ∃ millis, Consult.pause millis (.error .cancelledWaiting) ∈ t.consults

/-- What becomes of an answer: the trigger of a retry, none, or a fault. -/
inductive Settled (h : Hooks R σ) (cancellable : Bool) (t : Turn R σ) :
    Except Fault (Option (Reason × R)) → List (Event R) → Prop where
  | lost {f : Fault} (answer : t.answer = .error f) (final : t.resends = false)
      (unasked : t.Unasked) : Settled h cancellable t (.ok none) []
  | resent {f : Fault} (answer : t.answer = .error f) (again : t.resends = true)
      (unasked : t.Unasked) : Settled h cancellable t (.ok (some (.failure, Arith.zero))) []
  | success {response : Response} (answer : t.answer = .ok response)
      (good : response.isSuccess = true) (unasked : t.Unasked) :
      Settled h cancellable t (.ok none) []
  | unfunded {response : Response} (answer : t.answer = .ok response)
      (bad : response.isSuccess = false) (spent : t.answered.retries.isPositive = false)
      (unasked : t.Unasked) : Settled h cancellable t (.ok none) []
  | offered {response : Response} {trigger : Except Fault (Option (Reason × R))}
      {events : List (Event R)} (answer : t.answer = .ok response)
      (bad : response.isSuccess = false) (funded : t.answered.retries.isPositive = true)
      (run : offer h cancellable response t.answered t.answeredAt
        = ⟨trigger, t.settled, t.settledAt, events⟩)
      (questions : Offered h cancellable response t.answered t.answeredAt t.consults
        ⟨trigger, t.settled, t.settledAt, events⟩) :
      Settled h cancellable t trigger events

/-- How an attempt is closed.  No ending means that another attempt is made. -/
inductive Closed (h : Hooks R σ) (callbacks : Slot Callbacks) (start : R) (n : Nat)
    (t : Turn R σ) : Except Fault (Option (Reason × R)) → Option Ending →
    Outcome (Event R) σ (Option Response) → Prop where
  | halted {f : Fault} (uncut : ¬ t.Cut) (closing : t.closing = []) :
      Closed h callbacks start n t (.error f) (some .halted)
        ⟨.error f, t.settled, t.settledAt, []⟩
  | cancelledPausing (cut : t.Cut) (closing : t.closing = []) :
      Closed h callbacks start n t (.error .cancelledWaiting) (some .cancelledPausing)
        ⟨.error .cancelledWaiting, t.settled, t.settledAt, []⟩
  | overdrawn {reason : Reason} {waited : R} {f : Fault} (spend : spent? t.settled = .error f)
      (closing : t.closing = []) :
      Closed h callbacks start n t (.ok (some (reason, waited))) (some .overdrawn)
        ⟨.error f, t.settled, t.settledAt, []⟩
  | unretried {reason : Reason} {waited : R} {f : Fault} {r₁ r₂ : Request} {s₂ : σ}
      {e : List (Event R)} (spend : spent? t.settled = .ok r₁)
      (run : announce h callbacks n reason waited t.error t.status r₁ t.settledAt
        = ⟨.error f, r₂, s₂, e⟩)
      (closing : t.closing = told callbacks Callbacks.onRetry
        (.retried (retryInfo r₁ n reason waited t.error t.status))) :
      Closed h callbacks start n t (.ok (some (reason, waited))) (some .unretried)
        ⟨.error f, r₂, s₂, e⟩
  | retried {reason : Reason} {waited : R} {r₁ r₂ : Request} {s₂ : σ} {e : List (Event R)}
      (spend : spent? t.settled = .ok r₁)
      (run : announce h callbacks n reason waited t.error t.status r₁ t.settledAt
        = ⟨.ok (), r₂, s₂, e⟩)
      (closing : t.closing = told callbacks Callbacks.onRetry
        (.retried (retryInfo r₁ n reason waited t.error t.status))) :
      Closed h callbacks start n t (.ok (some (reason, waited))) none ⟨.ok none, r₂, s₂, e⟩
  | lost {f : Fault} {r₂ : Request} {s₂ : σ} {e : List (Event R)} (answer : t.answer = .error f)
      (run : report h callbacks start n f none t.settled t.settledAt = ⟨.ok (), r₂, s₂, e⟩)
      (closing : t.closing = told callbacks Callbacks.onFailure
        (.failed (failureInfo h start n f none t.settled t.settledAt))) :
      Closed h callbacks start n t (.ok none) (some .lost) ⟨.error f, r₂, s₂, e⟩
  | lostUntold {f g : Fault} {r₂ : Request} {s₂ : σ} {e : List (Event R)}
      (answer : t.answer = .error f)
      (run : report h callbacks start n f none t.settled t.settledAt = ⟨.error g, r₂, s₂, e⟩)
      (closing : t.closing = told callbacks Callbacks.onFailure
        (.failed (failureInfo h start n f none t.settled t.settledAt))) :
      Closed h callbacks start n t (.ok none) (some .untold) ⟨.error g, r₂, s₂, e⟩
  | succeeded {response : Response} {r₂ : Request} {s₂ : σ} {e : List (Event R)}
      (answer : t.answer = .ok response) (good : response.isSuccess = true)
      (run : succeed h callbacks start n response t.settled t.settledAt = ⟨.ok (), r₂, s₂, e⟩)
      (closing : t.closing = told callbacks Callbacks.onSuccess
        (.succeeded (successInfo h start n response t.settled t.settledAt))) :
      Closed h callbacks start n t (.ok none) (some .succeeded) ⟨.ok (some response), r₂, s₂, e⟩
  | succeededUntold {response : Response} {g : Fault} {r₂ : Request} {s₂ : σ}
      {e : List (Event R)} (answer : t.answer = .ok response) (good : response.isSuccess = true)
      (run : succeed h callbacks start n response t.settled t.settledAt
        = ⟨.error g, r₂, s₂, e⟩)
      (closing : t.closing = told callbacks Callbacks.onSuccess
        (.succeeded (successInfo h start n response t.settled t.settledAt))) :
      Closed h callbacks start n t (.ok none) (some .untold) ⟨.error g, r₂, s₂, e⟩
  | returned {response : Response} (answer : t.answer = .ok response)
      (bad : response.isSuccess = false) (quiet : t.settled.raiseOnError.isSet = false)
      (closing : t.closing = []) :
      Closed h callbacks start n t (.ok none) (some .returned)
        ⟨.ok (some response), t.settled, t.settledAt, []⟩
  | undescribed {response : Response} {f : CharsetFault} (answer : t.answer = .ok response)
      (bad : response.isSuccess = false) (raise : t.settled.raiseOnError.isSet = true)
      (described : ResponseError.ofResponseBy h.decode response none = .error f)
      (closing : t.closing = []) :
      Closed h callbacks start n t (.ok none) (some .undescribed)
        ⟨.error (.charset f), t.settled, t.settledAt, []⟩
  | rejected {response : Response} {error : ResponseError} {r₂ : Request} {s₂ : σ}
      {e : List (Event R)} (answer : t.answer = .ok response)
      (bad : response.isSuccess = false) (raise : t.settled.raiseOnError.isSet = true)
      (described : ResponseError.ofResponseBy h.decode response none = .ok error)
      (run : report h callbacks start n (.response error) (some response.status) t.settled
        t.settledAt = ⟨.ok (), r₂, s₂, e⟩)
      (closing : t.closing = told callbacks Callbacks.onFailure
        (.failed (failureInfo h start n (.response error) (some response.status) t.settled
          t.settledAt))) :
      Closed h callbacks start n t (.ok none) (some .rejected)
        ⟨.error (.response error), r₂, s₂, e⟩
  | rejectedUntold {response : Response} {error : ResponseError} {g : Fault} {r₂ : Request}
      {s₂ : σ} {e : List (Event R)} (answer : t.answer = .ok response)
      (bad : response.isSuccess = false) (raise : t.settled.raiseOnError.isSet = true)
      (described : ResponseError.ofResponseBy h.decode response none = .ok error)
      (run : report h callbacks start n (.response error) (some response.status) t.settled
        t.settledAt = ⟨.error g, r₂, s₂, e⟩)
      (closing : t.closing = told callbacks Callbacks.onFailure
        (.failed (failureInfo h start n (.response error) (some response.status) t.settled
          t.settledAt))) :
      Closed h callbacks start n t (.ok none) (some .untold) ⟨.error g, r₂, s₂, e⟩

/-- How an attempt goes after `n` others.  No turn means that it was not sent, and no
    ending that another attempt is made. -/
inductive Attempted (h : Hooks R σ) (cancellable : Bool) (callbacks : Slot Callbacks) (start : R)
    (n : Nat) (r : Request) (s : σ) : Option (Turn R σ) → Option Ending →
    Outcome (Event R) σ (Option Response) → Prop where
  | cancelled (set : (cancellable && h.isCancelled s) = true) :
      Attempted h cancellable callbacks start n r s none (some .cancelled)
        ⟨.error (.cancelled r.method r.url), r, s, []⟩
  | unsent {f : Fault} {r' : Request} {s' : σ} {e : List (Event R)}
      (clear : (cancellable && h.isCancelled s) = false)
      (run : opening h cancellable callbacks n r s = ⟨.error f, r', s', e⟩) :
      Attempted h cancellable callbacks start n r s none (some .unsent) ⟨.error f, r', s', e⟩
  | broken {t : Turn R σ} {f : Fault} {r₁ : Request} {s₁ : σ} {e₁ e₂ : List (Event R)}
      (clear : (cancellable && h.isCancelled s) = false)
      (opened : t.opened = r ∧ t.openedAt = s)
      (run₁ : opening h cancellable callbacks n r s = ⟨.ok t.staged, r₁, s₁, e₁⟩)
      (run₂ : exchange h t.staged r₁ s₁ = ⟨.error f, t.answered, t.answeredAt, e₂⟩)
      (answer : t.answer = .error f) (unasked : t.Unasked) (closing : t.closing = []) :
      Attempted h cancellable callbacks start n r s (some t) (some .broken)
        ⟨.error f, t.answered, t.answeredAt, e₁ ++ e₂⟩
  | taken {t : Turn R σ} {r₁ : Request} {s₁ : σ} {e₁ e₂ e₃ : List (Event R)}
      {trigger : Except Fault (Option (Reason × R))} {ending : Option Ending}
      {o : Outcome (Event R) σ (Option Response)}
      (clear : (cancellable && h.isCancelled s) = false)
      (opened : t.opened = r ∧ t.openedAt = s)
      (run₁ : opening h cancellable callbacks n r s = ⟨.ok t.staged, r₁, s₁, e₁⟩)
      (run₂ : exchange h t.staged r₁ s₁ = ⟨.ok t.answer, t.answered, t.answeredAt, e₂⟩)
      (settled : Settled h cancellable t trigger e₃)
      (closed : Closed h callbacks start n t trigger ending o) :
      Attempted h cancellable callbacks start n r s (some t) ending (o.after (e₁ ++ e₂ ++ e₃))

/-! ## Section 4: Attempts follow the rules -/

variable {h : Hooks R σ} {cancellable : Bool} {callbacks : Slot Callbacks} {start : R} {n : Nat}

/-- The account with what callbacks are told at the end. -/
def Turn.close (t : Turn R σ) (closing : List (Event R)) : Turn R σ :=
  { t with closing := closing }

theorem Settled.close {t : Turn R σ} {trigger : Except Fault (Option (Reason × R))}
    {events : List (Event R)} (hs : Settled h cancellable t trigger events)
    (closing : List (Event R)) : Settled h cancellable (t.close closing) trigger events := by
  cases hs with
  | lost answer final unasked => exact .lost answer final unasked
  | resent answer again unasked => exact .resent answer again unasked
  | success answer good unasked => exact .success answer good unasked
  | unfunded answer bad spent unasked => exact .unfunded answer bad spent unasked
  | offered answer bad funded run questions => exact .offered answer bad funded run questions

section follows

variable (h : Hooks R σ) (cancellable : Bool) (callbacks : Slot Callbacks) (start : R) (n : Nat)

theorem closed_retry (t : Turn R σ) (reason : Reason) (waited : R) :
    ∃ closing ending, Closed h callbacks start n (t.close closing) (.ok (some (reason, waited)))
      ending ((retry h callbacks n reason waited t.error t.status >>= fun _ => pure none)
        t.settled t.settledAt) := by
  let closing (r : Request) : List (Event R) :=
    told callbacks Callbacks.onRetry (.retried (retryInfo r n reason waited t.error t.status))
  have hretry : retry h callbacks n reason waited t.error t.status = spendRetry >>= fun _ =>
      announce h callbacks n reason waited t.error t.status := rfl
  rw [hretry, bind_assoc]
  -- the retry is spent before it is told, so a fault of the spending is told to nobody
  have hspend := spendRetry_eq (R := R) t.settled t.settledAt
  match hspent : spent? t.settled with
  | .error f =>
    rw [hspent] at hspend
    rw [Run.bind_error hspend]
    exact ⟨[], _, .overdrawn hspent rfl⟩
  | .ok r₁ =>
    rw [hspent] at hspend
    rw [Run.bind_ok hspend, Outcome.after_nil]
    rcases hrun : announce h callbacks n reason waited t.error t.status r₁ t.settledAt
      with ⟨f | _, r₂, s₂, e⟩
    · rw [Run.bind_error hrun]
      exact ⟨closing r₁, _, .unretried hspent hrun rfl⟩
    · rw [Run.bind_ok hrun, Run.pure_apply, Outcome.after_mk, List.append_nil]
      exact ⟨closing r₁, _, .retried hspent hrun rfl⟩

theorem closed_success (t : Turn R σ) {response : Response} (answer : t.answer = .ok response)
    (good : response.isSuccess = true) :
    ∃ closing ending, Closed h callbacks start n (t.close closing) (.ok none) ending
      ((succeed h callbacks start n response >>= fun _ => pure (some response))
        t.settled t.settledAt) := by
  let closing : List (Event R) := told callbacks Callbacks.onSuccess
    (.succeeded (successInfo h start n response t.settled t.settledAt))
  rcases hrun : succeed h callbacks start n response t.settled t.settledAt
    with ⟨g | _, r₂, s₂, e⟩ <;> rw [Run.bind_const hrun]
  · exact ⟨closing, _, .succeededUntold answer good hrun rfl⟩
  · exact ⟨closing, _, .succeeded answer good hrun rfl⟩

theorem fail_bind_apply (f : Fault) (status : Option Int)
    (rest : Unit → Run (Event R) σ (Option Response)) (r : Request) (s : σ) :
    (fail h callbacks start n f status >>= rest) r s =
      match report h callbacks start n f status r s with
      | ⟨.ok (), r', s', e⟩ => ⟨.error f, r', s', e⟩
      | ⟨.error g, r', s', e⟩ => ⟨.error g, r', s', e⟩ := by
  rw [fail_eq, bind_assoc]
  -- what follows a failure is never reached
  rcases hrun : report h callbacks start n f status r s with ⟨g | _, r', s', e⟩
  · rw [Run.bind_error hrun]
  · rw [Run.bind_ok hrun, Run.throw_bind, Run.throw_apply, Outcome.after_mk, List.append_nil]

theorem closed_failure (t : Turn R σ) {f : Fault} (answer : t.answer = .error f)
    (rest : Unit → Run (Event R) σ (Option Response)) :
    ∃ closing ending, Closed h callbacks start n (t.close closing) (.ok none) ending
      ((fail h callbacks start n f none >>= rest) t.settled t.settledAt) := by
  let closing : List (Event R) := told callbacks Callbacks.onFailure
    (.failed (failureInfo h start n f none t.settled t.settledAt))
  rw [fail_bind_apply]
  rcases hrun : report h callbacks start n f none t.settled t.settledAt with ⟨g | _, r₂, s₂, e⟩
  · exact ⟨closing, _, .lostUntold answer hrun rfl⟩
  · exact ⟨closing, _, .lost answer hrun rfl⟩

theorem closed_conclude (t : Turn R σ) {response : Response} (answer : t.answer = .ok response)
    (bad : response.isSuccess = false) :
    ∃ closing ending, Closed h callbacks start n (t.close closing) (.ok none) ending
      ((conclude h callbacks start n response >>= fun _ => pure (some response))
        t.settled t.settledAt) := by
  unfold conclude
  rw [bind_assoc, Run.request_bind]
  -- the error is made before it is reported, and making it can fail
  cases hraise : t.settled.raiseOnError.isSet with
  | false =>
    simp only [Bool.false_eq_true, if_false, pure_bind, Run.pure_apply]
    exact ⟨[], _, .returned answer bad hraise rfl⟩
  | true =>
    simp only [if_true, bind_assoc]
    match hdescribed : ResponseError.ofResponseBy h.decode response none with
    | .error f =>
      exact ⟨[], _, .undescribed answer bad hraise hdescribed rfl⟩
    | .ok error =>
      let closing : List (Event R) := told callbacks Callbacks.onFailure
        (.failed (failureInfo h start n (.response error) (some response.status) t.settled
          t.settledAt))
      simp only [Run.mapError_ok, Run.lift_ok, pure_bind, fail_bind_apply]
      rcases hrun : report h callbacks start n (.response error) (some response.status) t.settled
        t.settledAt with ⟨g | _, r₂, s₂, e⟩
      · exact ⟨closing, _, .rejectedUntold answer bad hraise hdescribed hrun rfl⟩
      · exact ⟨closing, _, .rejected answer bad hraise hdescribed hrun rfl⟩

/-- The account of an attempt up to its answer, before anything is asked. -/
def Turn.unasked (opened : Request) (openedAt : σ) (staged : Staged)
    (answer : Except Fault Response) (answered : Request) (answeredAt : σ) : Turn R σ where
  opened := opened
  openedAt := openedAt
  staged := staged
  answer := answer
  answered := answered
  answeredAt := answeredAt
  consults := []
  settled := answered
  settledAt := answeredAt
  closing := []

/-- An answer is settled and the attempt closed, by the rules. -/
theorem taken (opened : Request) (openedAt : σ) (staged : Staged)
    (answer : Except Fault Response) (r : Request) (s : σ) :
    ∃ t trigger ending e o, t.opened = opened ∧ t.openedAt = openedAt ∧ t.staged = staged ∧
      t.answer = answer ∧ t.answered = r ∧ t.answeredAt = s ∧
      Settled h cancellable t trigger e ∧ Closed h callbacks start n t trigger ending o ∧
      take h cancellable callbacks start n answer r s = o.after e := by
  let t : Turn R σ := .unasked opened openedAt staged answer r s
  cases answer with
  | error f =>
    show ∃ t trigger ending e o, _ ∧ _ ∧ _ ∧ _ ∧ _ ∧ _ ∧ _ ∧ _ ∧
      takeFailure h callbacks start n f r s = _
    rw [takeFailure_eq]
    by_cases hagain : (r.retryOnFailure.isSet && !r.retries.isZero) = true
    · obtain ⟨closing, ending, hclosed⟩ :=
        closed_retry h callbacks start n t .failure
          Arith.zero
      rw [if_pos hagain]
      exact ⟨t.close closing, _, ending, _, _, rfl, rfl, rfl, rfl, rfl, rfl,
        .resent rfl hagain ⟨rfl, rfl, rfl⟩, hclosed, rfl⟩
    · obtain ⟨closing, ending, hclosed⟩ := closed_failure h callbacks start n t rfl
        fun _ => retry h callbacks n .failure Arith.zero (some f) none >>= fun _ => pure none
      rw [if_neg hagain]
      exact ⟨t.close closing, _, ending, _, _, rfl, rfl, rfl, rfl, rfl, rfl,
        .lost rfl (Bool.eq_false_iff.mpr hagain) ⟨rfl, rfl, rfl⟩, hclosed, rfl⟩
  | ok response =>
    show ∃ t trigger ending e o, _ ∧ _ ∧ _ ∧ _ ∧ _ ∧ _ ∧ _ ∧ _ ∧
      takeResponse h cancellable callbacks start n response r s = _
    rw [takeResponse_eq]
    by_cases hgood : response.isSuccess = true
    · obtain ⟨closing, ending, hclosed⟩ :=
        closed_success h callbacks start n t rfl
          hgood
      rw [if_pos hgood]
      exact ⟨t.close closing, _, ending, _, _, rfl, rfl, rfl, rfl, rfl, rfl,
        .success rfl hgood ⟨rfl, rfl, rfl⟩, hclosed, rfl⟩
    have hbad : response.isSuccess = false := Bool.eq_false_iff.mpr hgood
    rw [if_neg hgood]
    by_cases hfunded : r.retries.isPositive = true
    · rw [if_pos hfunded]
      obtain ⟨cs, hoffered⟩ := offered h cancellable response r s
      rcases hrun : offer h cancellable response r s with ⟨f | trigger, r₂, s₂, e⟩
      all_goals
        rw [hrun] at hoffered
        let t' : Turn R σ := { t with consults := cs, settled := r₂, settledAt := s₂ }
      · rw [Run.bind_error hrun]
        have hsettled : Settled h cancellable t' (.error f) e :=
          .offered rfl hbad hfunded hrun hoffered
        -- the fault of the cancel event is told from all others by the pause that it ended
        by_cases hcut : t'.Cut
        · obtain ⟨millis, hpause⟩ := hcut
          cases hoffered.stopped_by hpause rfl
          exact ⟨t', _, _, e, ⟨.error .cancelledWaiting, r₂, s₂, []⟩, rfl, rfl, rfl, rfl, rfl,
            rfl, hsettled, .cancelledPausing ⟨millis, hpause⟩ rfl, by simp⟩
        · exact ⟨t', _, _, e, ⟨.error f, r₂, s₂, []⟩, rfl, rfl, rfl, rfl, rfl, rfl, hsettled,
            .halted hcut rfl, by simp⟩
      · rw [Run.bind_ok hrun]
        have hsettled : Settled h cancellable t' (.ok trigger) e :=
          .offered rfl hbad hfunded hrun hoffered
        match trigger with
        | some (reason, waited) =>
          obtain ⟨closing, ending, hclosed⟩ :=
            closed_retry h callbacks start n t' reason
              waited
          exact ⟨t'.close closing, _, ending, _, _, rfl, rfl, rfl, rfl, rfl, rfl,
            hsettled.close closing, hclosed, rfl⟩
        | none =>
          obtain ⟨closing, ending, hclosed⟩ :=
            closed_conclude h callbacks start n t'
              rfl hbad
          exact ⟨t'.close closing, _, ending, _, _, rfl, rfl, rfl, rfl, rfl, rfl,
            hsettled.close closing, hclosed, rfl⟩
    · rw [if_neg hfunded]
      obtain ⟨closing, ending, hclosed⟩ :=
        closed_conclude h callbacks start n t rfl
          hbad
      exact ⟨t.close closing, _, ending, _, _, rfl, rfl, rfl, rfl, rfl, rfl,
        .unfunded rfl hbad (Bool.eq_false_iff.mpr hfunded) ⟨rfl, rfl, rfl⟩, hclosed, rfl⟩

/-- Every attempt follows the rules. -/
theorem attempted (r : Request) (s : σ) :
    ∃ t ending, Attempted h cancellable callbacks start n r s t ending
      (attempt h cancellable callbacks start n r s) := by
  rw [attempt_eq]
  cases hclear : (cancellable && h.isCancelled s) with
  | true =>
    have hopening : opening h cancellable callbacks n r s = _ :=
      Run.bind_error (checkCancelled_set hclear r)
    rw [Run.bind_error hopening]
    exact ⟨_, _, .cancelled hclear⟩
  | false =>
    rcases hopening : opening h cancellable callbacks n r s with ⟨f | staged, r₁, s₁, e₁⟩
    · rw [Run.bind_error hopening]
      exact ⟨_, _, .unsent hclear hopening⟩
    rw [Run.bind_ok hopening]
    rcases hexchange : exchange h staged r₁ s₁ with ⟨f | answer, r₂, s₂, e₂⟩
    · rw [Run.bind_error hexchange]
      exact ⟨some (.unasked r s staged (.error f) r₂ s₂), _,
        .broken hclear ⟨rfl, rfl⟩ hopening hexchange rfl ⟨rfl, rfl, rfl⟩ rfl⟩
    rw [Run.bind_ok hexchange]
    obtain ⟨t, trigger, ending, e₃, o, rfl, rfl, rfl, rfl, rfl, rfl, hsettled, hclosed, htake⟩ :=
      taken h cancellable callbacks start n r s staged answer r₂ s₂
    rw [htake, Outcome.after_after, Outcome.after_after]
    exact ⟨some t, ending, .taken hclear ⟨rfl, rfl⟩ hopening hexchange hsettled hclosed⟩

end follows

/-- An attempt that was sent began with the event clear, with the request and the state
    that it found, and was staged from that request. -/
theorem Attempted.opens {r : Request} {s : σ} {t : Turn R σ} {ending : Option Ending}
    {o : Outcome (Event R) σ (Option Response)}
    (ha : Attempted h cancellable callbacks start n r s (some t) ending o) :
    (cancellable && h.isCancelled s) = false ∧ t.opened = r ∧ t.openedAt = s ∧
      t.staged = stagedOf h.debug r := by
  cases ha with
  | broken clear opened run₁ | taken clear opened run₁ =>
    obtain ⟨-, hstaged, -⟩ := opening_sent clear run₁
    exact ⟨clear, opened.1, opened.2, hstaged⟩

end Redial.Engine
