import Redial.Proofs.Outcome

/-! # Recorded calls

    Surroundings can be made to keep a record of their calls: who was called, what
    the call raised, and what it left.  Recording changes nothing else.

    `Records x y` says that a run `x` on recorded surroundings does what `y` does on
    the plain ones, and that its record is closed by the first call after which no
    other may be made: a call that raised a fault which nobody takes, or the report
    of an error.  One lemma per combinator carries this from the parts of a run to
    the whole. -/

namespace Redial

/-! ## Section 1: Calls -/

/-- Whom an execution calls. -/
inductive Site where
  | transport
  | policy
  | handler
  | onRequest
  | onRetry
  | onSuccess
  | onFailure
  deriving DecidableEq

/-- A call into the surroundings, with what came of it. -/
structure Call (σ : Type) where
  site : Site
  /-- What the call raised. -/
  fault : Option Fault
  /-- The request, the state and the notes that the call left. -/
  request : Request
  state : σ
  notes : List Note

namespace Call

variable {σ : Type}

/-- What the call raised, unless it is a failed exchange of the transport. -/
def raised (c : Call σ) : Option Fault :=
  if c.site = .transport then c.fault.filter fun f => !f.isExchange else c.fault

/-- A call after which no other is made. -/
def IsLast (c : Call σ) : Prop := c.raised.isSome = true ∨ c.site = .onFailure

/-- What the transport raises is no failed exchange. -/
theorem not_isExchange_of_raised {c : Call σ} {f : Fault} (hsite : c.site = .transport)
    (hraised : c.raised = some f) : f.isExchange = false := by
  unfold raised at hraised
  rw [if_pos hsite, Option.filter_eq_some_iff] at hraised
  simpa using hraised.2

end Call

variable {R σ α β : Type}

/-- The fault that a run ended with. -/
def Outcome.fault {ε : Type} (o : Outcome ε σ α) : Option Fault :=
  match o.result with
  | .ok _ => none
  | .error f => some f

theorem Outcome.fault_eq_some {ε : Type} {o : Outcome ε σ α} {f : Fault} :
    o.fault = some f ↔ o.result = .error f := by
  unfold Outcome.fault
  cases o.result with
  | ok a => exact iff_of_false nofun nofun
  | error f' => simp

/-- The outcome with a record of calls beside its state. -/
def Outcome.beside {ε : Type} (o : Outcome ε σ α) (calls : List (Call σ)) :
    Outcome ε (σ × List (Call σ)) α :=
  ⟨o.result, o.request, (o.state, calls), o.events⟩

/-- The call that a run of the surroundings was. -/
def Outcome.call (o : Outcome Note σ α) (site : Site) : Call σ :=
  ⟨site, o.fault, o.request, o.state, o.events⟩

/-- A call that is recorded. -/
def Run.recorded (site : Site) (x : Hook σ α) : Hook (σ × List (Call σ)) α := fun r s =>
  (x r s.1).beside (s.2 ++ [(x r s.1).call site])

/-- The surroundings with a record of their calls.  Time passes unrecorded. -/
def Hooks.recorded (h : Hooks R σ) : Hooks R (σ × List (Call σ)) where
  debug := h.debug
  now s := h.now s.1
  sleep span s := (h.sleep span s.1, s.2)
  checkPause cancellable span s := h.checkPause cancellable span s.1
  isCancelled s := h.isCancelled s.1
  wait span s := ((h.wait span s.1).1, (h.wait span s.1).2, s.2)
  decode := h.decode
  compress := h.compress
  writeSource id := Run.recorded .transport (h.writeSource id)
  supports := h.supports
  transportName := h.transportName
  announce staged := Run.recorded .transport (h.announce staged)
  readsBody := h.readsBody
  exchange staged body := Run.recorded .transport (h.exchange staged body)
  resetPolicy id := Run.recorded .policy (h.resetPolicy id)
  isBackoffRequired id status := Run.recorded .policy (h.isBackoffRequired id status)
  nextBackoff id := Run.recorded .policy (h.nextBackoff id)
  handle id response supportsRetry :=
    Run.recorded .handler (h.handle id response supportsRetry)
  onRequest id info := Run.recorded .onRequest (h.onRequest id info)
  onRetry id info := Run.recorded .onRetry (h.onRetry id info)
  onSuccess id info := Run.recorded .onSuccess (h.onSuccess id info)
  onFailure id info := Run.recorded .onFailure (h.onFailure id info)

/-- What a recorded call raised is what the run of the surroundings ended with. -/
theorem Outcome.result_of_raised {o : Outcome Note σ α} {site : Site} {f : Fault}
    (hraised : (o.call site).raised = some f) : o.result = .error f := by
  unfold Call.raised at hraised
  split at hraised
  · exact Outcome.fault_eq_some.mp (Option.filter_eq_some_iff.mp hraised).1
  · exact Outcome.fault_eq_some.mp hraised

/-! ## Section 2: Records that are closed -/

/-- The run ended with the fault right after the call, which left the request, the state
    and the last events. -/
structure Call.Ends (c : Call σ) (f : Fault) (o : Outcome (Event R) σ α) : Prop where
  result : o.result = .error f
  request : o.request = c.request
  state : o.state = c.state
  events : ∃ earlier, o.events = earlier ++ c.notes.map .ofNote

/-- How the record of a run looks: either no call in it is a last one, or exactly the
    call at its end is, and the run ended with a fault, by that call if it raised. -/
inductive Closes (o : Outcome (Event R) σ α) : List (Call σ) → Prop where
  | running {calls : List (Call σ)} (going : ∀ c ∈ calls, ¬ c.IsLast) : Closes o calls
  | ended {before : List (Call σ)} {c : Call σ} {f : Fault} (going : ∀ d ∈ before, ¬ d.IsLast)
      (last : c.IsLast) (failed : o.result = .error f)
      (ends : ∀ f', c.raised = some f' → c.Ends f' o) : Closes o (before ++ [c])

theorem Call.Ends.after {c : Call σ} {f : Fault} {o : Outcome (Event R) σ α} (he : c.Ends f o)
    (events : List (Event R)) : c.Ends f (o.after events) where
  result := he.result
  request := he.request
  state := he.state
  events := by
    obtain ⟨earlier, hevents⟩ := he.events
    exact ⟨events ++ earlier, by rw [Outcome.after_events, hevents, List.append_assoc]⟩

theorem Call.Ends.failed {c : Call σ} {f : Fault} {o : Outcome (Event R) σ α}
    (he : c.Ends f o) :
    c.Ends f (⟨.error f, o.request, o.state, o.events⟩ : Outcome (Event R) σ β) :=
  ⟨rfl, he.request, he.state, he.events⟩

/-- The record of a run that failed is that of every run which fails with it. -/
theorem Closes.failed {o : Outcome (Event R) σ α} {calls : List (Call σ)} (hc : Closes o calls)
    {f : Fault} (hresult : o.result = .error f) :
    Closes (⟨.error f, o.request, o.state, o.events⟩ : Outcome (Event R) σ β) calls := by
  cases hc with
  | running going => exact .running going
  | ended going last _ ends =>
    refine .ended going last rfl fun f' hraised => ?_
    have hends := ends f' hraised
    obtain rfl : f' = f := by simpa [hends.result] using hresult
    exact hends.failed

/-- In the record of a run that went through no call is a last one. -/
theorem Closes.going {o : Outcome (Event R) σ α} {calls : List (Call σ)} (hc : Closes o calls)
    {a : α} (hok : o.result = .ok a) : ∀ c ∈ calls, ¬ c.IsLast := by
  cases hc with
  | running going => exact going
  | ended going last failed ends =>
    rw [hok] at failed
    exact absurd failed nofun

/-- Calls that are no last ones may stand in front. -/
theorem Closes.after {o : Outcome (Event R) σ α} {earlier calls : List (Call σ)}
    (hc : Closes o calls) (hearlier : ∀ c ∈ earlier, ¬ c.IsLast) (events : List (Event R)) :
    Closes (o.after events) (earlier ++ calls) := by
  cases hc with
  | running going =>
    refine .running fun c hmem => ?_
    rcases List.mem_append.mp hmem with hfirst | hsecond
    · exact hearlier c hfirst
    · exact going c hsecond
  | ended going last failed ends =>
    rw [← List.append_assoc]
    refine .ended (fun d hmem => ?_) last failed fun f' hraised => (ends f' hraised).after events
    rcases List.mem_append.mp hmem with hfirst | hsecond
    · exact hearlier d hfirst
    · exact going d hsecond

/-- A call that raised, wherever it stands in a closed record, stands at its end. -/
theorem Closes.of_raised {o : Outcome (Event R) σ α} {before after : List (Call σ)} {c : Call σ}
    {f : Fault} (hc : Closes o (before ++ c :: after)) (hraised : c.raised = some f) :
    after = [] ∧ c.Ends f o ∧ ∀ d ∈ before, ¬ d.IsLast := by
  have hlast : c.IsLast := .inl (by rw [hraised]; rfl)
  generalize hcalls : before ++ c :: after = calls at hc
  cases hc with
  | running going =>
    have hmem : c ∈ calls := by rw [← hcalls]; simp
    exact absurd hlast (going c hmem)
  | @ended before' c' f' going last failed ends =>
    -- the call is not among those before the end, so it is the one at the end
    rcases List.eq_nil_or_concat after with rfl | ⟨most, last', rfl⟩
    · obtain ⟨rfl, heq⟩ := List.append_inj' hcalls rfl
      obtain rfl : c = c' := by simpa using heq
      exact ⟨rfl, ends f hraised, going⟩
    · have hsplit : (before ++ c :: most) ++ [last'] = before' ++ [c'] := by
        rw [← hcalls]
        simp
      obtain ⟨rfl, -⟩ := List.append_inj' hsplit rfl
      exact absurd hlast (going c (by simp))

/-! ## Section 3: Runs that keep a record -/

/-- The first run does on recorded surroundings what the second does on the plain ones.
    It records calls of the allowed sites alone, and its record is closed. -/
def Records (allowed : Site → Prop) (x : Run (Event R) (σ × List (Call σ)) α)
    (y : Run (Event R) σ α) : Prop :=
  ∀ r s calls, ∃ more, x r (s, calls) = (y r s).beside (calls ++ more) ∧
    (∀ c ∈ more, allowed c.site) ∧ Closes (y r s) more

section combinators

variable {S : Site → Prop}

/-- A run that calls nobody. -/
theorem records_silent {x : Run (Event R) (σ × List (Call σ)) α} {y : Run (Event R) σ α}
    (hx : ∀ r s calls, x r (s, calls) = (y r s).beside calls) : Records S x y := by
  intro r s calls
  refine ⟨[], ?_, ?_, .running ?_⟩
  · rw [hx, List.append_nil]
  · exact fun c hmem => absurd hmem List.not_mem_nil
  · exact fun c hmem => absurd hmem List.not_mem_nil

theorem records_pure (a : α) :
    Records S (pure a : Run (Event R) (σ × List (Call σ)) α) (pure a) :=
  records_silent fun _ _ _ => rfl

theorem records_throw (f : Fault) :
    Records S (Run.throw f : Run (Event R) (σ × List (Call σ)) α) (Run.throw f) :=
  records_silent fun _ _ _ => rfl

theorem records_lift (x : Except Fault α) :
    Records S (Run.lift x : Run (Event R) (σ × List (Call σ)) α) (Run.lift x) := by
  cases x with
  | error f => exact records_throw f
  | ok a => exact records_pure a

theorem records_request :
    Records S (Run.request : Run (Event R) (σ × List (Call σ)) Request) Run.request :=
  records_silent fun _ _ _ => rfl

theorem records_setRequest (r : Request) :
    Records S (Run.setRequest r : Run (Event R) (σ × List (Call σ)) Unit) (Run.setRequest r) :=
  records_silent fun _ _ _ => rfl

theorem records_emit (e : Event R) :
    Records S (Run.emit e : Run (Event R) (σ × List (Call σ)) Unit) (Run.emit e) :=
  records_silent fun _ _ _ => rfl

theorem records_log (debug : Bool) (channel : Channel) (text : String) :
    Records (R := R) (σ := σ) S (Run.ofHook (Run.log debug channel text))
      (Run.ofHook (Run.log debug channel text)) := by
  refine records_silent fun r s calls => ?_
  rw [Run.ofHook_eq (Run.log_apply debug channel text r s),
    Run.ofHook_eq (Run.log_apply debug channel text r (s, calls))]
  rfl

/-- Reading the state reads nothing of the record. -/
theorem records_state {f : σ × List (Call σ) → Run (Event R) (σ × List (Call σ)) α}
    {g : σ → Run (Event R) σ α} (hf : ∀ s calls, Records S (f (s, calls)) (g s)) :
    Records S (Run.state >>= f) (Run.state >>= g) := by
  intro r s calls
  rw [Run.state_bind, Run.state_bind]
  exact hf s calls r s calls

theorem records_bind {x : Run (Event R) (σ × List (Call σ)) α} {y : Run (Event R) σ α}
    {f : α → Run (Event R) (σ × List (Call σ)) β} {g : α → Run (Event R) σ β}
    (hx : Records S x y) (hf : ∀ a, Records S (f a) (g a)) : Records S (x >>= f) (y >>= g) := by
  intro r s calls
  obtain ⟨first, hrun, hsites, hcloses⟩ := hx r s calls
  rcases hplain : y r s with ⟨fault | a, r', s', events⟩
  · rw [hplain] at hrun hcloses
    rw [Run.bind_error hrun, Run.bind_error hplain]
    exact ⟨first, rfl, hsites, hcloses.failed rfl⟩
  · rw [hplain] at hrun hcloses
    rw [Run.bind_ok hrun, Run.bind_ok hplain]
    obtain ⟨second, hrest, hmore, hend⟩ := hf a r' s' (calls ++ first)
    refine ⟨first ++ second, ?_, ?_, hend.after (hcloses.going rfl) events⟩
    · rw [hrest, List.append_assoc]
      rfl
    · intro c hmem
      rcases List.mem_append.mp hmem with hfirst | hsecond
      · exact hsites c hfirst
      · exact hmore c hsecond

/-- One after the other, if nothing of the first is used. -/
theorem records_seq {x : Run (Event R) (σ × List (Call σ)) α} {y : Run (Event R) σ α}
    {x' : Run (Event R) (σ × List (Call σ)) β} {y' : Run (Event R) σ β}
    (hx : Records S x y) (hx' : Records S x' y') :
    Records S (x >>= fun _ => x') (y >>= fun _ => y') := records_bind hx fun _ => hx'

theorem records_ite {p : Prop} [Decidable p] {x x' : Run (Event R) (σ × List (Call σ)) α}
    {y y' : Run (Event R) σ α} (hx : Records S x y) (hx' : Records S x' y') :
    Records S (if p then x else x') (if p then y else y') := by
  by_cases h : p
  · rwa [if_pos h, if_pos h]
  · rwa [if_neg h, if_neg h]

/-- A recorded call: if it raised what nobody takes, it ends the run. -/
theorem records_call (site : Site) (hsite : S site) (hquiet : site ≠ .onFailure)
    (x : Hook σ α) :
    Records S (Run.ofHook (Run.recorded site x) : Run (Event R) _ α) (Run.ofHook x) := by
  intro r s calls
  refine ⟨[(x r s).call site], rfl, ?_, ?_⟩
  · intro c hmem
    rw [List.mem_singleton.mp hmem]
    exact hsite
  · by_cases hraised : ((x r s).call site).raised.isSome = true
    · obtain ⟨f, hf⟩ := Option.isSome_iff_exists.mp hraised
      have hresult : (x r s).result = .error f := Outcome.result_of_raised hf
      have hnone : ∀ d ∈ ([] : List (Call σ)), ¬ d.IsLast :=
        fun d hmem => absurd hmem List.not_mem_nil
      refine .ended hnone (.inl hraised) hresult fun f' hf' => ?_
      rw [hf] at hf'
      obtain rfl := Option.some.inj hf'
      exact ⟨hresult, rfl, rfl, [], rfl⟩
    · refine .running fun c hmem hlast => ?_
      rw [List.mem_singleton.mp hmem] at hlast
      exact hlast.elim hraised hquiet

/-- The report of an error is the last call of a run that raises it. -/
theorem records_report (x : Hook σ α) (f : Fault) :
    Records (fun _ => True)
      ((Run.ofHook (Run.recorded .onFailure x) : Run (Event R) _ α) >>= fun _ =>
        (Run.throw f : Run (Event R) _ β))
      (Run.ofHook x >>= fun _ => Run.throw f) := by
  intro r s calls
  have hcall : (Run.ofHook (Run.recorded .onFailure x) : Run (Event R) _ α) r (s, calls)
      = ((Run.ofHook x : Run (Event R) σ α) r s).beside
          (calls ++ [(x r s).call .onFailure]) := rfl
  have hempty : ∀ d ∈ ([] : List (Call σ)), ¬ d.IsLast :=
    fun d hmem => absurd hmem List.not_mem_nil
  rcases hrun : x r s with ⟨g | a, r', s', notes⟩
  · rw [Run.ofHook_eq hrun, hrun] at hcall
    refine ⟨[(x r s).call .onFailure], ?_, fun _ _ => trivial, ?_⟩
    · rw [Run.bind_error hcall, Run.bind_error (Run.ofHook_eq hrun), hrun]
      rfl
    · rw [Run.bind_error (Run.ofHook_eq hrun), hrun]
      refine .ended hempty (.inr rfl) rfl fun g' hraised => ?_
      obtain rfl : g = g' := by simpa using Outcome.result_of_raised hraised
      exact ⟨rfl, rfl, rfl, [], rfl⟩
  · rw [Run.ofHook_eq hrun, hrun] at hcall
    refine ⟨[(x r s).call .onFailure], ?_, fun _ _ => trivial, ?_⟩
    · rw [Run.bind_ok hcall, Run.bind_ok (Run.ofHook_eq hrun), hrun]
      rfl
    · rw [Run.bind_ok (Run.ofHook_eq hrun), hrun]
      refine .ended hempty (.inr rfl) rfl fun g' hraised => ?_
      exact absurd (Outcome.result_of_raised hraised) nofun

/-- Calls of the transport whose failed exchanges are taken. -/
theorem records_capture {x : Run (Event R) (σ × List (Call σ)) α} {y : Run (Event R) σ α}
    (hx : Records (· = .transport) x y) :
    Records (fun _ => True) (Run.capture Fault.isExchange x)
      (Run.capture Fault.isExchange y) := by
  intro r s calls
  obtain ⟨more, hrun, hsites, hcloses⟩ := hx r s calls
  refine ⟨more, ?_, fun _ _ => trivial, ?_⟩
  · rcases hplain : y r s with ⟨f | a, r', s', events⟩
    · rw [hplain] at hrun
      rw [Run.capture_error hrun, Run.capture_error hplain]
      rfl
    · rw [hplain] at hrun
      rw [Run.capture_ok hrun, Run.capture_ok hplain]
      rfl
  · rcases hplain : y r s with ⟨f | a, r', s', events⟩
    · rw [hplain] at hcloses
      rw [Run.capture_error hplain]
      cases hexchange : f.isExchange with
      | false => exact hcloses.failed rfl
      | true =>
        -- the fault is that of a failed exchange, which no call of the transport raises
        cases hcloses with
        | running going => exact .running going
        | @ended before c f' going last failed ends =>
          have hsite : c.site = .transport := hsites c (by simp)
          rcases last with hraised | hreport
          · obtain ⟨f', hf'⟩ := Option.isSome_iff_exists.mp hraised
            have hsame : f = f' := by simpa using (ends f' hf').result
            have hfinal : f'.isExchange = false := Call.not_isExchange_of_raised hsite hf'
            rw [hsame, hfinal] at hexchange
            exact absurd hexchange Bool.false_ne_true
          · rw [hsite] at hreport
            exact absurd hreport nofun
    · rw [hplain] at hcloses
      rw [Run.capture_ok hplain]
      exact .running (hcloses.going rfl)

end combinators

end Redial
