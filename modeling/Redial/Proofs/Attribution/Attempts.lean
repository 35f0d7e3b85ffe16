import Redial.Proofs.Account.Preserved
import Redial.Proofs.Headers.WireRoundTrip
import Redial.Proofs.Minutes

/-! # Whose response it is

    A response names the method and the URL of its transmission, and these are read from
    the request after the exchange, when much may have been assigned to it.  Handlers,
    policies and callbacks may do so at any time, but from the moment in which a
    transmission is staged until its response is made only the transport and the callback
    that is told of the attempt are called.  If they leave the target alone, the response
    names the transmission that it answers: `exchange_names`.

    The rest is read off the minutes.  An attempt adds to them the transmission that it
    handed over, what came back, and the response made of it, as often as it was given
    (`Turn.Adds`).  So wherever a response is given, nothing else has passed since its own
    exchange. -/

namespace Redial

/-! ## Section 1: Attribution -/

/-- The error of a response carries it. -/
theorem ResponseError.response_ofResponseBy {response : Response} {decode : Decoder}
    {error : ResponseError} (he : ResponseError.ofResponseBy decode response none = .ok error) :
    error.response = response := by
  unfold ofResponseBy at he
  cases hdescribe : describe decode response with
  | error f =>
    rw [hdescribe] at he
    cases he
  | ok message =>
    rw [hdescribe] at he
    cases he
    rfl

/-- The response reports the result of an exchange, and names its transmission. -/
structure Response.Reports (response : Response) (staged : Staged) (raw : RawResponse) : Prop where
  method : response.method = staged.method
  url : response.url = staged.url
  status : response.status = raw.status
  reason : response.reason = raw.reason
  body : response.body = raw.body
  /-- The header pairs, grouped by their lower-cased names. -/
  lines : response.headers.lines none = grouped (lowered raw.headers)
  /-- Under every name the values of the pairs with that name, in order. -/
  texts : ∀ name, response.headers.texts name =
    (raw.headers.filter fun p => Text.lower p.1 == Text.lower name).map Prod.snd

theorem Response.reports_ofRaw (staged : Staged) (raw : RawResponse) :
    (Response.ofRaw raw staged.method staged.url).Reports staged raw where
  method := rfl
  url := rfl
  status := rfl
  reason := rfl
  body := rfl
  lines := Headers.lines_ofWire raw.headers
  texts := Headers.texts_ofWire raw.headers

/-- The minutes end with an exchange that the response reports.  Since then nothing passed
    but this response. -/
def AnsweredBy (minutes : List Minute) (response : Response) (staged : Staged) : Prop :=
  ∃ earlier raw times, response.Reports staged raw ∧
    minutes = earlier ++ .handed staged :: .returned raw :: List.replicate times (.given response)

/-- Every response in the minutes was given as the answer of the exchange before it. -/
def Attributed (minutes : List Minute) : Prop :=
  ∀ before response after, minutes = before ++ .given response :: after →
    ∃ staged, AnsweredBy before response staged

theorem AnsweredBy.append {minutes : List Minute} {response : Response} {staged : Staged}
    (ha : AnsweredBy minutes response staged) (earlier : List Minute) :
    AnsweredBy (earlier ++ minutes) response staged := by
  obtain ⟨before, raw, times, hreports, rfl⟩ := ha
  exact ⟨earlier ++ before, raw, times, hreports, (List.append_assoc _ _ _).symm⟩

theorem Attributed.append {xs ys : List Minute} (hx : Attributed xs) (hy : Attributed ys) :
    Attributed (xs ++ ys) := by
  intro before response after hsplit
  rcases List.append_eq_append_iff.mp hsplit with ⟨middle, rfl, hright⟩ | ⟨middle, hleft, hright⟩
  -- the response is given in the second part, or at its very beginning
  · obtain ⟨staged, hanswered⟩ := hy middle response after hright
    exact ⟨staged, hanswered.append xs⟩
  · cases middle with
    | nil =>
      obtain ⟨staged, hanswered⟩ := hy [] response after hright.symm
      rw [List.append_nil] at hleft
      exact ⟨staged, by simpa [hleft] using hanswered.append xs⟩
    | cons minute rest =>
      rw [List.cons_append, List.cons.injEq] at hright
      obtain ⟨rfl, -⟩ := hright
      exact hx before response rest hleft

theorem attributed_nil : Attributed [] := by
  intro before response after hsplit
  exact absurd hsplit.symm (List.append_ne_nil_of_right_ne_nil _ (List.cons_ne_nil _ _))

theorem attributed_handed (staged : Staged) : Attributed [.handed staged] := by
  intro before response after hsplit
  cases before with
  | nil => cases hsplit
  | cons minute rest =>
    rw [List.cons_append, List.cons.injEq] at hsplit
    exact absurd hsplit.2.symm (List.append_ne_nil_of_right_ne_nil _ (List.cons_ne_nil _ _))

/-- After an exchange only the response that reports it is given. -/
theorem attributed_exchange {staged : Staged} {raw : RawResponse} {response : Response}
    (hreports : response.Reports staged raw) (times : Nat) :
    Attributed (.handed staged :: .returned raw :: List.replicate times (.given response)) := by
  intro before other after hsplit
  match before with
  | [] => cases hsplit
  | [minute] => cases hsplit
  | first :: second :: rest =>
    simp only [List.cons_append, List.cons.injEq] at hsplit
    obtain ⟨rfl, rfl, hrest⟩ := hsplit
    obtain ⟨-, hbefore, hafter⟩ := List.replicate_eq_append_iff.mp hrest
    have hother : Minute.given other = .given response :=
      List.eq_of_mem_replicate (hafter ▸ List.mem_cons_self)
    cases hother
    exact ⟨staged, [], raw, rest.length, hreports, by rw [← hbefore]; rfl⟩

/-! ## Section 2: The target of a transmission -/

/-- The surroundings without those that have no part in a transmission. -/
def Hooks.sending {R σ : Type} (h : Hooks R σ) : Hooks R σ :=
  { h with
    resetPolicy := fun _ => pure ()
    isBackoffRequired := fun _ _ => pure false
    nextBackoff := fun _ => pure (.whole 0)
    handle := fun _ _ _ => pure false
    onRetry := fun _ _ => pure ()
    onSuccess := fun _ _ => pure ()
    onFailure := fun _ _ => pure () }

theorem Hooks.LeaveTarget.sending {R σ : Type} {h : Hooks R σ} (hk : h.LeaveTarget) :
    h.sending.Keep Request.target := fun target =>
  { writeSource := fun id => hk.writeSource id target
    announce := fun staged => hk.announce staged target
    exchange := fun staged body => hk.exchange staged body target
    resetPolicy := fun _ => Run.preserves_pure _
    isBackoffRequired := fun _ _ => Run.preserves_pure _
    nextBackoff := fun _ => Run.preserves_pure _
    handle := fun _ _ _ => Run.preserves_pure _
    onRequest := fun id info => hk.onRequest id info target
    onRetry := fun _ _ => Run.preserves_pure _
    onSuccess := fun _ _ => Run.preserves_pure _
    onFailure := fun _ _ => Run.preserves_pure _ }

namespace Engine

variable {R σ : Type} {h : Hooks R σ} {cancellable : Bool} {callbacks : Slot Callbacks}

/-- The request has the target of a transmission as long as it is on its way. -/
theorem opening_target (hk : h.LeaveTarget) {n : Nat} {r r' : Request} {s s' : σ}
    {a : Except Fault Staged} {e : List (Event R)}
    (run : opening h cancellable callbacks n r s = ⟨a, r', s', e⟩) : r'.target = r.target := by
  have hsending : opening h.sending cancellable callbacks n r s = ⟨a, r', s', e⟩ := run
  exact (preserves_opening (hk.sending r.target) cancellable callbacks n).left hsending rfl

theorem writeContent_sending (h : Hooks R σ) (c : Content) :
    writeContent h.sending c = writeContent h c := by
  induction c with
  | bytes | source => rfl
  | gzip inner ih =>
    rw [writeContent, writeContent, ih]
    rfl
  | logging inner limit ih =>
    rw [writeContent, writeContent, ih]
    rfl

theorem readBody_sending (h : Hooks R σ) (staged : Staged) :
    readBody h.sending staged = readBody h staged := by
  have hreads : h.sending.readsBody = h.readsBody := rfl
  unfold readBody
  rw [hreads]
  split
  · exact writeContent_sending h _
  · rfl

theorem transmit_target (hk : h.LeaveTarget) {staged : Staged} {r r' : Request} {s s' : σ}
    {a : Except Fault RawResponse} {e : List (Event R)}
    (run : transmit h staged r s = ⟨a, r', s', e⟩) : r'.target = r.target := by
  have hsending : transmit h.sending staged r s = ⟨a, r', s', e⟩ := by
    unfold transmit
    rw [readBody_sending]
    exact run
  exact (preserves_transmit (hk.sending r.target) staged).left hsending rfl

/-- What an exchange fails with is the fault of the transmission, taken as an answer or not. -/
theorem transmit_of_exchange_error {staged : Staged} {r r' : Request} {s s' : σ}
    {x : Except Fault (Except Fault Response)} {f : Fault} {e : List (Event R)}
    (run : exchange h staged r s = ⟨x, r', s', e⟩) (hx : x = .error f ∨ x = .ok (.error f)) :
    transmit h staged r s = ⟨.error f, r', s', e⟩ := by
  rw [exchange_apply] at run
  rcases htransmit : transmit h staged r s with ⟨g | raw, r₁, s₁, e₁⟩ <;> rw [htransmit] at run
  -- a failed exchange is taken as the answer, any other fault is raised; both are the fault
  · have hresult : (if g.isExchange = true then .ok (.error g) else .error g) = x :=
      congrArg Outcome.result run
    have hg : g = f := by
      by_cases hexchange : g.isExchange = true
      · rw [if_pos hexchange] at hresult
        subst hresult
        rcases hx with hx | hx <;> cases hx
        rfl
      · rw [if_neg hexchange] at hresult
        subst hresult
        rcases hx with hx | hx <;> cases hx
        rfl
    cases run
    rw [hg]
  · cases run
    rcases hx with hx | hx <;> cases hx

/-- What a response is made from: the result of its exchange, and the target that the request
    had before it. -/
theorem exchange_names (hk : h.LeaveTarget) {staged : Staged} {r r' : Request} {s s' : σ}
    {response : Response} {e : List (Event R)}
    (run : exchange h staged r s = ⟨.ok (.ok response), r', s', e⟩) :
    ∃ raw, transmit h staged r s = ⟨.ok raw, r', s', e⟩ ∧
      response = .ofRaw raw r.target.1 r.target.2 := by
  rw [exchange_apply] at run
  rcases htransmit : transmit h staged r s with ⟨f | raw, r₁, s₁, e₁⟩ <;> rw [htransmit] at run
  · dsimp only at run
    by_cases hf : f.isExchange = true
    · rw [if_pos hf] at run
      cases run
    · rw [if_neg hf] at run
      cases run
  · cases run
    have htarget := transmit_target hk htransmit
    exact ⟨raw, rfl, by rw [← htarget]; rfl⟩

/-! ## Section 3: Attempts -/

variable {minutes : σ → List Minute} {P : Fault → Prop}

/-- What an attempt adds to the minutes, by its account. -/
def Turn.Adds (t : Turn R σ) (added : List Minute) : Prop :=
  match t.answer with
  | .error _ => added = [.handed t.staged]
  | .ok response => ∃ raw times, response = .ofRaw raw t.staged.method t.staged.url ∧
      added = .handed t.staged :: .returned raw :: List.replicate times (.given response)

/-- What passes once the answer is there: only the response, if it is one. -/
def Turn.Passes (minutes : σ → List Minute) (t : Turn R σ) (s s' : σ) : Prop :=
  match t.answer with
  | .error _ => Same minutes s s'
  | .ok response => Gives minutes response s s'

theorem Turn.chains_passes (minutes : σ → List Minute) (t : Turn R σ) :
    Chains (t.Passes minutes) := by
  unfold Turn.Passes
  cases t.answer with
  | error f => exact chains_same minutes
  | ok response => exact chains_gives minutes response

theorem Turn.passes_of_same {t : Turn R σ} {s s' : σ} (hs : Same minutes s s') :
    t.Passes minutes s s' := by
  unfold Turn.Passes
  cases t.answer with
  | error f => exact hs
  | ok response => exact Same.gives hs response

theorem Turn.passes_of_gives {t : Turn R σ} {response : Response}
    (answer : t.answer = .ok response) {s s' : σ} (hs : Gives minutes response s s') : t.Passes minutes s s' := by
  unfold Turn.Passes
  rw [answer]
  exact hs

/-- An exchange adds what its account says, before anything is given. -/
theorem exchange_adds (hm : h.Minuted minutes) (hk : h.LeaveTarget) {t : Turn R σ}
    {r : Request} {s : σ} {e : List (Event R)}
    (htarget : r.target = (t.staged.method, t.staged.url))
    (run : exchange h t.staged r s = ⟨.ok t.answer, t.answered, t.answeredAt, e⟩) :
    ∃ added, t.Adds added ∧ minutes t.answeredAt = minutes s ++ added := by
  have hminutes := transmit_minutes hm t.staged r s
  cases hanswer : t.answer with
  | ok response =>
    rw [hanswer] at run
    obtain ⟨raw, htransmit, hresponse⟩ := exchange_names hk run
    rw [htransmit] at hminutes
    rw [htarget] at hresponse
    -- nothing has been given yet: the response is only made now
    refine ⟨[.handed t.staged, .returned raw], ?_, hminutes⟩
    unfold Turn.Adds
    rw [hanswer]
    exact ⟨raw, 0, hresponse, rfl⟩
  | error f =>
    rw [transmit_of_exchange_error run (.inr (congrArg _ hanswer))] at hminutes
    refine ⟨[.handed t.staged], ?_, hminutes⟩
    unfold Turn.Adds
    rw [hanswer]

/-- Whatever passes after the exchange belongs to what the attempt adds. -/
theorem Turn.Adds.append {t : Turn R σ} {added : List Minute} (ha : t.Adds added) {s s' s'' : σ}
    (hs : minutes s' = minutes s ++ added) (hp : t.Passes minutes s' s'') :
    ∃ more, t.Adds more ∧ minutes s'' = minutes s ++ more := by
  unfold Turn.Adds at ha ⊢
  unfold Turn.Passes at hp
  cases hanswer : t.answer with
  | error f =>
    rw [hanswer] at ha hp
    exact ⟨added, ha, hp.trans hs⟩
  | ok response =>
    rw [hanswer] at ha hp
    obtain ⟨raw, times, hresponse, hadded⟩ := ha
    obtain ⟨again, hagain⟩ := hp
    refine ⟨_, ⟨raw, times + again, hresponse, rfl⟩, ?_⟩
    rw [hagain, hs, hadded, List.append_assoc, List.cons_append, List.cons_append,
      List.replicate_append_replicate]

theorem Turn.Adds.handed {t : Turn R σ} {added : List Minute} (ha : t.Adds added) :
    handed added = [t.staged] := by
  unfold Turn.Adds at ha
  cases hanswer : t.answer with
  | error f =>
    rw [hanswer] at ha
    rw [ha]
    rfl
  | ok response =>
    rw [hanswer] at ha
    obtain ⟨raw, times, -, hadded⟩ := ha
    have hgiven : Redial.handed (List.replicate times (.given response)) = [] := by
      unfold Redial.handed
      rw [List.filterMap_replicate_of_none rfl]
    rw [hadded]
    exact congrArg (t.staged :: ·) hgiven

theorem Turn.Adds.answeredBy {t : Turn R σ} {added : List Minute} (ha : t.Adds added)
    {response : Response} (answer : t.answer = .ok response) :
    AnsweredBy added response t.staged := by
  unfold Turn.Adds at ha
  rw [answer] at ha
  obtain ⟨raw, times, rfl, hadded⟩ := ha
  exact ⟨[], raw, times, Response.reports_ofRaw t.staged raw, hadded⟩

/-- All that an attempt gives is the answer of its own exchange. -/
theorem Turn.Adds.attributed {t : Turn R σ} {added : List Minute} (ha : t.Adds added) :
    Attributed added := by
  unfold Turn.Adds at ha
  cases hanswer : t.answer with
  | error f =>
    rw [hanswer] at ha
    subst ha
    exact attributed_handed t.staged
  | ok response =>
    rw [hanswer] at ha
    obtain ⟨raw, times, rfl, rfl⟩ := ha
    exact attributed_exchange (Response.reports_ofRaw t.staged raw) times

/-- The transmissions that were handed over are those of the attempts. -/
theorem handed_flatten {turns : List (Turn R σ)} {added : List (List Minute)}
    (ha : List.Forall₂ Turn.Adds turns added) : handed added.flatten = turns.map Turn.staged := by
  induction ha with
  | nil => rfl
  | cons hfirst _ ih => rw [List.flatten_cons, handed_append, hfirst.handed, ih]; rfl

theorem attributed_flatten {turns : List (Turn R σ)} {added : List (List Minute)}
    (ha : List.Forall₂ Turn.Adds turns added) : Attributed added.flatten := by
  induction ha with
  | nil => exact attributed_nil
  | cons hfirst _ ih => exact hfirst.attributed.append ih

/-- The minutes of a run end with the exchange of its last attempt, and its answer. -/
theorem answeredBy_flatten {turns : List (Turn R σ)} {added : List (List Minute)}
    (ha : List.Forall₂ Turn.Adds turns added) {t : Turn R σ} (hlast : turns.getLast? = some t)
    {response : Response} (answer : t.answer = .ok response) :
    AnsweredBy added.flatten response t.staged := by
  induction ha with
  | nil => cases hlast
  | @cons first added turns rest hfirst hrest ih =>
    rw [List.flatten_cons]
    cases turns with
    | nil =>
      cases hrest
      cases hlast
      rw [List.flatten_nil, List.append_nil]
      exact hfirst.answeredBy answer
    -- there are later attempts, and the last of them is the last of all
    | cons second turns => exact (ih hlast).append added

variable [Arith R] {start : R} {n : Nat}

theorem Settled.passes (hm : h.Minuted minutes) {t : Turn R σ}
    {trigger : Except Fault (Option (Reason × R))} {e : List (Event R)}
    (hs : Settled h cancellable t trigger e) : t.Passes minutes t.answeredAt t.settledAt := by
  have hrefl : t.Passes minutes t.answeredAt t.answeredAt := (t.chains_passes minutes).refl _
  cases hs with
  | lost _ _ unasked | resent _ _ unasked | success _ _ unasked => rwa [unasked.2.2]
  | unfunded _ _ _ unasked => rwa [unasked.2.2]
  | @offered response _ _ answer bad funded run _ =>
    have hoffer := leaves_offer hm h.raiseOnly_true (fun _ _ => trivial) cancellable response
    exact Turn.passes_of_gives answer (hoffer.1.left run)

theorem Closed.passes (hm : h.Minuted minutes) {t : Turn R σ}
    {trigger : Except Fault (Option (Reason × R))} {ending : Option Ending}
    {o : Outcome (Event R) σ (Option Response)}
    (hc : Closed h callbacks start n t trigger ending o) :
    t.Passes minutes t.settledAt o.state := by
  have hr := h.raiseOnly_true
  have htrue : Spares fun _ => True := fun _ _ => trivial
  have hrefl : t.Passes minutes t.settledAt t.settledAt := (t.chains_passes minutes).refl _
  cases hc with
  | halted | cancelledPausing | overdrawn => exact hrefl
  | returned | undescribed => exact hrefl
  | unretried _ run | retried _ run =>
    exact Turn.passes_of_same ((leaves_announce hm hr htrue _ _ _ _ _ _).1.left run)
  | lost _ run | lostUntold _ run =>
    exact Turn.passes_of_same ((leaves_report hm hr htrue _ _ _ _ _).1.left run)
  | rejected _ _ _ _ run | rejectedUntold _ _ _ _ run =>
    exact Turn.passes_of_same ((leaves_report hm hr htrue _ _ _ _ _).1.left run)
  | succeeded answer _ run | succeededUntold answer _ run =>
    exact Turn.passes_of_gives answer ((leaves_succeed hm hr htrue _ _ _ _).1.left run)

/-- An attempt adds to the minutes what its account says, and nothing if it was not sent. -/
theorem Attempted.adds (hm : h.Minuted minutes) (hk : h.LeaveTarget) {r : Request} {s : σ}
    {t : Option (Turn R σ)} {ending : Option Ending} {o : Outcome (Event R) σ (Option Response)}
    (ha : Attempted h cancellable callbacks start n r s t ending o) :
    ∃ added, List.Forall₂ Turn.Adds t.toList added ∧
      minutes o.state = minutes s ++ added.flatten := by
  have hr := h.raiseOnly_true
  have hopening := leaves_opening hm hr (fun _ _ => trivial) cancellable callbacks n
  have hunsent : ∀ s', Same minutes s s' → ∃ added,
      List.Forall₂ Turn.Adds (none : Option (Turn R σ)).toList added ∧
        minutes s' = minutes s ++ added.flatten := fun s' hs =>
    ⟨[], .nil, hs.trans (List.append_nil _).symm⟩
  cases ha with
  | cancelled => exact hunsent s rfl
  | unsent clear run => exact hunsent _ (hopening.1.left run)
  | @broken t f r₁ s₁ e₁ e₂ clear opened run₁ run₂ answer unasked closing =>
    have hsame : minutes s₁ = minutes s := hopening.1.left run₁
    have hminutes := transmit_minutes hm t.staged r₁ s₁
    rw [transmit_of_exchange_error run₂ (.inl rfl), hsame] at hminutes
    have hadds : t.Adds [.handed t.staged] := by
      unfold Turn.Adds
      rw [answer]
    exact ⟨[[.handed t.staged]], .cons hadds .nil, hminutes⟩
  | @taken t r₁ s₁ e₁ e₂ e₃ trigger ending o clear opened run₁ run₂ settled closed =>
    have hsame : minutes s₁ = minutes s := hopening.1.left run₁
    obtain ⟨-, hstaged, -⟩ := opening_sent clear run₁
    -- the request that goes into the exchange has the target that was staged
    have htarget : r₁.target = (t.staged.method, t.staged.url) := by
      rw [opening_target hk run₁, hstaged]
      rfl
    obtain ⟨first, hfirst, hexchange⟩ := exchange_adds hm hk htarget run₂
    have hpasses : t.Passes minutes t.answeredAt o.state :=
      (t.chains_passes minutes).trans (settled.passes hm) (closed.passes hm)
    obtain ⟨added, hadds, hend⟩ := hfirst.append hexchange hpasses
    refine ⟨[added], .cons hadds .nil, ?_⟩
    rw [Outcome.after_state, hend, hsame, List.flatten_singleton]

/-! ## Section 4: Runs -/

theorem Course.adds (hm : h.Minuted minutes) (hk : h.LeaveTarget) {r : Request} {s : σ}
    {turns : List (Turn R σ)} {ending : Option Ending}
    {o : Outcome (Event R) σ (Option Response)}
    (hc : Course h cancellable callbacks start n r s turns ending o) :
    ∃ added, List.Forall₂ Turn.Adds turns added ∧
      minutes o.state = minutes s ++ added.flatten := by
  induction hc with
  | cut => exact ⟨[], .nil, (List.append_nil _).symm⟩
  | last attempt => exact attempt.adds hm hk
  | @again _ _ _ _ s' _ _ _ _ _ attempt rest ih =>
    obtain ⟨first, hfirst, hmiddle⟩ := attempt.adds hm hk
    obtain ⟨more, hmore, hend⟩ := ih
    have hstart : minutes s' = _ := hmiddle
    refine ⟨first ++ more, ?_, ?_⟩
    · exact List.rel_append hfirst hmore
    · rw [Outcome.after_state, hend, hstart, List.flatten_append, List.append_assoc]

theorem Executed.adds (hm : h.Minuted minutes) (hk : h.LeaveTarget) {r : Request} {s : σ}
    {turns : List (Turn R σ)} {ending : Option Ending}
    {o : Outcome (Event R) σ (Option Response)}
    (he : Executed h cancellable r s turns ending o) :
    ∃ added, List.Forall₂ Turn.Adds turns added ∧
      minutes o.state = minutes s ++ added.flatten := by
  have hreset := leaves_resetPolicy hm h.raiseOnly_true (fun _ _ => trivial)
  cases he with
  | refused => exact ⟨[], .nil, (List.append_nil _).symm⟩
  | unreset method reset =>
    have hsame : Same minutes s _ := hreset.1.left reset
    exact ⟨[], .nil, hsame.trans (List.append_nil _).symm⟩
  | run method reset course =>
    have hsame : Same minutes s _ := hreset.1.left reset
    obtain ⟨added, hadds, hend⟩ := course.adds hm hk
    exact ⟨added, hadds, by rw [Outcome.after_state, hend, hsame]⟩

end Engine

end Redial
