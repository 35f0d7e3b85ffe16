import Redial.Proofs.Playback
import Redial.Proofs.Stripped

/-! # The URL that a redirect is resolved against

    A redirect names its target by a location, which is seen from some URL.  The rule
    takes the URL that the request has when it is asked, after the handler and the
    policy have declined the response.  That is the URL of the transmission only if
    none of the hooks in between has assigned another one. -/

namespace Redial

/-- The rule moves a request exactly if it follows redirects, the status is one, and its
    first location resolves against the URL of the request. -/
theorem Request.redirectTarget_eq_some {r : Request} {status : Int} {headers : Headers}
    {target : String} :
    r.redirectTarget status headers = .ok (some target) ↔
      ∃ location, headers.field? .location = some location ∧ r.followRedirects.isSet = true ∧
        Status.isRedirect status = true ∧ resolveFrom r.url location = .ok target := by
  unfold Request.redirectTarget
  cases headers.field? .location with
  | none => simp
  | some location =>
    by_cases hfollow : (r.followRedirects.isSet && Status.isRedirect status) = true
    · simp only [if_pos hfollow]
      rw [Bool.and_eq_true] at hfollow
      cases hresolve : resolveFrom r.url location with
      | error f => simp [Except.map, hresolve]
      | ok t => simp [Except.map, hfollow, hresolve]
    · simp only [if_neg hfollow]
      rw [Bool.and_eq_true] at hfollow
      constructor
      · exact fun hnone => absurd hnone nofun
      · rintro ⟨_, -, hset, hredirect, -⟩
        exact absurd ⟨hset, hredirect⟩ hfollow

/-- An absolute location is its own target. -/
theorem resolveFrom_absolute {current : Value} {location target : String} {l : Url}
    (hl : Url.parse location.toList = .ok l) (habsolute : l.isAbsolute = true)
    (htarget : resolveFrom current location = .ok target) : target = location := by
  have hlocation : ∀ url, resolveLocation url location = .ok location := by
    intro url
    unfold resolveLocation
    rw [hl]
    show (if l.isAbsolute = true then Except.ok location else _) = _
    rw [if_pos habsolute]
  unfold resolveFrom at htarget
  cases current with
  | text url =>
    dsimp only at htarget
    rw [hlocation] at htarget
    exact (Except.ok.inj htarget).symm
  | _ =>
    rw [hl] at htarget
    change (if l.isAbsolute = true then Except.ok location else _) = _ at htarget
    rw [if_pos habsolute] at htarget
    exact (Except.ok.inj htarget).symm

namespace Engine

variable {R σ : Type} [Arith R] {h : Hooks R σ} {cancellable : Bool} {callbacks : Slot Callbacks}
  {start : R} {n : Nat}

/-! ## Section 1: Accepted redirects -/

/-- How an answer moves the request: the handler and the policy declined it and left a
    request, and the location resolved against the URL of that one. -/
structure Turn.Resolves (h : Hooks R σ) (cancellable : Bool) (t : Turn R σ) (response : Response)
    (location target : String) (left : Request) : Prop where
  answer : t.answer = .ok response
  status : Status.isRedirect response.status = true
  named : response.headers.field? .location = some location
  declined : ∃ asked askedAt leftAt cs₁ cs₂ e₁ e₂,
    HandlerAsked h response t.answered t.answeredAt cs₁ ⟨.ok false, asked, askedAt, e₁⟩ ∧
      PolicyAsked h cancellable response.status asked askedAt cs₂ ⟨.ok none, left, leftAt, e₂⟩
  resolved : resolveFrom left.url location = .ok target
  moved : t.settled = left.redirected response.status target

/-- What the surroundings preserve still holds of the request that is moved. -/
theorem Turn.Resolves.preserved {t : Turn R σ} {response : Response} {location target : String}
    {left : Request} (hr : t.Resolves h cancellable response location target left)
    {P : Request → Prop} (hp : h.Preserve P) (hanswered : P t.answered) : P left := by
  obtain ⟨_, _, _, _, _, _, _, hhandler, hpolicy⟩ := hr.declined
  exact hpolicy.preserved hp (hhandler.preserved hp hanswered)

/-- The answer of a response that was moved. -/
theorem Settled.resolves {t : Turn R σ} {trigger : Except Fault (Option (Reason × R))}
    {e : List (Event R)} (hs : Settled h cancellable t trigger e) {target : String}
    (hmoved : .redirect (.ok (some target)) ∈ t.consults) :
    ∃ response location left, t.Resolves h cancellable response location target left := by
  have hasked : ¬ t.Unasked := by
    rintro ⟨hconsults, -⟩
    rw [hconsults] at hmoved
    exact absurd hmoved List.not_mem_nil
  cases hs with
  | lost _ _ unasked | resent _ _ unasked | success _ _ unasked => exact absurd unasked hasked
  | unfunded _ _ _ unasked => exact absurd unasked hasked
  | offered answer bad funded run questions =>
    generalize hconsults : t.consults = cs at questions
    rw [hconsults] at hmoved
    generalize hleft : Outcome.mk trigger t.settled t.settledAt e = o at questions
    -- only the last rule moves the request, after everybody else has declined
    cases questions with
    | handlerFailed handler | claimed handler => exact absurd hmoved (handler.no_redirect.2 _)
    | policyFailed handler policy | paused handler policy =>
      rcases List.mem_append.mp hmoved with hc | hc
      · exact absurd hc (handler.no_redirect.2 _)
      · exact absurd hc (policy.no_redirect _)
    | redirectFailed handler policy | stayed handler policy =>
      simp only [List.append_assoc, List.mem_append, List.mem_singleton, Consult.redirect.injEq,
        reduceCtorEq, Except.ok.injEq, or_false] at hmoved
      rcases hmoved with hc | hc
      · exact absurd hc (handler.no_redirect.2 _)
      · exact absurd hc (policy.no_redirect _)
    | @moved _ _ target' _ left _ _ _ _ _ handler policy rule =>
      have hsame : target = target' := by
        simp only [List.append_assoc, List.mem_append, List.mem_singleton,
          Consult.redirect.injEq, Except.ok.injEq, Option.some.injEq] at hmoved
        rcases hmoved with hc | hc | hc
        · exact absurd hc (handler.no_redirect.2 _)
        · exact absurd hc (policy.no_redirect _)
        · exact hc
      subst hsame
      obtain ⟨location, hlocation, -, hstatus, hresolved⟩ :=
        Request.redirectTarget_eq_some.mp rule
      have hsettled : t.settled = left.redirected _ target := congrArg Outcome.request hleft
      exact ⟨_, location, left, answer, hstatus, hlocation,
        ⟨_, _, _, _, _, _, _, handler, policy⟩, hresolved, hsettled⟩

/-- The attempt of an answer that was moved. -/
theorem Attempted.resolves {r : Request} {s : σ} {t : Turn R σ} {ending : Option Ending}
    {o : Outcome (Event R) σ (Option Response)}
    (ha : Attempted h cancellable callbacks start n r s (some t) ending o) {target : String}
    (hmoved : .redirect (.ok (some target)) ∈ t.consults) :
    ∃ response location left, t.Resolves h cancellable response location target left ∧
      ∀ P, h.Preserve P → P r → P left := by
  have hanswered : ∀ P, h.Preserve P → P r → P t.answered := fun P hp hr => ha.answered hp hr
  cases ha with
  | broken _ _ _ _ _ unasked _ =>
    rw [unasked.1] at hmoved
    exact absurd hmoved List.not_mem_nil
  | taken _ _ _ _ settled _ =>
    obtain ⟨response, location, left, hresolves⟩ := settled.resolves hmoved
    exact ⟨response, location, left, hresolves, fun P hp hr =>
      hresolves.preserved hp (hanswered P hp hr)⟩

/-! ## Section 2: Runs -/

/-- Every accepted redirect of a run moves the request to what the first location of the
    response names, seen from the URL that the handler and the policy left.  That is the
    URL of the transmission if the surroundings leave the URL alone, and for an absolute
    location it makes no difference. -/
theorem execute_resolves_left_url (h : Hooks R σ) (cancellable : Bool) (limit : Nat)
    (r : Request) (s : σ) :
    ∃ turns ending, Executed h cancellable r s turns ending (execute h cancellable limit r s) ∧
      ∀ t ∈ turns, ∀ target, .redirect (.ok (some target)) ∈ t.consults →
        ∃ response location left, t.Resolves h cancellable response location target left ∧
          t.settled.url = .text target ∧ t.staged.url = t.opened.url ∧
          (∀ P, h.Preserve P → P t.opened → P left) ∧
          ((h.Keep fun r => r.url) → resolveFrom t.staged.url location = .ok target) ∧
          ∀ l, Url.parse location.toList = .ok l → l.isAbsolute = true → target = location := by
  obtain ⟨turns, ending, hexecuted, -⟩ := executed h cancellable limit r s
  refine ⟨turns, ending, hexecuted, fun t ht target hmoved => ?_⟩
  obtain ⟨callbacks, start, k, r', s', e, o', hattempted, -⟩ := hexecuted.attempted_of_mem ht
  obtain ⟨-, hopened, -, hstaged⟩ := hattempted.opens
  obtain ⟨response, location, left, hresolves, hleft⟩ := hattempted.resolves hmoved
  rw [← hopened] at hleft hstaged
  have hurl : t.staged.url = t.opened.url := by rw [hstaged]; rfl
  refine ⟨response, location, left, hresolves, ?_, hurl, hleft, fun hk => ?_, ?_⟩
  · rw [hresolves.moved]
    rfl
  · have hsame : left.url = t.opened.url := hleft _ (hk t.opened.url) rfl
    rw [hurl, ← hsame]
    exact hresolves.resolved
  · exact fun l hl habsolute => resolveFrom_absolute hl habsolute hresolves.resolved

/-- A handler that assigns a URL and declines: the location is seen from there. -/
example :
    let p : Playback Rat := ⟨fun k => .ok (if k = 0 then ⟨302, "", [("location", "z")], []⟩
      else ⟨200, "", [], []⟩), fun _ _ => false, fun _ _ => false, fun _ => .whole 0⟩
    let h : Hooks Rat Nat := { p.hooks with
      handle := fun _ _ _ => fun r s =>
        ⟨.ok false, { r with url := .text "http://other/x/y" }, s, []⟩ }
    let r : Request := { Request.make "GET" (.text "http://a/b/c") none Headers.empty with
      handler := .hook (.leaf "Moving" 0) }
    (sent (execute h false 3 r 0).events).map (fun staged => staged.url.plain)
      = ["http://a/b/c", "http://other/x/z"] := by
  decide +kernel

end Engine

end Redial
