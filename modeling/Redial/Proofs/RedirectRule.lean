import Redial.Proofs.Redirection

/-! # The redirect rule is all or nothing

    The rule rewrites several fields of a request, and one of its steps can fail on what
    a server sent: the location may lead nowhere.  It takes that step first.  Whether it
    applies at all is decided by the request, the status and the first location; where
    it leads is decided by the resolution alone; and only then is the request touched,
    by assignments that cannot fail.  So a request is left either as it was or
    completely rewritten. -/

namespace Redial

/-! ## Section 1: When the rule applies -/

/-- The codes of the rule. -/
theorem Status.isRedirect_iff {status : Int} :
    Status.isRedirect status = true ↔ status ∈ [301, 302, 303, 307, 308] :=
  List.contains_iff_mem

namespace Request

variable {r : Request} {status : Int} {headers : Headers} {location : String}

/-- The rule applies to a response: the request follows redirects, the code is one of a
    redirect, and this is the first wire text of the location.  A location that is stored
    as nothing, or as no items, has none; an empty text is one. -/
structure Follows (r : Request) (status : Int) (headers : Headers) (location : String) :
    Prop where
  allowed : r.followRedirects.isSet = true
  code : status ∈ [301, 302, 303, 307, 308]
  named : (headers.texts "Location").head? = some location

theorem Follows.unique {other : String} (hf : r.Follows status headers location)
    (hother : r.Follows status headers other) : other = location :=
  Option.some.inj (hother.named.symm.trans hf.named)

/-- Where the rule applies, the location is resolved. -/
theorem Follows.redirectTarget (hf : r.Follows status headers location) :
    r.redirectTarget status headers = (resolveFrom r.url location).map some := by
  have hfield : headers.field? .location = some location := hf.named
  have hfollow : (r.followRedirects.isSet && Status.isRedirect status) = true := by
    rw [hf.allowed, Status.isRedirect_iff.mpr hf.code]
    rfl
  unfold Request.redirectTarget
  rw [hfield]
  exact if_pos hfollow

/-- So it never declines there. -/
theorem Follows.redirectTarget_ne_none (hf : r.Follows status headers location) :
    r.redirectTarget status headers ≠ .ok none := by
  rw [hf.redirectTarget]
  cases resolveFrom r.url location with
  | error f => nofun
  | ok target => nofun

/-! ## Section 2: What the rule makes of the request -/

/-- The request moved to its new target, field by field. -/
theorem redirected_eq (r : Request) (status : Int) (target : String) :
    r.redirected status target = { r with
      url := .text target
      method := if status = 303 ∧ r.method = "POST" then "GET" else r.method
      content := if status = 303 ∧ r.method = "POST" then none else r.content
      headers := ⟨r.headers.entries.filter fun e =>
        Text.lower e.name ∉ ["authorization", "if-match", "if-none-match", "if-modified-since",
          "if-unmodified-since", "if-range"]⟩ } := by
  have hloses : (r.losesContent status = true) = (status = 303 ∧ r.method = "POST") := by
    simp [losesContent, Status.seeOther]
  have hkeys : strippedKeys = ["authorization", "if-match", "if-none-match",
      "if-modified-since", "if-unmodified-since", "if-range"] := by
    decide +kernel
  have hstripped : r.headers.stripped = ⟨r.headers.entries.filter fun e =>
      Text.lower e.name ∉ ["authorization", "if-match", "if-none-match", "if-modified-since",
        "if-unmodified-since", "if-range"]⟩ := by
    refine congrArg Headers.mk ((Headers.stripped_entries r.headers).trans ?_)
    rw [hkeys]
    refine congrArg (List.filter · r.headers.entries) (funext fun e => ?_)
    rw [← List.elem_eq_contains, Header.key]
    simp
  simp only [redirected, hloses, hstripped]

end Request

/-! ## Section 3: The rule -/

variable {σ : Type} {status : Int} {headers : Headers} {r : Request} {s : σ}

/-- How the rule answers a response. -/
inductive RedirectAnswered (status : Int) (headers : Headers) (r : Request) (s : σ) :
    Outcome Note σ Bool → Prop where
  /-- It does not apply. -/
  | declined (apart : ∀ location, ¬ r.Follows status headers location) :
      RedirectAnswered status headers r s ⟨.ok false, r, s, []⟩
  /-- It applies, and the location leads nowhere. -/
  | failed {location : String} {f : Fault} (follows : r.Follows status headers location)
      (unresolved : resolveFrom r.url location = .error f) :
      RedirectAnswered status headers r s ⟨.error f, r, s, []⟩
  /-- It applies, and the request is moved to where the location leads. -/
  | moved {location target : String} {notes : List Note}
      (follows : r.Follows status headers location)
      (resolved : resolveFrom r.url location = .ok target) :
      RedirectAnswered status headers r s ⟨.ok true, r.redirected status target, s, notes⟩

/-- Following a redirect follows the rule. -/
theorem followRedirect_answered (debug : Bool) (status : Int) (headers : Headers) (r : Request)
    (s : σ) : RedirectAnswered status headers r s (followRedirect debug status headers r s) := by
  rcases Engine.followRedirect_eq debug status headers r s with
    ⟨f, htarget, hrule⟩ | ⟨htarget, hrule⟩ | ⟨target, notes, htarget, hrule⟩
  · rw [hrule]
    obtain ⟨location, hnamed, hallowed, hcode, hresolve⟩ := Engine.redirectTarget_error htarget
    exact .failed ⟨hallowed, Status.isRedirect_iff.mp hcode, hnamed⟩ hresolve
  · rw [hrule]
    exact .declined fun location hf => hf.redirectTarget_ne_none htarget
  · rw [hrule]
    obtain ⟨location, hnamed, hallowed, hcode, hresolve⟩ :=
      Request.redirectTarget_eq_some.mp htarget
    exact .moved ⟨hallowed, Status.isRedirect_iff.mp hcode, hnamed⟩ hresolve

/-- The rule answers yes exactly if it applies and the location resolves, and fails exactly
    if it applies and the location does not resolve, with the fault of the resolution.  It
    leaves the request as it was unless it answers yes.  Then the request has the resolved
    URL, a `POST` answered with 303 has become a `GET` without content, the headers that
    were meant for the previous target are gone, and nothing else has changed. -/
theorem followRedirect_all_or_nothing (debug : Bool) (status : Int) (headers : Headers)
    (r : Request) (s : σ) :
    let o := followRedirect debug status headers r s
    (o.result = .ok true ↔ ∃ location target, r.Follows status headers location ∧
      resolveFrom r.url location = .ok target) ∧
    (∀ f, o.result = .error f ↔ ∃ location, r.Follows status headers location ∧
      resolveFrom r.url location = .error f) ∧
    (o.result ≠ .ok true → o.request = r) ∧
    (o.result = .ok true → ∃ location target, r.Follows status headers location ∧
      resolveFrom r.url location = .ok target ∧
      o.request = { r with
        url := .text target
        method := if status = 303 ∧ r.method = "POST" then "GET" else r.method
        content := if status = 303 ∧ r.method = "POST" then none else r.content
        headers := ⟨r.headers.entries.filter fun e =>
          Text.lower e.name ∉ ["authorization", "if-match", "if-none-match",
            "if-modified-since", "if-unmodified-since", "if-range"]⟩ }) ∧
    o.state = s := by
  intro o
  have answered : RedirectAnswered status headers r s o :=
    followRedirect_answered debug status headers r s
  clear_value o
  cases answered with
  | declined apart =>
    exact ⟨⟨nofun, fun ⟨location, _, follows, _⟩ => absurd follows (apart location)⟩,
      fun _ => ⟨nofun, fun ⟨location, follows, _⟩ => absurd follows (apart location)⟩,
      fun _ => rfl, nofun, rfl⟩
  | @failed location f follows unresolved =>
    refine ⟨⟨nofun, ?_⟩, fun g => ⟨?_, ?_⟩, fun _ => rfl, nofun, rfl⟩
    · rintro ⟨other, target, hother, hresolved⟩
      rw [follows.unique hother, unresolved] at hresolved
      cases hresolved
    · rintro ⟨⟩
      exact ⟨location, follows, unresolved⟩
    · rintro ⟨other, hother, hg⟩
      rw [follows.unique hother, unresolved] at hg
      exact congrArg Except.error (Except.error.inj hg)
  | @moved location target notes follows resolved =>
    refine ⟨⟨fun _ => ⟨location, target, follows, resolved⟩, fun _ => rfl⟩,
      fun g => ⟨nofun, ?_⟩, fun hno => absurd rfl hno,
      fun _ => ⟨location, target, follows, resolved, r.redirected_eq status target⟩, rfl⟩
    rintro ⟨other, hother, hg⟩
    rw [follows.unique hother, resolved] at hg
    cases hg

/-- A location that is stored but holds nothing is no location, while an empty text is one
    that names the URL itself. -/
example :
    let r := Request.make "POST" (.text "http://a/b") none
      (Headers.empty.setAll [("aUTHORIZATION", .list [.text "x", .text "y"]), ("X-A", .nothing)])
    let moved (location : Value) := followRedirect false 303
      (Headers.empty.set "location" location) r ()
    ((moved .nothing).request.method, (moved (.text "")).request.method,
      (moved (.text "")).request.url.plain, (moved (.text "")).request.headers.names)
        = ("POST", "GET", "http://a/b", ["X-A"]) := by
  decide +kernel

end Redial
