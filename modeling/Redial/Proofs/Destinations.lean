import Redial.Proofs.Cancellation
import Redial.Proofs.Redirection
import Redial.Proofs.Url.Joining

/-! # Where the transmissions of a run go

    With surroundings that leave the URL alone, a run goes where its request says, and
    from an accepted redirect on where the location led from there.  `Route` follows the
    transmissions that a run builds along their URLs.

    A run that starts at an absolute URL stays at URLs with a host as long as the
    locations lead on.  One that does not sends the next transmission to a URL that is
    not absolute: nothing between the location and the transmission checks it. -/

namespace Redial

open Url (LeadsOn namesHost)

/-- A transmission goes to a text that names a scheme and a host. -/
def Staged.NamesHost (s : Staged) : Prop :=
  ∃ text, s.url = .text text ∧ namesHost text.toList = true

namespace Engine

variable {R σ : Type}

/-! ## Section 1: Routes -/

/-- An accepted redirect: the first location of the response, seen from the URL of the
    transmission, is the target. -/
structure Turn.Redirects (t : Turn R σ) (location target : String) : Prop where
  moved : .redirect (.ok (some target)) ∈ t.consults
  named : ∃ response, t.answer = .ok response ∧
    response.headers.field? .location = some location
  resolved : resolveFrom t.staged.url location = .ok target

/-- The response has one first location, and it resolves to one target. -/
theorem Turn.Redirects.unique {t : Turn R σ} {location location' target target' : String}
    (hr : t.Redirects location target) (hr' : t.Redirects location' target') :
    target = target' := by
  obtain ⟨response, hanswer, hlocation⟩ := hr.named
  obtain ⟨response', hanswer', hlocation'⟩ := hr'.named
  cases Except.ok.inj (hanswer.symm.trans hanswer')
  cases Option.some.inj (hlocation.symm.trans hlocation')
  exact Except.ok.inj (hr.resolved.symm.trans hr'.resolved)

/-- Where the next transmission goes: to the same URL, or to the target of a redirect. -/
def Turn.GoesTo (t : Turn R σ) (next : Value) : Prop :=
  ¬ t.Moved ∧ next = t.staged.url ∨ ∃ location target, t.Redirects location target ∧
    next = .text target

/-- The transmissions that a run builds from a URL on: one for each attempt that is sent,
    and at most one more. -/
inductive Route : Value → List (Turn R σ) → List Staged → Prop where
  | done (url : Value) : Route url [] []
  | unsent (s : Staged) : Route s.url [] [s]
  | sent {next : Value} {t : Turn R σ} {turns : List (Turn R σ)} {builds : List Staged}
      (onward : t.GoesTo next) (rest : Route next turns builds) :
      Route t.staged.url (t :: turns) (t.staged :: builds)

/-- What is built along a route: the first transmission goes to where the route begins, and
    every other one where the attempt before leads. -/
theorem Route.onward {url : Value} {turns : List (Turn R σ)} {builds : List Staged}
    (hr : Route url turns builds) :
    (∀ b ∈ builds.head?, b.url = url) ∧ ∀ p ∈ turns.zip builds.tail, p.1.GoesTo p.2.url := by
  induction hr with
  | done url => exact ⟨by simp, by simp⟩
  | unsent s => exact ⟨by simp, by simp⟩
  | @sent next t turns builds hgoes rest ih =>
    obtain ⟨hfirst, honward⟩ := ih
    refine ⟨by simp, ?_⟩
    cases builds with
    | nil => simp
    | cons b builds =>
      rw [List.tail_cons, List.zip_cons_cons]
      have hnext : b.url = next := hfirst b (by simp)
      rw [← hnext] at hgoes
      exact List.forall_mem_cons.mpr ⟨hgoes, honward⟩

theorem Route.sent_builds {url : Value} {turns : List (Turn R σ)} {builds : List Staged}
    (hr : Route url turns builds) :
    builds.take turns.length = turns.map Turn.staged ∧ builds.length ≤ turns.length + 1 := by
  induction hr with
  | done url => exact ⟨rfl, Nat.zero_le _⟩
  | unsent s => exact ⟨rfl, Nat.le_refl _⟩
  | sent hgoes rest ih =>
    obtain ⟨hsent, hlength⟩ := ih
    simp only [List.length_cons, List.take_succ_cons, List.map_cons, hsent]
    exact ⟨trivial, by omega⟩

/-! ## Section 2: Locations that lead nowhere -/

/-- An accepted redirect whose location does not lead from the URL of the transmission to
    one with a host. -/
def Turn.Strays (t : Turn R σ) : Prop :=
  ∃ current location target, t.staged.url = .text current ∧ t.Redirects location target ∧
    ¬ LeadsOn current location

theorem resolveLocation_of_resolveFrom {current location target : String}
    (hr : resolveFrom (.text current) location = .ok target) :
    resolveLocation current location = .ok target := by
  unfold resolveFrom at hr
  dsimp only at hr
  cases hresolve : resolveLocation current location with
  | error f =>
    rw [hresolve] at hr
    exact absurd hr nofun
  | ok t =>
    rw [hresolve] at hr
    rw [Except.ok.inj hr]

/-- A transmission to a URL with a host leads to another one, unless it strays. -/
theorem Turn.GoesTo.namesHost {t : Turn R σ} {s : Staged} (hgoes : t.GoesTo s.url)
    (hnamed : t.staged.NamesHost) (hstay : ¬ t.Strays) : s.NamesHost := by
  obtain ⟨current, hcurrent, hhost⟩ := hnamed
  rcases hgoes with ⟨-, hsame⟩ | ⟨location, target, hredirects, hnext⟩
  · exact ⟨current, hsame.trans hcurrent, hhost⟩
  · have hresolved := hredirects.resolved
    rw [hcurrent] at hresolved
    obtain ⟨hleads, -⟩ :=
      Url.resolveLocation_namesHost hhost (resolveLocation_of_resolveFrom hresolved)
    refine ⟨target, hnext, hleads ?_⟩
    by_contra hstray
    exact hstay ⟨current, location, target, hcurrent, hredirects, hstray⟩

/-- A transmission that strays leads to a URL that is not absolute. -/
theorem Turn.GoesTo.stray {t : Turn R σ} {s : Staged} (hgoes : t.GoesTo s.url)
    (hnamed : t.staged.NamesHost) (hstray : t.Strays) :
    ∃ j : Url, s.url = .text (String.ofList j.chars) ∧ j.isAbsolute = false ∧
      (Url.startsWith ['/', '/'] j.path = false → ¬ s.NamesHost) := by
  obtain ⟨current, hcurrent, hhost⟩ := hnamed
  obtain ⟨current', location, target, hcurrent', hredirects, hleads⟩ := hstray
  rw [hcurrent] at hcurrent'
  cases hcurrent'
  -- the response has one first location, and it leads to one target
  have hnext : s.url = .text target := by
    rcases hgoes with ⟨hstay, -⟩ | ⟨location', target', hredirects', hnext⟩
    · exact absurd ⟨target, hredirects.moved⟩ hstay
    · rw [hnext, hredirects.unique hredirects']
  have hresolved := hredirects.resolved
  rw [hcurrent] at hresolved
  obtain ⟨-, hunled⟩ :=
    Url.resolveLocation_namesHost hhost (resolveLocation_of_resolveFrom hresolved)
  obtain ⟨j, rfl, hrelative, hunnamed⟩ := hunled hleads
  refine ⟨j, hnext, hrelative, fun hpath => ?_⟩
  rintro ⟨text, htext, hhost'⟩
  rw [hnext] at htext
  cases htext
  rw [hunnamed hpath] at hhost'
  exact Bool.false_ne_true hhost'

/-- Along a route from a URL with a host all transmissions go to such URLs, if none strays. -/
theorem Route.named {url : Value} {turns : List (Turn R σ)} {builds : List Staged}
    (hr : Route url turns builds) (hurl : ∃ text, url = .text text ∧ namesHost text.toList = true)
    (hstay : ∀ p ∈ turns.zip builds.tail, ¬ p.1.Strays) : ∀ b ∈ builds, b.NamesHost := by
  induction hr with
  | done url => exact nofun
  | unsent s => exact fun b hb => List.mem_singleton.mp hb ▸ hurl
  | @sent next t turns builds hgoes rest ih =>
    refine List.forall_mem_cons.mpr ⟨hurl, ?_⟩
    cases builds with
    | nil => exact nofun
    | cons b builds =>
      rw [List.tail_cons, List.zip_cons_cons] at hstay
      obtain ⟨hfirst, hrest⟩ := List.forall_mem_cons.mp hstay
      have hnext : b.url = next := rest.onward.1 b (by simp)
      rw [← hnext] at hgoes
      exact ih (hnext ▸ hgoes.namesHost hurl hfirst) hrest

/-! ## Section 3: Attempts -/

variable [Arith R] {h : Hooks R σ} {cancellable : Bool} {callbacks : Slot Callbacks} {start : R}
  {n : Nat}

/-- After the questions an attempt leaves the URL alone. -/
theorem Attempted.settled_url (hk : h.Keep fun r => r.url) {r : Request} {s : σ} {t : Turn R σ}
    {ending : Option Ending} {o : Outcome (Event R) σ (Option Response)}
    (ha : Attempted h cancellable callbacks start n r s (some t) ending o) :
    o.request.url = t.settled.url ∧ (¬ t.Moved → t.settled.url = t.answered.url) := by
  cases ha with
  | broken _ _ _ _ _ unasked _ =>
    obtain ⟨-, hsettled, -⟩ := unasked
    rw [hsettled]
    exact ⟨rfl, fun _ => rfl⟩
  | @taken t _ _ _ _ _ _ _ _ _ _ _ _ settled closed =>
    have hstays (hstay : ¬ t.Moved) : t.settled.url = t.answered.url :=
      settled.unmoved (hk _) (fun target hmoved => hstay ⟨target, hmoved⟩) rfl
    refine ⟨?_, hstays⟩
    rw [Outcome.after_request]
    rcases closed.preserved with ⟨_, _, r', -, hr', -, hleft⟩ | ⟨-, hleft⟩
    · obtain ⟨left, rfl⟩ := spent_eq hr'
      exact hleft _ (hk _) rfl
    · exact hleft _ (hk _) rfl

/-- An attempt goes to the URL of its request, and leaves the one that it leads to. -/
theorem Attempted.goesTo (hk : h.Keep fun r => r.url) {r : Request} {s : σ} {t : Turn R σ}
    {ending : Option Ending} {o : Outcome (Event R) σ (Option Response)}
    (ha : Attempted h cancellable callbacks start n r s (some t) ending o) :
    t.staged.url = r.url ∧ t.GoesTo o.request.url := by
  obtain ⟨-, -, -, hstaged⟩ := ha.opens
  have hurl : t.staged.url = r.url := by rw [hstaged]; rfl
  have hanswered : t.answered.url = r.url := ha.answered (hk _) rfl
  obtain ⟨hleaves, hstays⟩ := ha.settled_url hk
  refine ⟨hurl, ?_⟩
  rw [hleaves]
  by_cases hmoved : t.Moved
  · obtain ⟨target, hmem⟩ := hmoved
    obtain ⟨response, location, left, hresolves, hleft⟩ := ha.resolves hmem
    have hseen : left.url = t.staged.url := (hleft _ (hk r.url) rfl).trans hurl.symm
    have hresolved : resolveFrom t.staged.url location = .ok target := hseen ▸ hresolves.resolved
    refine .inr ⟨location, target, ⟨hmem, ⟨response, hresolves.answer, hresolves.named⟩, hresolved⟩,
      ?_⟩
    rw [hresolves.moved]
    rfl
  · refine .inl ⟨hmoved, ?_⟩
    rw [hstays hmoved, hanswered, hurl]

theorem Course.route (hk : h.Keep fun r => r.url) {r : Request} {s : σ} {turns : List (Turn R σ)}
    {ending : Option Ending} {o : Outcome (Event R) σ (Option Response)}
    (hc : Course h cancellable callbacks start n r s turns ending o) :
    ∃ builds, o.events.filter Event.isBuilt = builds.map .staged ∧ Route r.url turns builds := by
  induction hc with
  | cut => exact ⟨[], rfl, .done _⟩
  | @last n r s t ending o attempt =>
    cases t with
    | some t =>
      obtain ⟨hurl, hgoes⟩ := attempt.goesTo hk
      refine ⟨[t.staged], attempt.built, ?_⟩
      rw [← hurl]
      exact .sent hgoes (.done _)
    | none =>
      have hfilter := filter_own Event.isOwn_of_isBuilt o.events
      rcases attempt.own_events_unsent with hnil | hopening
      · rw [hnil] at hfilter
        exact ⟨[], hfilter.symm, .done _⟩
      · rw [hopening, built_openingEvents] at hfilter
        exact ⟨[stagedOf h.debug r], hfilter.symm, .unsent (stagedOf h.debug r)⟩
  | @again n r r' s s' t e turns ending o attempt rest ih =>
    obtain ⟨hurl, hgoes⟩ := attempt.goesTo hk
    obtain ⟨builds, hbuilds, hroute⟩ := ih
    refine ⟨t.staged :: builds, ?_, ?_⟩
    · rw [Outcome.after_events, List.filter_append, hbuilds]
      exact congrArg (· ++ _) attempt.built
    · rw [← hurl]
      exact .sent hgoes hroute

/-- The transmissions of an execution follow a route from the URL of the request. -/
theorem Executed.route (hk : h.Keep fun r => r.url) {r : Request} {s : σ}
    {turns : List (Turn R σ)} {ending : Option Ending}
    {o : Outcome (Event R) σ (Option Response)}
    (he : Executed h cancellable r s turns ending o) :
    ∃ builds, o.events.filter Event.isBuilt = builds.map .staged ∧ Route r.url turns builds := by
  cases he with
  | refused => exact ⟨[], rfl, .done _⟩
  | unreset method reset =>
    have hreset := filter_reset Event.isOwn_of_isBuilt Event.built_of_isStep reset
    exact ⟨[], hreset, .done _⟩
  | @run r' s' e turns ending o method reset course =>
    obtain ⟨builds, hbuilds, hroute⟩ := course.route hk
    have hurl : r'.url = r.url := (preserves_resetPolicy (hk _)).left reset rfl
    refine ⟨builds, ?_, hurl ▸ hroute⟩
    rw [Outcome.after_events, List.filter_append, hbuilds,
      filter_reset Event.isOwn_of_isBuilt Event.built_of_isStep reset, List.nil_append]

/-! ## Section 4: Runs -/

/-- Where the transmissions of a run go that starts at a URL with a host. -/
structure Destinations (url : Value) (turns : List (Turn R σ)) (builds : List Staged) : Prop where
  /-- The attempts that are sent are built first, and at most one more is. -/
  sent : builds.take turns.length = turns.map Turn.staged ∧ builds.length ≤ turns.length + 1
  /-- The first transmission goes to the URL of the request, -/
  first : ∀ b ∈ builds.head?, b.url = url
  /-- and every other one where the one before leads. -/
  onward : ∀ p ∈ turns.zip builds.tail, p.1.GoesTo p.2.url
  /-- They all go to URLs with a host, if every location that is followed leads on. -/
  named : (∀ p ∈ turns.zip builds.tail, ¬ p.1.Strays) → ∀ b ∈ builds, b.NamesHost
  /-- After one that does not, the next transmission goes to a URL that is not absolute. -/
  stray : ∀ p ∈ turns.zip builds.tail, p.1.staged.NamesHost → p.1.Strays →
    ∃ j : Url, p.2.url = .text (String.ofList j.chars) ∧ j.isAbsolute = false ∧
      (Url.startsWith ['/', '/'] j.path = false → ¬ p.2.NamesHost)

/-- A run that starts at an absolute URL, with surroundings that leave the URL alone, builds
    transmissions to URLs with a host as long as the locations that it follows lead on.
    The transmission after one that does not lead on goes to a URL that is not absolute.
    What names a host, as it is split, is read as an absolute URL if it is read at all. -/
theorem execute_reaches_hosts (hk : h.Keep fun r => r.url) {r : Request} {text : String} {u : Url}
    (hurl : r.url = .text text) (hu : Url.parse text.toList = .ok u)
    (habsolute : u.isAbsolute = true) (cancellable : Bool) (limit : Nat) (s : σ) :
    ∃ turns ending builds,
      Executed h cancellable r s turns ending (execute h cancellable limit r s) ∧
      (execute h cancellable limit r s).events.filter Event.isBuilt = builds.map .staged ∧
      Destinations r.url turns builds ∧
      ∀ b ∈ builds, ∀ text v, b.url = .text text → Url.parse text.toList = .ok v →
        (v.isAbsolute = true ↔ b.NamesHost) := by
  obtain ⟨turns, ending, hexecuted, -⟩ := executed h cancellable limit r s
  obtain ⟨builds, hbuilds, hroute⟩ := hexecuted.route hk
  have hhost : namesHost text.toList = true := by rwa [← Url.isAbsolute_eq hu]
  obtain ⟨hfirst, honward⟩ := hroute.onward
  refine ⟨turns, ending, builds, hexecuted, hbuilds, ?_, ?_⟩
  · exact {
      sent := hroute.sent_builds
      first := hfirst
      onward := honward
      named := hroute.named ⟨text, hurl, hhost⟩
      stray := fun p hp => (honward p hp).stray }
  · intro b _ text v htext hv
    rw [Url.isAbsolute_eq hv]
    constructor
    · exact fun hnamed => ⟨text, htext, hnamed⟩
    · rintro ⟨text', htext', hnamed⟩
      rw [htext] at htext'
      cases htext'
      exact hnamed

/-- A location of another kind of URL is taken as it is, and from there a relative one leads
    nowhere: the third transmission goes to a path. -/
theorem execute_reaches_hosts_stray :
    let h : Hooks Rat Nat := Playback.hooks ⟨fun
        | 0 => .ok ⟨302, "", [("Location", "foo://h/a")], []⟩
        | 1 => .ok ⟨302, "", [("Location", "/x")], []⟩
        | _ => .ok ⟨200, "", [], []⟩,
      fun _ _ => false, fun _ _ => false, fun _ => .whole 0⟩
    let r := Request.make "GET" (.text "http://a/") none Headers.empty
    let u : Url := ⟨['h', 't', 't', 'p'], [], ['a'], none, ['/'], none, none⟩
    (h.Keep fun r => r.url) ∧ r.url = .text "http://a/" ∧
      Url.parse "http://a/".toList = .ok u ∧ u.isAbsolute = true ∧
      (sent (execute h false 11 r 0).events).map (fun b => b.url.plain)
        = ["http://a/", "foo://h/a", "/x"] ∧
      ∃ turns ending, ∃ builds : List Staged,
        Executed h false r 0 turns ending (execute h false 11 r 0) ∧
        (∃ b ∈ builds, ¬ b.NamesHost) ∧ ∃ p ∈ turns.zip builds.tail, p.1.Strays := by
  intro h r u
  have hk : h.Keep fun r => r.url := Playback.keep _
  have hurl : r.url = .text "http://a/" := rfl
  have hu : Url.parse "http://a/".toList = .ok u := by rfl
  have hsent : (sent (execute h false 11 r 0).events).map (fun b => b.url.plain)
      = ["http://a/", "foo://h/a", "/x"] := by decide +kernel
  refine ⟨hk, hurl, hu, rfl, hsent, ?_⟩
  obtain ⟨turns, ending, builds, hexecuted, -, hdestinations, -⟩ :=
    execute_reaches_hosts hk hurl hu rfl false 11 0
  have hlast : ∃ b ∈ builds, b.url.plain = "/x" := by
    rw [hexecuted.sent_eq, ← hdestinations.sent.1] at hsent
    have hmem : "/x" ∈ (builds.take turns.length).map fun b => b.url.plain := by
      rw [hsent]
      decide
    obtain ⟨b, hb, hplain⟩ := List.mem_map.mp hmem
    exact ⟨b, List.mem_of_mem_take hb, hplain⟩
  have hstray : ∃ b ∈ builds, ¬ b.NamesHost := by
    obtain ⟨b, hb, hplain⟩ := hlast
    refine ⟨b, hb, ?_⟩
    rintro ⟨text, htext, hnamed⟩
    have hx : text = "/x" := by rwa [htext] at hplain
    rw [hx] at hnamed
    exact absurd hnamed (by decide)
  refine ⟨turns, ending, builds, hexecuted, hstray, ?_⟩
  by_contra hstay
  obtain ⟨b, hb, hunnamed⟩ := hstray
  exact hunnamed (hdestinations.named (fun p hp hstrays => hstay ⟨p, hp, hstrays⟩) b hb)

end Engine

end Redial
