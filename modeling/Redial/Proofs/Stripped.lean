import Redial.Proofs.LowerCase
import Redial.Proofs.Returns

/-! # Headers that a redirect drops

    A redirect drops the credentials and the preconditions that were meant for the
    previous target.  Nothing puts them back: the engine touches the headers at an
    accepted redirect only, and every attempt is staged from the headers as they are.
    So a transmission carries the lines of the first one as long as no redirect was
    accepted, and afterwards these lines without the dropped ones, in their order. -/

namespace Redial

/-! ## Section 1: Containers -/

/-- The keys of the headers that are dropped before a redirect is followed. -/
def strippedKeys : List String := strippedFields.map fun f => Text.lower f.name

example : strippedKeys = ["authorization", "if-match", "if-none-match", "if-modified-since",
    "if-unmodified-since", "if-range"] := by decide +kernel

/-- A line that a redirect drops, in whatever letter case its name is written. -/
def isStrippedLine (line : String × String) : Bool := strippedKeys.contains (Text.lower line.1)

namespace Headers

variable {h : Headers}

theorem stripped_entries (h : Headers) :
    h.stripped.entries = h.entries.filter fun e => !strippedKeys.contains e.key := by
  have hfold : ∀ (fields : List Field) (h : Headers),
      (fields.foldl (fun h f => h.eraseField f) h).entries
        = h.entries.filter fun e => !(fields.map fun f => Text.lower f.name).contains e.key := by
    intro fields
    induction fields with
    | nil => exact fun h => (List.filter_eq_self.mpr fun _ _ => rfl).symm
    | cons f fields ih =>
      intro h
      rw [List.foldl_cons, ih, eraseField, erase, List.filter_filter]
      congr 1
      funext e
      rw [List.map_cons, List.contains_cons, Bool.not_or, Bool.and_comm]
      rfl
  exact hfold strippedFields h

/-- Dropping twice is dropping once. -/
theorem stripped_stripped (h : Headers) : h.stripped.stripped = h.stripped := by
  have hentries : h.stripped.stripped.entries = h.stripped.entries := by
    rw [stripped_entries h.stripped, stripped_entries h, List.filter_filter]
    simp only [Bool.and_self]
  exact congrArg Headers.mk hentries

/-- A name that is not dropped is found as before. -/
theorem stripped_find? {name : String} (hname : Text.lower name ∉ strippedKeys) :
    h.stripped.find? name = h.find? name := by
  unfold find?
  rw [stripped_entries, List.find?_filter]
  congr 1
  funext e
  by_cases hkey : e.key = Text.lower name
  · simp [hkey, hname]
  · simp [hkey]

theorem stripped_entryLines {name : String} (hname : Text.lower name ∉ strippedKeys)
    (suffix : Option String) : h.stripped.entryLines suffix name = h.entryLines suffix name := by
  simp only [entryLines, entryTexts, texts, get?, stripped_find? hname]

theorem stripped_names (h : Headers) :
    h.stripped.names = h.names.filter fun n => !strippedKeys.contains (Text.lower n) := by
  rw [names, stripped_entries, names, List.filter_map]
  rfl

/-- The lines of an entry are dropped with its name. -/
theorem isStrippedLine_entry {suffix : Option String} {name : String} {line : String × String}
    (hline : line ∈ h.entryLines suffix name) :
    isStrippedLine line = strippedKeys.contains (Text.lower name) := by
  obtain ⟨text, -, rfl⟩ := List.mem_map.mp hline
  rw [isStrippedLine, Text.lower_lower]

theorem stripped_suffixLines (h : Headers) (suffix : Option String) :
    h.stripped.suffixLines suffix = h.suffixLines suffix := by
  have hagent : (h.stripped.names.any fun n => Text.lower n == Text.lower Field.userAgent.name)
      = h.names.any fun n => Text.lower n == Text.lower Field.userAgent.name := by
    rw [stripped_names, List.any_filter]
    congr 1
    funext n
    cases hn : Text.lower n == Text.lower Field.userAgent.name with
    | false => rw [Bool.and_false]
    | true =>
      rw [beq_iff_eq.mp hn, Bool.and_true]
      decide +kernel
  cases suffix with
  | none => rfl
  | some s => rw [suffixLines, suffixLines, hagent]

/-- The line that carries the suffix is never dropped. -/
theorem isStrippedLine_suffix {suffix : Option String} {line : String × String}
    (hline : line ∈ h.suffixLines suffix) : isStrippedLine line = false := by
  unfold suffixLines at hline
  split at hline
  · cases hline
  · split at hline
    · cases hline
    · rw [List.mem_singleton.mp hline, isStrippedLine, Text.lower_lower]
      decide +kernel

/-- The lines of the names that are kept are the lines that are kept. -/
theorem stripped_flatMap (h : Headers) (suffix : Option String) (names : List String) :
    (names.filter fun n => !strippedKeys.contains (Text.lower n)).flatMap
        (h.stripped.entryLines suffix)
      = (names.flatMap (h.entryLines suffix)).filter fun line => !isStrippedLine line := by
  induction names with
  | nil => rfl
  | cons name names ih =>
    rw [List.filter_cons, List.flatMap_cons, List.filter_append, ← ih]
    cases hname : strippedKeys.contains (Text.lower name) with
    | true =>
      have hdropped : (h.entryLines suffix name).filter (fun line => !isStrippedLine line) = [] :=
        List.filter_eq_nil_iff.mpr fun line hline => by
          rw [isStrippedLine_entry hline, hname]
          exact Bool.false_ne_true
      rw [hdropped]
      rfl
    | false =>
      have hkept : (h.entryLines suffix name).filter (fun line => !isStrippedLine line)
          = h.entryLines suffix name :=
        List.filter_eq_self.mpr fun line hline => by
          rw [isStrippedLine_entry hline, hname]
          rfl
      have hmem : Text.lower name ∉ strippedKeys := by
        rwa [← List.contains_iff_mem, Bool.not_eq_true]
      rw [hkept, Bool.not_false, if_pos rfl, List.flatMap_cons, stripped_entryLines hmem]

/-- What is left of the lines when a redirect was followed: all but the dropped ones, in
    their order. -/
theorem stripped_lines (h : Headers) (suffix : Option String) :
    h.stripped.lines suffix = (h.lines suffix).filter fun line => !isStrippedLine line := by
  have hsuffix : (h.suffixLines suffix).filter (fun line => !isStrippedLine line)
      = h.suffixLines suffix :=
    List.filter_eq_self.mpr fun line hline => by rw [isStrippedLine_suffix hline]; rfl
  rw [lines, lines, List.filter_append, stripped_suffixLines, hsuffix, stripped_names,
    stripped_flatMap]

end Headers

namespace Engine

variable {R σ : Type} [Arith R] {h : Hooks R σ} {cancellable : Bool} {callbacks : Slot Callbacks}
  {start : R} {n : Nat} {P : Request → Prop} {γ : Type} {φ : Request → γ}

/-! ## Section 2: Attempts -/

/-- The answer of an attempt moved the request: a redirect was accepted. -/
def Turn.Moved (t : Turn R σ) : Prop :=
  ∃ target, Consult.redirect (.ok (some target)) ∈ t.consults

/-- An accepted redirect moves a request that has every property which the surroundings
    preserve. -/
theorem Offered.moved_from (hp : h.Preserve P) {response : Response} {r : Request} {s : σ}
    {cs : List (Consult R)} {o : Outcome (Event R) σ (Option (Reason × R))}
    (ho : Offered h cancellable response r s cs o) {target : String}
    (hmoved : .redirect (.ok (some target)) ∈ cs) (hr : P r) :
    ∃ r' target, P r' ∧ o.request = r'.redirected response.status target := by
  cases ho with
  | handlerFailed handler | claimed handler => exact absurd hmoved (handler.no_redirect.2 _)
  | policyFailed handler policy | paused handler policy =>
    rcases List.mem_append.mp hmoved with hc | hc
    · exact absurd hc (handler.no_redirect.2 _)
    · exact absurd hc (policy.no_redirect _)
  | redirectFailed handler policy | stayed handler policy =>
    simp only [List.append_assoc, List.mem_append, List.mem_singleton, Consult.redirect.injEq,
      reduceCtorEq, Except.ok.injEq, or_false] at hmoved
    rcases hmoved with hc | hc
    · exact absurd hc (handler.no_redirect.2 _)
    · exact absurd hc (policy.no_redirect _)
  | moved handler policy =>
    exact ⟨_, _, policy.preserved hp (handler.preserved hp hr), rfl⟩

/-- The questions of an answer leave what the surroundings keep, up to an accepted redirect. -/
theorem Settled.moves (hk : h.Keep φ) {t : Turn R σ}
    {trigger : Except Fault (Option (Reason × R))} {e : List (Event R)}
    (hs : Settled h cancellable t trigger e) :
    (t.Moved → ∃ response r' target, t.answer = .ok response ∧ φ r' = φ t.answered ∧
      t.settled = r'.redirected response.status target) ∧
      (¬ t.Moved → φ t.settled = φ t.answered) := by
  cases hs with
  | lost _ _ unasked | resent _ _ unasked | success _ _ unasked | unfunded _ _ _ unasked =>
    obtain ⟨hnone, hsettled, -⟩ := unasked
    refine ⟨fun ⟨_, hmoved⟩ => ?_, fun _ => by rw [hsettled]⟩
    rw [hnone] at hmoved
    cases hmoved
  | @offered response _ _ answer _ _ _ questions =>
    constructor
    · rintro ⟨target, hmoved⟩
      obtain ⟨r', target, hr', hrequest⟩ := questions.moved_from (hk _) hmoved rfl
      exact ⟨response, r', target, answer, hr', hrequest⟩
    · intro hstay
      exact questions.unmoved (hk _) (fun target hmoved => hstay ⟨target, hmoved⟩) rfl

/-- One attempt leaves what the surroundings keep to the next one, up to an accepted redirect,
    if it is more than the budget. -/
theorem Attempted.moves (hk : h.Keep φ)
    (hspent : ∀ (r : Request) left, φ { r with retries := left } = φ r) {r : Request} {s : σ}
    {t : Turn R σ} {ending : Option Ending} {o : Outcome (Event R) σ (Option Response)}
    (ha : Attempted h cancellable callbacks start n r s (some t) ending o) :
    (t.Moved → ∃ response r' target, t.answer = .ok response ∧ φ r' = φ r ∧
      φ o.request = φ (r'.redirected response.status target)) ∧
      (¬ t.Moved → φ o.request = φ r) := by
  have hanswered : φ t.answered = φ r := ha.answered (hk _) rfl
  cases ha with
  | @broken _ f r₁ s₁ e₁ e₂ clear opened run₁ run₂ answer unasked closing =>
    refine ⟨fun ⟨_, hmoved⟩ => ?_, fun _ => hanswered⟩
    rw [unasked.1] at hmoved
    cases hmoved
  | @taken _ r₁ s₁ e₁ e₂ e₃ trigger ending o clear opened run₁ run₂ settled closed =>
    obtain ⟨hmoved, hstay⟩ := settled.moves hk
    -- neither a spent retry nor the callbacks change it after the questions
    have hleft : φ o.request = φ t.settled := by
      rcases closed.preserved with ⟨_, _, r', -, hr', -, hleft⟩ | ⟨-, hleft⟩
      · obtain ⟨left, rfl⟩ := spent_eq hr'
        exact hleft _ (hk _) (hspent t.settled left)
      · exact hleft _ (hk _) rfl
    rw [Outcome.after_request, hleft, ← hanswered]
    refine ⟨fun hmove => ?_, hstay⟩
    obtain ⟨response, r', target, answer, hr', hsettled⟩ := hmoved hmove
    exact ⟨response, r', target, answer, hr', by rw [hsettled]⟩

/-- One attempt: what it sends, and the headers that it leaves to the next one. -/
theorem Attempted.headers (hk : h.Keep fun r => (r.headers, r.suppressSuffix)) {r : Request}
    {s : σ} {t : Turn R σ} {ending : Option Ending} {o : Outcome (Event R) σ (Option Response)}
    (ha : Attempted h cancellable callbacks start n r s (some t) ending o) :
    t.staged.headers = r.headers.lines (suffixFor r) ∧
      o.request.suppressSuffix = r.suppressSuffix ∧
      (t.Moved → o.request.headers = r.headers.stripped) ∧
      (¬ t.Moved → o.request.headers = r.headers) := by
  obtain ⟨-, -, -, hstaged⟩ := ha.opens
  have hsuffix : o.request.suppressSuffix = r.suppressSuffix :=
    (ha.preserved ((hk.map Prod.snd) _) (fun _ _ _ hr => hr) (fun _ _ hr => hr) rfl).1
  obtain ⟨hmoved, hstay⟩ := ha.moves (hk.map Prod.fst) fun _ _ => rfl
  refine ⟨by rw [hstaged]; rfl, hsuffix, fun hmove => ?_, hstay⟩
  obtain ⟨response, r', target, -, hr', hleft⟩ := hmoved hmove
  have hheaders : r'.headers = r.headers := hr'
  rw [← hheaders]
  exact hleft

/-! ## Section 3: Runs -/

/-- The lines of every transmission of a course: those of the request, and without the
    dropped ones once a redirect was accepted. -/
theorem Course.lines (hk : h.Keep fun r => (r.headers, r.suppressSuffix)) {r : Request} {s : σ}
    {turns : List (Turn R σ)} {ending : Option Ending}
    {o : Outcome (Event R) σ (Option Response)}
    (hc : Course h cancellable callbacks start n r s turns ending o)
    {before after : List (Turn R σ)} {t : Turn R σ} (hturns : turns = before ++ t :: after) :
    ((∀ u ∈ before, ¬ u.Moved) → t.staged.headers = r.headers.lines (suffixFor r)) ∧
      ((∃ u ∈ before, u.Moved) →
        t.staged.headers = r.headers.stripped.lines (suffixFor r)) := by
  induction hc generalizing before with
  | cut => exact absurd hturns.symm (by simp)
  | @last n r s turn ending o attempt =>
    cases turn with
    | none => exact absurd hturns.symm (by simp)
    | some turn =>
      obtain ⟨rfl, rfl⟩ : before = [] ∧ t = turn := by
        cases before with
        | nil => exact ⟨rfl, (List.cons.inj hturns).1.symm⟩
        | cons u before => simp at hturns
      exact ⟨fun _ => (attempt.headers hk).1, by simp⟩
  | @again n r r' s s' first e turns ending o attempt rest ih =>
    obtain ⟨hstaged, hsuffix, hmoved, hstay⟩ := attempt.headers hk
    simp only at hsuffix hmoved hstay
    cases before with
    | nil =>
      cases hturns
      exact ⟨fun _ => hstaged, by simp⟩
    | cons u before =>
      obtain ⟨rfl, hrest⟩ := List.cons.inj hturns
      obtain ⟨hbefore, hafter⟩ := ih hrest
      have hsuffixFor : suffixFor r' = suffixFor r := by rw [suffixFor, hsuffix, suffixFor]
      rw [hsuffixFor] at hbefore hafter
      -- what a later redirect drops again is gone already
      by_cases hfirst : first.Moved
      · rw [hmoved hfirst] at hbefore hafter
        rw [Headers.stripped_stripped] at hafter
        refine ⟨fun hnone => absurd hfirst (hnone first List.mem_cons_self), fun _ => ?_⟩
        by_cases hlater : ∃ v ∈ before, v.Moved
        · exact hafter hlater
        · exact hbefore fun v hv hmove => hlater ⟨v, hv, hmove⟩
      · rw [hstay hfirst] at hbefore hafter
        refine ⟨fun hnone => hbefore fun v hv => hnone v (List.mem_cons_of_mem _ hv), ?_⟩
        rintro ⟨v, hv, hmove⟩
        rcases List.mem_cons.mp hv with rfl | hv
        · exact absurd hmove hfirst
        · exact hafter ⟨v, hv, hmove⟩

/-- The lines of every transmission of an execution. -/
theorem Executed.lines (hk : h.Keep fun r => (r.headers, r.suppressSuffix)) {r : Request} {s : σ}
    {turns : List (Turn R σ)} {ending : Option Ending}
    {o : Outcome (Event R) σ (Option Response)}
    (he : Executed h cancellable r s turns ending o)
    {before after : List (Turn R σ)} {t : Turn R σ} (hturns : turns = before ++ t :: after) :
    ((∀ u ∈ before, ¬ u.Moved) → t.staged.headers = r.headers.lines (suffixFor r)) ∧
      ((∃ u ∈ before, u.Moved) →
        t.staged.headers = r.headers.stripped.lines (suffixFor r)) := by
  cases he with
  | refused | unreset => exact absurd hturns.symm (by simp)
  | @run r' s' e turns ending o method reset course =>
    have hreset : (r'.headers, r'.suppressSuffix) = (r.headers, r.suppressSuffix) :=
      (preserves_resetPolicy (hk _)).left reset rfl
    obtain ⟨hheaders, hsuppress⟩ := Prod.mk.inj hreset
    have hsuffix : suffixFor r' = suffixFor r := by rw [suffixFor, hsuppress, suffixFor]
    have hlines := course.lines hk hturns
    rwa [hheaders, hsuffix] at hlines

/-- Every attempt of an execution begins with the headers of the request, or with what a
    redirect leaves of them. -/
theorem Executed.headers_opened (hk : h.Keep fun r => r.headers) {r : Request} {s : σ}
    {turns : List (Turn R σ)} {ending : Option Ending}
    {o : Outcome (Event R) σ (Option Response)}
    (he : Executed h cancellable r s turns ending o) {t : Turn R σ} (ht : t ∈ turns) :
    t.opened.headers = r.headers ∨ t.opened.headers = r.headers.stripped := by
  have hmoved : ∀ (q : Request) (status : Int) (target : String),
      q.headers = r.headers ∨ q.headers = r.headers.stripped →
      (q.redirected status target).headers = r.headers ∨
        (q.redirected status target).headers = r.headers.stripped := by
    intro q status target hq
    right
    show q.headers.stripped = r.headers.stripped
    rcases hq with heq | heq
    · rw [heq]
    -- what a later redirect drops again is gone already
    · rw [heq, Headers.stripped_stripped]
  have hkept := hk.preserve fun headers => headers = r.headers ∨ headers = r.headers.stripped
  obtain ⟨-, hturns⟩ := he.preserved hkept hmoved (fun _ _ hq => hq) (.inl rfl)
  exact (hturns t ht).1

/-- Every run sends the lines of its first transmission until a redirect is accepted.
    From then on it sends none of those that a redirect drops, and all the others as
    they were, in their order. -/
theorem execute_strips_after_redirect (hk : h.Keep fun r => (r.headers, r.suppressSuffix))
    (cancellable : Bool) (limit : Nat) (r : Request) (s : σ) :
    ∃ turns ending, Executed h cancellable r s turns ending (execute h cancellable limit r s) ∧
      sent (execute h cancellable limit r s).events = turns.map Turn.staged ∧
      ∀ first ∈ turns.head?, ∀ before t after, turns = before ++ t :: after →
        ((∀ u ∈ before, ¬ u.Moved) → t.staged.headers = first.staged.headers) ∧
        ((∃ u ∈ before, u.Moved) →
          (∀ line ∈ t.staged.headers, isStrippedLine line = false) ∧
          t.staged.headers = first.staged.headers.filter fun line => !isStrippedLine line) := by
  obtain ⟨turns, ending, hexecuted, -⟩ := executed h cancellable limit r s
  refine ⟨turns, ending, hexecuted, hexecuted.sent_eq, ?_⟩
  intro first hfirst before t after hturns
  have hbegin : first.staged.headers = r.headers.lines (suffixFor r) := by
    obtain ⟨rest, hrest⟩ := List.head?_eq_some_iff.mp (Option.mem_def.mp hfirst)
    have hhead : turns = [] ++ first :: rest := hrest
    exact (hexecuted.lines hk hhead).1 (by simp)
  obtain ⟨hstay, hmoved⟩ := hexecuted.lines hk hturns
  rw [Headers.stripped_lines] at hmoved
  refine ⟨fun hnone => (hstay hnone).trans hbegin.symm, fun hsome => ?_⟩
  have hlines := hmoved hsome
  refine ⟨fun line hline => ?_, by rw [hlines, hbegin]⟩
  rw [hlines, List.mem_filter, Bool.not_eq_true'] at hline
  exact hline.2

/-- A failed exchange, a redirect and a success: the third transmission has lost the
    credentials and the precondition of the first two. -/
theorem execute_strips_after_redirect_resent :
    let h : Hooks Rat Nat := Playback.hooks ⟨fun
        | 0 => .error (.raised "ConnectError" ⟨.exchange, ""⟩)
        | 1 => .ok ⟨302, "", [("Location", "http://b/")], []⟩
        | _ => .ok ⟨200, "", [], []⟩,
      fun _ _ => false, fun _ _ => false, fun _ => .whole 0⟩
    let headers := Headers.empty.setAll [("AUTHORIZATION", .text "secret"), ("X-A", .text "1"),
      ("if-Match", .text "tag")]
    let r : Request := { Request.make "GET" (.text "http://a/") none headers with
      retryOnFailure := .bool true, suppressSuffix := .bool true }
    (h.Keep fun r => (r.headers, r.suppressSuffix)) ∧
      (sent (execute h false 11 r 0).events).map Staged.headers
        = [[("authorization", "secret"), ("x-a", "1"), ("if-match", "tag")],
          [("authorization", "secret"), ("x-a", "1"), ("if-match", "tag")], [("x-a", "1")]] ∧
      ∃ turns ending, Executed h false r 0 turns ending (execute h false 11 r 0) ∧
        ∀ first ∈ turns.head?, ∀ before t after, turns = before ++ t :: after →
          (∃ u ∈ before, u.Moved) →
          t.staged.headers = first.staged.headers.filter fun line => !isStrippedLine line := by
  intro h headers r
  have hk : h.Keep fun r => (r.headers, r.suppressSuffix) := Playback.keep _
  refine ⟨hk, by decide +kernel, ?_⟩
  obtain ⟨turns, ending, hexecuted, -, hlines⟩ := execute_strips_after_redirect hk false 11 r 0
  refine ⟨turns, ending, hexecuted, fun first hfirst before t after hturns hsome => ?_⟩
  exact ((hlines first hfirst before t after hturns).2 hsome).2

end Engine

end Redial
