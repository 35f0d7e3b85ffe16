import Redial.Proofs.Headers.WireRoundTrip
import Redial.Proofs.Playback
import Redial.Proofs.Stripped

/-! # The suffix of the user agent

    With a suffix a container sends its user agent as one line, which joins the texts of
    the user agent and ends in the suffix.  The line stands where the user agent is
    stored, even if nothing is sent for it otherwise, and last if it is not stored.  All
    other lines stay as they are: `AgentPlace.lines_some`.

    A redirect never drops the user agent, so every attempt of a run sends the same line.
    The suffix does not pile up, since staging leaves the container as it is. -/

namespace Redial

/-! ## Section 1: The place of the user agent -/

/-- The key of the user agent. -/
def agentKey : String := Text.lower Field.userAgent.name

namespace Headers

variable {h : Headers} {before after : List String} {name : String}

/-- The user agent with a suffix: all its texts and the suffix, joined by spaces. -/
def agentText (h : Headers) (suffix : String) : String :=
  String.intercalate " " (h.texts Field.userAgent.name ++ [suffix])

/-- The names before and after the user agent.  If it is not stored, all names stand before
    it. -/
structure AgentPlace (h : Headers) (before after : List String) : Prop where
  elsewhere : ∀ name ∈ before ++ after, Text.lower name ≠ agentKey
  stored : (∃ name, Text.lower name = agentKey ∧ h.names = before ++ name :: after) ∨
    h.names = before ∧ after = []

/-- No other name has the key of the user agent. -/
theorem Distinct.agentPlace (hh : h.Distinct) : ∃ before after, h.AgentPlace before after := by
  by_cases hstored : ∃ name ∈ h.names, Text.lower name = agentKey
  · obtain ⟨name, hname, hkey⟩ := hstored
    obtain ⟨before, after, hnames⟩ := List.append_of_mem hname
    refine ⟨before, after, ?_, .inl ⟨name, hkey, hnames⟩⟩
    -- another name with this key would be a second entry with it
    intro other hother hsame
    have hnodup : ((name :: (before ++ after)).map Text.lower).Nodup := by
      have hkeys : (h.names.map Text.lower).Nodup := by rwa [← keys_eq]
      rw [hnames] at hkeys
      exact (List.perm_middle.map Text.lower).nodup_iff.mp hkeys
    rw [List.map_cons, List.nodup_cons] at hnodup
    apply hnodup.1
    rw [hkey, ← hsame]
    exact List.mem_map_of_mem hother
  · refine ⟨h.names, [], ?_, .inr ⟨rfl, rfl⟩⟩
    intro name hname hkey
    rw [List.append_nil] at hname
    exact hstored ⟨name, hname, hkey⟩

/-! ## Section 2: Lines with and without a suffix -/

theorem entryLines_none (h : Headers) (name : String) :
    h.entryLines none name =
      (h.texts name).map fun text => (Text.lower name, text) := rfl

/-- A suffix changes nothing about the other names. -/
theorem entryLines_elsewhere {names : List String} (suffix : Option String)
    (hnames : ∀ name ∈ names, Text.lower name ≠ agentKey) :
    names.flatMap (h.entryLines suffix) = names.flatMap (h.entryLines none) := by
  apply List.flatMap_congr
  intro name hname
  cases suffix with
  | none => rfl
  | some s =>
    have hother : ¬ Text.lower name = Text.lower Field.userAgent.name := hnames name hname
    simp only [entryLines, entryTexts, if_neg hother]

/-- Where the user agent is not stored, nothing is sent for it. -/
theorem AgentPlace.unstored (ha : h.AgentPlace before []) (hnames : h.names = before) :
    h.texts Field.userAgent.name = [] := by
  apply texts_missing
  intro hmem
  rw [keys_eq, hnames] at hmem
  obtain ⟨name, hname, hkey⟩ := List.mem_map.mp hmem
  exact ha.elsewhere name (by simpa using hname) hkey

/-- The lines without a suffix: those of the user agent between those of the other names. -/
theorem AgentPlace.lines_none (ha : h.AgentPlace before after) :
    h.lines none = before.flatMap (h.entryLines none) ++
      ((h.texts Field.userAgent.name).map fun text => (agentKey, text)) ++
      after.flatMap (h.entryLines none) := by
  have hlines : h.lines none = h.names.flatMap (h.entryLines none) := List.append_nil _
  rcases ha.stored with ⟨name, hkey, hnames⟩ | ⟨hnames, rfl⟩
  · rw [hlines, hnames, List.flatMap_append, List.flatMap_cons, List.append_assoc,
      entryLines_none h name, texts_congr hkey, hkey]
  · rw [hlines, hnames, ha.unstored hnames]
    simp

/-- The lines with a suffix: the user agent is one line, at its place. -/
theorem AgentPlace.lines_some (ha : h.AgentPlace before after) (s : String) :
    h.lines (some s) = before.flatMap (h.entryLines none) ++
      (agentKey, h.agentText s) :: after.flatMap (h.entryLines none) := by
  have hbefore := entryLines_elsewhere (h := h) (some s) fun name hname =>
    ha.elsewhere name (List.mem_append_left after hname)
  have hafter := entryLines_elsewhere (h := h) (some s) fun name hname =>
    ha.elsewhere name (List.mem_append_right before hname)
  rcases ha.stored with ⟨name, hkey, hnames⟩ | ⟨hnames, rfl⟩
  -- the entry sends the one line, even if it has no texts
  · have hname : Text.lower name = Text.lower Field.userAgent.name := hkey
    have hagent : h.entryLines (some s) name = [(agentKey, h.agentText s)] := by
      rw [entryLines, entryTexts, if_pos hname, agentText, texts_congr hname, hkey]
      rfl
    have hnoline : h.suffixLines (some s) = [] := by
      apply if_pos
      rw [List.any_eq_true]
      exact ⟨name, by simp [hnames], beq_iff_eq.mpr hname⟩
    rw [lines, hnoline, List.append_nil, hnames, List.flatMap_append, List.flatMap_cons, hbefore,
      hagent, hafter]
    rfl
  -- no entry sends it, so it is added at the end
  · have hline : h.suffixLines (some s) = [(agentKey, s)] := by
      apply if_neg
      rw [List.any_eq_true, hnames]
      rintro ⟨name, hname, hkey⟩
      exact ha.elsewhere name (by simpa using hname) (beq_iff_eq.mp hkey)
    have hagent : h.agentText s = s := by
      rw [agentText, ha.unstored hnames]
      simp
    rw [lines, hline, hnames, hbefore, hagent]
    simp

/-- The lines of the other names are not lines of the user agent. -/
theorem AgentPlace.line_elsewhere (ha : h.AgentPlace before after) {names : List String}
    (hnames : names ⊆ before ++ after) :
    ∀ line ∈ names.flatMap (h.entryLines none), line.1 ≠ agentKey := by
  intro line hline
  obtain ⟨name, hname, hentry⟩ := List.mem_flatMap.mp hline
  obtain ⟨text, -, rfl⟩ := List.mem_map.mp hentry
  exact ha.elsewhere name (hnames hname)

/-- With a suffix there is exactly one line of the user agent, and the others are those
    without a suffix. -/
theorem AgentPlace.filter_lines_some (ha : h.AgentPlace before after) (s : String) :
    (h.lines (some s)).filter (fun line => line.1 == agentKey) = [(agentKey, h.agentText s)] ∧
      (h.lines (some s)).filter (fun line => line.1 != agentKey) =
        (h.lines none).filter fun line => line.1 != agentKey := by
  have hbefore := ha.line_elsewhere (List.subset_append_left before after)
  have hafter := ha.line_elsewhere (List.subset_append_right before after)
  have hnot : ∀ lines : List (String × String), (∀ line ∈ lines, line.1 ≠ agentKey) →
      lines.filter (fun line => line.1 == agentKey) = [] := by
    intro lines hlines
    simpa using hlines
  constructor
  · rw [ha.lines_some, List.filter_append, hnot _ hbefore, List.filter_cons_of_pos (by simp),
      hnot _ hafter, List.nil_append]
  · have hgone : ((h.texts Field.userAgent.name).map fun text => (agentKey, text)).filter
        (fun line => line.1 != agentKey) = [] := by simp
    rw [ha.lines_some, ha.lines_none, List.filter_append, List.filter_append, List.filter_append,
      List.filter_cons_of_neg (by simp), hgone, List.append_nil]

/-- What is sent under another name is the same with and without a suffix. -/
theorem Distinct.filter_lines_elsewhere (hh : h.Distinct) (hname : Text.lower name ≠ agentKey)
    (suffix : Option String) :
    ((h.lines suffix).filter fun line => Text.lower line.1 == Text.lower name).map Prod.snd =
      h.texts name := by
  cases suffix with
  | none => exact hh.filter_lines name
  | some s =>
    obtain ⟨before, after, ha⟩ := hh.agentPlace
    have hothers : ∀ lines : List (String × String),
        lines.filter (fun line => Text.lower line.1 == Text.lower name) =
          (lines.filter fun line => line.1 != agentKey).filter
            fun line => Text.lower line.1 == Text.lower name := by
      intro lines
      rw [List.filter_filter]
      apply List.filter_congr
      intro line _
      by_cases hline : line.1 = agentKey
      · have hdiffer : Text.lower line.1 ≠ Text.lower name := by
          rw [hline, agentKey, Text.lower_lower]
          exact hname.symm
        rw [beq_false_of_ne hdiffer, Bool.false_and]
      · simp [hline]
    rw [hothers, (ha.filter_lines_some s).2, ← hothers, hh.filter_lines]

/-! ## Section 3: After a redirect -/

/-- A redirect keeps what is sent under a name that it does not drop. -/
theorem stripped_texts (hname : Text.lower name ∉ strippedKeys) :
    h.stripped.texts name = h.texts name := by
  rw [texts, get?, stripped_find? hname]
  rfl

theorem Distinct.stripped (hh : h.Distinct) : h.stripped.Distinct := by
  unfold Distinct keys
  rw [stripped_entries]
  exact List.Nodup.sublist (List.filter_sublist.map Header.key) hh

/-- A redirect leaves the user agent alone. -/
theorem stripped_agentText (h : Headers) (suffix : String) :
    h.stripped.agentText suffix = h.agentText suffix := by
  rw [agentText, stripped_texts (by decide +kernel), agentText]

end Headers

namespace Engine

variable {R σ : Type} [Arith R] {h : Hooks R σ}

/-! ## Section 4: Runs -/

/-- Every attempt that wants the suffix sends one line of the user agent, which joins the texts
    that the request began with and ends in the suffix. -/
theorem Executed.agent_line (hk : h.Keep fun r => r.headers) {cancellable : Bool} {r : Request}
    {s : σ} {turns : List (Turn R σ)} {ending : Option Ending}
    {o : Outcome (Event R) σ (Option Response)}
    (he : Executed h cancellable r s turns ending o) (hr : r.headers.Distinct) {t : Turn R σ}
    (ht : t ∈ turns) (hwanted : t.opened.suppressSuffix.isSet = false) :
    t.staged.headers.filter (fun line => line.1 == agentKey) =
      [(agentKey, r.headers.agentText userAgentSuffix)] := by
  have hsame : t.opened.headers.Distinct ∧
      t.opened.headers.agentText userAgentSuffix = r.headers.agentText userAgentSuffix := by
    rcases he.headers_opened hk ht with heq | heq
    · rw [heq]
      exact ⟨hr, rfl⟩
    · rw [heq]
      exact ⟨hr.stripped, r.headers.stripped_agentText userAgentSuffix⟩
  have hstaged : t.staged.headers = t.opened.headers.lines (some userAgentSuffix) := by
    rw [he.staged_of_mem ht]
    show t.opened.headers.lines (suffixFor t.opened) = _
    rw [suffixFor, hwanted]
    rfl
  obtain ⟨before, after, ha⟩ := hsame.1.agentPlace
  rw [hstaged, (ha.filter_lines_some userAgentSuffix).1, hsame.2]

/-- A container with a suffix sends one line of the user agent, at the place of its entry or
    else last, and all other lines as without a suffix.  In a run that keeps the headers and
    wants the suffix this line is the same for every attempt, and ends in the suffix once. -/
theorem execute_suffixes_agent :
    (∀ h : Headers, h.Distinct → ∀ suffix : String,
      (∃ before after, h.AgentPlace before after ∧
        h.lines none = before.flatMap (h.entryLines none) ++
          ((h.texts "user-agent").map fun text => ("user-agent", text)) ++
          after.flatMap (h.entryLines none) ∧
        h.lines (some suffix) = before.flatMap (h.entryLines none) ++
          ("user-agent", String.intercalate " " (h.texts "user-agent" ++ [suffix])) ::
          after.flatMap (h.entryLines none)) ∧
      (h.lines (some suffix)).filter (fun line => line.1 == "user-agent") =
        [("user-agent", String.intercalate " " (h.texts "user-agent" ++ [suffix]))] ∧
      (h.lines (some suffix)).filter (fun line => line.1 != "user-agent") =
        (h.lines none).filter fun line => line.1 != "user-agent") ∧
    ∀ h : Hooks R σ, (h.Keep fun r => r.headers) →
      ∀ (cancellable : Bool) (limit : Nat) (r : Request) (s : σ), r.headers.Distinct →
      ∃ turns ending, Executed h cancellable r s turns ending (execute h cancellable limit r s) ∧
        sent (execute h cancellable limit r s).events = turns.map Turn.staged ∧
        (∀ t ∈ turns, t.opened.suppressSuffix.isSet = false →
          t.staged.headers.filter (fun line => line.1 == "user-agent") =
            [("user-agent",
              String.intercalate " " (r.headers.texts "user-agent" ++ [userAgentSuffix]))]) ∧
        ((h.Keep fun r => r.suppressSuffix) →
          ∀ t ∈ turns, t.opened.suppressSuffix = r.suppressSuffix) := by
  have hkey : agentKey = "user-agent" := by decide +kernel
  have htexts : ∀ h : Headers, h.texts Field.userAgent.name = h.texts "user-agent" :=
    fun h => Headers.texts_congr (by decide +kernel)
  have hagent : ∀ (h : Headers) (suffix : String), h.agentText suffix =
      String.intercalate " " (h.texts "user-agent" ++ [suffix]) := by
    intro h suffix
    rw [Headers.agentText, htexts]
  constructor
  · intro h hh suffix
    obtain ⟨before, after, ha⟩ := hh.agentPlace
    obtain ⟨hline, hothers⟩ := ha.filter_lines_some suffix
    have hnone := ha.lines_none
    have hsome := ha.lines_some suffix
    rw [hkey] at hline hothers hnone hsome
    rw [hagent] at hline hsome
    rw [htexts] at hnone
    exact ⟨⟨before, after, ha, hnone, hsome⟩, hline, hothers⟩
  · intro h hk cancellable limit r s hr
    obtain ⟨turns, ending, hexecuted, -⟩ := executed h cancellable limit r s
    refine ⟨turns, ending, hexecuted, hexecuted.sent_eq, ?_, ?_⟩
    · intro t ht hwanted
      have hline := hexecuted.agent_line hk hr ht hwanted
      rwa [hkey, hagent] at hline
    · intro hkept t ht
      exact hexecuted.kept hkept (fun _ _ _ => rfl) (fun _ _ => rfl) ht

/-- Stored in another letter case between other headers, and with several texts, the user agent
    becomes one line at its place.  It is sent alike by an attempt that fails, by one that is
    redirected, and by the last one. -/
theorem execute_suffixes_agent_resent :
    let h : Hooks Rat Nat := Playback.hooks ⟨fun
        | 0 => .error (.raised "ConnectError" ⟨.exchange, ""⟩)
        | 1 => .ok ⟨302, "", [("Location", "http://b/")], []⟩
        | _ => .ok ⟨200, "", [], []⟩,
      fun _ _ => false, fun _ _ => false, fun _ => .whole 0⟩
    let headers : Headers := ⟨[⟨"X-A", .text "1"⟩, ⟨"USER-agent", .list [.text "a", .nothing,
      .text "b"]⟩, ⟨"X-B", .text "2"⟩]⟩
    let r : Request := { Request.make "GET" (.text "http://a/") none headers with
      retryOnFailure := .bool true }
    headers.Distinct ∧ (h.Keep fun r => r.headers) ∧
      headers.lines (some "s") = [("x-a", "1"), ("user-agent", "a b s"), ("x-b", "2")] ∧
      (headers.lines (some "s")).filter (fun line => line.1 == "user-agent") =
        [("user-agent", String.intercalate " " (headers.texts "user-agent" ++ ["s"]))] ∧
      (sent (execute h false 11 r 0).events).length = 3 ∧
      ∃ turns ending, Executed h false r 0 turns ending (execute h false 11 r 0) ∧
        ∀ t ∈ turns, t.staged.headers.filter (fun line => line.1 == "user-agent") =
          [("user-agent", "a b httpengine/0.1.0 (gzip)")] := by
  intro h headers r
  have hh : headers.Distinct := by decide +kernel
  have hk : h.Keep fun r => r.headers := Playback.keep _
  obtain ⟨hlines, hruns⟩ := execute_suffixes_agent (R := Rat) (σ := Nat)
  refine ⟨hh, hk, by decide +kernel, (hlines headers hh "s").2.1, by decide +kernel, ?_⟩
  obtain ⟨turns, ending, hexecuted, -, hagent, hsuffix⟩ := hruns h hk false 11 r 0 hh
  refine ⟨turns, ending, hexecuted, ?_⟩
  intro t ht
  have hwanted : t.opened.suppressSuffix.isSet = false := by
    rw [hsuffix (Playback.keep _) t ht]
    rfl
  rw [hagent t ht hwanted]
  decide +kernel

end Engine

end Redial
