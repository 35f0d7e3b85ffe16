import Mathlib.Data.List.Forall2
import Redial.Proofs.Likeness.Execution
import Redial.Proofs.Playback
import Redial.Proofs.Stripped

/-! # What the debug log does not show

    Two runs of one configuration are compared by their debug log alone.  In each of
    two cases the log cannot tell them apart:

    * The requests differ only in the values of headers that the log redacts, and
      these are sent as equally many lines.  Whoever reads the log sees the names and
      the number of the lines, but none of the values.
    * The requests do not log, and differ in all their headers and in their content.
      Here the content must not have a logging layer of the caller's own, which logs
      what it wraps whatever the request says, and nobody may make the request log
      while it is executed. -/

namespace Redial

variable {R σ : Type}

/-! ## Section 1: Headers that differ in secrets -/

/-- A name whose values the log does not show, in any letter case. -/
def isSecretName (name : String) : Bool := Engine.redactedNames.contains (Text.lower name)

/-- A header with the same name, and with the same value unless the log does not show it; then
    it is sent as equally many lines. -/
def Header.SameButSecret (e₁ e₂ : Header) : Prop :=
  e₁.name = e₂.name ∧ (e₁.value = e₂.value ∨
    isSecretName e₁.name = true ∧ e₁.value.wireTexts.length = e₂.value.wireTexts.length)

/-- The containers differ only in values that the log does not show. -/
def Headers.SameButSecrets (h₁ h₂ : Headers) : Prop :=
  List.Forall₂ Header.SameButSecret h₁.entries h₂.entries

/-- A line that differs only in a value that the log does not show. -/
def SameLineButSecret (line₁ line₂ : String × String) : Prop :=
  line₁.1 = line₂.1 ∧ (line₁.2 = line₂.2 ∨ isSecretName line₁.1 = true)

theorem isSecretName_lower (name : String) : isSecretName (Text.lower name) = isSecretName name := by
  rw [isSecretName, Text.lower_lower, isSecretName]

/-- The log shows such lines alike. -/
theorem SameLineButSecret.shown {line₁ line₂ : String × String}
    (hline : SameLineButSecret line₁ line₂) : Engine.shownLine line₁ = Engine.shownLine line₂ := by
  obtain ⟨name₁, value₁⟩ := line₁
  obtain ⟨name₂, value₂⟩ := line₂
  obtain ⟨hname, hvalue⟩ := hline
  simp only at hname hvalue
  subst hname
  rcases hvalue with rfl | hsecret
  · rfl
  · have hredacted : Engine.redactedNames.contains (Text.lower name₁) = true := hsecret
    simp only [Engine.shownLine, hredacted, if_true]

namespace Headers

variable {h₁ h₂ : Headers}

theorem SameButSecrets.names (hh : h₁.SameButSecrets h₂) : h₁.names = h₂.names := by
  obtain ⟨entries₁⟩ := h₁
  obtain ⟨entries₂⟩ := h₂
  unfold Headers.names
  unfold SameButSecrets at hh
  dsimp only at hh ⊢
  induction hh with
  | nil => rfl
  | cons hentry _ ih => rw [List.map_cons, List.map_cons, hentry.1, ih]

/-- The same entry is found under a name. -/
theorem SameButSecrets.find? (hh : h₁.SameButSecrets h₂) (name : String) :
    Option.Rel Header.SameButSecret (h₁.find? name) (h₂.find? name) := by
  obtain ⟨entries₁⟩ := h₁
  obtain ⟨entries₂⟩ := h₂
  unfold Headers.find?
  unfold SameButSecrets at hh
  dsimp only at hh ⊢
  induction hh with
  | nil => exact .none
  | @cons e₁ e₂ _ _ hentry _ ih =>
    have hkey : e₁.key = e₂.key := congrArg Text.lower hentry.1
    rw [List.find?_cons, List.find?_cons, hkey]
    cases e₂.key == Text.lower name with
    | true => exact .some hentry
    | false => exact ih

/-- The values of a name are the same, or secret and equally many. -/
theorem SameButSecrets.texts (hh : h₁.SameButSecrets h₂) (name : String) :
    h₁.texts name = h₂.texts name ∨
      isSecretName name = true ∧ (h₁.texts name).length = (h₂.texts name).length := by
  have hfound := hh.find? name
  unfold Headers.texts Headers.get?
  rcases hentry₁ : h₁.find? name with _ | e₁ <;> rcases hentry₂ : h₂.find? name with _ | e₂ <;>
    rw [hentry₁, hentry₂] at hfound <;> cases hfound
  · exact .inl rfl
  · next hentry =>
    have hkey : Text.lower e₁.name = Text.lower name := by
      have hfind := List.find?_some hentry₁
      exact beq_iff_eq.mp hfind
    rcases hentry.2 with hvalue | ⟨hsecret, hlength⟩
    · exact .inl (congrArg Value.wireTexts hvalue)
    · refine .inr ⟨?_, hlength⟩
      rwa [← isSecretName_lower, ← hkey, isSecretName_lower]

/-- The values that an entry sends are the same, or secret and equally many: the user agent,
    which is sent with the suffix, is no secret. -/
theorem SameButSecrets.entryTexts (hh : h₁.SameButSecrets h₂) (suffix : Option String)
    (name : String) :
    h₁.entryTexts suffix name = h₂.entryTexts suffix name ∨
      isSecretName name = true ∧
        (h₁.entryTexts suffix name).length = (h₂.entryTexts suffix name).length := by
  have htexts := hh.texts name
  unfold Headers.entryTexts
  cases suffix with
  | none => exact htexts
  | some s =>
    dsimp only
    by_cases hagent : Text.lower name = Text.lower Field.userAgent.name
    · rw [if_pos hagent, if_pos hagent]
      have hopen : isSecretName name = false := by
        rw [← isSecretName_lower, hagent]
        decide +kernel
      rcases htexts with hsame | ⟨hsecret, -⟩
      · exact .inl (by rw [hsame])
      · rw [hopen] at hsecret
        cases hsecret
    · rw [if_neg hagent, if_neg hagent]
      exact htexts

theorem SameButSecrets.entryLines (hh : h₁.SameButSecrets h₂) (suffix : Option String)
    (name : String) :
    List.Forall₂ SameLineButSecret (h₁.entryLines suffix name) (h₂.entryLines suffix name) := by
  unfold Headers.entryLines
  rcases hh.entryTexts suffix name with hsame | ⟨hsecret, hlength⟩
  · rw [hsame]
    exact List.forall₂_same.mpr fun line _ => ⟨rfl, .inl rfl⟩
  · have hlower : isSecretName (Text.lower name) = true := by rwa [isSecretName_lower]
    rw [List.forall₂_map_left_iff, List.forall₂_map_right_iff]
    refine List.forall₂_of_length_eq_of_get hlength ?_
    intro i _ _
    exact ⟨rfl, .inr hlower⟩

/-- The lines of the two containers differ only in values that the log does not show. -/
theorem SameButSecrets.lines (hh : h₁.SameButSecrets h₂) (suffix : Option String) :
    List.Forall₂ SameLineButSecret (h₁.lines suffix) (h₂.lines suffix) := by
  have hsuffix : h₁.suffixLines suffix = h₂.suffixLines suffix := by
    unfold Headers.suffixLines
    rw [hh.names]
  have hentries : ∀ names : List String, List.Forall₂ SameLineButSecret
      (names.flatMap (h₁.entryLines suffix)) (names.flatMap (h₂.entryLines suffix)) := by
    intro names
    induction names with
    | nil => exact .nil
    | cons name names ih =>
      rw [List.flatMap_cons, List.flatMap_cons]
      exact List.rel_append (hh.entryLines suffix name) ih
  unfold Headers.lines
  rw [hh.names, hsuffix]
  exact List.rel_append (hentries h₂.names) (List.forall₂_same.mpr fun line _ => ⟨rfl, .inl rfl⟩)

/-- A redirect drops the same headers of both. -/
theorem SameButSecrets.stripped (hh : h₁.SameButSecrets h₂) :
    h₁.stripped.SameButSecrets h₂.stripped := by
  unfold SameButSecrets
  rw [stripped_entries, stripped_entries]
  refine List.rel_filter ?_ hh
  intro e₁ e₂ hentry
  have hkey : e₁.key = e₂.key := congrArg Text.lower hentry.1
  simp only [hkey]

end Headers

/-! ## Section 2: Comparing logs -/

/-- The line of the debug log that an event is, if it is one. -/
def Event.logged : Event R → Option (Channel × String)
  | .log channel text => some (channel, text)
  | _ => none

/-- The debug log of a run, in order. -/
def logged (events : List (Event R)) : List (Channel × String) := events.filterMap Event.logged

/-- The requests differ only in headers that the log does not show. -/
def Request.SameButSecrets (r₁ r₂ : Request) : Prop :=
  ∃ headers, r₁.headers.SameButSecrets headers ∧ r₂ = { r₁ with headers := headers }

/-- The requests do not log, and differ only in their headers and in content that has no
    logging layer. -/
def Request.SameButSent (r₁ r₂ : Request) : Prop :=
  r₁.logging.isSet = false ∧ (∀ c ∈ r₁.content, c.Unlogged) ∧
    ∃ headers content, (∀ c ∈ content, c.Unlogged) ∧
      r₂ = { r₁ with headers := headers, content := content }

/-- Runs are compared by their logs, and requests up to secrets. -/
def secretLikeness (R : Type) {σ : Type} (states : σ → σ → Prop) :
    Likeness R σ (Channel × String) where
  request := Request.SameButSecrets
  state := states
  shown := Event.logged
  course := by
    rintro r₁ r₂ ⟨headers, -, rfl⟩
    exact ⟨rfl, rfl, rfl, rfl, rfl, rfl, rfl, rfl, rfl, rfl⟩
  spent := by
    rintro r₁ r₂ left ⟨headers, hsame, rfl⟩
    exact ⟨headers, hsame, rfl⟩
  moved := by
    rintro r₁ r₂ status target ⟨headers, hsame, rfl⟩
    exact ⟨headers.stripped, hsame.stripped, rfl⟩

/-- Runs are compared by their logs, and requests that do not log up to what they send. -/
def silentLikeness (R : Type) {σ : Type} (states : σ → σ → Prop) :
    Likeness R σ (Channel × String) where
  request := Request.SameButSent
  state := states
  shown := Event.logged
  course := by
    rintro r₁ r₂ ⟨-, -, headers, content, -, rfl⟩
    exact ⟨rfl, rfl, rfl, rfl, rfl, rfl, rfl, rfl, rfl, rfl⟩
  spent := by
    rintro r₁ r₂ left ⟨hsilent, hcontent₁, headers, content, hcontent₂, rfl⟩
    exact ⟨hsilent, hcontent₁, headers, content, hcontent₂, rfl⟩
  moved := by
    rintro r₁ r₂ status target ⟨hsilent, hcontent₁, headers, content, hcontent₂, rfl⟩
    have hleft : ∀ content : Option Content, (∀ c ∈ content, c.Unlogged) →
        ∀ c ∈ if r₁.losesContent status then none else content, c.Unlogged := by
      intro content hcontent
      cases r₁.losesContent status with
      | true => exact nofun
      | false => exact hcontent
    exact ⟨hsilent, hleft _ hcontent₁, headers.stripped, _, hleft _ hcontent₂, rfl⟩

/-- Transmissions that differ only in lines which the log does not show. -/
structure Staged.SameButSecrets (s₁ s₂ : Staged) : Prop where
  method : s₁.method = s₂.method
  url : s₁.url = s₂.url
  content : s₁.content = s₂.content
  headers : List.Forall₂ SameLineButSecret s₁.headers s₂.headers

/-- Transmissions to the same place, with any headers and any content that has no logging
    layer. -/
structure Staged.SameButSent (s₁ s₂ : Staged) : Prop where
  method : s₁.method = s₂.method
  url : s₁.url = s₂.url
  content₁ : ∀ c ∈ s₁.content, c.Unlogged
  content₂ : ∀ c ∈ s₂.content, c.Unlogged

/-- Surroundings that take no notice of secrets. -/
structure Hooks.BlindToSecrets (states : σ → σ → Prop) (h : Hooks R σ) : Prop where
  surroundings : Hooks.Alike (secretLikeness R states) h h
  time : Hooks.AlikeInTime (secretLikeness R states) h h
  writeSource : ∀ id, (secretLikeness R states).Alike .never Eq
    (Run.ofHook (h.writeSource id)) (Run.ofHook (h.writeSource id))
  announce : ∀ s₁ s₂ : Staged, s₁.SameButSecrets s₂ →
    (secretLikeness R states).Alike .never Eq
      (Run.ofHook (h.announce s₁)) (Run.ofHook (h.announce s₂))
  exchange : ∀ (s₁ s₂ : Staged) body, s₁.SameButSecrets s₂ →
    (secretLikeness R states).Alike .never Eq
      (Run.ofHook (h.exchange s₁ body)) (Run.ofHook (h.exchange s₂ body))

/-- Surroundings that take no notice of headers and content, and leave a request that does not
    log as it is in that.  Bodies of the caller's are written without a fault and without a
    line of the log, which makes no difference to a run that writes none. -/
structure Hooks.BlindToSent (states : σ → σ → Prop) (h : Hooks R σ) : Prop where
  surroundings : Hooks.Alike (silentLikeness R states) h h
  time : Hooks.AlikeInTime (silentLikeness R states) h h
  written₁ : ∀ id, (silentLikeness R states).Alike .never (fun _ _ => True)
    (Run.ofHook (h.writeSource id)) (pure [])
  written₂ : ∀ id, (silentLikeness R states).Alike .never (fun _ _ => True)
    (pure []) (Run.ofHook (h.writeSource id))
  announce : ∀ s₁ s₂ : Staged, s₁.SameButSent s₂ →
    (silentLikeness R states).Alike .never Eq
      (Run.ofHook (h.announce s₁)) (Run.ofHook (h.announce s₂))
  exchange : ∀ (s₁ s₂ : Staged) body₁ body₂, s₁.SameButSent s₂ →
    (silentLikeness R states).Alike .never Eq
      (Run.ofHook (h.exchange s₁ body₁)) (Run.ofHook (h.exchange s₂ body₂))

namespace Engine

open Likeness

variable {states : σ → σ → Prop} {h : Hooks R σ}

/-! ## Section 3: Secrets -/

section secrets

/-- What is staged of requests that differ in secrets, and what the log says of it. -/
theorem stagedOf_secrets (debug : Bool) {r₁ r₂ : Request} (hr : r₁.SameButSecrets r₂) :
    (stagedOf debug r₁).SameButSecrets (stagedOf debug r₂) ∧
      stageNotes debug r₁ = stageNotes debug r₂ := by
  obtain ⟨headers, hheaders, rfl⟩ := hr
  have hlines : List.Forall₂ SameLineButSecret (r₁.headers.lines (suffixFor r₁))
      (headers.lines (suffixFor r₁)) := hheaders.lines (suffixFor r₁)
  have hshown : (r₁.headers.lines (suffixFor r₁)).map shownLine
      = (headers.lines (suffixFor r₁)).map shownLine := by
    generalize r₁.headers.lines (suffixFor r₁) = lines₁ at hlines
    generalize headers.lines (suffixFor r₁) = lines₂ at hlines
    induction hlines with
    | nil => rfl
    | cons hline _ ih => rw [List.map_cons, List.map_cons, hline.shown, ih]
  refine ⟨⟨rfl, rfl, rfl, hlines⟩, ?_⟩
  have hlog : stagedLog (stagedOf debug r₁)
      = stagedLog (stagedOf debug { r₁ with headers := headers }) :=
    congrArg ((r₁.method ++ " request to " ++ r₁.url.plain) :: ·) hshown
  unfold stageNotes
  rw [hlog]

variable [Arith R]

theorem parts_secrets (hh : h.BlindToSecrets states) (cancellable : Bool) :
    PartsAlike (secretLikeness R states) .never Staged.SameButSecrets h h
      cancellable cancellable := by
  refine partsAlike_inTime hh.surroundings hh.time cancellable (alike_stage ?_) ?_
  · intro r₁ r₂ hr
    obtain ⟨hstaged, hnotes⟩ := stagedOf_secrets h.debug hr
    exact ⟨hstaged, rfl, by rw [hnotes]⟩
  · intro s₁ s₂ hs
    exact alike_transmitSame hh.writeSource hs.content rfl (hh.announce s₁ s₂ hs) fun body =>
      hh.exchange s₁ s₂ body hs

end secrets

/-! ## Section 4: What is sent -/

section sent

variable (hh : h.BlindToSent states)
include hh

/-- A content without logging layers is written without a line of the log: next to a run that
    writes nothing it makes no difference. -/
theorem alike_writeSilent : ∀ c : Content, c.Unlogged →
    (silentLikeness R states).Alike .never (fun _ _ => True)
        (Run.ofHook (writeContent h c)) (pure []) ∧
      (silentLikeness R states).Alike .never (fun _ _ => True)
        (pure []) (Run.ofHook (writeContent h c))
  | .bytes _ data, _ => ⟨alike_pure trivial, alike_pure trivial⟩
  | .source s, _ => ⟨hh.written₁ s.id, hh.written₂ s.id⟩
  | .gzip inner, hc => by
    obtain ⟨hleft, hright⟩ := alike_writeSilent inner hc
    unfold writeContent
    simp only [Run.ofHook_bind]
    constructor
    · rw [← bind_pure (pure [] : Run (Event R) σ (List UInt8))]
      exact alike_bind hleft fun _ _ _ => alike_pure trivial
    · rw [← bind_pure (pure [] : Run (Event R) σ (List UInt8))]
      exact alike_bind hright fun _ _ _ => alike_pure trivial

theorem alike_transmitSilent {s₁ s₂ : Staged} (hs : s₁.SameButSent s₂) :
    (silentLikeness R states).Alike .never Eq (transmit h s₁) (transmit h s₂) := by
  have hnothing : ∀ s : Staged, (∀ c ∈ s.content, c.Unlogged) →
      (silentLikeness R states).Alike .never (fun _ _ => True)
          (Run.ofHook (readBody h s)) (pure []) ∧
        (silentLikeness R states).Alike .never (fun _ _ => True)
          (pure []) (Run.ofHook (readBody h s)) := by
    intro s hcontent
    unfold readBody
    cases h.readsBody with
    | false => exact ⟨alike_pure trivial, alike_pure trivial⟩
    | true =>
      cases hslot : s.content with
      | none => exact ⟨alike_pure trivial, alike_pure trivial⟩
      | some c => exact alike_writeSilent hh c (hcontent c hslot)
  have hread := (hnothing s₁ hs.content₁).1.through (hnothing s₂ hs.content₂).2
  unfold transmit
  refine alike_seq (alike_emit rfl) (alike_seq (hh.announce s₁ s₂ hs) (alike_bind hread ?_))
  intro body₁ body₂ _
  exact hh.exchange s₁ s₂ body₁ body₂ hs

omit hh in
/-- A request that does not log is staged without a logging layer and without a line. -/
theorem stagedOf_silent (debug : Bool) {r₁ r₂ : Request} (hr : r₁.SameButSent r₂) :
    (stagedOf debug r₁).SameButSent (stagedOf debug r₂) ∧
      stageNotes debug r₁ = [] ∧ stageNotes debug r₂ = [] := by
  obtain ⟨hsilent, hcontent₁, headers, content, hcontent₂, rfl⟩ := hr
  have hstaged : ∀ r : Request, r.logging.isSet = false → (∀ c ∈ r.content, c.Unlogged) →
      (∀ c ∈ stagedContent debug r, c.Unlogged) ∧ stageNotes debug r = [] := by
    intro r hlogging hcontent
    constructor
    · intro c hc
      obtain ⟨inner, hinner, rfl⟩ := Option.map_eq_some_iff.mp hc
      have hplain : inner.Unlogged := hcontent inner hinner
      simp only [hlogging, Bool.false_and, Bool.false_eq_true, if_false]
      split
      · exact hplain
      · exact hplain
    · simp only [stageNotes, hlogging, Bool.false_and, Bool.false_eq_true, if_false]
  obtain ⟨hstaged₁, hnotes₁⟩ := hstaged r₁ hsilent hcontent₁
  obtain ⟨hstaged₂, hnotes₂⟩ :=
    hstaged { r₁ with headers := headers, content := content } hsilent hcontent₂
  exact ⟨⟨rfl, rfl, hstaged₁, hstaged₂⟩, hnotes₁, hnotes₂⟩

variable [Arith R]

theorem parts_silent (cancellable : Bool) :
    PartsAlike (silentLikeness R states) .never Staged.SameButSent h h
      cancellable cancellable := by
  refine partsAlike_inTime hh.surroundings hh.time cancellable (alike_stage ?_) ?_
  · intro r₁ r₂ hr
    obtain ⟨hstaged, hnotes₁, hnotes₂⟩ := stagedOf_silent h.debug hr
    exact ⟨hstaged, rfl, by rw [hnotes₁, hnotes₂]⟩
  · intro s₁ s₂ hs
    exact alike_transmitSilent hh hs

end sent

end Engine

/-! ## Section 5: Logs -/

section playback

variable [Arith R] (p : Playback R) (debug : Bool)

theorem Playback.blindToSecrets : (p.reading debug).BlindToSecrets Eq where
  surroundings := p.alike (.inl rfl)
  time := p.alikeInTime
  writeSource _ := Likeness.alike_pure rfl
  announce _ _ _ := Likeness.alike_pure rfl
  exchange s₁ s₂ body _ := p.alike_exchange rfl s₁ s₂ body body

theorem Playback.blindToSent : (p.reading debug).BlindToSent Eq where
  surroundings := p.alike (.inl rfl)
  time := p.alikeInTime
  written₁ _ := Likeness.alike_pure trivial
  written₂ _ := Likeness.alike_pure trivial
  announce _ _ _ := Likeness.alike_pure rfl
  exchange s₁ s₂ body₁ body₂ _ := p.alike_exchange rfl s₁ s₂ body₁ body₂

end playback

namespace Engine

variable [Arith R] {states : σ → σ → Prop}

/-- The debug log of an execution does not depend on secrets.  And if the requests do not
    log, it depends neither on any header nor on the content. -/
theorem execute_log_alike (h : Hooks R σ) (cancellable : Bool) (limit : Nat) :
    (h.BlindToSecrets states → ∀ r₁ r₂ s₁ s₂, r₁.SameButSecrets r₂ → states s₁ s₂ →
      logged (execute h cancellable limit r₁ s₁).events
        = logged (execute h cancellable limit r₂ s₂).events) ∧
    (h.BlindToSent states → ∀ r₁ r₂ s₁ s₂, r₁.SameButSent r₂ → states s₁ s₂ →
      logged (execute h cancellable limit r₁ s₁).events
        = logged (execute h cancellable limit r₂ s₂).events) := by
  constructor
  · intro hh r₁ r₂ s₁ s₂ hr hs
    have hagree := (alike_execute (parts_secrets hh cancellable) limit).agree hr hs
    exact hagree.events
  · intro hh r₁ r₂ s₁ s₂ hr hs
    have hagree := (alike_execute (parts_silent hh cancellable) limit).agree hr hs
    exact hagree.events

/-- A redirect with two secrets, and with a body that is not logged. -/
theorem execute_log_alike_redirected :
    let h : Hooks Rat Nat := (Playback.mk (fun
        | 0 => .ok ⟨307, "", [("Location", "http://b/")], []⟩
        | _ => .ok ⟨200, "", [], []⟩)
      (fun _ _ => false) (fun _ _ => false) fun _ => .whole 0).reading true
    let headers (secret : String) := Headers.empty.setAll [("AUTHORIZATION", .text secret)]
    let r₁ := Request.make "PUT" (.text "http://a/") (some (.bytes none [1])) (headers "x")
    let r₂ := Request.make "PUT" (.text "http://a/") (some (.bytes none [1])) (headers "y")
    let q₁ : Request := { r₁ with logging := .bool false }
    let q₂ : Request := { q₁ with headers := Headers.empty, content := none }
    h.BlindToSecrets Eq ∧ h.BlindToSent Eq ∧ r₁.SameButSecrets r₂ ∧ q₁.SameButSent q₂ ∧
      (.execution, "  authorization: <Not Logged>") ∈ logged (execute h false 11 r₁ 0).events ∧
      logged (execute h false 11 r₁ 0).events = logged (execute h false 11 r₂ 0).events ∧
      logged (execute h false 11 q₁ 0).events = logged (execute h false 11 q₂ 0).events := by
  intro h headers r₁ r₂ q₁ q₂
  have hsecrets : h.BlindToSecrets Eq := Playback.blindToSecrets _ true
  have hsent : h.BlindToSent Eq := Playback.blindToSent _ true
  have hr : r₁.SameButSecrets r₂ :=
    ⟨r₂.headers, .cons ⟨rfl, .inr ⟨by decide +kernel, rfl⟩⟩ .nil, rfl⟩
  have hq : q₁.SameButSent q₂ := by
    refine ⟨rfl, ?_, Headers.empty, none, nofun, rfl⟩
    intro c hc
    cases Option.mem_some.mp hc
    trivial
  obtain ⟨hfirst, hsecond⟩ := execute_log_alike h false 11
  exact ⟨hsecrets, hsent, hr, hq, by decide +kernel, hfirst hsecrets r₁ r₂ 0 0 hr rfl,
    hsecond hsent q₁ q₂ 0 0 hq rfl⟩

/-- That the requests do not log is not enough.  A logging layer of the caller's own logs what
    it wraps, and a handler may turn the log on for the next attempt. -/
theorem silent_request_logged :
    let p : Playback Rat := ⟨fun
        | 0 => .ok ⟨503, "", [], []⟩
        | _ => .ok ⟨200, "", [], []⟩,
      fun _ _ => true, fun _ _ => false, fun _ => .whole 0⟩
    let h := p.reading true
    let turning : Hooks Rat Nat :=
      { h with handle := fun _ _ _ r k => ⟨.ok true, { r with logging := .bool true }, k, []⟩ }
    let r : Request := { Request.make "PUT" (.text "http://a/") none Headers.empty with
      logging := .bool false, handler := .hook (.leaf "Leaf" 0) }
    let wrapped (data : List UInt8) : Request :=
      { r with content := some (.logging (.bytes none data) (.whole 10)) }
    let named (value : String) : Request :=
      { r with headers := Headers.empty.set "X-A" (.text value) }
    r.logging.isSet = false ∧
      logged (execute h false 11 (wrapped [97]) 0).events
        ≠ logged (execute h false 11 (wrapped [98]) 0).events ∧
      logged (execute turning false 11 (named "1") 0).events
        ≠ logged (execute turning false 11 (named "2") 0).events := by
  decide +kernel

end Engine

end Redial
