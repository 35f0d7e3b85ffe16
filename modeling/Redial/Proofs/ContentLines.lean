import Redial.Client.Message
import Redial.Proofs.Headers.UserAgent

/-! # Lines that describe the content

    The client is handed the lines of the container first, and then what the staged content
    says of itself: its media type and its coding.  Neither looks at the other.  So a field
    that describes the content is sent twice exactly where the container sends it and the
    content brings it as well, and what the content brings stands last. -/

namespace Redial

/-! ## Section 1: The lines of one field -/

/-- The values of the lines with a name in lower case, in order. -/
def valuesOf (name : String) (lines : List (String × String)) : List String :=
  (lines.filter fun line => Text.lower line.1 == name).map Prod.snd

theorem valuesOf_append (name : String) (lines lines' : List (String × String)) :
    valuesOf name (lines ++ lines') = valuesOf name lines ++ valuesOf name lines' := by
  rw [valuesOf, List.filter_append, List.map_append, valuesOf, valuesOf]

/-- A line of its own, for what is there. -/
theorem valuesOf_optional (name other : String) (value : Option String) :
    valuesOf name (value.map fun v => (other, v)).toList =
      if Text.lower other = name then value.toList else [] := by
  cases value with
  | none =>
    split
    · rfl
    · rfl
  | some v =>
    by_cases hsame : Text.lower other = name
    · simp [valuesOf, hsame]
    · simp [valuesOf, hsame]

/-- A field that describes the content: the container brings at most one value, and the content
    may bring another. -/
structure Described (own : List String) (brought : Option String) (values : List String) :
    Prop where
  /-- If only one of them brings a value, there are not two. -/
  once : own = [] ∨ brought = none → values.length ≤ 1
  /-- If both do, both are sent, that of the container first. -/
  twice : ∀ a b, own = [a] → brought = some b → values = [a, b]
  /-- What the content brings is sent last. -/
  last : ∀ b, brought = some b → values.getLast? = some b

theorem described_append {own : List String} (hown : own.length ≤ 1) (brought : Option String) :
    Described own brought (own ++ brought.toList) where
  once h := by
    rcases h with rfl | rfl
    · cases brought <;> simp
    · simpa using hown
  twice a b ha hb := by
    rw [ha, hb]
    rfl
  last b hb := by
    rw [hb]
    simp

namespace Headers

/-- At most one value is sent for each of the fields that describe the content. -/
structure DescribesOnce (h : Headers) : Prop where
  distinct : h.Distinct
  mediaType : (h.texts "content-type").length ≤ 1
  coding : (h.texts "content-encoding").length ≤ 1

/-- A redirect leaves these fields alone. -/
theorem DescribesOnce.stripped {h : Headers} (hh : h.DescribesOnce) :
    h.stripped.DescribesOnce where
  distinct := hh.distinct.stripped
  mediaType := by
    rw [stripped_texts (by decide +kernel)]
    exact hh.mediaType
  coding := by
    rw [stripped_texts (by decide +kernel)]
    exact hh.coding

end Headers

/-! ## Section 2: Transmissions -/

/-- The media type is that of the container, and then that of the content. -/
theorem valuesOf_contentType (s : Staged) :
    valuesOf "content-type" (Client.requestLines s) =
      valuesOf "content-type" s.headers ++ s.mediaType.toList := by
  have hown : Text.lower "content-type" = "content-type" := by decide +kernel
  have hother : ¬ Text.lower "content-encoding" = "content-type" := by decide +kernel
  rw [Client.requestLines, valuesOf_append, valuesOf_append, valuesOf_optional, valuesOf_optional,
    if_pos hown, if_neg hother, List.append_nil]

/-- The coding is that of the container, and then that of the content. -/
theorem valuesOf_contentEncoding (s : Staged) :
    valuesOf "content-encoding" (Client.requestLines s) =
      valuesOf "content-encoding" s.headers ++ s.coding.toList := by
  have hother : ¬ Text.lower "content-type" = "content-encoding" := by decide +kernel
  have hown : Text.lower "content-encoding" = "content-encoding" := by decide +kernel
  rw [Client.requestLines, valuesOf_append, valuesOf_append, valuesOf_optional, valuesOf_optional,
    if_neg hother, if_pos hown, List.append_nil]

namespace Engine

variable {R σ : Type} [Arith R]

/-- The lines of a staged container under a name that is not the user agent's. -/
theorem valuesOf_stagedOf {r : Request} (hr : r.headers.Distinct) (debug : Bool) {name : String}
    (hlower : Text.lower name = name) (hname : name ≠ agentKey) :
    valuesOf name (stagedOf debug r).headers = r.headers.texts name := by
  have helsewhere : Text.lower name ≠ agentKey := by rwa [hlower]
  have hlines := hr.filter_lines_elsewhere helsewhere (suffixFor r)
  rwa [hlower] at hlines

/-- How both fields are sent that describe the content of a transmission. -/
structure DescribedBy (headers : Headers) (s : Staged) : Prop where
  mediaType : Described (headers.texts "content-type") s.mediaType
    (valuesOf "content-type" (Client.requestLines s))
  coding : Described (headers.texts "content-encoding") s.coding
    (valuesOf "content-encoding" (Client.requestLines s))

theorem describedBy_stagedOf {r : Request} (hr : r.headers.DescribesOnce) (debug : Bool) :
    DescribedBy r.headers (stagedOf debug r) where
  mediaType := by
    rw [valuesOf_contentType,
      valuesOf_stagedOf hr.distinct debug (by decide +kernel) (by decide +kernel)]
    exact described_append hr.mediaType _
  coding := by
    rw [valuesOf_contentEncoding,
      valuesOf_stagedOf hr.distinct debug (by decide +kernel) (by decide +kernel)]
    exact described_append hr.coding _

/-! ## Section 3: Runs -/

/-- Whenever an attempt begins with a container that sends at most one media type and at most
    one coding, the client is handed at most one of each, unless the staged content brings
    one too; what the content brings stands last.  If the surroundings keep the headers,
    every attempt begins with such a container if the first one does. -/
theorem execute_describes_content (h : Hooks R σ) (cancellable : Bool) (limit : Nat) (r : Request)
    (s : σ) :
    ∃ turns ending, Executed h cancellable r s turns ending (execute h cancellable limit r s) ∧
      sent (execute h cancellable limit r s).events = turns.map Turn.staged ∧
      (∀ t ∈ turns, t.opened.headers.DescribesOnce → DescribedBy t.opened.headers t.staged) ∧
      ((h.Keep fun r => r.headers) → r.headers.DescribesOnce →
        ∀ t ∈ turns, t.opened.headers.DescribesOnce ∧ DescribedBy r.headers t.staged) := by
  obtain ⟨turns, ending, hexecuted, -⟩ := executed h cancellable limit r s
  have hturns : ∀ t ∈ turns, t.opened.headers.DescribesOnce →
      DescribedBy t.opened.headers t.staged := by
    intro t ht honce
    rw [hexecuted.staged_of_mem ht]
    exact describedBy_stagedOf honce h.debug
  refine ⟨turns, ending, hexecuted, hexecuted.sent_eq, hturns, ?_⟩
  intro hk hr t ht
  rcases hexecuted.headers_opened hk ht with heq | heq
  · have honce : t.opened.headers.DescribesOnce := by rwa [heq]
    have hdescribed := hturns t ht honce
    rw [heq] at hdescribed
    exact ⟨honce, hdescribed⟩
  -- a redirect was accepted before, but it drops neither field
  · have honce : t.opened.headers.DescribesOnce := by
      rw [heq]
      exact hr.stripped
    obtain ⟨hmediaType, hcoding⟩ := hturns t ht honce
    rw [heq, Headers.stripped_texts (by decide +kernel)] at hmediaType hcoding
    exact ⟨honce, hmediaType, hcoding⟩

/-- A body with a media type that is sent, redirected and sent again, compressed, from a
    container that sends neither field: each field is sent once for every attempt. -/
theorem execute_describes_content_once :
    let h : Hooks Rat Nat := Playback.hooks ⟨fun
        | 0 => .ok ⟨307, "", [("Location", "http://b/")], []⟩
        | _ => .ok ⟨200, "", [], []⟩,
      fun _ _ => false, fun _ _ => false, fun _ => .whole 0⟩
    let headers : Headers := ⟨[⟨"CONTENT-type", .list [.nothing]⟩, ⟨"X-A", .text "1"⟩]⟩
    let r : Request :=
      { Request.make "POST" (.text "http://a/") (some (.bytes (some "text/a") [1])) headers with
        compress := .bool true }
    (h.Keep fun r => r.headers) ∧ headers.DescribesOnce ∧
      (sent (execute h false 11 r 0).events).length = 2 ∧
      ∃ turns ending, Executed h false r 0 turns ending (execute h false 11 r 0) ∧
        ∀ t ∈ turns, (valuesOf "content-type" (Client.requestLines t.staged)).length ≤ 1 ∧
          (valuesOf "content-encoding" (Client.requestLines t.staged)).length ≤ 1 := by
  intro h headers r
  have hk : h.Keep fun r => r.headers := Playback.keep _
  have honce : headers.DescribesOnce := ⟨by decide +kernel, by decide +kernel, by decide +kernel⟩
  refine ⟨hk, honce, by decide +kernel, ?_⟩
  obtain ⟨turns, ending, hexecuted, -, -, hkept⟩ := execute_describes_content h false 11 r 0
  refine ⟨turns, ending, hexecuted, ?_⟩
  intro t ht
  obtain ⟨-, hmediaType, hcoding⟩ := hkept hk honce t ht
  exact ⟨hmediaType.once (.inl (by decide +kernel)), hcoding.once (.inl (by decide +kernel))⟩

/-- A container with a media type of its own: it is sent, and that of the content as well. -/
theorem execute_describes_content_twice :
    let h : Hooks Rat Nat := Playback.hooks ⟨fun _ => .ok ⟨200, "", [], []⟩,
      fun _ _ => false, fun _ _ => false, fun _ => .whole 0⟩
    let headers : Headers := ⟨[⟨"Content-Type", .text "text/plain"⟩]⟩
    let r := Request.make "POST" (.text "http://a/")
      (some (.bytes (some "application/json") [123, 125])) headers
    headers.DescribesOnce ∧
      (sent (execute h false 11 r 0).events).map (fun s =>
          (Client.requestLines s).filter fun line => line.1 == "content-type") =
        [[("content-type", "text/plain"), ("content-type", "application/json")]] := by
  intro h headers r
  exact ⟨⟨by decide +kernel, by decide +kernel, by decide +kernel⟩, by decide +kernel⟩

end Engine

end Redial
