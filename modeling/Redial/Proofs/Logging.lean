import Redial.Proofs.Likeness.Execution
import Redial.Proofs.Playback

/-! # What the debug log changes

    A request is executed twice, and the first run logs at least what the second one
    logs.  The first run then stages its content in one more layer, which writes the
    beginning of the body to the log.  Either the two runs come to the same in all but
    the log, or this layer ends the first run: the body that was to be sent last has a
    beginning that cannot be shown, because it cannot be decoded in the character set
    that its media type names, or because the limit is no integer.

    The two runs are related by a `Likeness` that leaves the log out.  What they
    transmit is compared without logging layers, and its bodies are compared after
    undoing every compression. -/

namespace Redial

variable {R σ : Type}

/-! ## Section 1: Content without logging layers -/

namespace Content

/-- The content without the layers that write to the log. -/
def bare : Content → Content
  | bytes mediaType data => bytes mediaType data
  | source s => source s
  | gzip inner => gzip inner.bare
  | logging inner _ => inner.bare

theorem unpack_bare (gunzip : List UInt8 → List UInt8) (c : Content) (written : List UInt8) :
    c.bare.unpack gunzip written = c.unpack gunzip written := by
  induction c generalizing written with
  | bytes | source => rfl
  | gzip inner ih => exact ih _
  | logging inner _ ih => exact ih written

/-- The first content is the second one, perhaps with a logging layer: around all of it, or
    right inside the compressing layer. -/
inductive Overlaid : Content → Content → Prop where
  | same (c : Content) : Overlaid c c
  | logged (c : Content) (limit : Number Float) : Overlaid (.logging c limit) c
  | packed (c : Content) (limit : Number Float) : Overlaid (.gzip (.logging c limit)) (.gzip c)

theorem Overlaid.bare {c₁ c₂ : Content} (hc : Overlaid c₁ c₂) : c₁.bare = c₂.bare := by
  cases hc <;> rfl

end Content

namespace Staged

/-- The transmission without the layers that write to the log. -/
def bare (s : Staged) : Staged := { s with content := s.content.map Content.bare }

/-- What a written body holds, without any compression. -/
def plain (gunzip : List UInt8 → List UInt8) (s : Staged) (written : List UInt8) : List UInt8 :=
  match s.content with
  | none => written
  | some c => c.unpack gunzip written

/-- The first transmission is the second one, perhaps with a logging layer on its content. -/
structure Overlaid (s₁ s₂ : Staged) : Prop where
  method : s₁.method = s₂.method
  url : s₁.url = s₂.url
  headers : s₁.headers = s₂.headers
  content : Option.Rel Content.Overlaid s₁.content s₂.content

theorem Overlaid.bare {s₁ s₂ : Staged} (hs : s₁.Overlaid s₂) : s₁.bare = s₂.bare := by
  obtain ⟨method, url, headers, c₁⟩ := s₁
  obtain ⟨method, url, headers, c₂⟩ := s₂
  obtain ⟨rfl, rfl, rfl, hcontent⟩ := hs
  cases hcontent with
  | none => rfl
  | some hc => simp only [Staged.bare, Option.map_some, hc.bare]

theorem Overlaid.plain {s₁ s₂ : Staged} (hs : s₁.Overlaid s₂)
    (gunzip : List UInt8 → List UInt8) (written : List UInt8) :
    s₁.plain gunzip written = s₂.plain gunzip written := by
  obtain ⟨_, _, _, c₁⟩ := s₁
  obtain ⟨_, _, _, c₂⟩ := s₂
  cases hs.content with
  | none => rfl
  | some hc =>
    show Content.unpack gunzip _ written = Content.unpack gunzip _ written
    rw [← Content.unpack_bare, hc.bare, Content.unpack_bare]

end Staged

/-! ## Section 2: Runs without their log -/

/-- An event as it is without the log; none for a line of the log. -/
def Event.unlogged : Event R → Option (Event R)
  | .log _ _ => none
  | .staged s => some (.staged s.bare)
  | .transmitted s => some (.transmitted s.bare)
  | .seen (.sent s) => some (.seen (.sent s.bare))
  | e => some e

/-- The requests differ in nothing but whether they log. -/
def Request.SameButLogging (flags : Value → Value → Prop) (r₁ r₂ : Request) : Prop :=
  ∃ v, flags r₁.logging v ∧ r₂ = { r₁ with logging := v }

theorem Request.SameButLogging.course {flags : Value → Value → Prop} {r₁ r₂ : Request}
    (hr : Request.SameButLogging flags r₁ r₂) : r₁.SameCourse r₂ := by
  obtain ⟨v, -, rfl⟩ := hr
  exact ⟨rfl, rfl, rfl, rfl, rfl, rfl, rfl, rfl, rfl, rfl⟩

/-- Runs are compared without their log, and requests up to whether they log. -/
def unloggedLikeness (R : Type) {σ : Type} (flags : Value → Value → Prop) (states : σ → σ → Prop) :
    Likeness R σ (Event R) where
  request := Request.SameButLogging flags
  state := states
  shown := Event.unlogged
  course := Request.SameButLogging.course
  spent := by
    rintro r₁ r₂ left ⟨v, hflags, rfl⟩
    exact ⟨v, hflags, rfl⟩
  moved := by
    rintro r₁ r₂ status target ⟨v, hflags, rfl⟩
    exact ⟨v, hflags, rfl⟩

/-! ## Section 3: Bodies that differ in their compression -/

section repacked

variable {h₁ h₂ : Hooks R σ}

/-- The bytes differ at most in how they have been compressed. -/
inductive Repacked (h₁ h₂ : Hooks R σ) : List UInt8 → List UInt8 → Prop where
  | same (data : List UInt8) : Repacked h₁ h₂ data data
  | packed {data₁ data₂ : List UInt8} (inner : Repacked h₁ h₂ data₁ data₂) :
      Repacked h₁ h₂ (h₁.compress data₁) (h₂.compress data₂)

/-- A decoder treats the bytes alike: both are decoded, or both are refused in the same way. -/
def DecodedAlike (decode : Decoder) (name : String) (bytes₁ bytes₂ : List UInt8) : Prop :=
  (∃ f, decode name bytes₁ = .error f ∧ decode name bytes₂ = .error f) ∨
    ∃ text₁ text₂, decode name bytes₁ = .ok text₁ ∧ decode name bytes₂ = .ok text₂

/-- Whether bytes can be decoded in the character sets of the registry depends on them only
    in whether there are any. -/
theorem DecodedAlike.named (name : String) {bytes₁ bytes₂ : List UInt8}
    (hempty : bytes₁.isEmpty = bytes₂.isEmpty) : DecodedAlike decodeNamed name bytes₁ bytes₂ := by
  unfold DecodedAlike decodeNamed
  rw [hempty]
  cases name.toList.contains '\x00' with
  | true => exact .inl ⟨_, rfl, rfl⟩
  | false =>
    cases bytes₂.isEmpty with
    | true => exact .inr ⟨_, _, rfl, rfl⟩
    | false =>
      cases Charset.meaning? name with
      | none => exact .inl ⟨_, rfl, rfl⟩
      | some meaning =>
        cases meaning with
        | transformation => exact .inl ⟨_, rfl, rfl⟩
        | charset c => exact .inr ⟨_, _, rfl, rfl⟩

/-- What is compressed is never empty, so the character sets of the registry take no notice of
    how it is compressed. -/
theorem Repacked.decodedAlike (hfull₁ : ∀ data, h₁.compress data ≠ [])
    (hfull₂ : ∀ data, h₂.compress data ≠ []) {data₁ data₂ : List UInt8}
    (hdata : Repacked h₁ h₂ data₁ data₂) (name : String) (n : Nat) :
    DecodedAlike decodeNamed name (data₁.take n) (data₂.take n) := by
  have htake : ∀ data : List UInt8, (data.take n).isEmpty = (n == 0 || data.isEmpty) := by
    intro data
    cases n <;> cases data <;> rfl
  refine .named name ?_
  rw [htake, htake]
  cases hdata with
  | same => rfl
  | packed =>
    rw [List.isEmpty_eq_false_iff.mpr (hfull₁ _), List.isEmpty_eq_false_iff.mpr (hfull₂ _)]

end repacked

/-! ## Section 4: Surroundings that log more, and less -/

/-- Surroundings of two runs of which the first one logs at least what the second one logs, and
    which otherwise take no notice of the log.  The bodies that a transport reads may differ in
    how they are compressed, as long as `gunzip` undoes it. -/
structure Hooks.AlikeUnlogged (flags : Value → Value → Prop) (states : σ → σ → Prop)
    (gunzip : List UInt8 → List UInt8) (h₁ h₂ : Hooks R σ) : Prop where
  surroundings : Hooks.Alike (unloggedLikeness R flags states) h₁ h₂
  time : Hooks.AlikeInTime (unloggedLikeness R flags states) h₁ h₂
  logs : ∀ v₁ v₂, flags v₁ v₂ → (v₂.isSet && h₂.debug) = true → (v₁.isSet && h₁.debug) = true
  reads : h₁.readsBody = h₂.readsBody
  packs₁ : ∀ data, gunzip (h₁.compress data) = data
  packs₂ : ∀ data, gunzip (h₂.compress data) = data
  /-- How a body is compressed does not matter to whether its beginning can be decoded.  If
      both runs compress alike, there is no difference to begin with. -/
  decodes : ∀ name n {data₁ data₂}, Repacked h₁ h₂ data₁ data₂ →
    DecodedAlike h₂.decode name (data₁.take n) (data₂.take n)
  writeSource : ∀ id, (unloggedLikeness R flags states).Alike .never Eq
    (Run.ofHook (h₁.writeSource id)) (Run.ofHook (h₂.writeSource id))
  announce : ∀ s₁ s₂ : Staged, s₁.Overlaid s₂ →
    (unloggedLikeness R flags states).Alike .never Eq
      (Run.ofHook (h₁.announce s₁)) (Run.ofHook (h₂.announce s₂))
  exchange : ∀ (s₁ s₂ : Staged) body₁ body₂, s₁.Overlaid s₂ →
    s₁.plain gunzip body₁ = s₂.plain gunzip body₂ →
    (unloggedLikeness R flags states).Alike .never Eq
      (Run.ofHook (h₁.exchange s₁ body₁)) (Run.ofHook (h₂.exchange s₂ body₂))

namespace Engine

open Likeness

variable {flags : Value → Value → Prop} {states : σ → σ → Prop}
  {gunzip : List UInt8 → List UInt8} {h h₁ h₂ : Hooks R σ} {C : Cut R}

/-! ## Section 5: Excerpts -/

/-- If the beginnings of two bodies can be decoded alike, they can be shown alike. -/
theorem excerptLine_ends {decode : Decoder} (mediaType : Option String) (limit : Number Float)
    {data₁ data₂ : List UInt8}
    (hdecoded : ∀ name n, DecodedAlike decode name (data₁.take n) (data₂.take n)) :
    Ends (fun line₁ line₂ => line₁.isSome = line₂.isSome)
      (excerptLine decode mediaType limit data₁) (excerptLine decode mediaType limit data₂) := by
  unfold excerptLine
  cases limit.isZero with
  | true => exact .ok rfl
  | false =>
    rw [if_neg Bool.false_ne_true, if_neg Bool.false_ne_true]
    cases limit.int? with
    | none => exact .error _
    | some n =>
      rcases hdecoded (MediaType.charset mediaType MediaType.defaultCharset) n.toNat with
        ⟨f, hbytes₁, hbytes₂⟩ | ⟨text₁, text₂, hbytes₁, hbytes₂⟩
      · simp only [hbytes₁, hbytes₂]
        exact .error _
      · simp only [hbytes₁, hbytes₂]
        exact .ok rfl

/-- The beginning of a body cannot be shown for two reasons only: the limit, or the character
    set. -/
theorem excerptLine_error {decode : Decoder} {mediaType : Option String} {limit : Number Float}
    {data : List UInt8} {f : Fault} (hf : excerptLine decode mediaType limit data = .error f) :
    f = .notAnIndex ∨ ∃ fault, f = .charset fault := by
  unfold excerptLine at hf
  cases hzero : limit.isZero with
  | true => simp [hzero] at hf
  | false =>
    rw [hzero, if_neg Bool.false_ne_true] at hf
    cases hlimit : limit.int? with
    | none =>
      simp only [hlimit] at hf
      cases hf
      exact .inl rfl
    | some n =>
      simp only [hlimit] at hf
      split at hf <;> cases hf
      exact .inr ⟨_, rfl⟩

/-- The logging layer of a staged content cannot show the beginning of the body that the content
    inside it writes. -/
def Illegible (h : Hooks R σ) (s : Staged) (f : Fault) : Prop :=
  ∃ c limit data, (s.content = some (.logging c limit) ∨
      s.content = some (.gzip (.logging c limit))) ∧
    (writeContent h c).MayReturn data ∧ excerptLine h.decode c.mediaType limit data = .error f

theorem Illegible.fault {s : Staged} {f : Fault} (hf : Illegible h s f) :
    f = .notAnIndex ∨ ∃ fault, f = .charset fault := by
  obtain ⟨c, limit, data, -, -, hexcerpt⟩ := hf
  exact excerptLine_error hexcerpt

theorem Illegible.final {s : Staged} {f : Fault} (hf : Illegible h s f) : f.isExchange = false := by
  obtain rfl | ⟨fault, rfl⟩ := hf.fault <;> rfl

/-- A run is cut off when the body to be sent last is illegible. -/
def illegibleCut (h : Hooks R σ) : Cut R where
  cuts f events := ∃ s, (sent events).getLast? = some s ∧ Illegible h s f
  after := by
    rintro f events earlier ⟨s, hlast, hillegible⟩
    refine ⟨s, ?_, hillegible⟩
    rw [sent_append, List.getLast?_append, hlast]
    rfl
  final := fun ⟨_, _, hillegible⟩ => hillegible.final

/-- The reading of one body is cut off if it is illegible. -/
def readingCut (h : Hooks R σ) (s : Staged) : Cut R where
  cuts f _ := Illegible h s f
  after := fun _ hillegible => hillegible
  final := fun hillegible => hillegible.final

/-! ## Section 6: Bodies -/

section bodies

variable (hh : Hooks.AlikeUnlogged flags states gunzip h₁ h₂)
include hh

/-- The same content is written alike: the bodies hold the same, and differ at most in how
    they are compressed. -/
theorem alike_writeContent : ∀ c : Content,
    (unloggedLikeness R flags states).Alike C
      (fun body₁ body₂ => c.unpack gunzip body₁ = c.unpack gunzip body₂ ∧
        Repacked h₁ h₂ body₁ body₂)
      (Run.ofHook (writeContent h₁ c)) (Run.ofHook (writeContent h₂ c))
  | .bytes _ data => alike_pure ⟨rfl, .same data⟩
  | .source s => by
    refine (hh.writeSource s.id).uncut.mono ?_
    rintro body _ rfl
    exact ⟨rfl, .same body⟩
  | .gzip inner => by
    unfold writeContent
    simp only [Run.ofHook_bind]
    refine alike_bind (alike_writeContent inner) fun body₁ body₂ hbody => alike_pure ?_
    simp only [Content.unpack, hh.packs₁, hh.packs₂]
    exact ⟨hbody.1, .packed hbody.2⟩
  | .logging inner limit => by
    unfold writeContent
    simp only [Run.ofHook_bind, Run.ofHook_lift]
    refine alike_bind (alike_writeContent inner) fun body₁ body₂ hbody => ?_
    have hdecoded := fun name n => hh.decodes name n hbody.2
    rw [hh.surroundings.decode]
    refine alike_bind (alike_lift (excerptLine_ends inner.mediaType limit hdecoded)) ?_
    intro line₁ line₂ hline
    cases line₁ with
    | none =>
      obtain rfl : line₂ = none := Option.not_isSome_iff_eq_none.mp (by rw [← hline]; nofun)
      exact alike_pure hbody
    | some text₁ =>
      obtain ⟨text₂, rfl⟩ := Option.isSome_iff_exists.mp hline.symm
      simp only [Run.ofHook_bind]
      exact alike_seq (alike_log (.inr fun _ => rfl)) (alike_pure hbody)

/-- A content inside one more logging layer is written alike, unless it is illegible. -/
theorem alike_writeLogged {s : Staged} {c : Content} {limit : Number Float}
    (hs : s.content = some (.logging c limit) ∨ s.content = some (.gzip (.logging c limit))) :
    (unloggedLikeness R flags states).Alike (readingCut h₁ s)
      (fun body₁ body₂ => c.unpack gunzip body₁ = c.unpack gunzip body₂)
      (Run.ofHook (writeContent h₁ (.logging c limit))) (Run.ofHook (writeContent h₂ c)) := by
  rw [← bind_pure (Run.ofHook (writeContent h₂ c)), writeContent]
  simp only [Run.ofHook_bind, Run.ofHook_lift]
  refine alike_bind (alike_writeContent hh c).returned fun body₁ body₂ hbody => ?_
  obtain ⟨⟨hunpack, -⟩, hreturned⟩ := hbody
  cases hexcerpt : excerptLine h₁.decode c.mediaType limit body₁ with
  | error f =>
    intro r₁ r₂ s₁ s₂ hr hs'
    exact .inr ⟨⟨f, rfl, c, limit, body₁, hs, hreturned, hexcerpt⟩, List.prefix_rfl⟩
  | ok line =>
    cases line with
    | none => exact alike_pure hunpack
    | some text =>
      -- a line that the second run does not write is a line that it leaves out
      show (unloggedLikeness R flags states).Alike _ _
        (Run.ofHook (Run.log h₁.debug .content text >>= fun _ => pure body₁))
        (Run.ofHook (Run.log false .content text) >>= fun _ => pure body₂)
      rw [Run.ofHook_bind]
      exact alike_seq (alike_log (.inr fun _ => rfl)) (alike_pure hunpack)

/-- Like transmissions have like bodies, unless the first one is illegible. -/
theorem alike_readBody {s₁ s₂ : Staged} (hs : s₁.Overlaid s₂) :
    (unloggedLikeness R flags states).Alike (readingCut h₁ s₁)
      (fun body₁ body₂ => s₁.plain gunzip body₁ = s₂.plain gunzip body₂)
      (Run.ofHook (readBody h₁ s₁)) (Run.ofHook (readBody h₂ s₂)) := by
  unfold readBody
  rw [hh.reads]
  cases h₂.readsBody with
  | false => exact alike_pure (hs.plain gunzip [])
  | true =>
    have hcontent := hs.content
    unfold Staged.plain
    rcases hcontent₁ : s₁.content with _ | c₁ <;> rcases hcontent₂ : s₂.content with _ | c₂ <;>
      rw [hcontent₁, hcontent₂] at hcontent <;> cases hcontent
    · exact alike_pure rfl
    · next hc =>
      cases hc with
      | same => exact (alike_writeContent hh c₁).mono fun _ _ hbody => hbody.1
      | logged _ limit => exact alike_writeLogged hh (.inl hcontent₁)
      | packed c limit =>
        show (unloggedLikeness R flags states).Alike _ _
          (Run.ofHook (writeContent h₁ (.logging c limit) >>= fun data => pure (h₁.compress data)))
          (Run.ofHook (writeContent h₂ c >>= fun data => pure (h₂.compress data)))
        simp only [Run.ofHook_bind]
        refine alike_bind (alike_writeLogged hh (.inr hcontent₁)) fun body₁ body₂ hbody => ?_
        refine alike_pure ?_
        simpa only [Content.unpack, hh.packs₁, hh.packs₂] using hbody

/-! ## Section 7: Transmissions -/

/-- The engine stages what the second request stages, perhaps with a logging layer. -/
theorem stagedOf_overlaid {r₁ r₂ : Request} (hr : Request.SameButLogging flags r₁ r₂) :
    (stagedOf h₁.debug r₁).Overlaid (stagedOf h₂.debug r₂) := by
  obtain ⟨v, hflags, rfl⟩ := hr
  have hlogs := hh.logs r₁.logging v hflags
  refine ⟨rfl, rfl, rfl, ?_⟩
  unfold stagedOf stagedContent
  cases r₁.content with
  | none => exact .none
  | some c =>
    refine .some ?_
    dsimp only
    cases hlogged : r₁.logging.isSet && h₁.debug with
    | true =>
      cases v.isSet && h₂.debug <;> cases r₁.compress.isSet
      · exact .logged c _
      · exact .packed c _
      · exact .same _
      · exact .same _
    | false =>
      cases hsilent : v.isSet && h₂.debug with
      | true => exact absurd (hlogs hsilent) (by rw [hlogged]; exact Bool.false_ne_true)
      | false => exact .same _

theorem alike_transmit {s₁ s₂ : Staged} (hs : s₁.Overlaid s₂) :
    (unloggedLikeness R flags states).Alike (illegibleCut h₁) Eq (transmit h₁ s₁)
      (transmit h₂ s₂) := by
  have hrun : (unloggedLikeness R flags states).Alike (readingCut h₁ s₁) Eq (transmit h₁ s₁)
      (transmit h₂ s₂) := by
    unfold transmit
    refine alike_seq (alike_emit (congrArg (some ∘ Event.transmitted) hs.bare)) ?_
    refine alike_seq (hh.announce s₁ s₂ hs).uncut ?_
    exact alike_bind (alike_readBody hh hs) fun body₁ body₂ hbody =>
      (hh.exchange s₁ s₂ body₁ body₂ hs hbody).uncut
  -- what is read was sent last: nothing is sent while it is read
  refine hrun.recut fun r s f hillegible => ⟨s₁, ?_, hillegible⟩
  rw [← sent_own, transmit_own_events]
  rfl

variable [Arith R]

/-- The parts of the two runs are alike. -/
theorem parts_unlogged (cancellable : Bool) :
    PartsAlike (unloggedLikeness R flags states) (illegibleCut h₁) Staged.Overlaid h₁ h₂
      cancellable cancellable := by
  have hhidden : ∀ debug r, (unloggedLikeness R flags states).view
      ((stageNotes debug r).map .ofNote) = [] := by
    intro debug r
    unfold stageNotes view
    split
    · rw [List.map_map, List.filterMap_map]
      exact List.filterMap_eq_nil_iff.mpr fun _ _ => rfl
    · rfl
  refine partsAlike_inTime hh.surroundings hh.time cancellable (alike_stage ?_) ?_
  · intro r₁ r₂ hr
    have hover := stagedOf_overlaid hh hr
    exact ⟨hover, congrArg (some ∘ Event.staged) hover.bare, by rw [hhidden, hhidden]⟩
  · intro s₁ s₂ hs
    exact alike_transmit hh hs

end bodies

end Engine

/-! ## Section 8: Runs -/

/-- The surroundings with a transport that also reports what each body holds that it is
    given. -/
def Hooks.exposing (h : Hooks R σ) (gunzip : List UInt8 → List UInt8) : Hooks R σ :=
  { h with
    exchange := fun s body => do
      Run.emit (.seen (.bodyRead (s.plain gunzip body)))
      h.exchange s body }

theorem Hooks.AlikeUnlogged.exposing {flags : Value → Value → Prop} {states : σ → σ → Prop}
    {gunzip : List UInt8 → List UInt8} {h₁ h₂ : Hooks R σ}
    (hh : Hooks.AlikeUnlogged flags states gunzip h₁ h₂) :
    Hooks.AlikeUnlogged flags states gunzip (h₁.exposing gunzip) (h₂.exposing gunzip) :=
  { hh with
    decodes := by
      intro name n data₁ data₂ hdata
      have hplain : Repacked h₁ h₂ data₁ data₂ := by
        induction hdata with
        | same data => exact .same data
        | packed inner ih => exact .packed ih
      exact hh.decodes name n hplain
    surroundings := { hh.surroundings with }
    time := { hh.time with }
    exchange := by
      intro s₁ s₂ body₁ body₂ hs hbody
      show (unloggedLikeness R flags states).Alike .never Eq
        (Run.emit (.seen (.bodyRead (s₁.plain gunzip body₁))) >>= fun _ =>
          Run.ofHook (h₁.exchange s₁ body₁))
        (Run.emit (.seen (.bodyRead (s₂.plain gunzip body₂))) >>= fun _ =>
          Run.ofHook (h₂.exchange s₂ body₂))
      rw [hbody]
      exact Likeness.alike_seq (Likeness.alike_emit rfl) (hh.exchange s₁ s₂ body₁ body₂ hs hbody) }

/-- The events without the log. -/
def unlogged (events : List (Event R)) : List (Event R) := events.filterMap Event.unlogged

theorem Playback.alikeUnlogged [Arith R] (p : Playback R) :
    Hooks.AlikeUnlogged Eq Eq Gzip.restore (p.reading true) (p.reading false) where
  surroundings := p.alike (.inr fun _ _ => rfl)
  time := p.alikeInTime
  logs _ _ _ hlogs := absurd hlogs (by simp [Playback.reading])
  reads := rfl
  packs₁ := Gzip.restore_encode
  packs₂ := Gzip.restore_encode
  decodes name n := by
    intro data₁ data₂ hdata
    exact hdata.decodedAlike Gzip.encode_ne_nil Gzip.encode_ne_nil name n
  writeSource _ := Likeness.alike_pure rfl
  announce _ _ _ := Likeness.alike_pure rfl
  exchange s₁ s₂ body₁ body₂ _ _ := p.alike_exchange rfl s₁ s₂ body₁ body₂

namespace Engine

variable [Arith R] {flags : Value → Value → Prop} {states : σ → σ → Prop}
  {gunzip : List UInt8 → List UInt8} {h₁ h₂ : Hooks R σ}

/-- Of two runs the first one logs at least what the second one logs.  Either both come to the
    same: the result, the request, the state, and all that is reported but the log, with every
    header line and with all that the bodies hold.  Or the first run ends where the body that
    it was to send last is illegible to its logging layer, and up to there both report the
    same. -/
theorem execute_alike_unlogged (hh : Hooks.AlikeUnlogged flags states gunzip h₁ h₂)
    (cancellable : Bool) (limit : Nat) {r₁ r₂ : Request} {s₁ s₂ : σ}
    (hr : Request.SameButLogging flags r₁ r₂) (hs : states s₁ s₂) :
    let logged := execute (h₁.exposing gunzip) cancellable limit r₁ s₁
    let silent := execute (h₂.exposing gunzip) cancellable limit r₂ s₂
    (logged.result = silent.result ∧
      Request.SameButLogging flags logged.request silent.request ∧
      states logged.state silent.state ∧ unlogged logged.events = unlogged silent.events) ∨
    ∃ s f, logged.result = .error f ∧ (sent logged.events).getLast? = some s ∧
      Illegible (h₁.exposing gunzip) s f ∧ (f = .notAnIndex ∨ ∃ fault, f = .charset fault) ∧
      unlogged logged.events <+: unlogged silent.events := by
  intro logged silent
  rcases alike_execute (parts_unlogged hh.exposing cancellable) limit r₁ r₂ s₁ s₂ hr hs with
    ⟨hends, hrequest, hstate, hevents⟩ | ⟨⟨f, hresult, s, hlast, hillegible⟩, hevents⟩
  · exact .inl ⟨hends.eq, hrequest, hstate, hevents⟩
  · exact .inr ⟨s, f, hresult, hlast, hillegible, hillegible.fault, hevents⟩

/-- A body whose media type declares a character set that nobody knows: the run that does
    not log sends it and succeeds, the run that logs does not get that far. -/
theorem execute_alike_unlogged_unknown_charset :
    let p : Playback Rat := ⟨fun _ => .ok ⟨200, "", [], []⟩,
      fun _ _ => false, fun _ _ => false, fun _ => .whole 0⟩
    let r := Request.make "POST" (.text "http://a/")
      (some (.bytes (some "text/plain; charset=bogus") [104, 105])) Headers.empty
    let logged := execute ((p.reading true).exposing Gzip.restore) false 11 r 0
    let silent := execute ((p.reading false).exposing Gzip.restore) false 11 r 0
    Hooks.AlikeUnlogged Eq Eq Gzip.restore (p.reading true) (p.reading false) ∧
      Request.SameButLogging Eq r r ∧
      logged.result.isOk = false ∧ silent.result.isOk = true ∧
      ∃ s f, logged.result = .error f ∧
        Illegible ((p.reading true).exposing Gzip.restore) s f ∧
        unlogged logged.events <+: unlogged silent.events := by
  intro p r logged silent
  have hh := p.alikeUnlogged
  have hr : Request.SameButLogging Eq r r := ⟨r.logging, rfl, rfl⟩
  have hlogged : logged.result.isOk = false := by decide +kernel
  have hsilent : silent.result.isOk = true := by decide +kernel
  refine ⟨hh, hr, hlogged, hsilent, ?_⟩
  rcases execute_alike_unlogged hh false 11 hr (Eq.refl 0) with
    ⟨hresult, -⟩ | ⟨s, f, hresult, -, hillegible, -, hevents⟩
  · rw [hresult, hsilent] at hlogged
    cases hlogged
  · exact ⟨s, f, hresult, hillegible, hevents⟩

end Engine

end Redial
