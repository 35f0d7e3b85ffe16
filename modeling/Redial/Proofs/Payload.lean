import Redial.Proofs.Playback
import Redial.Proofs.Stripped

/-! # What a receiver reads

    A receiver knows a body and the coding that is declared with it, and undoes one
    compression if the coding says so: `payload`.  Each layer of a content writes what the
    content inside it writes, compressed or not, but only the outermost layers say whether
    there is a compression.  So the staged content has the payload of the content of the
    request, with one exception: a content that is compressed already is compressed once
    more where the request asks for it, and declared as if this had been done once.

    Staging looks at the content of the request and leaves it as it is.  Only a redirect
    that answers with 303 makes a request give up its content, so every attempt stages the
    content that the request began with, or none. -/

namespace Redial

variable {R σ ε α β : Type}

/-! ## Section 1: Writing the same every time -/

/-- The run comes to the same value from every request and in every state. -/
def Run.Yields (x : Run ε σ α) (a : α) : Prop := ∀ r s, (x r s).result = .ok a

theorem Run.yields_pure (a : α) : (Pure.pure a : Run ε σ α).Yields a := fun _ _ => rfl

theorem Run.Yields.bind {x : Run ε σ α} {f : α → Run ε σ β} {a : α} {b : β} (hx : x.Yields a)
    (hf : (f a).Yields b) : (x >>= f).Yields b := by
  intro r s
  have hresult := hx r s
  rcases Run.cases x r s with ⟨e, r', s', events, h⟩ | ⟨a', r', s', events, h⟩
  · rw [h] at hresult
    cases hresult
  · rw [h] at hresult
    cases hresult
    rw [Run.bind_ok h, Outcome.after_result]
    exact hf r' s'

theorem Run.yields_log (debug : Bool) (channel : Channel) (text : String) :
    (Run.log debug channel text : Run Note σ Unit).Yields () := by
  intro r s
  rw [Run.log_apply]

/-- Whatever stands in a content with this media type can be decoded. -/
def Legible (decode : Decoder) (mediaType : Option String) : Prop :=
  ∀ bytes, ∃ text, decode (MediaType.charset mediaType MediaType.defaultCharset) bytes = .ok text

/-- In the character sets of the registry everything can be decoded. -/
theorem legible_of_meaning {mediaType : Option String} {charset : Charset}
    (hnull : '\x00' ∉ (MediaType.charset mediaType MediaType.defaultCharset).toList)
    (hmeaning : Charset.meaning? (MediaType.charset mediaType MediaType.defaultCharset)
      = some (.charset charset)) : Legible decodeNamed mediaType := by
  intro bytes
  unfold decodeNamed
  rw [if_neg (by simpa using hnull), hmeaning]
  split
  · exact ⟨_, rfl⟩
  · exact ⟨_, rfl⟩

namespace Engine

variable {h : Hooks R σ} {c : Content} {data : List UInt8} {limit : Number Float} {n : Int}

/-- If everything can be decoded, the beginning of every body can be shown. -/
theorem excerptLine_legible {decode : Decoder} {mediaType : Option String}
    (hlegible : Legible decode mediaType) (hlimit : limit.int? = some n) (data : List UInt8) :
    ∃ line, excerptLine decode mediaType limit data = .ok line := by
  unfold excerptLine
  by_cases hzero : limit.isZero = true
  · exact ⟨none, if_pos hzero⟩
  · obtain ⟨text, htext⟩ := hlegible (data.take n.toNat)
    rw [if_neg hzero, hlimit]
    simp only [htext]
    exact ⟨_, rfl⟩

/-- The content is written without a fault, and as the same bytes every time. -/
def Writes (h : Hooks R σ) (c : Content) (data : List UInt8) : Prop :=
  (writeContent h c).Yields data

theorem Writes.gzip (hc : Writes h c data) : Writes h (.gzip c) (h.compress data) :=
  Run.Yields.bind hc (Run.yields_pure _)

/-- A logging layer writes what the content inside it writes. -/
theorem Writes.logging (hc : Writes h c data) (hlegible : Legible h.decode c.mediaType)
    (hlimit : limit.int? = some n) : Writes h (.logging c limit) data := by
  obtain ⟨line, hline⟩ := excerptLine_legible hlegible hlimit data
  refine Run.Yields.bind hc ?_
  rw [hline, Run.lift_ok, Run.pure_bind]
  cases line with
  | none => exact Run.yields_pure data
  | some text => exact Run.Yields.bind (Run.yields_log _ _ _) (Run.yields_pure data)

/-- A content that is read again in full for every attempt: bytes, or a body of the caller's
    that is the same every time, in layers of any kind and number. -/
inductive Rereadable (h : Hooks R σ) : Content → Prop where
  | bytes (mediaType : Option String) (data : List UInt8) : Rereadable h (.bytes mediaType data)
  | source {s : Source} {data : List UInt8} (reads : (h.writeSource s.id).Yields data) :
      Rereadable h (.source s)
  | gzip {inner : Content} (reads : Rereadable h inner) : Rereadable h (.gzip inner)
  | logging {inner : Content} {limit : Number Float} {n : Int} (reads : Rereadable h inner)
      (whole : limit.int? = some n) : Rereadable h (.logging inner limit)

/-- The layers hand the media type on, so all of them can decode what they show.  What is
    declared to be compressed has been compressed. -/
theorem Rereadable.writes (hc : Rereadable h c) (hlegible : Legible h.decode c.mediaType) :
    ∃ data, Writes h c data ∧ (c.coding = some "gzip" → ∃ inner, data = h.compress inner) := by
  induction hc with
  | bytes mediaType data => exact ⟨data, Run.yields_pure data, nofun⟩
  | source reads => exact ⟨_, reads, nofun⟩
  | gzip reads ih =>
    obtain ⟨data, hdata, -⟩ := ih hlegible
    exact ⟨_, hdata.gzip, fun _ => ⟨data, rfl⟩⟩
  | logging reads whole ih =>
    obtain ⟨data, hdata, hpacked⟩ := ih hlegible
    exact ⟨data, hdata.logging hlegible whole, hpacked⟩

/-! ## Section 2: Staging -/

/-- What a receiver reads that trusts the declared coding: the bytes, decompressed once if they
    are declared to be compressed. -/
def payload (gunzip : List UInt8 → List UInt8) (c : Content) (data : List UInt8) : List UInt8 :=
  if c.coding = some "gzip" then gunzip data else data

/-- The declared length is that of the bytes that are written, or unknown. -/
def Measured (c : Content) (data : List UInt8) : Prop := c.length = -1 ∨ c.length = data.length

/-- What is staged for a content, of which `data` are the bytes. -/
structure Conveys (h : Hooks R σ) (gunzip : List UInt8 → List UInt8) (compress : Bool)
    (c : Content) (data : List UInt8) (staged : Content) (written : List UInt8) : Prop where
  writes : Writes h staged written
  same : ¬ (compress = true ∧ c.coding = some "gzip") →
    payload gunzip staged written = payload gunzip c data
  /-- What is compressed already is compressed once more, but declared as before. -/
  repacked : compress = true ∧ c.coding = some "gzip" →
    payload gunzip staged written = h.compress (payload gunzip c data)
  mediaType : staged.mediaType = c.mediaType
  measured : Measured c data → Measured staged written

section layers

variable {gunzip : List UInt8 → List UInt8} {staged : Content}

theorem Conveys.refl (gunzip : List UInt8 → List UInt8) (hc : Writes h c data) :
    Conveys h gunzip false c data c data where
  writes := hc
  same _ := rfl
  repacked hboth := absurd hboth.1 Bool.false_ne_true
  mediaType := rfl
  measured := id

theorem Conveys.logging (hs : Conveys h gunzip false c data staged data)
    (hlegible : Legible h.decode c.mediaType) (hlimit : limit.int? = some n) :
    Conveys h gunzip false c data (.logging staged limit) data where
  writes := hs.writes.logging (by rwa [hs.mediaType]) hlimit
  same := hs.same
  repacked hboth := absurd hboth.1 Bool.false_ne_true
  mediaType := hs.mediaType
  measured := hs.measured

/-- The compressing layer stands outermost, and hides the coding of what is inside. -/
theorem Conveys.gzip (hgunzip : ∀ data, gunzip (h.compress data) = data)
    (hpacked : c.coding = some "gzip" → ∃ inner, data = h.compress inner)
    (hs : Conveys h gunzip false c data staged data) :
    Conveys h gunzip true c data (.gzip staged) (h.compress data) where
  writes := hs.writes.gzip
  same hnot := by
    have hplain : c.coding ≠ some "gzip" := fun hcoding => hnot ⟨rfl, hcoding⟩
    show gunzip (h.compress data) = payload gunzip c data
    rw [hgunzip, payload, if_neg hplain]
  repacked hboth := by
    obtain ⟨inner, rfl⟩ := hpacked hboth.2
    show gunzip (h.compress (h.compress inner)) = h.compress (payload gunzip c (h.compress inner))
    rw [hgunzip, payload, if_pos hboth.2, hgunzip]
  mediaType := hs.mediaType
  measured _ := .inl rfl

/-- Whatever is logged and compressed, the staged content conveys that of the request. -/
theorem conveys_stagedContent (hgunzip : ∀ data, gunzip (h.compress data) = data) {r : Request}
    (hr : r.content = some c) (hc : Writes h c data)
    (hpacked : c.coding = some "gzip" → ∃ inner, data = h.compress inner)
    (hlegible : Legible h.decode c.mediaType) (hlimit : r.loggingLimit.int? = some n)
    (debug : Bool) :
    ∃ staged written, stagedContent debug r = some staged ∧
      Conveys h gunzip r.compress.isSet c data staged written := by
  have hlogged : ∃ logged, (if r.logging.isSet && debug then .logging c r.loggingLimit else c)
      = logged ∧ Conveys h gunzip false c data logged data := by
    have hplain := Conveys.refl gunzip hc
    cases r.logging.isSet && debug with
    | false => exact ⟨c, rfl, hplain⟩
    | true => exact ⟨_, rfl, hplain.logging hlegible hlimit⟩
  obtain ⟨logged, hlayer, hconveys⟩ := hlogged
  rw [stagedContent, hr, Option.map_some]
  simp only [hlayer]
  cases r.compress.isSet with
  | false => exact ⟨logged, data, rfl, hconveys⟩
  | true => exact ⟨.gzip logged, h.compress data, rfl, hconveys.gzip hgunzip hpacked⟩

end layers

/-! ## Section 3: Attempts -/

section runs

variable [Arith R] {cancellable : Bool} {callbacks : Slot Callbacks} {start : R} {k : Nat}

/-- The attempt was answered with 303, and the redirect was accepted. -/
def Turn.SeesOther (t : Turn R σ) : Prop :=
  t.Moved ∧ ∃ response, t.answer = .ok response ∧ response.status = Status.seeOther

/-- An attempt leaves the content to the next one, or gives it up. -/
theorem Attempted.content (hk : h.Keep fun r => r.content) {r : Request} {s : σ} {t : Turn R σ}
    {ending : Option Ending} {o : Outcome (Event R) σ (Option Response)}
    (ha : Attempted h cancellable callbacks start k r s (some t) ending o) :
    o.request.content = r.content ∨ o.request.content = none ∧ t.SeesOther := by
  obtain ⟨hmoved, hstay⟩ := ha.moves hk fun _ _ => rfl
  by_cases hmove : t.Moved
  · obtain ⟨response, r', target, answer, hr', hleft⟩ := hmoved hmove
    have hcontent : o.request.content =
        if r'.losesContent response.status then none else r'.content := hleft
    by_cases hloses : r'.losesContent response.status = true
    · right
      have hstatus : response.status = Status.seeOther ∧ r'.method = "POST" := by
        simpa [Request.losesContent] using hloses
      rw [if_pos hloses] at hcontent
      exact ⟨hcontent, hmove, response, answer, hstatus.1⟩
    · left
      rw [hcontent, if_neg hloses]
      exact hr'
  · exact .inl (hstay hmove)

theorem Course.content (hk : h.Keep fun r => r.content) {r : Request} {s : σ}
    {turns : List (Turn R σ)} {ending : Option Ending}
    {o : Outcome (Event R) σ (Option Response)}
    (hc : Course h cancellable callbacks start k r s turns ending o)
    {before after : List (Turn R σ)} {t : Turn R σ} (hturns : turns = before ++ t :: after) :
    t.opened.content = r.content ∨
      t.opened.content = none ∧ ∃ u ∈ before, u.SeesOther := by
  induction hc generalizing before with
  | cut => exact absurd hturns.symm (by simp)
  | @last k r s turn ending o attempt =>
    have hturn : turn = some t := by
      have hmem : t ∈ turn.toList := by simp [hturns]
      simpa using hmem
    subst hturn
    exact .inl (by rw [attempt.opens.2.1])
  | @again k r r' s s' first e turns ending o attempt rest ih =>
    cases before with
    | nil =>
      cases hturns
      exact .inl (by rw [attempt.opens.2.1])
    | cons u before =>
      obtain ⟨rfl, hrest⟩ := List.cons.inj hturns
      -- what the first attempt has given up, no later one gets back
      have hfirst := attempt.content hk
      rcases ih hrest with hsame | ⟨hnone, v, hv, hother⟩
      · rw [hsame]
        exact hfirst.imp_right fun ⟨hnone, hother⟩ => ⟨hnone, first, List.mem_cons_self, hother⟩
      · exact .inr ⟨hnone, v, List.mem_cons_of_mem _ hv, hother⟩

theorem Executed.content (hk : h.Keep fun r => r.content) {r : Request} {s : σ}
    {turns : List (Turn R σ)} {ending : Option Ending}
    {o : Outcome (Event R) σ (Option Response)}
    (he : Executed h cancellable r s turns ending o)
    {before after : List (Turn R σ)} {t : Turn R σ} (hturns : turns = before ++ t :: after) :
    t.opened.content = r.content ∨
      t.opened.content = none ∧ ∃ u ∈ before, u.SeesOther := by
  cases he with
  | refused | unreset => exact absurd hturns.symm (by simp)
  | @run r' s' e turns ending o method reset course =>
    have hreset : r'.content = r.content := (preserves_resetPolicy (hk _)).left reset rfl
    rw [← hreset]
    exact course.content hk hturns

/-- Only a `POST` gives up its content: with another method it stays through every redirect. -/
theorem Executed.content_kept (hk : h.Keep fun r => (r.method, r.content)) {r : Request}
    (hr : r.method ≠ "POST") {s : σ} {turns : List (Turn R σ)} {ending : Option Ending}
    {o : Outcome (Event R) σ (Option Response)}
    (he : Executed h cancellable r s turns ending o) {t : Turn R σ} (ht : t ∈ turns) :
    t.opened.content = r.content := by
  have hmoved : ∀ (q : Request) (status : Int) (target : String),
      (q.method, q.content) = (r.method, r.content) →
      ((q.redirected status target).method, (q.redirected status target).content) =
        (r.method, r.content) := by
    intro q status target hq
    obtain ⟨hmethod, hcontent⟩ := Prod.mk.inj hq
    have hkeeps : q.losesContent status = false := by
      simp [Request.losesContent, hmethod, hr]
    simp [Request.redirected, hkeeps, hmethod, hcontent]
  obtain ⟨-, hturns⟩ := he.preserved (hk _) hmoved (fun _ _ hq => hq) rfl
  exact (Prod.mk.inj (hturns t ht).1).2

/-! ## Section 4: Runs -/

/-- In every run an attempt stages the content that its request has at that moment, and a
    receiver that trusts the declared coding reads the payload of that content, unless it is
    compressed already and the request asks for compression.  With surroundings that keep the
    content, every attempt begins with the content of the request, or with none after a 303. -/
theorem execute_conveys_content (h : Hooks R σ) (gunzip : List UInt8 → List UInt8)
    (hgunzip : ∀ data, gunzip (h.compress data) = data) (cancellable : Bool) (limit : Nat)
    (r : Request) (s : σ) :
    ∃ turns ending, Executed h cancellable r s turns ending (execute h cancellable limit r s) ∧
      sent (execute h cancellable limit r s).events = turns.map Turn.staged ∧
      (∀ t ∈ turns, t.opened.content = none → t.staged.content = none) ∧
      (∀ t ∈ turns, ∀ c, t.opened.content = some c → Rereadable h c →
        Legible h.decode c.mediaType → t.opened.loggingLimit.int?.isSome = true →
        ∃ data staged written, Writes h c data ∧ t.staged.content = some staged ∧
          Conveys h gunzip t.opened.compress.isSet c data staged written ∧
          (h.readsBody = true → (readBody h t.staged).Yields written)) ∧
      ((h.Keep fun r => r.content) → ∀ before t after, turns = before ++ t :: after →
        t.opened.content = r.content ∨
          t.opened.content = none ∧ ∃ u ∈ before, u.SeesOther) := by
  obtain ⟨turns, ending, hexecuted, -⟩ := executed h cancellable limit r s
  have hstaged : ∀ t ∈ turns, t.staged.content = stagedContent h.debug t.opened := by
    intro t ht
    rw [hexecuted.staged_of_mem ht]
    rfl
  refine ⟨turns, ending, hexecuted, hexecuted.sent_eq, ?_, ?_,
    fun hk before t after hturns => hexecuted.content hk hturns⟩
  · intro t ht hnone
    rw [hstaged t ht, stagedContent, hnone]
    rfl
  · intro t ht c hc hreads hlegible hlimit
    obtain ⟨n, hn⟩ := Option.isSome_iff_exists.mp hlimit
    obtain ⟨data, hdata, hpacked⟩ := hreads.writes hlegible
    obtain ⟨staged, written, hcontent, hconveys⟩ :=
      conveys_stagedContent hgunzip hc hdata hpacked hlegible hn h.debug
    rw [← hstaged t ht] at hcontent
    refine ⟨data, staged, written, hdata, hcontent, hconveys, fun hbody => ?_⟩
    unfold readBody
    rw [hbody, hcontent]
    exact hconveys.writes

/-- A compressed content is sent with `PUT`, answered with 303 and sent again.  Where the
    request does not ask for compression, a receiver reads what was compressed; where it does,
    the receiver reads what is still compressed. -/
theorem execute_conveys_content_compressed :
    let h : Hooks Rat Nat := Playback.reading ⟨fun
        | 0 => .ok ⟨303, "", [("Location", "http://b/")], []⟩
        | _ => .ok ⟨200, "", [], []⟩,
      fun _ _ => false, fun _ _ => false, fun _ => .whole 0⟩ false
    let c : Content := .gzip (.bytes (some "text/plain") [104, 105])
    let r (compress : Bool) : Request :=
      { Request.make "PUT" (.text "http://a/") (some c) Headers.empty with
        compress := .bool compress }
    (∀ data, Gzip.restore (h.compress data) = data) ∧ Rereadable h c ∧
      Legible h.decode c.mediaType ∧ Writes h c (h.compress [104, 105]) ∧
      payload Gzip.restore c (h.compress [104, 105]) = [104, 105] ∧
      ∀ compress, (sent (execute h false 11 (r compress) 0).events).length = 2 ∧
        ∃ turns ending,
          Executed h false (r compress) 0 turns ending (execute h false 11 (r compress) 0) ∧
          ∀ t ∈ turns, ∃ data staged written, Writes h c data ∧ t.staged.content = some staged ∧
            Writes h staged written ∧
            payload Gzip.restore staged written =
              if compress then h.compress (payload Gzip.restore c data)
              else payload Gzip.restore c data := by
  intro h c r
  have hgunzip : ∀ data, Gzip.restore (h.compress data) = data := Gzip.restore_encode
  have hreads : Rereadable h c := .gzip (.bytes _ _)
  have hmeaning : Charset.meaning? (MediaType.charset c.mediaType MediaType.defaultCharset)
      = some (.charset .utf8) := by decide +kernel
  have hlegible : Legible h.decode c.mediaType :=
    legible_of_meaning (by decide +kernel) hmeaning
  have hwrites : Writes h c (h.compress [104, 105]) :=
    Writes.gzip (c := .bytes (some "text/plain") [104, 105]) (Run.yields_pure _)
  refine ⟨hgunzip, hreads, hlegible, hwrites, hgunzip _, fun compress => ⟨?_, ?_⟩⟩
  · cases compress <;> decide +kernel
  · obtain ⟨turns, ending, hexecuted, -, -, hconveys, -⟩ :=
      execute_conveys_content h Gzip.restore hgunzip false 11 (r compress) 0
    refine ⟨turns, ending, hexecuted, fun t ht => ?_⟩
    have hmethod : (r compress).method ≠ "POST" := by
      show Text.upper "PUT" ≠ "POST"
      decide +kernel
    have hcontent : t.opened.content = some c :=
      hexecuted.content_kept (Playback.keep_reading _ _) hmethod ht
    have hsettings : (t.opened.loggingLimit, t.opened.compress) =
        ((r compress).loggingLimit, .bool compress) :=
      hexecuted.kept (φ := fun q => (q.loggingLimit, q.compress)) (Playback.keep_reading _ _)
        (fun _ _ _ => rfl) (fun _ _ => rfl) ht
    obtain ⟨hlimit, hcompress⟩ := Prod.mk.inj hsettings
    obtain ⟨data, staged, written, hdata, hstaged, hread, -⟩ :=
      hconveys t ht c hcontent hreads hlegible (by rw [hlimit]; rfl)
    refine ⟨data, staged, written, hdata, hstaged, hread.writes, ?_⟩
    rw [hcompress] at hread
    cases compress with
    | false => exact hread.same fun hboth => Bool.false_ne_true hboth.1
    | true => exact hread.repacked ⟨rfl, rfl⟩

end runs

end Engine

end Redial
