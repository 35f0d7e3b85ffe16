import Redial.Client.Message
import Redial.Proofs.Url.Joining
import Redial.Proofs.Url.Rereading

/-! # Relative locations stay with the origin

    A relative location is read, written, joined to the current URL as a reference, and
    the result is read and written again.  Whatever stands in the location, it is read as
    path, query and fragment, whose unsafe characters are encoded.  Joining puts them
    behind the authority of the current URL, as it is written (`Reference.resolve_relative`).
    So the result is a clean URL with another path, and reading such a URL keeps its
    origin, `Clean.reread`. -/

namespace Redial

open Url (Clean Kept Schemeless Stops authorityEnds pathSafe querySafe fragmentSafe)

namespace Reference

/-! ## Section 1: Safe references -/

/-- A reference whose parts need no encoding. -/
structure Safe (r : Reference) : Prop where
  path : ∀ c ∈ r.path, pathSafe c = true
  params : ∀ c ∈ r.params, pathSafe c = true
  query : ∀ c ∈ r.query, querySafe c = true
  fragment : ∀ c ∈ r.fragment, fragmentSafe c = true

theorem cut_marked {mark : Char} {before : List Char} (hbefore : mark ∉ before)
    (part : Option (List Char)) :
    Text.cut mark (before ++ Url.marked mark part) = (before, part) := by
  cases part with
  | none => rw [Url.marked, List.append_nil, Text.cut_of_not_mem hbefore]
  | some part => exact Text.cut_append hbefore part

/-- A path is split into what it is made of. -/
theorem mem_splitParams {c : Char} {path : List Char}
    (hc : c ∈ (splitParams path).1 ∨ c ∈ (splitParams path).2) : c ∈ path := by
  have hcut : ∀ last segment params, Text.cut ';' last = (segment, some params) →
      (∀ c ∈ segment, c ∈ last) ∧ ∀ c ∈ params, c ∈ last := by
    intro last segment params hcut
    rcases Text.cut_cases ';' last with ⟨-, hnone⟩ | ⟨before, after, rfl, -, hsome⟩
    · rw [hnone] at hcut
      cases hcut
    · rw [hsome] at hcut
      cases hcut
      exact ⟨fun c hc => List.mem_append_left _ hc,
        fun c hc => List.mem_append_right _ (List.mem_cons_of_mem ';' hc)⟩
  unfold splitParams at hc
  rcases Text.cutLast_cases '/' path with ⟨-, hlast⟩ | ⟨before, last, rfl, -, hlast⟩
  · rw [hlast] at hc
    dsimp only at hc
    split at hc
    · next segment params heq =>
      obtain ⟨hsegment, hparams⟩ := hcut _ _ _ heq
      exact hc.elim (hsegment c) (hparams c)
    · exact hc.elim id (fun hnil => absurd hnil List.not_mem_nil)
  · rw [hlast] at hc
    dsimp only at hc
    split at hc
    · next segment params heq =>
      obtain ⟨hsegment, hparams⟩ := hcut _ _ _ heq
      simp only [List.mem_append, List.mem_cons] at hc ⊢
      rcases hc with (hbefore | hslash | hfirst) | hrest
      · exact .inl hbefore
      · exact .inr (.inl hslash)
      · exact .inr (.inr (hsegment c hfirst))
      · exact .inr (.inr (hparams c hrest))
    · exact hc.elim id (fun hnil => absurd hnil List.not_mem_nil)

/-- What is written behind the authority of a clean URL is split into safe parts. -/
theorem safe_ofChars {inherited cs : List Char} {w : Url} (hw : Clean w)
    (hcs : (Url.splitAuthority (splitScheme inherited cs).2).2 = w.afterAuthority) :
    (ofChars inherited cs).Safe := by
  -- the first mark of each kind is the one that was written, since safe parts have none
  have hhash : '#' ∉ w.path ++ Url.marked '?' w.query := by
    intro hmem
    rcases List.mem_append.mp hmem with hpath | hquery
    · exact absurd (hw.path '#' hpath) (by decide)
    · cases hq : w.query with
      | none =>
        rw [hq] at hquery
        exact absurd hquery List.not_mem_nil
      | some q =>
        rw [hq] at hquery
        rcases List.mem_cons.mp hquery with hmark | hrest
        · exact absurd hmark (by decide)
        · exact absurd (hw.query q hq '#' hrest) (by decide)
  have hquestion : '?' ∉ w.path := fun hmem => absurd (hw.path '?' hmem) (by decide)
  have hfirst : Text.cut '#' w.afterAuthority = (w.path ++ Url.marked '?' w.query, w.fragment) := by
    unfold Url.afterAuthority
    rw [← List.append_assoc]
    exact cut_marked hhash w.fragment
  have hsecond := cut_marked hquestion w.query
  have hsplit : ofChars inherited cs = ⟨(splitScheme inherited cs).1,
      (Url.splitAuthority (splitScheme inherited cs).2).1,
      (if hasParams (splitScheme inherited cs).1 then splitParams w.path else (w.path, [])).1,
      (if hasParams (splitScheme inherited cs).1 then splitParams w.path else (w.path, [])).2,
      w.query.getD [], w.fragment.getD []⟩ := by
    unfold ofChars
    dsimp only
    rw [hcs, hfirst]
    dsimp only
    rw [hsecond]
  have hparams : ∀ c, c ∈ (ofChars inherited cs).path ∨ c ∈ (ofChars inherited cs).params →
      pathSafe c = true := by
    intro c hc
    apply hw.path
    rw [hsplit] at hc
    dsimp only at hc
    split at hc
    · exact mem_splitParams hc
    · exact hc.elim id (fun hnil => absurd hnil List.not_mem_nil)
  refine ⟨fun c hc => hparams c (.inl hc), fun c hc => hparams c (.inr hc), ?_, ?_⟩
  · rw [hsplit]
    cases hq : w.query with
    | none => exact nofun
    | some q => exact hw.query q hq
  · rw [hsplit]
    cases hf : w.fragment with
    | none => exact nofun
    | some f => exact hw.fragment f hf

theorem mem_takeSegment (stack : List (List Char)) (segment : List Char) :
    ∀ p ∈ takeSegment stack segment, p = segment ∨ p ∈ stack := by
  intro p hp
  unfold takeSegment at hp
  by_cases hup : segment = ['.', '.']
  · rw [if_pos hup] at hp
    exact .inr (List.mem_of_mem_drop hp)
  · rw [if_neg hup] at hp
    by_cases hhere : segment = ['.']
    · rw [if_pos hhere] at hp
      exact .inr hp
    · rw [if_neg hhere] at hp
      exact List.mem_cons.mp hp

theorem mem_dropInnerEmpty {p : List Char} {segments : List (List Char)}
    (hp : p ∈ dropInnerEmpty segments) : p ∈ segments := by
  unfold dropInnerEmpty at hp
  simp only [List.mem_append, List.mem_filter, Option.mem_toList] at hp
  rcases hp with (hfirst | ⟨hinner, -⟩) | hlast
  · exact List.mem_of_mem_take hfirst
  · exact List.mem_of_mem_drop (List.dropLast_subset _ hinner)
  · exact List.mem_of_mem_drop (List.mem_of_getLast? hlast)

theorem mem_baseSegments {p path : List Char} (hp : p ∈ baseSegments path) :
    p ∈ Text.pieces '/' path := by
  unfold baseSegments at hp
  dsimp only at hp
  split at hp
  · exact hp
  · exact List.dropLast_subset _ hp

/-- Merged paths are made of the characters of both. -/
theorem safe_mergePaths {base path : List Char} (hb : ∀ c ∈ base, pathSafe c = true)
    (hp : ∀ c ∈ path, pathSafe c = true) : ∀ c ∈ mergePaths base path, pathSafe c = true := by
  unfold mergePaths
  dsimp only
  generalize hsegments : (if path.head? = some '/' then Text.pieces '/' path
    else dropInnerEmpty (baseSegments base ++ Text.pieces '/' path)) = segments
  have hpiece : ∀ p ∈ segments, ∀ c ∈ p, pathSafe c = true := by
    intro p hmem c hc
    rw [← hsegments] at hmem
    split at hmem
    · exact hp c (Url.mem_of_mem_pieces hmem hc)
    · rcases List.mem_append.mp (mem_dropInnerEmpty hmem) with hbase | hown
      · exact hb c (Url.mem_of_mem_pieces (mem_baseSegments hbase) hc)
      · exact hp c (Url.mem_of_mem_pieces hown hc)
  have hkept : ∀ p ∈ segments.foldl takeSegment [], ∀ c ∈ p, pathSafe c = true := by
    intro p hmem
    rcases Url.mem_foldl_take mem_takeSegment hmem with hnone | hsegment
    · exact absurd hnone List.not_mem_nil
    · exact hpiece p hsegment
  generalize hstack : (if segments.getLast? = some ['.'] || segments.getLast? = some ['.', '.'] then
    [] :: segments.foldl takeSegment [] else segments.foldl takeSegment []) = stack
  have hended : ∀ p ∈ stack, ∀ c ∈ p, pathSafe c = true := by
    rw [← hstack]
    split
    · exact List.forall_mem_cons.mpr ⟨fun c hc => absurd hc List.not_mem_nil, hkept⟩
    · exact hkept
  intro c hc
  split at hc
  · rw [List.mem_singleton.mp hc]
    decide
  · rcases Url.mem_join hc with rfl | ⟨p, hmem, hcp⟩
    · decide
    · exact hended p (List.mem_reverse.mp hmem) c hcp

theorem Safe.resolveIn {b r : Reference} (hb : b.Safe) (hr : r.Safe) : (resolveIn b r).Safe := by
  unfold Reference.resolveIn
  split
  · refine ⟨hb.path, hb.params, ?_, hr.fragment⟩
    dsimp only
    split
    · exact hb.query
    · exact hr.query
  · exact ⟨safe_mergePaths hb.path hr.path, hr.params, hr.query, hr.fragment⟩

/-! ## Section 2: References under an authority -/

/-- A part that is absent if it is empty. -/
def part (cs : List Char) : Option (List Char) := if cs.isEmpty then none else some cs

/-- The URL with the path, the query and the fragment of a reference. -/
def under (r : Reference) (u : Url) : Url :=
  { u with path := r.rootedPath, query := part r.query, fragment := part r.fragment }

theorem of_part {cs p : List Char} (hp : part cs = some p) : p = cs := by
  unfold part at hp
  split at hp
  · cases hp
  · exact (Option.some.inj hp).symm

theorem marked_part (mark : Char) (cs : List Char) : Url.marked mark (part cs) = marked mark cs := by
  unfold part marked
  split <;> rfl

variable {u : Url}

theorem Safe.rootedPath {r : Reference} (hr : r.Safe) : ∀ c ∈ r.rootedPath, pathSafe c = true := by
  have hpath : ∀ c ∈ r.pathAndParams, pathSafe c = true := by
    intro c hc
    unfold pathAndParams marked at hc
    rcases List.mem_append.mp hc with hfirst | hrest
    · exact hr.path c hfirst
    · split at hrest
      · exact absurd hrest List.not_mem_nil
      · rcases List.mem_cons.mp hrest with rfl | hparam
        · decide
        · exact hr.params c hparam
  unfold Reference.rootedPath
  split
  · exact List.forall_mem_cons.mpr ⟨by decide, hpath⟩
  · exact hpath

/-- A safe reference under a clean URL gives a clean URL, and keeps its origin. -/
theorem Safe.clean_under {r : Reference} (hr : r.Safe) (hu : Clean u)
    (habsolute : u.isAbsolute = true) : Clean (r.under u) where
  scheme := hu.scheme
  userinfo := hu.userinfo
  host := hu.host
  path := hr.rootedPath
  rooted := fun _ => r.stops_rootedPath
  colonless := fun hscheme _ => absurd hscheme (Url.isAbsolute_eq_true.mp habsolute).1
  settled := hu.settled
  port := hu.port
  query := by
    intro q hq
    rw [of_part hq]
    exact hr.query
  fragment := by
    intro f hf
    rw [of_part hf]
    exact hr.fragment

theorem chars_under {r : Reference} (habsolute : u.isAbsolute = true)
    (hscheme : r.scheme = u.scheme) (hauthority : r.authority = u.authority) :
    r.chars = (r.under u).chars := by
  have hwritten : r.authority ≠ [] := hauthority ▸ Url.authority_ne_nil habsolute
  have hnamed : (r.under u).authority ≠ [] := Url.authority_ne_nil habsolute
  obtain ⟨hs, -⟩ := Url.isAbsolute_eq_true.mp habsolute
  rw [chars_eq (hscheme ▸ hs) hwritten, Url.chars_of_ne (u := r.under u) hs,
    Url.afterScheme_of_ne hnamed]
  unfold Url.afterAuthority
  show r.scheme ++ ':' :: '/' :: '/' :: (r.authority ++ (r.rootedPath ++
      (marked '?' r.query ++ marked '#' r.fragment)))
    = u.scheme ++ ':' :: '/' :: '/' :: (u.authority ++ (r.rootedPath ++
      (Url.marked '?' (part r.query) ++ Url.marked '#' (part r.fragment))))
  rw [marked_part, marked_part, hscheme, hauthority]

/-- A written location without scheme and authority is joined to an absolute URL with a
    hierarchical scheme: the result is written from the parts of that URL, with another
    path, query and fragment. -/
theorem resolve_relative (hu : Clean u) (habsolute : u.isAbsolute = true)
    (hhierarchical : isHierarchical u.scheme = true) {l : Url} (hl : Clean l)
    (hschemeless : Schemeless l.chars) (hslashes : Url.startsWith ['/', '/'] l.chars = false)
    (hwritten : l.chars = l.afterAuthority) {joined : List Char}
    (hj : resolve u.chars l.chars = .ok joined) :
    ∃ w, Clean w ∧ Kept u w ∧ joined = w.chars := by
  obtain ⟨hscheme, -⟩ := Url.isAbsolute_eq_true.mp habsolute
  obtain ⟨hs, hlower⟩ := hu.scheme.resolve_left hscheme
  have hself : Kept u u := ⟨rfl, rfl, .inl rfl, .inl rfl⟩
  have hnonempty : u.chars ≠ [] := by
    rw [Url.chars_of_ne hscheme]
    exact List.append_ne_nil_of_right_ne_nil _ (List.cons_ne_nil _ _)
  rcases resolve_cases hnonempty hj with ⟨-, rfl⟩ | ⟨-, rfl⟩
  · exact ⟨u, hu, hself, rfl⟩
  -- both texts are split as references, into safe parts
  obtain ⟨hbase, hbaseAuthority⟩ := hu.toWellMade.ofChars_chars habsolute
  have hbaseSafe : (ofChars [] u.chars).Safe := by
    apply safe_ofChars hu
    rw [Url.chars_of_ne hscheme, splitScheme_append [] hs,
      hu.toWellMade.splitAuthority_afterScheme (Url.authority_ne_nil habsolute)]
  have hsplit : Url.splitAuthority l.chars = ([], l.chars) := by
    rcases Url.splitAuthority_cases l.chars with ⟨authority, rest, heq, -, -, -⟩ | ⟨-, hsplit⟩
    · rw [heq] at hslashes
      exact absurd hslashes (by simp [Url.startsWith])
    · exact hsplit
  have hown := splitScheme_schemeless u.scheme hschemeless
  have hlocation : (ofChars u.scheme l.chars).Safe ∧
      (ofChars u.scheme l.chars).scheme = u.scheme ∧
      (ofChars u.scheme l.chars).authority = [] := by
    refine ⟨safe_ofChars hl ?_, ?_, ?_⟩
    · rw [hown, hsplit]
      exact hwritten
    · rw [ofChars_scheme, hown]
    · rw [ofChars_authority, hown, hsplit]
  rw [hbase]
  generalize ofChars [] u.chars = b at hbase hbaseAuthority hbaseSafe ⊢
  generalize ofChars u.scheme l.chars = r at hlocation ⊢
  obtain ⟨hsafe, hinherited, hbare⟩ := hlocation
  have hresolved : resolveParts b r l.chars
      = (resolveIn b { r with authority := b.authority }).chars := by
    rw [resolveParts_eq l.chars (hinherited.trans hbase.symm) (hinherited ▸ hhierarchical),
      if_pos hbare]
  have hjoinedSafe : (resolveIn b { r with authority := b.authority }).Safe :=
    hbaseSafe.resolveIn ⟨hsafe.path, hsafe.params, hsafe.query, hsafe.fragment⟩
  refine ⟨(resolveIn b { r with authority := b.authority }).under u,
    hjoinedSafe.clean_under hu habsolute, ⟨rfl, rfl, .inl rfl, .inl rfl⟩, ?_⟩
  rw [hresolved]
  apply chars_under habsolute
  · rw [resolveIn_scheme]
    exact hinherited
  · rw [resolveIn_authority]
    exact hbaseAuthority

end Reference

namespace Url

/-! ## Section 3: Relative locations -/

/-- A text with neither two slashes in front nor a colon in its first segment. -/
def IsRelative (cs : List Char) : Prop :=
  startsWith ['/', '/'] cs = false ∧ ':' ∉ (spanUntil authorityEnds cs).1

instance (cs : List Char) : Decidable (IsRelative cs) := inferInstanceAs (Decidable (_ ∧ _))

/-- What stands before the first mark is split off with the text that follows it. -/
theorem mem_spanUntil {marks before rest : List Char} (hbefore : ∀ c ∈ before, c ∉ marks)
    {c : Char} (hc : c ∈ before) : c ∈ (spanUntil marks (before ++ rest)).1 := by
  obtain ⟨part, after, rfl, hpart, hafter, -⟩ := spanUntil_cases marks rest
  have hwhole : ∀ d ∈ before ++ part, d ∉ marks := fun d hd =>
    (List.mem_append.mp hd).elim (hbefore d) (hpart d)
  rw [← List.append_assoc, spanUntil_append hwhole hafter]
  exact List.mem_append_left part hc

theorem IsRelative.schemeless {cs : List Char} (hcs : IsRelative cs) : Schemeless cs := by
  obtain ⟨-, hcolon⟩ := hcs
  constructor
  · intro hhead
    obtain ⟨rest, rfl⟩ := List.head?_eq_some_iff.mp hhead
    have hfree : ∀ c ∈ [':'], c ∉ authorityEnds := by simp [authorityEnds]
    exact hcolon (mem_spanUntil hfree (List.mem_singleton_self ':'))
  · intro s rest hs heq
    have hfree : ∀ c ∈ s ++ [':'], c ∉ authorityEnds := by
      intro c hc
      rcases List.mem_append.mp hc with hscheme | hmark
      · exact not_mem_of_safe (by decide) hs.2 c hscheme
      · rw [List.mem_singleton.mp hmark]
        decide
    apply hcolon
    rw [heq, ← List.singleton_append, ← List.append_assoc]
    exact mem_spanUntil hfree (List.mem_append_right s (List.mem_singleton_self ':'))

/-- A relative location is read as path, query and fragment. -/
theorem of_parse_relative {cs : List Char} {l : Url} (hcs : IsRelative cs)
    (hl : parse cs = .ok l) :
    l.scheme = [] ∧ l.authority = [] ∧ Schemeless l.chars ∧
      startsWith ['/', '/'] l.chars = false := by
  have hmade := made_of_parse hl
  have hschemeless := hcs.schemeless
  have hnone : (Split.ofChars cs).scheme = [] ∧ (Split.ofChars cs).authority = [] := by
    rw [ofChars_authority, ofChars_scheme, splitScheme_schemeless hschemeless]
    rcases splitAuthority_cases cs with ⟨authority, rest, heq, -, -, -⟩ | ⟨-, hsplit⟩
    · have hslashes := hcs.1
      rw [heq] at hslashes
      exact absurd hslashes (by simp [startsWith])
    · exact ⟨rfl, congrArg Prod.fst hsplit⟩
  have hscheme : l.scheme = [] := by rw [hmade.scheme, hnone.1]; rfl
  have hauthority : l.authority = [] := by
    rw [authority_eq_nil]
    have hsplit : splitHost [] = ([], [], []) := rfl
    have hhost := hmade.host
    have hport := hmade.port
    rw [hnone.2, hsplit] at hhost hport
    refine ⟨?_, (Except.ok.inj hhost).symm, (Except.ok.inj hport).symm⟩
    rw [hmade.userinfo, hnone.2, hsplit]
    rfl
  refine ⟨hscheme, hauthority, schemeless_chars hl hschemeless.1 hscheme, ?_⟩
  have hpath := hmade.path_of_nil hscheme hauthority
  -- two slashes in front would be those of the path, which is refused for them
  rw [← Bool.not_eq_true]
  intro hslashes
  obtain ⟨rest, hrest⟩ := List.isPrefixOf_iff_prefix.mp hslashes
  rw [chars_of_nil hscheme, afterScheme_of_nil hauthority] at hrest
  unfold afterAuthority at hrest
  rw [hpath] at hrest
  have hbegin := prefix_of_encode (by simp) (stops_marked l) hrest.symm
  have hchecked := hmade.checked
  have hempty : (!l.userinfo.isEmpty || !l.host.isEmpty || l.port.isSome) = false := by
    rw [← Bool.not_eq_true, hasAuthority_eq_true]
    exact not_not_intro hauthority
  rw [hempty, hscheme] at hchecked
  have hraw : startsWith ['/', '/'] (Split.ofChars cs).path = true :=
    List.isPrefixOf_iff_prefix.mpr hbegin
  simp [checkPath, hraw] at hchecked

/-- The schemes whose default ports are filled in are resolved. -/
theorem isHierarchical_of_web {scheme : List Char}
    (hs : scheme = "http".toList ∨ scheme = "https".toList) :
    Reference.isHierarchical scheme = true := by
  rcases hs with rfl | rfl <;> decide

/-- The effective port is kept: one that is dropped is the default. -/
theorem Kept.portOf {u v : Url} (hk : Kept u v)
    (hs : u.scheme = "http".toList ∨ u.scheme = "https".toList) :
    Client.portOf v = Client.portOf u := by
  have hfilled : ∀ w : Url, w.scheme = u.scheme →
      Client.portOf w = w.port.or (defaultPort? u.scheme) := by
    intro w hw
    have hweb : ["http", "https"].contains (String.ofList u.scheme) = true := by
      rcases hs with hs | hs <;> rw [hs] <;> decide
    unfold Client.portOf
    rw [hw, if_pos hweb]
  rw [hfilled v hk.scheme, hfilled u rfl]
  rcases hk.port with hsame | ⟨hnone, hdefault⟩
  · rw [hsame]
  · rw [hnone, hdefault, Option.none_or, Option.or_self]

/-- A relative location never leaves the origin.  Seen from a URL of the web with a host, it
    resolves to a URL that can be read, with the same scheme, user information and effective
    port.  The host is the same as well, except that a name with percent-escapes is
    lower-cased. -/
theorem resolveLocation_keeps_origin {current location target : String} {u : Url}
    (hu : parse current.toList = .ok u)
    (hscheme : u.scheme = "http".toList ∨ u.scheme = "https".toList) (hhost : u.host ≠ [])
    (hlocation : IsRelative location.toList)
    (hr : resolveLocation current location = .ok target) :
    ∃ v, parse target.toList = .ok v ∧ v.scheme = u.scheme ∧ v.userinfo = u.userinfo ∧
      Client.portOf v = Client.portOf u ∧
      (v.host = u.host ∨
        '%' ∈ u.host ∧ ':' ∉ u.host ∧ v.host = u.host.map Char.toLower) := by
  have hnamed : u.isAbsolute = true :=
    isAbsolute_eq_true.mpr ⟨by rcases hscheme with h | h <;> rw [h] <;> decide, hhost⟩
  obtain ⟨l, hl, ⟨habsolute, -⟩ | ⟨-, u', j, hu', hj, rfl⟩⟩ := resolveLocation_cases hr
  · obtain ⟨hnone, -⟩ := of_parse_relative hlocation hl
    exact absurd hnone (isAbsolute_eq_true.mp habsolute).1
  obtain rfl : u = u' := Except.ok.inj (hu.symm.trans hu')
  obtain ⟨hnone, hbare, hschemeless, hslashes⟩ := of_parse_relative hlocation hl
  have hwritten : l.chars = l.afterAuthority := by
    rw [chars_of_nil hnone, afterScheme_of_nil hbare]
  obtain ⟨joined, hjoined, hparse⟩ := ok_of_bind hj
  -- joined, read, and read once more: each time the origin is kept
  obtain ⟨w, hw, hkept, rfl⟩ := Reference.resolve_relative (clean_of_parse hu) hnamed
    (isHierarchical_of_web hscheme) (clean_of_parse hl) hschemeless hslashes hwritten hjoined
  obtain ⟨hread, v, hv, hagain⟩ := hw.reread (hkept.isAbsolute hnamed) hparse
  have hall : Kept u v := (hkept.trans hread).trans hagain
  refine ⟨v, ?_, hall.scheme, hall.userinfo, hall.portOf hscheme, hall.host⟩
  rw [String.toList_ofList]
  exact hv

/-- A location with an at sign behind a backslash, and a port behind two slashes, seen from
    a URL with all parts: they are read as a path. -/
theorem resolveLocation_keeps_origin_mixed :
    let current := "HTTP://me:pw@A%3Cb.Example:80/x/y;p?q#f"
    let location := "..\\@c//d:8/../e f?g"
    let target := "http://me:pw@a%3cb.example/x/..\\@c/e%20f?g"
    let u : Url := ⟨"http".toList, "me:pw".toList, "a%3cb.example".toList, some 80,
      "/x/y;p".toList, some "q".toList, some "f".toList⟩
    parse current.toList = .ok u ∧ u.host ≠ [] ∧ IsRelative location.toList ∧
      resolveLocation current location = .ok target ∧
      ∃ v, parse target.toList = .ok v ∧ v.scheme = u.scheme ∧ v.userinfo = u.userinfo ∧
        Client.portOf v = Client.portOf u ∧
        (v.host = u.host ∨
          '%' ∈ u.host ∧ ':' ∉ u.host ∧ v.host = u.host.map Char.toLower) := by
  intro current location target u
  have hu : parse current.toList = .ok u := by decide +kernel
  have hhost : u.host ≠ [] := by decide
  have hlocation : IsRelative location.toList := by decide +kernel
  have hr : resolveLocation current location = .ok target := by decide +kernel
  exact ⟨hu, hhost, hlocation, hr, resolveLocation_keeps_origin hu (.inl rfl) hhost hlocation hr⟩

/-- A host with an unsafe character is escaped in capitals when it is read, and the escape
    is lower-cased when it is read again.  So the host of the result is another text. -/
theorem resolveLocation_lowers_escapes :
    let u : Url := ⟨"http".toList, [], "a%3Cb".toList, none, "/".toList, none, none⟩
    let v : Url := ⟨"http".toList, [], "a%3cb".toList, none, "/z".toList, none, none⟩
    parse "http://a<b/".toList = .ok u ∧ IsRelative "z".toList ∧
      resolveLocation "http://a<b/" "z" = .ok "http://a%3cb/z" ∧
      parse "http://a%3cb/z".toList = .ok v ∧ v.host ≠ u.host := by
  decide +kernel

end Url

end Redial
