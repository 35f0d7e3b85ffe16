import Redial.Proofs.Url.Splitting

/-! # What a URL is written as

    A written URL is read by its marks, so a part survives the writing as far as no mark
    in it or before it is taken for another.  `WellMade` collects what reading ensures of
    the parts, and from it the scheme and the authority of a written URL are read back.

    `namesHost` says that a text has a scheme and a host, as it is split.  A text that
    is read names a host exactly if its URL is absolute, and an absolute URL is
    written as a text that names one. -/

namespace Redial

namespace Url

/-! ## Section 1: What reading ensures -/

/-- Whether a text names a scheme and a host, as it is split. -/
def namesHost (cs : List Char) : Bool :=
  !(Split.ofChars cs).scheme.isEmpty && hostNamed (Split.ofChars cs).authority

/-- The parts of a text in their order. -/
theorem ofChars_scheme (cs : List Char) : (Split.ofChars cs).scheme = (splitScheme cs).1 := rfl

theorem ofChars_authority (cs : List Char) :
    (Split.ofChars cs).authority = (splitAuthority (splitScheme cs).2).1 := rfl

theorem ofChars_path (cs : List Char) :
    (Split.ofChars cs).path
      = (spanUntil ['?', '#'] (splitAuthority (splitScheme cs).2).2).1 := rfl

/-- How the parts of a URL come from those of the text that is read. -/
structure Made (s : Split) (u : Url) : Prop where
  scheme : u.scheme = s.scheme.map Char.toLower
  userinfo : u.userinfo = encode userinfoSafe (splitHost s.authority).1
  host : normalHost (splitHost s.authority).2.1 = .ok u.host
  port : normalPort s.scheme (splitHost s.authority).2.2 = .ok u.port
  checked : checkPath (!u.scheme.isEmpty) (!u.userinfo.isEmpty || !u.host.isEmpty || u.port.isSome)
    s.path = .ok ()
  path : u.path = encode pathSafe
    (if !u.scheme.isEmpty || (!u.userinfo.isEmpty || !u.host.isEmpty || u.port.isSome) then
      removeDots s.path else s.path)
  query : u.query = s.query.map (encode querySafe)
  fragment : u.fragment = s.fragment.map (encode fragmentSafe)

theorem made_of_parse {cs : List Char} {u : Url} (hu : parse cs = .ok u) :
    Made (Split.ofChars cs) u := by
  unfold parse at hu
  split at hu
  · exact absurd hu nofun
  · split at hu
    · exact absurd hu nofun
    · unfold ofSplit assemble at hu
      obtain ⟨host, hhost, hu⟩ := ok_of_bind hu
      obtain ⟨port, hport, hu⟩ := ok_of_bind hu
      obtain ⟨_, hpath, hu⟩ := ok_of_bind hu
      cases Except.ok.inj hu
      exact ⟨rfl, rfl, hhost, hport, hpath, rfl, rfl, rfl⟩

theorem isAbsolute_eq_true {u : Url} : u.isAbsolute = true ↔ u.scheme ≠ [] ∧ u.host ≠ [] := by
  unfold isAbsolute
  rw [Bool.and_eq_true, Bool.not_eq_true', Bool.not_eq_true', List.isEmpty_eq_false_iff,
    List.isEmpty_eq_false_iff]

/-- A URL that is read is absolute exactly if its text names a scheme and a host. -/
theorem isAbsolute_eq {cs : List Char} {u : Url} (hu : parse cs = .ok u) :
    u.isAbsolute = namesHost cs := by
  have hmade := made_of_parse hu
  have hscheme : u.scheme.isEmpty = (Split.ofChars cs).scheme.isEmpty := by
    rw [hmade.scheme]
    simp
  have hhost : u.host.isEmpty = (splitHost (Split.ofChars cs).authority).2.1.isEmpty := by
    rw [Bool.eq_iff_iff, List.isEmpty_iff, List.isEmpty_iff]
    exact (of_normalHost hmade.host).1
  unfold isAbsolute namesHost hostNamed
  rw [hscheme, hhost]

/-- What reading ensures of the parts of a URL. -/
structure WellMade (u : Url) : Prop where
  scheme : u.scheme = [] ∨ IsScheme u.scheme ∧ u.scheme.map Char.toLower = u.scheme
  userinfo : ∀ c ∈ u.userinfo, userinfoSafe c = true
  host : Undivided u.host
  path : ∀ c ∈ u.path, pathSafe c = true
  /-- After an authority a path is empty or begins with a slash. -/
  rooted : u.authority ≠ [] → Stops ['/'] u.path
  /-- Without scheme and authority a path does not begin with a colon. -/
  colonless : u.scheme = [] → u.authority = [] → u.path.head? ≠ some ':'

/-- Going up from a rooted path stays at the root. -/
theorem takeSegment_rooted {stack : List (List Char)} (hs : stack.getLast? = some [])
    (segment : List Char) : (takeSegment stack segment).getLast? = some [] := by
  unfold takeSegment
  split
  · exact hs
  · split
    · split
      · exact hs
      · next hbottom =>
        match stack, hs with
        | [s], hs =>
          obtain rfl : s = [] := by simpa using hs
          exact absurd (by simp) hbottom
        | s :: s' :: rest, hs => simpa using hs
    · rw [List.getLast?_cons, hs]
      rfl

theorem takeSegments_rooted {stack : List (List Char)} (hs : stack.getLast? = some [])
    (segments : List (List Char)) : (segments.foldl takeSegment stack).getLast? = some [] := by
  induction segments generalizing stack with
  | nil => exact hs
  | cons segment segments ih => exact ih (takeSegment_rooted hs segment)

theorem join_rooted (ps : List (List Char)) : Stops ['/'] (Text.join '/' ([] :: ps)) := by
  cases ps with
  | nil => exact nofun
  | cons p ps =>
    intro c hc
    rw [Text.join, List.nil_append] at hc
    obtain rfl : '/' = c := by simpa using hc
    exact List.mem_singleton_self _

theorem removeDots_rooted {path : List Char} (hp : Stops ['/'] path) :
    Stops ['/'] (removeDots path) := by
  unfold removeDots
  dsimp only
  split
  · -- the first segment of a rooted path is empty, and stays at the bottom of the stack
    have hfirst : ∃ rest, Text.pieces '/' path = [] :: rest := by
      cases path with
      | nil => exact ⟨[], rfl⟩
      | cons c path =>
        obtain rfl : c = '/' := by simpa using hp c rfl
        exact ⟨Text.pieces '/' path, by rw [Text.pieces, if_pos rfl]⟩
    obtain ⟨rest, hrest⟩ := hfirst
    have hbottom : ((Text.pieces '/' path).foldl takeSegment []).getLast? = some [] := by
      rw [hrest, List.foldl_cons]
      exact takeSegments_rooted rfl rest
    obtain ⟨init, hinit⟩ := List.getLast?_eq_some_iff.mp hbottom
    rw [hinit, List.reverse_append]
    exact join_rooted _
  · exact hp

theorem encode_cons (safe : Char → Bool) (c : Char) (cs : List Char) :
    encode safe (c :: cs) = encodeChar safe c ++ encode safe cs := List.flatMap_cons

/-- What a character is written as begins with itself, or with a percent sign. -/
theorem head_encodeChar (safe : Char → Bool) (c : Char) :
    (safe c = true ∧ encodeChar safe c = [c]) ∨
      (safe c = false ∧ ∃ rest, encodeChar safe c = '%' :: rest) := by
  have hnonempty := encodeChar_ne_nil safe c
  unfold encodeChar at hnonempty ⊢
  split
  · next hsafe => exact .inl ⟨hsafe, rfl⟩
  · next hsafe =>
    rw [if_neg hsafe] at hnonempty
    refine .inr ⟨Bool.not_eq_true _ ▸ hsafe, ?_⟩
    cases hbytes : String.utf8EncodeChar c with
    | nil =>
      rw [hbytes] at hnonempty
      exact absurd rfl hnonempty
    | cons b bs => exact ⟨_, rfl⟩

/-- An encoded text begins with another character than a percent sign only if the text does. -/
theorem head_encode {safe : Char → Bool} {cs : List Char} {c : Char} (hc : c ≠ '%')
    (hhead : (encode safe cs).head? = some c) : cs.head? = some c := by
  cases cs with
  | nil => exact absurd hhead nofun
  | cons d cs =>
    rw [encode_cons] at hhead
    rcases head_encodeChar safe d with ⟨-, hd⟩ | ⟨-, rest, hd⟩
    · rw [hd] at hhead
      exact hhead
    · rw [hd] at hhead
      exact absurd (Option.some.inj hhead).symm hc

theorem encode_rooted {path : List Char} (hp : Stops ['/'] path) :
    Stops ['/'] (encode pathSafe path) := by
  cases path with
  | nil => exact nofun
  | cons c path =>
    obtain rfl : c = '/' := by simpa using hp c rfl
    intro d hd
    have hslash : encodeChar pathSafe '/' = ['/'] := by decide
    rw [encode_cons, hslash] at hd
    obtain rfl : '/' = d := by simpa using hd
    exact List.mem_singleton_self _

/-- An authority is written unless all its parts are absent. -/
theorem authority_eq_nil {u : Url} :
    u.authority = [] ↔ u.userinfo = [] ∧ u.host = [] ∧ u.port = none := by
  unfold authority hostAndPort hostText
  rw [List.append_eq_nil_iff, List.append_eq_nil_iff]
  refine and_congr ?_ (and_congr ?_ ?_)
  · by_cases hempty : u.userinfo = []
    · simp [hempty]
    · simp [hempty]
  · by_cases hcolon : u.host.contains ':' = true
    · rw [if_pos hcolon]
      refine iff_of_false (List.cons_ne_nil _ _) fun hnil => ?_
      rw [hnil] at hcolon
      exact absurd hcolon Bool.false_ne_true
    · rw [if_neg hcolon]
  · cases u.port with
    | none => exact iff_of_true rfl rfl
    | some n => exact iff_of_false (List.cons_ne_nil _ _) nofun

theorem authority_ne_nil {u : Url} (habsolute : u.isAbsolute = true) : u.authority ≠ [] :=
  fun hnil => (isAbsolute_eq_true.mp habsolute).2 (authority_eq_nil.mp hnil).2.1

/-- The test for an authority that reading makes. -/
theorem hasAuthority_eq_true {u : Url} :
    (!u.userinfo.isEmpty || !u.host.isEmpty || u.port.isSome) = true ↔ u.authority ≠ [] := by
  rw [Ne, authority_eq_nil]
  cases u.userinfo <;> cases u.host <;> cases u.port <;> simp

/-- What the check of a path ensures. -/
theorem of_checkPath {hasScheme hasAuthority : Bool} {path : List Char}
    (hc : checkPath hasScheme hasAuthority path = .ok ()) :
    (hasAuthority = true → Stops ['/'] path) ∧
      (hasScheme = false → hasAuthority = false → path.head? ≠ some ':') := by
  cases path with
  | nil => exact ⟨fun _ => nofun, fun _ _ => nofun⟩
  | cons c path =>
    constructor
    · rintro rfl d hd
      obtain rfl : c = d := by simpa using hd
      by_contra hslash
      rw [List.mem_singleton] at hslash
      simp [checkPath, hslash] at hc
    · rintro rfl rfl hcolon
      obtain rfl : c = ':' := by simpa using hcolon
      simp [checkPath, startsWith] at hc

/-- Without scheme and authority a path keeps its dot segments. -/
theorem Made.path_of_nil {s : Split} {u : Url} (hmade : Made s u) (hscheme : u.scheme = [])
    (hnone : u.authority = []) : u.path = encode pathSafe s.path := by
  have hhas : (!u.userinfo.isEmpty || !u.host.isEmpty || u.port.isSome) = false := by
    rw [← Bool.not_eq_true, hasAuthority_eq_true]
    exact not_not_intro hnone
  rw [hmade.path, hhas, hscheme, if_neg (by decide)]

theorem wellMade_of_parse {cs : List Char} {u : Url} (hu : parse cs = .ok u) : WellMade u := by
  have hmade := made_of_parse hu
  obtain ⟨hrooted, hcolonless⟩ := of_checkPath hmade.checked
  have hauthority : ∀ c ∈ (Split.ofChars cs).authority, c ∉ authorityEnds :=
    splitAuthority_not_ended (splitScheme cs).2
  refine ⟨?_, ?_, ?_, ?_, ?_, ?_⟩
  · rw [hmade.scheme, ofChars_scheme]
    rcases splitScheme_cases cs with ⟨s, _, hs, -, hsplit⟩ | ⟨_, -, hsplit⟩ | ⟨-, hsplit⟩
    · rw [hsplit]
      exact .inr hs.lower
    · rw [hsplit]
      exact .inl rfl
    · rw [hsplit]
      exact .inl rfl
  · rw [hmade.userinfo]
    exact fun c hc => safe_of_mem_encode safeSet_userinfo hc
  · exact (of_normalHost hmade.host).2 (undivided_splitHost hauthority)
  · rw [hmade.path]
    exact fun c hc => safe_of_mem_encode safeSet_path hc
  · intro hwritten
    have hhas := hasAuthority_eq_true.mpr hwritten
    rw [hmade.path, if_pos (by rw [hhas, Bool.or_true])]
    exact encode_rooted (removeDots_rooted (hrooted hhas))
  · intro hscheme hnone
    have hhas : (!u.userinfo.isEmpty || !u.host.isEmpty || u.port.isSome) = false := by
      rw [← Bool.not_eq_true, hasAuthority_eq_true]
      exact not_not_intro hnone
    have hempty : (!u.scheme.isEmpty) = false := by rw [hscheme]; rfl
    rw [hmade.path_of_nil hscheme hnone]
    exact fun hhead => hcolonless hempty hhas (head_encode (by decide) hhead)

/-! ## Section 2: What is read back -/

variable {u : Url}

/-- What is written after the authority. -/
def afterAuthority (u : Url) : List Char :=
  u.path ++ (marked '?' u.query ++ marked '#' u.fragment)

/-- What is written after the scheme. -/
def afterScheme (u : Url) : List Char :=
  (if u.authority.isEmpty then [] else '/' :: '/' :: u.authority) ++ u.afterAuthority

theorem afterScheme_of_nil (h : u.authority = []) : u.afterScheme = u.afterAuthority := by
  unfold afterScheme
  rw [h]
  rfl

theorem afterScheme_of_ne (h : u.authority ≠ []) :
    u.afterScheme = '/' :: '/' :: (u.authority ++ u.afterAuthority) := by
  have hempty : ¬ u.authority.isEmpty = true := by rwa [List.isEmpty_iff]
  unfold afterScheme
  rw [if_neg hempty]
  rfl

theorem chars_of_nil (h : u.scheme = []) : u.chars = u.afterScheme := by
  unfold chars afterScheme afterAuthority
  rw [h]
  simp only [List.append_assoc]
  rfl

theorem chars_of_ne (h : u.scheme ≠ []) : u.chars = u.scheme ++ ':' :: u.afterScheme := by
  have hempty : ¬ u.scheme.isEmpty = true := by rwa [List.isEmpty_iff]
  unfold chars afterScheme afterAuthority
  rw [if_neg hempty]
  simp only [List.append_assoc]
  rfl

theorem stops_of_marked (mark : Char) (part : Option (List Char)) :
    Stops [mark] (marked mark part) := by
  cases part with
  | none => exact nofun
  | some part =>
    intro c hc
    obtain rfl : mark = c := Option.some.inj hc
    exact List.mem_singleton_self _

/-- What follows the path begins with its mark. -/
theorem stops_marked (u : Url) : Stops ['?', '#'] (marked '?' u.query ++ marked '#' u.fragment) :=
  ((stops_of_marked '?' u.query).mono (by simp)).append
    ((stops_of_marked '#' u.fragment).mono (by simp))

/-- After a rooted path everything begins with a mark that ends an authority. -/
theorem Stops.rooted {path tail : List Char} (hp : Stops ['/'] path)
    (ht : Stops ['?', '#'] tail) : Stops authorityEnds (path ++ tail) :=
  (hp.mono (by simp [authorityEnds])).append (ht.mono (by simp [authorityEnds]))

/-- What an encoded path begins with, other than the percent sign and what may follow a
    path, the path begins with. -/
theorem prefix_of_encode {start path tail rest : List Char}
    (hstart : ∀ c ∈ start, c ≠ '%' ∧ c ∉ ['?', '#']) (htail : Stops ['?', '#'] tail)
    (heq : encode pathSafe path ++ tail = start ++ rest) : start <+: path := by
  induction start generalizing path with
  | nil => exact List.nil_prefix
  | cons c start ih =>
    obtain ⟨⟨hpercent, hmark⟩, hrest⟩ := List.forall_mem_cons.mp hstart
    cases path with
    | nil =>
      rw [encode_nil, List.nil_append] at heq
      exact absurd (htail c (by rw [heq]; rfl)) hmark
    | cons d path =>
      rw [encode_cons, List.append_assoc, List.cons_append] at heq
      rcases head_encodeChar pathSafe d with ⟨-, hd⟩ | ⟨-, digits, hd⟩
      · rw [hd, List.singleton_append] at heq
        obtain ⟨rfl, hnext⟩ := List.cons.inj heq
        exact List.cons_prefix_cons.mpr ⟨rfl, ih hrest hnext⟩
      · rw [hd, List.cons_append] at heq
        exact absurd (List.cons.inj heq).1.symm hpercent

namespace WellMade

theorem undivided_hostAndPort (hu : WellMade u) : Undivided u.hostAndPort := by
  unfold hostAndPort hostText
  refine Undivided.append ?_ ?_
  · by_cases hcolon : u.host.contains ':' = true
    · rw [if_pos hcolon]
      intro c hc
      simp only [List.cons_append, List.mem_cons, List.mem_append, List.not_mem_nil,
        or_false] at hc
      rcases hc with rfl | hc | rfl
      · decide
      · exact hu.host c hc
      · decide
    · rw [if_neg hcolon]
      exact hu.host
  · cases u.port with
    | none => exact nofun
    | some n =>
      intro c hc
      rcases List.mem_cons.mp hc with rfl | hc
      · decide
      · exact undivided_port n c hc

theorem undivided_userinfo (hu : WellMade u) : Undivided u.userinfo := fun c hc =>
  not_isDivider (p := userinfoSafe) (by decide) (hu.userinfo c hc)

/-- An authority is not ended by any of its characters. -/
theorem authority_not_ended (hu : WellMade u) : ∀ c ∈ u.authority, c ∉ authorityEnds := by
  have hundivided : ∀ {cs : List Char}, Undivided cs → ∀ c ∈ cs, c ∉ authorityEnds := by
    intro cs hcs c hc hend
    have hdivider : isDivider c = true := by
      simp only [authorityEnds, List.mem_cons, List.not_mem_nil, or_false] at hend
      rcases hend with rfl | rfl | rfl <;> rfl
    rw [hcs c hc] at hdivider
    exact Bool.false_ne_true hdivider
  intro c hc
  unfold authority at hc
  rcases List.mem_append.mp hc with huser | hhost
  · by_cases hempty : u.userinfo.isEmpty = true
    · rw [if_pos hempty] at huser
      exact absurd huser List.not_mem_nil
    · rw [if_neg hempty] at huser
      rcases List.mem_append.mp huser with huser | hat
      · exact hundivided hu.undivided_userinfo c huser
      · rw [List.mem_singleton.mp hat]
        decide
  · exact hundivided hu.undivided_hostAndPort c hhost

/-- A written authority names a host exactly if the URL has one. -/
theorem hostNamed_authority (hu : WellMade u) : hostNamed u.authority = true ↔ u.host ≠ [] := by
  have hat : '@' ∉ u.hostAndPort := fun hmem =>
    absurd (hu.undivided_hostAndPort '@' hmem) (by decide)
  have hcut : (Text.cutLast '@' u.authority).2 = u.hostAndPort := by
    unfold authority
    by_cases hempty : u.userinfo.isEmpty = true
    · rw [if_pos hempty, List.nil_append, Text.cutLast_of_not_mem hat]
    · rw [if_neg hempty, List.append_assoc, List.singleton_append, Text.cutLast_append hat]
  rw [hostNamed_eq_true, hcut]
  unfold hostAndPort hostText
  by_cases hcolon : u.host.contains ':' = true
  · rw [if_pos hcolon]
    refine iff_of_true ⟨'[', _, rfl, by decide⟩ fun hnil => ?_
    rw [hnil] at hcolon
    exact Bool.false_ne_true hcolon
  · rw [if_neg hcolon]
    cases hcs : u.host with
    | nil =>
      -- only a port is left, and it stands behind a colon
      refine iff_of_false ?_ (not_not_intro rfl)
      rintro ⟨c, rest, hport, hc⟩
      cases hp : u.port with
      | none =>
        rw [hp] at hport
        exact absurd hport nofun
      | some n =>
        rw [hp] at hport
        exact hc (List.cons.inj hport).1.symm
    | cons c cs =>
      refine iff_of_true ⟨c, _, rfl, ?_⟩ (List.cons_ne_nil c cs)
      rintro rfl
      rw [hcs] at hcolon
      exact hcolon (by simp)

theorem splitScheme_chars (hu : WellMade u) (hscheme : u.scheme ≠ []) :
    splitScheme u.chars = (u.scheme, u.afterScheme) := by
  obtain ⟨hs, -⟩ := hu.scheme.resolve_left hscheme
  rw [chars_of_ne hscheme]
  exact splitScheme_append hs _

theorem splitAuthority_afterScheme (hu : WellMade u) (hauthority : u.authority ≠ []) :
    splitAuthority u.afterScheme = (u.authority, u.afterAuthority) := by
  rw [afterScheme_of_ne hauthority]
  exact splitAuthority_append hu.authority_not_ended
    ((hu.rooted hauthority).rooted (stops_marked u))

/-- An absolute URL is written as a text that names a scheme and a host. -/
theorem namesHost_chars (hu : WellMade u) (habsolute : u.isAbsolute = true) :
    namesHost u.chars = true := by
  obtain ⟨hscheme, hhost⟩ := isAbsolute_eq_true.mp habsolute
  unfold namesHost
  rw [ofChars_scheme, ofChars_authority, hu.splitScheme_chars hscheme,
    hu.splitAuthority_afterScheme (authority_ne_nil habsolute), hu.hostNamed_authority.mpr hhost,
    Bool.and_true, Bool.not_eq_true', List.isEmpty_eq_false_iff]
  exact hscheme

/-- A written URL does not begin with a colon. -/
theorem head_chars (hu : WellMade u) : u.chars.head? ≠ some ':' := by
  by_cases hscheme : u.scheme = []
  · rw [chars_of_nil hscheme]
    by_cases hauthority : u.authority = []
    · rw [afterScheme_of_nil hauthority]
      have hpath := hu.colonless hscheme hauthority
      have hmarked := stops_marked u
      unfold afterAuthority
      cases hcs : u.path with
      | nil =>
        intro hcolon
        exact absurd (hmarked ':' hcolon) (by decide)
      | cons c cs =>
        rw [hcs] at hpath
        exact hpath
    · rw [afterScheme_of_ne hauthority]
      exact nofun
  · obtain ⟨hs, -⟩ := hu.scheme.resolve_left hscheme
    rw [chars_of_ne hscheme]
    exact hs.head_append _

/-- Without an authority none is read, unless the path begins with two slashes. -/
theorem splitAuthority_of_nil (hu : WellMade u) (hauthority : u.authority = [])
    (hpath : startsWith ['/', '/'] u.path = false) : (splitAuthority u.afterScheme).1 = [] := by
  rw [afterScheme_of_nil hauthority]
  rcases splitAuthority_cases u.afterAuthority with ⟨a, rest, hslashes, -, -, -⟩ | ⟨-, hsplit⟩
  · have hself : encode pathSafe u.path = u.path := encode_eq_self hu.path
    have heq : encode pathSafe u.path ++ (marked '?' u.query ++ marked '#' u.fragment)
        = ['/', '/'] ++ (a ++ rest) := by
      rw [hself]
      exact hslashes
    have hbegin := prefix_of_encode (by simp) (stops_marked u) heq
    rw [← List.isPrefixOf_iff_prefix] at hbegin
    exact absurd (hbegin.symm.trans hpath) nofun
  · rw [hsplit]

end WellMade

/-! ## Section 3: URLs without a host -/

theorem schemeless_of_stops {cs : List Char} (hcs : Stops authorityEnds cs) : Schemeless cs := by
  constructor
  · intro hcolon
    exact absurd (hcs ':' hcolon) (by decide)
  · rintro s rest hs rfl
    cases s with
    | nil => exact hs.ne_nil rfl
    | cons c s =>
      have hend : c ∈ authorityEnds := hcs c rfl
      have hc : isSchemeChar c = true := hs.2 c List.mem_cons_self
      simp only [authorityEnds, List.mem_cons, List.not_mem_nil, or_false] at hend
      rcases hend with rfl | rfl | rfl <;> exact absurd hc (by decide)

theorem Schemeless.namesHost {cs : List Char} (hcs : Schemeless cs) : namesHost cs = false := by
  unfold Url.namesHost
  rw [ofChars_scheme, splitScheme_schemeless hcs]
  rfl

/-- Encoding its path gives a text no scheme. -/
theorem schemeless_encode {path rest tail : List Char} (hcs : Schemeless (path ++ rest))
    (htail : Stops ['?', '#'] tail) : Schemeless (encode pathSafe path ++ tail) := by
  obtain ⟨hcolon, hnone⟩ := hcs
  constructor
  · intro hhead
    obtain ⟨after, hafter⟩ := List.head?_eq_some_iff.mp hhead
    have hsplit : encode pathSafe path ++ tail = [':'] ++ after := hafter
    obtain ⟨path', rfl⟩ := prefix_of_encode (by simp) htail hsplit
    exact hcolon rfl
  · intro s after hs hafter
    have hchars : ∀ c ∈ s ++ [':'], c ≠ '%' ∧ c ∉ ['?', '#'] := by
      intro c hc
      rcases List.mem_append.mp hc with hscheme | hmark
      · have hschemeChar := hs.2 c hscheme
        refine ⟨?_, ?_⟩
        · rintro rfl
          exact absurd hschemeChar (by decide)
        · intro hmem
          simp only [List.mem_cons, List.not_mem_nil, or_false] at hmem
          rcases hmem with rfl | rfl <;> exact absurd hschemeChar (by decide)
      · rw [List.mem_singleton.mp hmark]
        decide
    have hsplit : encode pathSafe path ++ tail = (s ++ [':']) ++ after := by
      rw [hafter, List.append_assoc, List.singleton_append]
    obtain ⟨path', rfl⟩ := prefix_of_encode hchars htail hsplit
    exact hnone s (path' ++ rest) hs (by simp)

/-- A text without a colon in front, from which no scheme is split off, has none. -/
theorem schemeless_of_splitScheme {cs : List Char} (hcolon : cs.head? ≠ some ':')
    (hscheme : (splitScheme cs).1 = []) : Schemeless cs := by
  rcases splitScheme_cases cs with ⟨s, rest, hs, -, hsplit⟩ | ⟨rest, rfl, -⟩ | ⟨hcs, -⟩
  · rw [hsplit] at hscheme
    exact absurd hscheme hs.ne_nil
  · exact absurd rfl hcolon
  · exact hcs

/-- The path of a text begins with a slash if an authority was split off before it;
    otherwise the text begins with it. -/
theorem splitAuthority_path (cs : List Char) :
    ∃ rest, Stops ['/'] (spanUntil ['?', '#'] (splitAuthority cs).2).1 ∨
      cs = (spanUntil ['?', '#'] (splitAuthority cs).2).1 ++ rest := by
  obtain ⟨path, rest, hsplit, hpath, -, hspan⟩ := spanUntil_cases ['?', '#'] (splitAuthority cs).2
  rw [hspan]
  refine ⟨rest, ?_⟩
  rcases splitAuthority_cases cs with ⟨_, after, -, -, hstops, hauthority⟩ | ⟨-, hauthority⟩
  · left
    rw [hauthority] at hsplit
    dsimp only at hsplit
    rw [hsplit] at hstops
    intro c hc
    cases path with
    | nil => exact absurd hc nofun
    | cons d path =>
      obtain rfl : d = c := Option.some.inj hc
      have hend : d ∈ authorityEnds := hstops d rfl
      have hmark : d ∉ ['?', '#'] := hpath d List.mem_cons_self
      rcases List.mem_cons.mp hend with rfl | hother
      · exact List.mem_cons_self
      · exact absurd hother hmark
  · right
    rw [hauthority] at hsplit
    exact hsplit

/-- A URL that is read and has no scheme is written as a text without one. -/
theorem schemeless_chars {cs : List Char} (hu : parse cs = .ok u) (hcolon : cs.head? ≠ some ':')
    (hscheme : u.scheme = []) : Schemeless u.chars := by
  have hmade := made_of_parse hu
  rw [chars_of_nil hscheme]
  by_cases hauthority : u.authority = []
  · rw [afterScheme_of_nil hauthority]
    unfold afterAuthority
    have hsplit : (splitScheme cs).1 = [] := by
      have hlower := hmade.scheme
      rw [hscheme, ofChars_scheme] at hlower
      exact List.map_eq_nil_iff.mp hlower.symm
    have hcs := schemeless_of_splitScheme hcolon hsplit
    rw [hmade.path_of_nil hscheme hauthority, ofChars_path, splitScheme_schemeless hcs]
    obtain ⟨rest, hrooted | hwhole⟩ := splitAuthority_path cs
    · exact schemeless_of_stops ((encode_rooted hrooted).rooted (stops_marked u))
    · rw [hwhole] at hcs
      exact schemeless_encode hcs (stops_marked u)
  · rw [afterScheme_of_ne hauthority]
    exact schemeless_of_stops (by rintro c ⟨⟩; decide)

/-- A URL that is read and is not absolute is written as a text that names no host, unless
    its path begins with two slashes, which are then taken for those of an authority. -/
theorem not_namesHost_chars {cs : List Char} (hu : parse cs = .ok u)
    (hcolon : cs.head? ≠ some ':') (hrelative : u.isAbsolute = false)
    (hpath : startsWith ['/', '/'] u.path = false) : namesHost u.chars = false := by
  have hwell := wellMade_of_parse hu
  by_cases hscheme : u.scheme = []
  · -- a text without a scheme is not given one
    exact (schemeless_chars hu hcolon hscheme).namesHost
  · have hhost : u.host = [] := by
      by_contra hhost
      rw [isAbsolute_eq_true.mpr ⟨hscheme, hhost⟩] at hrelative
      exact absurd hrelative nofun
    have hunnamed : hostNamed (splitAuthority u.afterScheme).1 = false := by
      by_cases hauthority : u.authority = []
      · rw [hwell.splitAuthority_of_nil hauthority hpath]
        rfl
      · rw [hwell.splitAuthority_afterScheme hauthority, ← Bool.not_eq_true,
          hwell.hostNamed_authority]
        exact not_not_intro hhost
    unfold namesHost
    rw [ofChars_scheme, ofChars_authority, hwell.splitScheme_chars hscheme, hunnamed,
      Bool.and_false]

end Url

end Redial
