import Redial.Proofs.Url.Writing
import Redial.Url.Reference

/-! # Where a location leads

    A location is seen from a URL in three steps: both are written, the texts are
    resolved as references, and the result is read.  References are split on their own,
    but a text that is a written URL is split like one.  So the result is absolute
    exactly if the location reaches a host (`Reaches`): it names one itself, or it is
    seen from the URL and has no authority of its own that names none.

    A location is seen from a URL only if the scheme of the URL is one of a fixed list.
    A relative location that is met under any other scheme stays relative. -/

namespace Redial

open Url (IsScheme Schemeless Stops WellMade authorityEnds hostNamed namesHost)

namespace Reference

/-! ## Section 1: Written references -/

theorem splitScheme_append (inherited : List Char) {s : List Char} (hs : IsScheme s)
    (rest : List Char) :
    splitScheme inherited (s ++ ':' :: rest) = (s.map Char.toLower, rest) := by
  unfold splitScheme
  rw [Text.cut_append hs.colon_not_mem]
  cases s with
  | nil => exact absurd rfl hs.ne_nil
  | cons c s =>
    have hfirst : c.isAlpha = true := by simpa using hs.1
    have hrest : s.all Url.isSchemeChar = true :=
      List.all_eq_true.mpr fun d hd => hs.2 d (List.mem_cons_of_mem c hd)
    simp only [hfirst, hrest, Bool.and_self, if_true]

theorem splitScheme_schemeless (inherited : List Char) {cs : List Char} (hcs : Schemeless cs) :
    splitScheme inherited cs = (inherited, cs) := by
  unfold splitScheme
  rcases Text.cut_cases ':' cs with ⟨-, hcut⟩ | ⟨before, after, hsplit, -, hcut⟩
  · rw [hcut]
    split
    · next heq => cases heq
    · rfl
  · rw [hcut]
    cases before with
    | nil => rfl
    | cons c s =>
      by_cases hscheme : (c.isAlpha && s.all Url.isSchemeChar) = true
      · obtain ⟨hfirst, hrest⟩ := Bool.and_eq_true_iff.mp hscheme
        have hs : IsScheme (c :: s) := by
          refine ⟨hfirst, List.forall_mem_cons.mpr ⟨?_, List.all_eq_true.mp hrest⟩⟩
          have halnum : c.isAlphanum = true := by
            show (c.isAlpha || c.isDigit) = true
            rw [hfirst, Bool.true_or]
          simp [Url.isSchemeChar, halnum]
        exact absurd hsplit (hcs.2 _ _ hs)
      · simp only [hscheme, if_false, Bool.false_eq_true]

/-- References and URLs are split alike, but for the scheme that a reference inherits. -/
theorem splitScheme_eq (inherited : List Char) {cs : List Char} (hcolon : cs.head? ≠ some ':') :
    splitScheme inherited cs =
      (if (Url.splitScheme cs).1 = [] then inherited else (Url.splitScheme cs).1.map Char.toLower,
        (Url.splitScheme cs).2) := by
  rcases Url.splitScheme_cases cs with ⟨s, rest, hs, rfl, hsplit⟩ | ⟨rest, rfl, -⟩ | ⟨hcs, hsplit⟩
  · rw [splitScheme_append inherited hs, hsplit, if_neg hs.ne_nil]
  · exact absurd rfl hcolon
  · rw [splitScheme_schemeless inherited hcs, hsplit, if_pos rfl]

theorem ofChars_scheme (inherited cs : List Char) :
    (ofChars inherited cs).scheme = (splitScheme inherited cs).1 := rfl

theorem ofChars_authority (inherited cs : List Char) :
    (ofChars inherited cs).authority = (Url.splitAuthority (splitScheme inherited cs).2).1 := rfl

theorem stops_marked (mark : Char) (part : List Char) : Stops [mark] (marked mark part) := by
  unfold marked
  split
  · exact nofun
  · intro c hc
    obtain rfl : mark = c := Option.some.inj hc
    exact List.mem_singleton_self _

/-- A text that does not begin with a colon has the same scheme and authority as a reference
    and as a URL, but for the scheme that a reference inherits. -/
theorem ofChars_eq (inherited : List Char) {cs : List Char} (hcolon : cs.head? ≠ some ':') :
    (ofChars inherited cs).authority = (Url.Split.ofChars cs).authority ∧
      ((ofChars inherited cs).scheme = inherited ↔
        (Url.Split.ofChars cs).scheme = [] ∨
          (Url.Split.ofChars cs).scheme.map Char.toLower = inherited) := by
  have hsplit := splitScheme_eq inherited hcolon
  rw [ofChars_authority, ofChars_scheme, hsplit]
  refine ⟨rfl, ?_⟩
  rw [← Url.ofChars_scheme]
  by_cases hempty : (Url.Split.ofChars cs).scheme = []
  · rw [if_pos hempty]
    exact iff_of_true rfl (.inl hempty)
  · rw [if_neg hempty, or_iff_right hempty]

/-- The path of a reference as it is written behind an authority. -/
def rootedPath (r : Reference) : List Char :=
  if !r.pathAndParams.isEmpty && r.pathAndParams.head? != some '/' then '/' :: r.pathAndParams
  else r.pathAndParams

theorem stops_rootedPath (r : Reference) : Stops ['/'] r.rootedPath := by
  intro c hc
  unfold rootedPath at hc
  rw [List.mem_singleton]
  split at hc
  · exact (Option.some.inj hc).symm
  · next hrooted =>
    cases hpath : r.pathAndParams with
    | nil =>
      rw [hpath] at hc
      exact absurd hc nofun
    | cons d path =>
      rw [hpath] at hc hrooted
      obtain rfl : d = c := Option.some.inj hc
      simpa using hrooted

/-- A reference with a scheme and an authority is written with both. -/
theorem chars_eq {r : Reference} (hs : r.scheme ≠ []) (ha : r.authority ≠ []) :
    r.chars = r.scheme ++ ':' :: '/' :: '/' :: (r.authority ++ (r.rootedPath ++
      (marked '?' r.query ++ marked '#' r.fragment))) := by
  have hscheme : ¬ r.scheme.isEmpty = true := by rwa [List.isEmpty_iff]
  have hauthority : (!r.authority.isEmpty) = true := by
    rw [Bool.not_eq_true', List.isEmpty_eq_false_iff]
    exact ha
  have hhierarchy : r.hierarchy = '/' :: '/' :: (r.authority ++ r.rootedPath) := by
    unfold hierarchy
    dsimp only
    rw [if_pos (by rw [hauthority, Bool.true_or])]
    rfl
  unfold chars
  rw [if_neg hscheme, hhierarchy]
  simp only [List.append_assoc, List.cons_append, List.nil_append]

theorem chars_append {r : Reference} (hs : IsScheme r.scheme) (ha : r.authority ≠ []) :
    ∃ tail, Stops authorityEnds tail ∧
      r.chars = r.scheme ++ ':' :: '/' :: '/' :: (r.authority ++ tail) :=
  ⟨_, r.stops_rootedPath.rooted (((stops_marked '?' r.query).mono (by simp)).append
    ((stops_marked '#' r.fragment).mono (by simp))), chars_eq hs.ne_nil ha⟩

theorem head_chars {r : Reference} (hs : IsScheme r.scheme) (ha : r.authority ≠ []) :
    r.chars.head? ≠ some ':' := by
  obtain ⟨tail, -, hchars⟩ := chars_append hs ha
  rw [hchars]
  exact hs.head_append _

theorem namesHost_chars {r : Reference} (hs : IsScheme r.scheme) (ha : r.authority ≠ [])
    (hends : ∀ c ∈ r.authority, c ∉ authorityEnds) :
    namesHost r.chars = hostNamed r.authority := by
  obtain ⟨tail, htail, hchars⟩ := chars_append hs ha
  have hscheme : (Url.splitScheme r.chars).1.isEmpty = false := by
    rw [hchars, Url.splitScheme_append hs, List.isEmpty_eq_false_iff]
    exact hs.ne_nil
  unfold namesHost
  rw [Url.ofChars_scheme, Url.ofChars_authority, hscheme, hchars, Url.splitScheme_append hs,
    Url.splitAuthority_append hends htail]
  rfl

/-! ## Section 2: Resolution -/

theorem schemeIn_mono {names names' : List String} (hsub : ∀ name ∈ names, name ∈ names')
    {scheme : List Char} (hs : schemeIn names scheme = true) : schemeIn names' scheme = true := by
  unfold schemeIn at *
  rw [List.contains_iff_mem] at *
  exact hsub _ hs

/-- A scheme whose references are resolved has an authority. -/
theorem hasAuthority_of_isHierarchical {scheme : List Char}
    (hs : isHierarchical scheme = true) : hasAuthority scheme = true :=
  schemeIn_mono (by decide) hs

theorem read_eq {inherited cs : List Char} {r : Reference} (hr : read inherited cs = .ok r) :
    r = ofChars inherited cs := by
  unfold read at hr
  obtain ⟨_, -, hr⟩ := ok_of_bind hr
  split at hr
  · exact absurd hr nofun
  · exact (Except.ok.inj hr).symm

/-- What a reference resolves to, if it does. -/
theorem resolve_cases {base cs joined : List Char} (hbase : base ≠ [])
    (hj : resolve base cs = .ok joined) :
    cs = [] ∧ joined = base ∨
      cs ≠ [] ∧ joined =
        resolveParts (ofChars [] base) (ofChars (ofChars [] base).scheme cs) cs := by
  unfold resolve at hj
  rw [if_neg (by rwa [List.isEmpty_iff])] at hj
  by_cases hempty : cs = []
  · rw [if_pos (by rwa [List.isEmpty_iff])] at hj
    exact .inl ⟨hempty, (Except.ok.inj hj).symm⟩
  · rw [if_neg (by rwa [List.isEmpty_iff])] at hj
    obtain ⟨b, hb, hj⟩ := ok_of_bind hj
    obtain ⟨r, hr, hj⟩ := ok_of_bind hj
    cases Except.ok.inj hj
    obtain rfl := read_eq hb
    obtain rfl := read_eq hr
    exact .inr ⟨hempty, rfl⟩

variable {b r : Reference} {cs : List Char}

theorem resolveIn_scheme (b r : Reference) : (resolveIn b r).scheme = r.scheme := by
  unfold resolveIn
  split <;> rfl

theorem resolveIn_authority (b r : Reference) : (resolveIn b r).authority = r.authority := by
  unfold resolveIn
  split <;> rfl

/-- A reference with another scheme, or under a scheme that is not resolved, replaces the base. -/
theorem resolveParts_foreign (h : r.scheme ≠ b.scheme ∨ isHierarchical r.scheme = false) :
    resolveParts b r cs = cs := by
  unfold resolveParts
  have hforeign : (r.scheme != b.scheme || !isHierarchical r.scheme) = true := by
    rw [Bool.or_eq_true, bne_iff_ne, Bool.not_eq_true']
    exact h
  rw [if_pos hforeign]

/-- A reference with the scheme of its base is resolved there unless it has an authority of
    its own. -/
theorem resolveParts_eq (cs : List Char) (hscheme : r.scheme = b.scheme)
    (hhierarchical : isHierarchical r.scheme = true) :
    resolveParts b r cs =
      if r.authority = [] then (resolveIn b { r with authority := b.authority }).chars
      else r.chars := by
  have hnative : ¬ (r.scheme != b.scheme || !isHierarchical r.scheme) = true := by
    rw [Bool.or_eq_true, bne_iff_ne, Bool.not_eq_true', hhierarchical]
    exact fun h => h.elim (fun hne => hne hscheme) nofun
  unfold resolveParts
  rw [if_neg hnative, if_pos (hasAuthority_of_isHierarchical hhierarchical)]
  by_cases hauthority : r.authority = []
  · have hempty : ¬ (!r.authority.isEmpty) = true := by rw [hauthority]; decide
    rw [if_neg hempty, if_pos hauthority]
  · have hempty : (!r.authority.isEmpty) = true := by
      rw [Bool.not_eq_true', List.isEmpty_eq_false_iff]
      exact hauthority
    rw [if_pos hempty, if_neg hauthority]

/-- A reference that is resolved keeps its authority, or takes that of the base. -/
theorem resolveParts_native (cs : List Char) (hscheme : r.scheme = b.scheme)
    (hhierarchical : isHierarchical r.scheme = true) :
    ∃ r' : Reference, resolveParts b r cs = r'.chars ∧ r'.scheme = r.scheme ∧
      r'.authority = if r.authority = [] then b.authority else r.authority := by
  rw [resolveParts_eq cs hscheme hhierarchical]
  by_cases hauthority : r.authority = []
  · rw [if_pos hauthority, if_pos hauthority]
    exact ⟨_, rfl, resolveIn_scheme _ _, resolveIn_authority _ _⟩
  · rw [if_neg hauthority, if_neg hauthority]
    exact ⟨r, rfl, rfl, rfl⟩

/-- What a reference resolves to names a host if its own authority does, or that of the base
    if it has none. -/
theorem namesHost_resolveParts (hs : IsScheme b.scheme) (hb : b.authority ≠ [])
    (hbase : ∀ c ∈ b.authority, c ∉ authorityEnds) (hown : ∀ c ∈ r.authority, c ∉ authorityEnds)
    (hscheme : r.scheme = b.scheme) (hhierarchical : isHierarchical r.scheme = true) :
    (resolveParts b r cs).head? ≠ some ':' ∧
      namesHost (resolveParts b r cs)
        = hostNamed (if r.authority = [] then b.authority else r.authority) := by
  obtain ⟨r', hr', hrScheme, hrAuthority⟩ := resolveParts_native cs hscheme hhierarchical
  have hrs : IsScheme r'.scheme := by rwa [hrScheme, hscheme]
  have hra : r'.authority ≠ [] ∧ ∀ c ∈ r'.authority, c ∉ authorityEnds := by
    rw [hrAuthority]
    by_cases hempty : r.authority = []
    · rw [if_pos hempty]
      exact ⟨hb, hbase⟩
    · rw [if_neg hempty]
      exact ⟨hempty, hown⟩
  rw [hr', namesHost_chars hrs hra.1 hra.2, hrAuthority]
  exact ⟨head_chars hrs hra.1, rfl⟩

end Reference

namespace Url

/-! ## Section 3: Locations that reach a host -/

/-- Whether a location, as it is written, leads from a URL to one with a host: it names one
    itself, or it has no other scheme, that of the URL is resolved, and it has no authority
    of its own that names no host.  An empty location is resolved under any scheme. -/
def Reaches (u : Url) (cs : List Char) : Prop :=
  namesHost cs = true ∨
    ((Split.ofChars cs).scheme = [] ∨ (Split.ofChars cs).scheme.map Char.toLower = u.scheme) ∧
      (cs = [] ∨ Reference.isHierarchical u.scheme = true) ∧
      ((Split.ofChars cs).authority = [] ∨ hostNamed (Split.ofChars cs).authority = true)

instance (u : Url) (cs : List Char) : Decidable (Reaches u cs) :=
  inferInstanceAs (Decidable (_ ∨ _))

variable {u : Url}

/-- The parts of an absolute URL that is split as a reference. -/
theorem WellMade.ofChars_chars (hu : WellMade u) (habsolute : u.isAbsolute = true) :
    (Reference.ofChars [] u.chars).scheme = u.scheme ∧
      (Reference.ofChars [] u.chars).authority = u.authority := by
  obtain ⟨hscheme, -⟩ := isAbsolute_eq_true.mp habsolute
  obtain ⟨hs, hlower⟩ := hu.scheme.resolve_left hscheme
  have hsplit : Reference.splitScheme [] u.chars = (u.scheme, u.afterScheme) := by
    rw [chars_of_ne hscheme, Reference.splitScheme_append [] hs, hlower]
  rw [Reference.ofChars_scheme, Reference.ofChars_authority, hsplit]
  have hauthority := hu.splitAuthority_afterScheme (authority_ne_nil habsolute)
  exact ⟨rfl, congrArg Prod.fst hauthority⟩

/-- An absolute URL and a location resolve to a text that names a host exactly if the location
    reaches one. -/
theorem WellMade.namesHost_resolve (hu : WellMade u) (habsolute : u.isAbsolute = true)
    {cs joined : List Char} (hcolon : cs.head? ≠ some ':')
    (hj : Reference.resolve u.chars cs = .ok joined) :
    joined.head? ≠ some ':' ∧ (namesHost joined = true ↔ Reaches u cs) := by
  obtain ⟨hscheme, hhost⟩ := isAbsolute_eq_true.mp habsolute
  obtain ⟨hs, -⟩ := hu.scheme.resolve_left hscheme
  have hwritten : u.chars ≠ [] := by
    rw [chars_of_ne hscheme]
    exact List.append_ne_nil_of_right_ne_nil _ (List.cons_ne_nil _ _)
  rcases Reference.resolve_cases hwritten hj with ⟨rfl, rfl⟩ | ⟨hcs, rfl⟩
  · exact ⟨hu.head_chars, iff_of_true (hu.namesHost_chars habsolute)
      (.inr ⟨.inl rfl, .inl rfl, .inl rfl⟩)⟩
  obtain ⟨hbase, hbaseAuthority⟩ := hu.ofChars_chars habsolute
  obtain ⟨hown, hscheme⟩ := Reference.ofChars_eq u.scheme hcolon
  rw [hbase]
  generalize Reference.ofChars [] u.chars = b at hbase hbaseAuthority ⊢
  generalize Reference.ofChars u.scheme cs = r at hown hscheme ⊢
  rw [← hbase] at hscheme hs
  by_cases hnative : r.scheme = b.scheme ∧ Reference.isHierarchical r.scheme = true
  · -- the location is seen from the URL, and keeps its own authority if it has one
    obtain ⟨hsame, hhierarchical⟩ := hnative
    have hends : ∀ c ∈ r.authority, c ∉ authorityEnds := hown ▸ splitAuthority_not_ended _
    obtain ⟨hhead, hnamed⟩ := Reference.namesHost_resolveParts hs
      (hbaseAuthority ▸ authority_ne_nil habsolute) (hbaseAuthority ▸ hu.authority_not_ended)
      hends hsame hhierarchical
    refine ⟨hhead, ?_⟩
    rw [hnamed, hown, hbaseAuthority]
    have hresolved : Reference.isHierarchical u.scheme = true := by rwa [← hbase, ← hsame]
    rw [hbase] at hscheme hsame
    by_cases hempty : (Split.ofChars cs).authority = []
    · rw [if_pos hempty]
      exact iff_of_true (hu.hostNamed_authority.mpr hhost)
        (.inr ⟨hscheme.mp hsame, .inr hresolved, .inl hempty⟩)
    · rw [if_neg hempty]
      constructor
      · exact fun hnamed => .inr ⟨hscheme.mp hsame, .inr hresolved, .inr hnamed⟩
      · rintro (hnamed | ⟨-, -, hnamed⟩)
        · exact (Bool.and_eq_true_iff.mp hnamed).2
        · exact hnamed.resolve_left hempty
  · -- the location replaces the URL as it is
    have hforeign : r.scheme ≠ b.scheme ∨ Reference.isHierarchical r.scheme = false := by
      by_cases hsame : r.scheme = b.scheme
      · exact .inr (Bool.not_eq_true _ ▸ fun hhierarchical => hnative ⟨hsame, hhierarchical⟩)
      · exact .inl hsame
    rw [Reference.resolveParts_foreign hforeign]
    refine ⟨hcolon, fun hnamed => .inl hnamed, ?_⟩
    rintro (hnamed | ⟨hlocal, hresolved, -⟩)
    · exact hnamed
    · rw [hbase] at hscheme hnative
      have hsame := hscheme.mpr hlocal
      rw [hsame] at hnative
      exact absurd ⟨rfl, hresolved.resolve_left hcs⟩ hnative

/-- A path leads on from a scheme that is resolved, and from no other. -/
example : Reaches ⟨"http".toList, [], "h".toList, none, "/a".toList, none, none⟩ "/x".toList ∧
    ¬ Reaches ⟨"foo".toList, [], "h".toList, none, "/a".toList, none, none⟩ "/x".toList := by
  decide

/-- The URL that a location joins to is absolute exactly if the location reaches a host, and
    is then written as a text that names one.  Otherwise its text names none, unless its
    path begins with two slashes. -/
theorem WellMade.isAbsolute_join (hu : WellMade u) (habsolute : u.isAbsolute = true) {l j : Url}
    (hl : WellMade l) (hj : u.join l = .ok j) :
    (j.isAbsolute = true ↔ Reaches u l.chars) ∧
      (j.isAbsolute = true → namesHost j.chars = true) ∧
      (j.isAbsolute = false → startsWith ['/', '/'] j.path = false →
        namesHost j.chars = false) := by
  obtain ⟨joined, hjoined, hparse⟩ := ok_of_bind hj
  obtain ⟨hcolon, hreaches⟩ := hu.namesHost_resolve habsolute hl.head_chars hjoined
  refine ⟨?_, (wellMade_of_parse hparse).namesHost_chars, not_namesHost_chars hparse hcolon⟩
  rw [isAbsolute_eq hparse]
  exact hreaches

/-- Whether a location leads from a written URL to one with a host: it is absolute, or it
    reaches a host from there. -/
def LeadsOn (current location : String) : Prop :=
  ∃ l, parse location.toList = .ok l ∧
    (l.isAbsolute = true ∨ ∃ u, parse current.toList = .ok u ∧ Reaches u l.chars)

/-- What a location resolves to: itself if it is absolute, and otherwise what it joins to. -/
theorem resolveLocation_cases {current location target : String}
    (hr : resolveLocation current location = .ok target) :
    ∃ l, parse location.toList = .ok l ∧
      (l.isAbsolute = true ∧ target = location ∨
        l.isAbsolute = false ∧ ∃ u j, parse current.toList = .ok u ∧ u.join l = .ok j ∧
          target = String.ofList j.chars) := by
  unfold resolveLocation at hr
  obtain ⟨l, hl, hr⟩ := ok_of_bind hr
  refine ⟨l, hl, ?_⟩
  by_cases habsolute : l.isAbsolute = true
  · rw [if_pos habsolute] at hr
    exact .inl ⟨habsolute, (Except.ok.inj hr).symm⟩
  · rw [if_neg habsolute] at hr
    obtain ⟨u, hu, hr⟩ := ok_of_bind hr
    obtain ⟨j, hj, hr⟩ := ok_of_bind hr
    exact .inr ⟨Bool.not_eq_true _ ▸ habsolute, u, j, hu, hj, (Except.ok.inj hr).symm⟩

/-- Seen from a text that names a host, a location resolves to another one if it leads on.
    If it does not, it resolves to a URL that is not absolute, and the text names no host
    unless the path begins with two slashes. -/
theorem resolveLocation_namesHost {current location target : String}
    (hcurrent : namesHost current.toList = true)
    (hr : resolveLocation current location = .ok target) :
    (LeadsOn current location → namesHost target.toList = true) ∧
      (¬ LeadsOn current location → ∃ j : Url, target = String.ofList j.chars ∧
        j.isAbsolute = false ∧
        (startsWith ['/', '/'] j.path = false → namesHost target.toList = false)) := by
  obtain ⟨l, hl, ⟨habsolute, rfl⟩ | ⟨hrelative, u, j, hu, hj, rfl⟩⟩ := resolveLocation_cases hr
  · have hnamed : namesHost target.toList = true := by rwa [← isAbsolute_eq hl]
    exact ⟨fun _ => hnamed, fun hstray => absurd ⟨l, hl, .inl habsolute⟩ hstray⟩
  · have hbase : u.isAbsolute = true := by rwa [isAbsolute_eq hu]
    obtain ⟨hreaches, hnamed, hunnamed⟩ :=
      (wellMade_of_parse hu).isAbsolute_join hbase (wellMade_of_parse hl) hj
    have hleads : LeadsOn current location ↔ j.isAbsolute = true := by
      rw [hreaches]
      constructor
      · rintro ⟨l', hl', habsolute | ⟨u', hu', hreach⟩⟩
        · cases Except.ok.inj (hl.symm.trans hl')
          rw [hrelative] at habsolute
          exact absurd habsolute nofun
        · cases Except.ok.inj (hl.symm.trans hl')
          cases Except.ok.inj (hu.symm.trans hu')
          exact hreach
      · exact fun hreach => ⟨l, hl, .inr ⟨u, hu, hreach⟩⟩
    rw [hleads, String.toList_ofList, Bool.not_eq_true]
    exact ⟨hnamed, fun hstray => ⟨j, rfl, hstray, hunnamed hstray⟩⟩

end Url

end Redial
