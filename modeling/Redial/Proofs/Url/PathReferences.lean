import Redial.Proofs.Url.DotSegments

/-! # Path references resolve as in RFC 3986

    A location that is a path is seen from a URL with a host.  Both are read, written,
    resolved as references and read again.  Where all characters are unreserved, reading
    and writing change nothing, so what is left of the three steps is the resolution of
    the path.  That is the one of the standard, `targetPath_eq`, and as it leaves no dot
    segments, reading the result removes none. -/

namespace Redial

open Url (IsScheme Schemeless Stops Clean SettledHost isUnreserved pathSafe querySafe authorityEnds)

/-! ## Section 1: Paths -/

/-- A segment: not empty, and of unreserved characters. -/
structure IsSegment (s : List Char) : Prop where
  nonempty : s ≠ []
  unreserved : ∀ c ∈ s, isUnreserved c = true

instance (s : List Char) : Decidable (IsSegment s) :=
  decidable_of_iff (s ≠ [] ∧ s.all isUnreserved = true)
    ⟨fun h => ⟨h.1, List.all_eq_true.mp h.2⟩,
      fun h => ⟨h.nonempty, List.all_eq_true.mpr h.unreserved⟩⟩

/-- The path of a base: segments without dots, each after a slash, and a slash at the end
    or not. -/
def IsBasePath (path : List Char) : Prop :=
  ∃ (segments : List (List Char)) (slash : Bool),
    path = slashed segments ++ (if slash then ['/'] else []) ∧
      ∀ s ∈ segments, IsSegment s ∧ ¬ IsDot s

/-- A path reference: segments between slashes, with a slash in front or not, and a slash at
    the end or not. -/
def IsPathReference (reference : List Char) : Prop :=
  ∃ (rooted slash : Bool) (first : List Char) (rest : List (List Char)),
    reference = (if rooted then ['/'] else []) ++ first ++ slashed rest
      ++ (if slash then ['/'] else []) ∧
      ∀ s ∈ first :: rest, IsSegment s

theorem isUnreserved_ne_slash {c : Char} (hc : isUnreserved c = true) : c ≠ '/' := by
  rintro rfl
  exact absurd hc (by decide)

/-- A slash at the end is an empty segment. -/
theorem slashed_ended (segments : List (List Char)) (slash : Bool) :
    slashed segments ++ (if slash then ['/'] else [])
      = slashed (segments ++ if slash then [[]] else []) := by
  cases slash <;> simp

/-- Segments with an empty one behind them or not. -/
theorem segments_ended {segments : List (List Char)} (hs : ∀ s ∈ segments, IsSegment s)
    (slash : Bool) :
    Segments (segments ++ if slash then [[]] else []) ∧
      ∀ s ∈ segments ++ (if slash then [[]] else []), ∀ c ∈ s, isUnreserved c = true := by
  have hall : ∀ s ∈ segments ++ (if slash then [[]] else []), ∀ c ∈ s, isUnreserved c = true := by
    intro s hmem c hc
    rcases List.mem_append.mp hmem with hsegment | hlast
    · exact (hs s hsegment).unreserved c hc
    · split at hlast
      · rw [List.mem_singleton.mp hlast] at hc
        exact absurd hc List.not_mem_nil
      · exact absurd hlast List.not_mem_nil
  refine ⟨⟨fun s hmem hslash => isUnreserved_ne_slash (hall s hmem '/' hslash) rfl, ?_⟩, hall⟩
  intro s hmem
  cases slash with
  | true =>
    rw [if_pos rfl, List.dropLast_concat] at hmem
    exact (hs s hmem).nonempty
  | false =>
    rw [if_neg Bool.false_ne_true, List.append_nil] at hmem
    exact (hs s (List.dropLast_subset _ hmem)).nonempty

theorem IsBasePath.segments {path : List Char} (hp : IsBasePath path) :
    ∃ segments, path = slashed segments ∧ Segments segments ∧
      (∀ s ∈ segments, ∀ c ∈ s, isUnreserved c = true) ∧ ∀ s ∈ segments, ¬ IsDot s := by
  obtain ⟨segments, slash, rfl, hs⟩ := hp
  obtain ⟨hsegments, hall⟩ := segments_ended (fun s hmem => (hs s hmem).1) slash
  refine ⟨_, slashed_ended segments slash, hsegments, hall, fun s hmem => ?_⟩
  rcases List.mem_append.mp hmem with hsegment | hlast
  · exact (hs s hsegment).2
  · split at hlast
    · rw [List.mem_singleton.mp hlast]
      decide
    · exact absurd hlast List.not_mem_nil

theorem IsPathReference.segments {reference : List Char} (hr : IsPathReference reference) :
    ∃ first rest, (reference = slashed (first :: rest) ∨
        reference = Text.join '/' (first :: rest)) ∧
      Segments (first :: rest) ∧ first ≠ [] ∧
        ∀ s ∈ first :: rest, ∀ c ∈ s, isUnreserved c = true := by
  obtain ⟨rooted, slash, first, rest, rfl, hs⟩ := hr
  obtain ⟨hsegments, hall⟩ := segments_ended hs slash
  rw [List.cons_append] at hsegments hall
  refine ⟨first, rest ++ (if slash then [[]] else []), ?_, hsegments,
    (hs first List.mem_cons_self).nonempty, hall⟩
  cases rooted with
  | true =>
    left
    have hended := slashed_ended (first :: rest) slash
    simpa using hended
  | false =>
    right
    rw [join_cons, ← slashed_ended]
    simp

theorem mem_slashed {segments : List (List Char)}
    (hs : ∀ s ∈ segments, ∀ c ∈ s, isUnreserved c = true) :
    ∀ c ∈ slashed segments, c = '/' ∨ isUnreserved c = true := by
  intro c hc
  obtain ⟨s, hmem, hcs⟩ := List.mem_flatMap.mp hc
  exact (List.mem_cons.mp hcs).imp_right (hs s hmem c)

/-- The path that a path reference resolves to, behind an authority: the segments that the
    standard leaves of the merged paths. -/
theorem targetPath_eq {path reference : List Char} (hp : IsBasePath path)
    (hr : IsPathReference reference) :
    ∃ segments, segments ≠ [] ∧ Segments segments ∧
      (∀ s ∈ segments, ∀ c ∈ s, isUnreserved c = true) ∧
      Reference.mergePaths path reference = Reference.settled ([] :: segments) ∧
      Rfc3986.targetPath path reference = slashed (settle [] segments).reverse := by
  obtain ⟨base, rfl, hbase, hsafe, -⟩ := hp.segments
  obtain ⟨first, rest, hwritten, hown, hfirst, hunreserved⟩ := hr.segments
  rcases hwritten with rfl | rfl
  · refine ⟨first :: rest, List.cons_ne_nil _ _, hown, hunreserved, ?_, ?_⟩
    · rw [Reference.mergePaths_eq, if_pos (by rfl), pieces_slashed hown.slashless]
    · rw [Rfc3986.targetPath, if_pos (by rfl), Rfc3986.removeDotSegments_slashed hown.slashless]
  · have hhead : ¬ (Text.join '/' (first :: rest)).head? = some '/' := by
      rw [join_cons]
      obtain ⟨c, s, rfl⟩ := List.exists_cons_of_ne_nil hfirst
      intro hslash
      obtain rfl : c = '/' := Option.some.inj hslash
      exact hown.slashless _ List.mem_cons_self List.mem_cons_self
    have hall : Segments (base.dropLast ++ first :: rest) := by
      refine ⟨fun s hmem => ?_, fun s hmem => ?_⟩
      · exact (List.mem_append.mp hmem).elim
          (fun hkept => hbase.slashless s (List.dropLast_subset _ hkept)) (hown.slashless s)
      · rw [List.dropLast_append_of_ne_nil (List.cons_ne_nil _ _)] at hmem
        exact (List.mem_append.mp hmem).elim (hbase.inner s) (hown.inner s)
    refine ⟨base.dropLast ++ first :: rest, by simp, hall, ?_, ?_, ?_⟩
    · intro s hmem
      exact (List.mem_append.mp hmem).elim
        (fun hkept => hsafe s (List.dropLast_subset _ hkept)) (hunreserved s)
    · rw [Reference.mergePaths_eq, if_neg hhead, join_cons, pieces_segments hown.slashless,
        Reference.dropInnerEmpty_base hbase hown (List.cons_ne_nil _ _)]
    · rw [Rfc3986.targetPath, if_neg hhead, Reference.merge_slashed hbase.slashless,
        Rfc3986.removeDotSegments_slashed hall.slashless]

/-! ## Section 2: URLs with a host name and nothing before it -/

/-- A character of a host name. -/
def isHostChar (c : Char) : Bool := c.isLower || c.isDigit || c == '-' || c == '.'

/-- A host name: a lower-case letter, and further ones, digits, hyphens and points. -/
structure IsHostName (host : List Char) : Prop where
  first : host.head?.any Char.isLower = true
  chars : ∀ c ∈ host, isHostChar c = true

theorem ascii_of_isHostChar {c : Char} (hc : isHostChar c = true) : c.toNat < 128 := by
  apply Url.toNat_lt_of_isSchemeChar
  show (c.isUpper || c.isLower || c.isDigit || c == '+' || c == '.' || c == '-') = true
  simp only [isHostChar, Bool.or_eq_true] at hc ⊢
  tauto

/-- Such a character is sent as it is, and is no mark of an authority. -/
theorem of_isHostChar {c : Char} (hc : isHostChar c = true) :
    Url.hostSafe c = true ∧ c.toLower = c ∧ Url.isDivider c = false ∧ c ∉ ['[', ']', ':'] :=
  Text.ascii_forall (P := fun c => isHostChar c = true → Url.hostSafe c = true ∧ c.toLower = c ∧
    Url.isDivider c = false ∧ c ∉ ['[', ']', ':']) (by decide +kernel) (ascii_of_isHostChar hc) hc

theorem not_delimiterLike {c : Char} (hc : isHostChar c = true) : c.toNat ∉ Url.delimiterLike := by
  have hall : ∀ n ∈ Url.delimiterLike, 128 ≤ n := by decide +kernel
  intro hmem
  have hlarge := hall _ hmem
  have hascii := ascii_of_isHostChar hc
  omega

namespace IsHostName

variable {host : List Char}

theorem ne_nil (hh : IsHostName host) : host ≠ [] := by
  rintro rfl
  exact absurd hh.first Bool.false_ne_true

theorem settled (hh : IsHostName host) : SettledHost host :=
  .of_lower fun c hc => ⟨(of_isHostChar (hh.chars c hc)).1, (of_isHostChar (hh.chars c hc)).2.1⟩

theorem not_mem (hh : IsHostName host) {c : Char} (hc : c ∈ ['[', ']', ':']) : c ∉ host :=
  fun hmem => (of_isHostChar (hh.chars c hmem)).2.2.2 hc

/-- A host name is read as it is written. -/
theorem normalHost_eq (hh : IsHostName host) : Url.normalHost host = .ok host := by
  have hlower : host.map Char.toLower = host :=
    Url.map_toLower_eq_self fun c hc => (of_isHostChar (hh.chars c hc)).2.1
  have hletters : Url.looksLikeIPv4 host = false := by
    rw [← Bool.not_eq_true]
    intro hdigits
    obtain ⟨c, rest, rfl⟩ := List.exists_cons_of_ne_nil hh.ne_nil
    have hfirst : c.isLower = true → c ≠ '.' ∧ c.isDigit = false :=
      Text.ascii_forall (P := fun c => c.isLower = true → c ≠ '.' ∧ c.isDigit = false)
        (by decide +kernel) (ascii_of_isHostChar (hh.chars c List.mem_cons_self))
    obtain ⟨hpoint, hdigit⟩ := hfirst hh.first
    rcases Url.of_looksLikeIPv4 hdigits c List.mem_cons_self with hc | hc
    · exact hpoint hc
    · rw [hdigit] at hc
      exact Bool.false_ne_true hc
  rw [Url.normalHost_name hh.ne_nil (fun c hc => (of_isHostChar (hh.chars c hc)).1) hletters,
    hlower]

theorem undivided (hh : IsHostName host) : Url.Undivided host :=
  fun c hc => (of_isHostChar (hh.chars c hc)).2.2.1

theorem authorityEnds (hh : IsHostName host) : ∀ c ∈ host, c ∉ Url.authorityEnds := by
  intro c hc hend
  have hdivider := hh.undivided c hc
  have hall : ∀ d ∈ Url.authorityEnds, Url.isDivider d = true := List.all_eq_true.mp (by decide)
  rw [hall c hend] at hdivider
  exact absurd hdivider nofun

/-- Nothing in it upsets the check of a written authority. -/
theorem checkBrackets (hh : IsHostName host) :
    Reference.checkBrackets host = .ok () ∧
      (host.any fun c => Url.delimiterLike.contains c.toNat) = false := by
  have hopen : host.contains '[' = false := by
    rw [← Bool.not_eq_true, List.contains_iff_mem]
    exact hh.not_mem (by decide)
  have hclose : host.contains ']' = false := by
    rw [← Bool.not_eq_true, List.contains_iff_mem]
    exact hh.not_mem (by decide)
  constructor
  · unfold Reference.checkBrackets
    rw [hopen, hclose]
    rfl
  · rw [List.any_eq_false]
    intro c hc
    rw [List.contains_iff_mem]
    exact not_delimiterLike (hh.chars c hc)

end IsHostName

/-- A URL with a host name, and without user information, port and fragment. -/
def hosted (scheme host path : List Char) (query : Option (List Char)) : Url :=
  ⟨scheme, [], host, none, path, query, none⟩

variable {scheme host path : List Char} {query : Option (List Char)}

theorem isScheme_of_web (hs : scheme = "http".toList ∨ scheme = "https".toList) :
    IsScheme scheme ∧ scheme.map Char.toLower = scheme := by
  rcases hs with rfl | rfl <;>
    exact ⟨⟨by decide, List.all_eq_true.mp (by decide)⟩, by decide⟩

theorem hosted_authority (hh : IsHostName host) :
    (hosted scheme host path query).authority = host := by
  have hcolon : ¬ host.contains ':' = true := by
    rw [List.contains_iff_mem]
    exact hh.not_mem (by decide)
  unfold Url.authority Url.hostAndPort Url.hostText hosted
  simp only [List.isEmpty_nil, if_true, List.nil_append, if_neg hcolon, List.append_nil]

theorem hosted_isAbsolute (hs : scheme = "http".toList ∨ scheme = "https".toList)
    (hh : IsHostName host) : (hosted scheme host path query).isAbsolute = true :=
  Url.isAbsolute_eq_true.mpr ⟨(isScheme_of_web hs).1.ne_nil, hh.ne_nil⟩

theorem hosted_clean (hs : scheme = "http".toList ∨ scheme = "https".toList)
    (hh : IsHostName host) (hpath : ∀ c ∈ path, pathSafe c = true) (hrooted : Stops ['/'] path)
    (hquery : ∀ q, query = some q → ∀ c ∈ q, querySafe c = true) :
    Clean (hosted scheme host path query) where
  scheme := .inr (isScheme_of_web hs)
  userinfo := nofun
  host := hh.undivided
  path := hpath
  rooted := fun _ => hrooted
  colonless := fun hnone _ => absurd hnone (isScheme_of_web hs).1.ne_nil
  settled := hh.settled
  port := nofun
  query := hquery
  fragment := nofun

/-- Such a URL is written with all its parts in their order. -/
theorem hosted_chars (hs : scheme = "http".toList ∨ scheme = "https".toList)
    (hh : IsHostName host) : (hosted scheme host path query).chars
      = scheme ++ ':' :: '/' :: '/' :: (host ++ (path ++ Url.marked '?' query)) := by
  have hnamed : (hosted scheme host path query).authority ≠ [] := by
    rw [hosted_authority hh]
    exact hh.ne_nil
  rw [Url.chars_of_ne (isScheme_of_web hs).1.ne_nil, Url.afterScheme_of_ne hnamed,
    hosted_authority hh, Url.afterAuthority]
  simp [hosted, Url.marked]

/-- Reading such a text removes the dot segments of its path. -/
theorem hosted_parse (hs : scheme = "http".toList ∨ scheme = "https".toList)
    (hh : IsHostName host) (hc : Clean (hosted scheme host path query))
    (hlength : (hosted scheme host path query).chars.length ≤ Url.maxLength) :
    Url.parse (hosted scheme host path query).chars
      = .ok (hosted scheme host (Url.removeDots path) query) := by
  have hcolon : ¬ host.contains ':' = true := by
    rw [List.contains_iff_mem]
    exact hh.not_mem (by decide)
  have htext : (hosted scheme host path query).hostText = host := if_neg hcolon
  rw [hc.parse_chars (hosted_isAbsolute hs hh) hlength, htext, hh.normalHost_eq]
  rfl

/-! ## Section 3: Reading and resolving -/

/-- A text of slashes and unreserved characters. -/
def IsPlain (cs : List Char) : Prop := ∀ c ∈ cs, c = '/' ∨ isUnreserved c = true

theorem safe_of_isUnreserved {c : Char} (hc : isUnreserved c = true) :
    pathSafe c = true ∧ querySafe c = true :=
  Text.ascii_forall (P := fun c => isUnreserved c = true → pathSafe c = true ∧ querySafe c = true)
    (by decide +kernel) (Url.ascii_of_hostSafe (by rw [Url.hostSafe, hc, Bool.true_or])) hc

theorem IsPlain.pathSafe {cs : List Char} (hcs : IsPlain cs) : ∀ c ∈ cs, pathSafe c = true := by
  intro c hc
  rcases hcs c hc with rfl | hunreserved
  · decide
  · exact (safe_of_isUnreserved hunreserved).1

theorem IsPlain.not_mem {cs : List Char} (hcs : IsPlain cs) {c : Char}
    (hc : c ∈ ['#', '?', ';', ':']) : c ∉ cs := by
  have hall : ∀ d ∈ ['#', '?', ';', ':'], (d != '/' && !isUnreserved d) = true :=
    List.all_eq_true.mp (by decide)
  intro hmem
  have hnone := hall c hc
  rcases hcs c hmem with rfl | hunreserved
  · cases hnone
  · rw [hunreserved, Bool.not_true, Bool.and_false] at hnone
    cases hnone

theorem IsPathReference.plain {reference : List Char} (hr : IsPathReference reference) :
    IsPlain reference ∧ reference ≠ [] ∧ Url.startsWith ['/', '/'] reference = false := by
  obtain ⟨first, rest, hwritten, hsegments, hfirst, hunreserved⟩ := hr.segments
  have hplain := mem_slashed hunreserved
  obtain ⟨c, s, rfl⟩ := List.exists_cons_of_ne_nil hfirst
  have hslash : '/' ≠ c := fun h =>
    isUnreserved_ne_slash (hunreserved _ List.mem_cons_self c List.mem_cons_self) h.symm
  rcases hwritten with rfl | rfl
  · exact ⟨hplain, List.cons_ne_nil _ _, by simp [Url.startsWith, List.isPrefixOf, hslash]⟩
  · rw [join_cons]
    refine ⟨fun d hd => hplain d ?_, List.cons_ne_nil _ _,
      by simp [Url.startsWith, List.isPrefixOf, hslash]⟩
    rw [slashed_cons]
    exact List.mem_cons_of_mem '/' hd

theorem IsBasePath.plain {path : List Char} (hp : IsBasePath path) :
    IsPlain path ∧ Stops ['/'] path := by
  obtain ⟨segments, rfl, -, hunreserved, -⟩ := hp.segments
  exact ⟨mem_slashed hunreserved, stops_slashed segments⟩

theorem IsPlain.schemeless {cs : List Char} (hcs : IsPlain cs) : Schemeless cs := by
  have hcolon : ':' ∉ cs := hcs.not_mem (by decide)
  refine ⟨fun hhead => hcolon (List.mem_of_mem_head? hhead), ?_⟩
  rintro s rest - rfl
  exact hcolon (List.mem_append_right s List.mem_cons_self)

/-- A path reference has no authority. -/
theorem IsPathReference.splitAuthority_eq {reference : List Char} (hr : IsPathReference reference) :
    Url.splitAuthority reference = ([], reference) := by
  have hslashes := hr.plain.2.2
  rcases Url.splitAuthority_cases reference with ⟨_, _, heq, -, -, -⟩ | ⟨-, hsplit⟩
  · rw [heq] at hslashes
    exact absurd hslashes (by simp [Url.startsWith])
  · exact hsplit

/-- A path reference is read as a path. -/
theorem IsPathReference.parse {reference : List Char} (hr : IsPathReference reference)
    (hlength : reference.length ≤ Url.maxLength) :
    Url.parse reference = .ok ⟨[], [], [], none, reference, none, none⟩ := by
  obtain ⟨hplain, -, hslashes⟩ := hr.plain
  have hprintable : Url.Printable reference :=
    Url.printable_of_safe (by decide +kernel) hplain.pathSafe
  have hmarks : ∀ c ∈ reference, c ∉ ['?', '#'] := Url.not_mem_of_safe (by decide) hplain.pathSafe
  have hspan : Url.spanUntil ['?', '#'] (reference ++ []) = (reference, []) :=
    Url.spanUntil_append hmarks nofun
  rw [List.append_nil] at hspan
  have hsplit : Url.Split.ofChars reference = ⟨[], [], reference, none, none⟩ := by
    unfold Url.Split.ofChars
    rw [Url.splitScheme_schemeless hplain.schemeless]
    dsimp only
    rw [hr.splitAuthority_eq]
    dsimp only
    rw [hspan]
    rfl
  have hcolon : Url.startsWith [':'] reference = false := by
    rw [← Bool.not_eq_true]
    intro hprefix
    obtain ⟨rest, rfl⟩ := List.isPrefixOf_iff_prefix.mp hprefix
    exact hplain.not_mem (by decide) List.mem_cons_self
  have hchecked : Url.checkPath false false reference = .ok () := by
    simp [Url.checkPath, hslashes, hcolon]
  have hencoded : Url.encode pathSafe reference = reference := Url.encode_eq_self hplain.pathSafe
  unfold Url.parse
  rw [if_neg (by omega), Url.findControl_eq_none.mpr hprintable]
  dsimp only
  rw [hsplit]
  show Url.assemble ⟨[], [], reference, none, none⟩ [] [] [] = _
  unfold Url.assemble
  show ((Url.checkPath false false reference).bind fun _ => Except.ok (⟨[], [], [], none,
    Url.encode pathSafe reference, none, none⟩ : Url)) = _
  rw [hchecked, hencoded]
  rfl

namespace Reference

theorem splitParams_of_not_mem {path : List Char} (hpath : ';' ∉ path) :
    splitParams path = (path, []) := by
  unfold splitParams
  rcases Text.cutLast_cases '/' path with ⟨-, hcut⟩ | ⟨before, last, rfl, -, hcut⟩
  · rw [hcut]
    dsimp only
    rw [Text.cut_of_not_mem hpath]
  · have hlast : ';' ∉ last := fun hmem =>
      hpath (List.mem_append_right before (List.mem_cons_of_mem '/' hmem))
    rw [hcut]
    dsimp only
    rw [Text.cut_of_not_mem hlast]

/-- What stands behind the authority is split into a path and a query. -/
theorem ofChars_plain {inherited cs rest scheme authority path : List Char}
    {query : Option (List Char)} (hscheme : splitScheme inherited cs = (scheme, rest))
    (hauthority : Url.splitAuthority rest = (authority, path ++ Url.marked '?' query))
    (hpath : IsPlain path) (hquery : ∀ q, query = some q → ∀ c ∈ q, isUnreserved c = true) :
    ofChars inherited cs = ⟨scheme, authority, path, [], query.getD [], []⟩ := by
  have hhash : '#' ∉ path ++ Url.marked '?' query := by
    intro hmem
    rcases List.mem_append.mp hmem with hp | hq
    · exact hpath.not_mem (by decide) hp
    · cases query with
      | none => exact absurd hq List.not_mem_nil
      | some q =>
        rcases List.mem_cons.mp hq with hmark | hrest
        · exact absurd hmark (by decide)
        · exact absurd (hquery q rfl '#' hrest) (by decide)
  unfold ofChars
  rw [hscheme]
  dsimp only
  rw [hauthority]
  dsimp only
  rw [Text.cut_of_not_mem hhash]
  dsimp only
  rw [cut_marked (hpath.not_mem (by decide)), splitParams_of_not_mem (hpath.not_mem (by decide)),
    ite_self]
  rfl

theorem read_of_checked {inherited cs : List Char} {r : Reference} (hr : ofChars inherited cs = r)
    (hbrackets : checkBrackets r.authority = .ok ())
    (hplain : (r.authority.any fun c => Url.delimiterLike.contains c.toNat) = false) :
    read inherited cs = .ok r := by
  unfold read
  rw [hr]
  dsimp only
  rw [hbrackets]
  show (if (r.authority.any fun c => Url.delimiterLike.contains c.toNat) = true then
    throw _ else pure r : Except UrlFault Reference) = _
  rw [hplain]
  rfl

/-- A path reference is resolved against a URL with a host name as the standard says. -/
theorem resolve_hosted {scheme host path reference : List Char} {query : Option (List Char)}
    (hs : scheme = "http".toList ∨ scheme = "https".toList) (hh : IsHostName host)
    (hp : IsBasePath path) (hq : ∀ q, query = some q → ∀ c ∈ q, isUnreserved c = true)
    (hr : IsPathReference reference) :
    resolve (hosted scheme host path query).chars reference
      = .ok (hosted scheme host (Rfc3986.targetPath path reference) none).chars := by
  obtain ⟨hpath, hrooted⟩ := hp.plain
  obtain ⟨hplain, hne, -⟩ := hr.plain
  have hscheme := (isScheme_of_web hs).1
  have htail : Stops authorityEnds (path ++ Url.marked '?' query) :=
    hrooted.rooted ((Url.stops_of_marked '?' query).mono (by simp))
  have hbase : ofChars [] (hosted scheme host path query).chars
      = ⟨scheme, host, path, [], query.getD [], []⟩ := by
    apply ofChars_plain _ (Url.splitAuthority_append hh.authorityEnds htail) hpath hq
    rw [hosted_chars hs hh, splitScheme_append [] hscheme, (isScheme_of_web hs).2]
  have hown : ofChars scheme reference = ⟨scheme, [], reference, [], [], []⟩ := by
    refine ofChars_plain (splitScheme_schemeless scheme hplain.schemeless)
      (show _ = ([], reference ++ Url.marked '?' none) from ?_) hplain nofun
    rw [hr.splitAuthority_eq, Url.marked, List.append_nil]
  have hreadBase := read_of_checked hbase hh.checkBrackets.1 hh.checkBrackets.2
  have hreadOwn := read_of_checked hown rfl rfl
  obtain ⟨segments, hsegments, hinner, -, hmerged, htarget⟩ := targetPath_eq hp hr
  -- all that is left of the resolution is the merged path, behind the authority of the base
  have hresolved : resolveParts ⟨scheme, host, path, [], query.getD [], []⟩
      ⟨scheme, [], reference, [], [], []⟩ reference
        = (⟨scheme, host, mergePaths path reference, [], [], []⟩ : Reference).chars := by
    have hpresent : ¬ (reference.isEmpty && List.isEmpty ([] : List Char)) = true := by
      rw [List.isEmpty_nil, Bool.and_true, List.isEmpty_iff]
      exact hne
    rw [resolveParts_eq (b := ⟨scheme, host, path, [], query.getD [], []⟩)
      (r := ⟨scheme, [], reference, [], [], []⟩) reference rfl (Url.isHierarchical_of_web hs),
      if_pos rfl, resolveIn, if_neg hpresent]
  have hpathText : (⟨scheme, host, mergePaths path reference, [], [], []⟩ : Reference).rootedPath
      = Rfc3986.targetPath path reference := by
    rw [htarget, ← settled_rooted hinner hsegments, rootedPath, pathAndParams, marked,
      List.isEmpty_nil, if_pos rfl, List.append_nil, hmerged]
  have hnonempty : ¬ (hosted scheme host path query).chars.isEmpty = true := by
    rw [hosted_chars hs hh, List.isEmpty_iff]
    exact List.append_ne_nil_of_right_ne_nil _ (List.cons_ne_nil _ _)
  have hwritten : ¬ reference.isEmpty = true := by rwa [List.isEmpty_iff]
  unfold resolve
  rw [if_neg hnonempty, if_neg hwritten, hreadBase]
  show (read scheme reference >>= fun r => pure (resolveParts _ r reference)) = _
  rw [hreadOwn]
  show Except.ok (resolveParts _ _ reference) = _
  rw [hresolved, chars_eq hscheme.ne_nil hh.ne_nil, hosted_chars hs hh, hpathText]
  rfl

end Reference

/-- A path without dot segments keeps all its segments. -/
theorem removeDots_slashed {segments : List (List Char)} (hs : Slashless segments)
    (hdots : ∀ s ∈ segments, ¬ IsDot s) :
    Url.removeDots (slashed segments) = slashed segments := by
  have hnone : ¬ ((([] : List Char) :: segments).contains ['.']
      || ([] :: segments).contains ['.', '.']) = true := by
    rw [Bool.or_eq_true, List.contains_iff_mem, List.contains_iff_mem]
    rintro (hmem | hmem)
    · exact hdots _ ((List.mem_cons.mp hmem).resolve_left (by decide)) (.inl rfl)
    · exact hdots _ ((List.mem_cons.mp hmem).resolve_left (by decide)) (.inr rfl)
  unfold Url.removeDots
  rw [pieces_slashed hs]
  exact if_neg hnone

theorem IsBasePath.removeDots_eq {path : List Char} (hp : IsBasePath path) :
    Url.removeDots path = path := by
  obtain ⟨segments, rfl, hsegments, -, hdots⟩ := hp.segments
  exact removeDots_slashed hsegments.slashless hdots

/-- The path of a target is plain, begins with a slash and has no dot segments. -/
theorem targetPath_settled {path reference : List Char} (hp : IsBasePath path)
    (hr : IsPathReference reference) :
    IsPlain (Rfc3986.targetPath path reference) ∧
      Stops ['/'] (Rfc3986.targetPath path reference) ∧
      Url.removeDots (Rfc3986.targetPath path reference) = Rfc3986.targetPath path reference := by
  obtain ⟨segments, -, hsegments, hunreserved, -, htarget⟩ := targetPath_eq hp hr
  have hmem : ∀ s ∈ (settle [] segments).reverse, s = [] ∨ s ∈ segments := fun s hs =>
    (mem_settle (List.mem_reverse.mp hs)).imp_right
      fun h => h.resolve_left List.not_mem_nil
  rw [htarget]
  refine ⟨mem_slashed fun s hs => ?_, stops_slashed _, removeDots_slashed (fun s hs => ?_) ?_⟩
  · rcases hmem s hs with rfl | hsegment
    · exact nofun
    · exact hunreserved s hsegment
  · rcases hmem s hs with rfl | hsegment
    · exact List.not_mem_nil
    · exact hsegments.slashless s hsegment
  · intro s hs
    have hempty : ∀ p ∈ ([] : List (List Char)), ¬ IsDot p := fun p hp =>
      absurd hp List.not_mem_nil
    exact not_isDot_of_mem_settle hempty (List.mem_reverse.mp hs)

/-- A path reference that is met under a URL with a host name resolves to scheme and host of
    that URL, and to the path that RFC 3986 gives: the merged paths without their dot
    segments.  The query of the URL is dropped. -/
theorem resolveLocation_eq_targetPath {scheme host path reference : List Char}
    {query : Option (List Char)} (hs : scheme = "http".toList ∨ scheme = "https".toList)
    (hh : IsHostName host) (hp : IsBasePath path)
    (hq : ∀ q, query = some q → ∀ c ∈ q, isUnreserved c = true) (hr : IsPathReference reference)
    (hbase : (scheme ++ "://".toList ++ host ++ path ++ Url.marked '?' query).length
      ≤ Url.maxLength)
    (hreference : reference.length ≤ Url.maxLength)
    (hjoined : (scheme ++ "://".toList ++ host ++ Rfc3986.targetPath path reference).length
      ≤ Url.maxLength) :
    resolveLocation
        (String.ofList (scheme ++ "://".toList ++ host ++ path ++ Url.marked '?' query))
        (String.ofList reference)
      = .ok (String.ofList
          (scheme ++ "://".toList ++ host ++ Rfc3986.targetPath path reference)) := by
  obtain ⟨hplain, hrooted⟩ := hp.plain
  obtain ⟨htarget, htargetRooted, htargetSettled⟩ := targetPath_settled hp hr
  have hwritten : ∀ (path : List Char) (query : Option (List Char)),
      scheme ++ "://".toList ++ host ++ path ++ Url.marked '?' query
        = (hosted scheme host path query).chars := by
    intro path query
    rw [hosted_chars hs hh]
    simp
  have hresult : scheme ++ "://".toList ++ host ++ Rfc3986.targetPath path reference
      = (hosted scheme host (Rfc3986.targetPath path reference) none).chars := by
    rw [← hwritten, Url.marked, List.append_nil]
  have hcleanBase : Clean (hosted scheme host path query) :=
    hosted_clean hs hh hplain.pathSafe hrooted
      fun q hmem c hc => (safe_of_isUnreserved (hq q hmem c hc)).2
  have hcleanTarget : Clean (hosted scheme host (Rfc3986.targetPath path reference) none) :=
    hosted_clean hs hh htarget.pathSafe htargetRooted fun _ hnone => by cases hnone
  rw [hwritten] at hbase ⊢
  rw [hresult] at hjoined ⊢
  have hreadBase := hosted_parse hs hh hcleanBase hbase
  have hreadTarget := hosted_parse hs hh hcleanTarget hjoined
  rw [hp.removeDots_eq] at hreadBase
  rw [htargetSettled] at hreadTarget
  -- the location is relative, and is joined as it is written
  have hjoin : (hosted scheme host path query).join ⟨[], [], [], none, reference, none, none⟩
      = .ok (hosted scheme host (Rfc3986.targetPath path reference) none) := by
    have hchars : (⟨[], [], [], none, reference, none, none⟩ : Url).chars = reference := by
      simp [Url.chars, Url.authority, Url.hostAndPort, Url.hostText, Url.marked]
    unfold Url.join
    rw [hchars, Reference.resolve_hosted hs hh hp hq hr]
    exact hreadTarget
  unfold resolveLocation
  rw [String.toList_ofList, String.toList_ofList, hr.parse hreference, hreadBase]
  show ((hosted scheme host path query).join ⟨[], [], [], none, reference, none, none⟩ >>= _) = _
  rw [hjoin]
  rfl

/-- More dot segments than there is to leave, and one at the end: the path is left with a
    slash at both ends. -/
theorem resolveLocation_eq_targetPath_surplus :
    let host := "h-1.example".toList
    let path := "/a/b/c".toList
    let reference := "../.././../../d/./e/..".toList
    IsHostName host ∧ IsBasePath path ∧ IsPathReference reference ∧
      Rfc3986.targetPath path reference = "/d/".toList ∧
      resolveLocation "https://h-1.example/a/b/c?k" "../.././../../d/./e/.."
        = .ok "https://h-1.example/d/" := by
  intro host path reference
  have hh : IsHostName host := ⟨by decide, List.all_eq_true.mp (by decide)⟩
  have hp : IsBasePath path :=
    ⟨["a", "b", "c"].map String.toList, false, by decide, by decide⟩
  have hr : IsPathReference reference :=
    ⟨false, false, "..".toList, ["..", ".", "..", "..", "d", ".", "e", ".."].map String.toList,
      by decide, by decide⟩
  have htarget : Rfc3986.targetPath path reference = "/d/".toList := by decide +kernel
  refine ⟨hh, hp, hr, htarget, ?_⟩
  have hquery : ∀ q, some ['k'] = some q → ∀ c ∈ q, isUnreserved c = true := by
    rintro q ⟨⟩
    exact List.all_eq_true.mp (by decide)
  have hresolved := resolveLocation_eq_targetPath (.inr rfl) hh hp hquery hr (by decide +kernel)
    (by decide) (by decide +kernel)
  rw [htarget] at hresolved
  exact hresolved

end Redial
