import Redial.Proofs.Url.Hosts

/-! # Reading what was written

    A URL with a scheme and a host is written and read again.  Its text is split into the
    parts that it was written from (`ofChars_chars`), and of these the scheme, the user
    information, the query and the fragment are in normal form already.  So only three
    parts can change: the host loses the capitals of its escapes, the port is dropped if
    it is the default one, and dot segments are removed from the path (`parse_chars`).

    None of this makes the text longer.  What was read from a written URL can therefore be
    written and read once more, which `Clean.reread` says. -/

namespace Redial.Url

/-! ## Section 1: Segments -/

theorem mem_join_of_mem {sep c : Char} {p : List Char} {ps : List (List Char)} (hp : p ∈ ps)
    (hc : c ∈ p) : c ∈ Text.join sep ps := by
  induction ps with
  | nil => exact absurd hp List.not_mem_nil
  | cons q ps ih =>
    by_cases hps : ps = []
    · subst hps
      rwa [← List.mem_singleton.mp hp]
    · rw [Text.join_cons_of_ne_nil sep q hps]
      rcases List.mem_cons.mp hp with rfl | hrest
      · exact List.mem_append_left _ hc
      · exact List.mem_append_right _ (List.mem_cons_of_mem sep (ih hrest))

/-- A piece of a text is made of its characters. -/
theorem mem_of_mem_pieces {sep c : Char} {p cs : List Char} (hp : p ∈ Text.pieces sep cs)
    (hc : c ∈ p) : c ∈ cs := by
  rw [← Text.join_pieces sep cs]
  exact mem_join_of_mem hp hc

/-- The characters of segments, with a separator for each. -/
def weight (ps : List (List Char)) : Nat := (ps.map fun p => p.length + 1).sum

theorem length_join (sep : Char) {ps : List (List Char)} (hps : ps ≠ []) :
    (Text.join sep ps).length + 1 = weight ps := by
  induction ps with
  | nil => exact absurd rfl hps
  | cons p ps ih =>
    by_cases hrest : ps = []
    · subst hrest
      simp [Text.join, weight]
    · have hlength := ih hrest
      rw [Text.join_cons_of_ne_nil sep p hrest, List.length_append, List.length_cons]
      simp only [weight, List.map_cons, List.sum_cons] at hlength ⊢
      omega

theorem weight_takeSegment (stack : List (List Char)) (segment : List Char) :
    weight (takeSegment stack segment) ≤ weight stack + (segment.length + 1) := by
  have hdrop : weight (stack.drop 1) ≤ weight stack := by
    cases stack with
    | nil => exact Nat.le_refl _
    | cons p stack => simp [weight]
  unfold takeSegment
  by_cases hhere : segment = ['.']
  · rw [if_pos hhere]
    omega
  · rw [if_neg hhere]
    by_cases hup : segment = ['.', '.']
    · rw [if_pos hup]
      split <;> omega
    · rw [if_neg hup]
      simp only [weight, List.map_cons, List.sum_cons]
      omega

theorem weight_takeSegments (stack segments : List (List Char)) :
    weight (segments.foldl takeSegment stack) ≤ weight stack + weight segments := by
  induction segments generalizing stack with
  | nil => exact Nat.le_add_right _ _
  | cons segment segments ih =>
    have hfirst := weight_takeSegment stack segment
    have hrest := ih (takeSegment stack segment)
    simp only [weight, List.map_cons, List.sum_cons, List.foldl_cons] at hfirst hrest ⊢
    omega

/-- Removing dot segments makes no path longer. -/
theorem length_removeDots (path : List Char) : (removeDots path).length ≤ path.length := by
  unfold removeDots
  dsimp only
  split
  · generalize hstack : (Text.pieces '/' path).foldl takeSegment [] = stack
    by_cases hempty : stack = []
    · rw [hempty]
      exact Nat.zero_le _
    -- the path and what is kept of it are weighed with their segments
    · have hjoin := length_join '/' (mt List.reverse_eq_nil_iff.mp hempty)
      have hpath := length_join '/' (Text.pieces_ne_nil '/' path)
      have hkept := weight_takeSegments [] (Text.pieces '/' path)
      have hreverse : weight stack.reverse = weight stack := by
        unfold weight
        rw [List.map_reverse, List.sum_reverse]
      rw [Text.join_pieces] at hpath
      rw [hstack] at hkept
      have hnone : weight [] = 0 := rfl
      omega
  · exact Nat.le_refl _

/-- Segments that are taken onto a stack one by one, however they are taken. -/
theorem mem_foldl_take {take : List (List Char) → List Char → List (List Char)}
    (htake : ∀ stack segment, ∀ p ∈ take stack segment, p = segment ∨ p ∈ stack)
    {stack segments : List (List Char)} {p : List Char} (hp : p ∈ segments.foldl take stack) :
    p ∈ stack ∨ p ∈ segments := by
  induction segments generalizing stack with
  | nil => exact .inl hp
  | cons segment segments ih =>
    rcases ih hp with hfirst | hrest
    · rcases htake stack segment p hfirst with rfl | hstack
      · exact .inr List.mem_cons_self
      · exact .inl hstack
    · exact .inr (List.mem_cons_of_mem segment hrest)

theorem mem_takeSegment (stack : List (List Char)) (segment : List Char) :
    ∀ p ∈ takeSegment stack segment, p = segment ∨ p ∈ stack := by
  intro p hp
  unfold takeSegment at hp
  by_cases hhere : segment = ['.']
  · rw [if_pos hhere] at hp
    exact .inr hp
  · rw [if_neg hhere] at hp
    by_cases hup : segment = ['.', '.']
    · rw [if_pos hup] at hp
      split at hp
      · exact .inr hp
      · exact .inr (List.mem_of_mem_drop hp)
    · rw [if_neg hup] at hp
      exact List.mem_cons.mp hp

theorem pathSafe_removeDots {path : List Char} (hpath : ∀ c ∈ path, pathSafe c = true) :
    ∀ c ∈ removeDots path, pathSafe c = true := by
  intro c hc
  unfold removeDots at hc
  dsimp only at hc
  split at hc
  · rcases mem_join hc with rfl | ⟨p, hp, hmem⟩
    · decide
    · rcases mem_foldl_take mem_takeSegment (List.mem_reverse.mp hp) with hnone | hpiece
      · exact absurd hnone List.not_mem_nil
      · exact hpath c (mem_of_mem_pieces hpiece hmem)
  · exact hpath c hc

/-! ## Section 2: Clean URLs -/

/-- What reading ensures of all parts: they are in normal form, but for what `parse_chars`
    says. -/
structure Clean (u : Url) : Prop extends WellMade u where
  settled : SettledHost u.host
  port : ∀ n, u.port = some n → n.natAbs < 10 ^ maxDigits
  query : ∀ q, u.query = some q → ∀ c ∈ q, querySafe c = true
  fragment : ∀ f, u.fragment = some f → ∀ c ∈ f, fragmentSafe c = true

theorem safeSet_query : SafeSet querySafe := by unfold SafeSet; decide

theorem safeSet_fragment : SafeSet fragmentSafe := by unfold SafeSet; decide

/-- A text that is read is not too long, and has no control characters. -/
theorem of_parse {cs : List Char} {u : Url} (hu : parse cs = .ok u) :
    cs.length ≤ maxLength ∧ Printable cs := by
  unfold parse at hu
  split at hu
  · exact absurd hu nofun
  · next hlength =>
    split at hu
    · exact absurd hu nofun
    · next hcontrol => exact ⟨Nat.le_of_not_lt hlength, findControl_eq_none.mp hcontrol⟩

theorem mem_of_mem_splitScheme {c : Char} {cs : List Char} (hc : c ∈ (splitScheme cs).2) :
    c ∈ cs := by
  rcases splitScheme_cases cs with ⟨s, rest, -, rfl, hsplit⟩ | ⟨rest, rfl, hsplit⟩ | ⟨-, hsplit⟩
  · rw [hsplit] at hc
    exact List.mem_append_right s (List.mem_cons_of_mem ':' hc)
  · rw [hsplit] at hc
    exact List.mem_cons_of_mem ':' hc
  · rwa [hsplit] at hc

theorem mem_of_mem_splitAuthority {c : Char} {cs : List Char} (hc : c ∈ (splitAuthority cs).1) :
    c ∈ cs := by
  rcases splitAuthority_cases cs with ⟨authority, rest, rfl, -, -, hsplit⟩ | ⟨-, hsplit⟩
  · rw [hsplit] at hc
    simp [hc]
  · rw [hsplit] at hc
    exact absurd hc List.not_mem_nil

/-- The host is made of characters of its authority. -/
theorem mem_of_mem_splitHost {c : Char} {authority : List Char}
    (hc : c ∈ (splitHost authority).2.1) : c ∈ authority := by
  apply (not_mem_afterUserinfo authority).2
  rcases splitHost_cases authority with ⟨address, after, hsplit, hhost⟩ | hhost
  · rw [hhost] at hc
    rw [hsplit]
    simp only [List.cons_append, List.mem_cons, List.mem_append, List.not_mem_nil, or_false] at hc ⊢
    tauto
  · rw [hhost] at hc
    obtain ⟨part, rest, hsplit, -, -, hspan⟩ :=
      spanUntil_cases [':', '@'] (Text.cutLast '@' authority).2
    rw [hspan] at hc
    rw [hsplit]
    exact List.mem_append_left rest hc

theorem clean_of_parse {cs : List Char} {u : Url} (hu : parse cs = .ok u) : Clean u := by
  have hmade := made_of_parse hu
  have hprintable : Printable (splitHost (Split.ofChars cs).authority).2.1 := by
    apply (of_parse hu).2.subset
    intro c hc
    exact mem_of_mem_splitScheme (mem_of_mem_splitAuthority (mem_of_mem_splitHost hc))
  refine { wellMade_of_parse hu with
    settled := settled_of_normalHost hprintable hmade.host
    port := ?port
    query := ?query
    fragment := ?fragment }
  case port =>
    intro n hn
    apply natAbs_lt_of_normalPort
    rw [hmade.port, hn]
  case query =>
    intro q hq c hc
    rw [hmade.query] at hq
    obtain ⟨part, -, rfl⟩ := Option.map_eq_some_iff.mp hq
    exact safe_of_mem_encode safeSet_query hc
  case fragment =>
    intro f hf c hc
    rw [hmade.fragment] at hf
    obtain ⟨part, -, rfl⟩ := Option.map_eq_some_iff.mp hf
    exact safe_of_mem_encode safeSet_fragment hc

/-! ## Section 3: Splitting a written URL -/

variable {u : Url}

/-- Safe characters are none of the marks that have to be encoded. -/
theorem not_mem_of_safe {safe : Char → Bool} {marks cs : List Char}
    (hmarks : marks.all (fun d => !safe d) = true) (hcs : ∀ c ∈ cs, safe c = true) :
    ∀ c ∈ cs, c ∉ marks := by
  intro c hc hmark
  have hnone := List.all_eq_true.mp hmarks c hmark
  rw [hcs c hc] at hnone
  exact Bool.false_ne_true hnone

/-- What follows the host of a written authority. -/
def afterHost (u : Url) : List Char :=
  match u.port with
  | some n => ':' :: (toString n).toList
  | none => []

theorem hostAndPort_eq (u : Url) : u.hostAndPort = u.hostText ++ u.afterHost := rfl

theorem stops_afterHost (u : Url) : Stops [':', '@'] u.afterHost := by
  unfold afterHost
  cases u.port with
  | none => exact nofun
  | some n =>
    intro c hc
    obtain rfl : ':' = c := Option.some.inj hc
    exact List.mem_cons_self

theorem bracket_not_mem_afterHost (u : Url) : ']' ∉ u.afterHost := by
  unfold afterHost
  cases u.port with
  | none => exact List.not_mem_nil
  | some n =>
    intro hmem
    rcases List.mem_cons.mp hmem with hcolon | hdigits
    · exact absurd hcolon (by decide)
    · rcases mem_toString hdigits with hminus | hdigit
      · exact absurd hminus (by decide)
      · exact absurd hdigit (by decide)

/-- The host of a text that follows the user information, and what stands after it. -/
def cutHost (text : List Char) : List Char × List Char :=
  match text with
  | '[' :: inner =>
    match Text.cutLast ']' inner with
    | (some address, after) => ('[' :: address ++ [']'], after)
    | (none, _) => spanUntil [':', '@'] text
  | _ => spanUntil [':', '@'] text

/-- The port of what stands after a host. -/
def cutPort : List Char → List Char
  | ':' :: port => port
  | port => port

theorem splitHost_eq (authority : List Char) :
    splitHost authority = ((Text.cutLast '@' authority).1.getD [],
      (cutHost (Text.cutLast '@' authority).2).1,
      cutPort (cutHost (Text.cutLast '@' authority).2).2) := rfl

theorem cutHost_brackets {after : List Char} (hafter : ']' ∉ after) (address : List Char) :
    cutHost ('[' :: (address ++ ']' :: after)) = ('[' :: address ++ [']'], after) := by
  simp only [cutHost, Text.cutLast_append hafter]

theorem cutHost_name {host after : List Char} (hhost : ∀ c ∈ host, c ∉ ['[', ':', '@'])
    (hafter : Stops [':', '@'] after) : cutHost (host ++ after) = (host, after) := by
  have hspan : spanUntil [':', '@'] (host ++ after) = (host, after) := by
    apply spanUntil_append
    · intro c hc hmark
      exact hhost c hc (List.mem_cons_of_mem '[' hmark)
    · exact hafter
  unfold cutHost
  split
  · next inner heq =>
    cases host with
    | nil =>
      have hmark := hafter '[' (by rw [← List.nil_append after, heq]; rfl)
      exact absurd hmark (by decide)
    | cons c host =>
      obtain rfl : c = '[' := (List.cons.inj heq).1
      exact absurd List.mem_cons_self (hhost '[' List.mem_cons_self)
  · exact hspan

theorem Clean.cutHost_hostAndPort (hu : Clean u) :
    cutHost u.hostAndPort = (u.hostText, u.afterHost) := by
  rw [hostAndPort_eq]
  by_cases hcolon : u.host.contains ':' = true
  · have htext : u.hostText = '[' :: u.host ++ [']'] := if_pos hcolon
    have hcut := cutHost_brackets (bracket_not_mem_afterHost u) u.host
    rw [htext]
    simpa using hcut
  · have htext : u.hostText = u.host := if_neg hcolon
    rw [htext]
    apply cutHost_name
    · rcases hu.settled with ⟨haddress, -⟩ | ⟨hsafe, -⟩
      · exact absurd (List.contains_iff_mem.mpr (colon_of_isIPv6 haddress)) hcolon
      · exact not_mem_of_safe (by decide) hsafe
    · exact stops_afterHost u

theorem cutPort_afterHost (u : Url) : cutPort u.afterHost = u.portText := by
  unfold afterHost portText
  cases u.port with
  | none => rfl
  | some n => rfl

/-- A written authority is split into its parts. -/
theorem Clean.splitHost_authority (hu : Clean u) :
    splitHost u.authority = (u.userinfo, u.hostText, u.portText) := by
  have hat : '@' ∉ u.hostAndPort := fun hmem =>
    absurd (hu.undivided_hostAndPort '@' hmem) (by decide)
  have hcut : (Text.cutLast '@' u.authority).1.getD [] = u.userinfo ∧
      (Text.cutLast '@' u.authority).2 = u.hostAndPort := by
    unfold authority
    by_cases hempty : u.userinfo.isEmpty = true
    · rw [if_pos hempty, List.nil_append, Text.cutLast_of_not_mem hat]
      exact ⟨(List.isEmpty_iff.mp hempty).symm, rfl⟩
    · rw [if_neg hempty, List.append_assoc, List.singleton_append, Text.cutLast_append hat]
      exact ⟨rfl, rfl⟩
  rw [splitHost_eq, hcut.1, hcut.2, hu.cutHost_hostAndPort, cutPort_afterHost]

theorem splitMarked_marked {mark : Char} {stops tail : List Char} {part : Option (List Char)}
    (hpart : ∀ p, part = some p → ∀ c ∈ p, c ∉ stops) (htail : Stops stops tail)
    (hmark : mark ∉ stops) : splitMarked mark stops (marked mark part ++ tail) = (part, tail) := by
  cases part with
  | none =>
    show splitMarked mark stops tail = (none, tail)
    cases tail with
    | nil => rfl
    | cons c tail =>
      have hne : c ≠ mark := fun heq => hmark (heq ▸ htail c rfl)
      exact if_neg hne
  | some p =>
    show splitMarked mark stops (mark :: (p ++ tail)) = (some p, tail)
    simp only [splitMarked, if_true, spanUntil_append (hpart p rfl) htail]

/-- A written URL is split into the parts that it was written from. -/
theorem Clean.ofChars_chars (hu : Clean u) (habsolute : u.isAbsolute = true) :
    Split.ofChars u.chars = u.split := by
  obtain ⟨hscheme, -⟩ := isAbsolute_eq_true.mp habsolute
  have hpath : ∀ c ∈ u.path, c ∉ ['?', '#'] := not_mem_of_safe (by decide) hu.path
  have hquery : ∀ q, u.query = some q → ∀ c ∈ q, c ∉ ['#'] := fun q hq =>
    not_mem_of_safe (by decide) (hu.query q hq)
  have hfragment : splitMarked '#' [] (marked '#' u.fragment) = (u.fragment, []) := by
    have hsplit : splitMarked '#' [] (marked '#' u.fragment ++ []) = (u.fragment, []) :=
      splitMarked_marked (fun _ _ _ _ => List.not_mem_nil) nofun List.not_mem_nil
    rwa [List.append_nil] at hsplit
  unfold Split.ofChars
  rw [hu.splitScheme_chars hscheme]
  dsimp only
  rw [hu.splitAuthority_afterScheme (authority_ne_nil habsolute)]
  dsimp only
  unfold afterAuthority
  rw [spanUntil_append hpath (stops_marked u)]
  dsimp only
  rw [splitMarked_marked hquery (stops_of_marked '#' u.fragment) (by decide)]
  dsimp only
  rw [hfragment]
  rfl

/-! ## Section 4: Reading it again -/

theorem checkPath_rooted {hasAuthority : Bool} {path : List Char} (hp : Stops ['/'] path) :
    checkPath true hasAuthority path = .ok () := by
  cases path with
  | nil => simp [checkPath]
  | cons c path =>
    obtain rfl : c = '/' := List.mem_singleton.mp (hp c rfl)
    simp [checkPath]

/-- Characters of a class that has no control characters. -/
theorem printable_of_safe {safe : Char → Bool}
    (hsafe : ∀ n < 128, n < 0x20 ∨ n = 0x7f → safe (Char.ofNat n) = false) {cs : List Char}
    (hcs : ∀ c ∈ cs, safe c = true) : Printable cs := by
  intro c hc
  by_contra hcontrol
  have hnone := hsafe c.toNat (by omega) (by omega)
  rw [Char.ofNat_toNat, hcs c hc] at hnone
  exact Bool.false_ne_true hnone.symm

theorem printable_marked {safe : Char → Bool} {mark : Char} {part : Option (List Char)}
    (hsafe : ∀ n < 128, n < 0x20 ∨ n = 0x7f → safe (Char.ofNat n) = false)
    (hmark : Printable [mark]) (hpart : ∀ p, part = some p → ∀ c ∈ p, safe c = true) :
    Printable (marked mark part) := by
  cases part with
  | none => exact nofun
  | some p => exact hmark.append (printable_of_safe hsafe (hpart p rfl))

theorem Clean.printable_authority (hu : Clean u) : Printable u.authority := by
  have huser : Printable u.userinfo := printable_of_safe (by decide +kernel) hu.userinfo
  have hhost : Printable u.host := by
    rcases hu.settled with ⟨-, hprintable⟩ | ⟨hsafe, -⟩
    · exact hprintable
    · exact printable_of_safe (by decide +kernel) hsafe
  have hport : Printable u.afterHost := by
    unfold afterHost
    cases u.port with
    | none => exact nofun
    | some n =>
      have hdigits : ∀ c ∈ (toString n).toList, (c == '-' || c.isDigit) = true := by
        intro c hc
        simpa using mem_toString hc
      have hcolon : Printable [':'] := printable_of_all (by decide)
      exact hcolon.append (printable_of_safe (by decide +kernel) hdigits)
  unfold authority
  rw [hostAndPort_eq]
  refine Printable.append ?_ (Printable.append ?_ hport)
  · split
    · exact nofun
    · exact huser.append (printable_of_all (by decide))
  · unfold hostText
    split
    · have hopen : Printable ['['] := printable_of_all (by decide)
      exact (hopen.append hhost).append (printable_of_all (by decide))
    · exact hhost

/-- A written URL has no control characters. -/
theorem Clean.printable_chars (hu : Clean u) : Printable u.chars := by
  have hscheme : Printable u.scheme := by
    rcases hu.scheme with hnil | ⟨hs, -⟩
    · rw [hnil]
      exact nofun
    · exact printable_of_safe (by decide +kernel) hs.2
  have hquery : Printable (marked '?' u.query) :=
    printable_marked (by decide +kernel) (printable_of_all (by decide)) hu.query
  have hfragment : Printable (marked '#' u.fragment) :=
    printable_marked (by decide +kernel) (printable_of_all (by decide)) hu.fragment
  unfold chars
  refine Printable.append (Printable.append (Printable.append (Printable.append ?_ ?_) ?_) hquery)
    hfragment
  · split
    · exact nofun
    · exact hscheme.append (printable_of_all (by decide))
  · split
    · exact nofun
    · have hslashes : Printable ['/', '/'] := printable_of_all (by decide)
      exact hslashes.append hu.printable_authority
  · exact printable_of_safe (by decide +kernel) hu.path

/-- Reading a written URL: the host is normalised, the default port is dropped and dot
    segments are removed. -/
theorem Clean.parse_chars (hu : Clean u) (habsolute : u.isAbsolute = true)
    (hlength : u.chars.length ≤ maxLength) :
    parse u.chars = (normalHost u.hostText).map fun host =>
      { u with
        host
        port := u.port.filter fun n => defaultPort? u.scheme ≠ some n
        path := removeDots u.path } := by
  obtain ⟨hscheme, -⟩ := isAbsolute_eq_true.mp habsolute
  have hlower : u.scheme.map Char.toLower = u.scheme := (hu.scheme.resolve_left hscheme).2
  have hnamed : (!u.scheme.isEmpty) = true := by
    rw [Bool.not_eq_true', List.isEmpty_eq_false_iff]
    exact hscheme
  have hchecked : ∀ hasAuthority, checkPath true hasAuthority u.path = .ok () :=
    fun _ => checkPath_rooted (hu.rooted (authority_ne_nil habsolute))
  -- neither the length nor a control character stops the text, and it is split as written
  unfold parse
  rw [if_neg (by omega), findControl_eq_none.mpr hu.printable_chars]
  dsimp only
  rw [hu.ofChars_chars habsolute]
  have hparts : ofSplit u.split = assemble u.split u.userinfo u.hostText u.portText := by
    unfold ofSplit
    rw [show u.split.authority = u.authority from rfl, hu.splitHost_authority]
  have hquery : u.query.map (encode querySafe) = u.query := by
    cases hq : u.query with
    | none => rfl
    | some q => exact congrArg some (encode_eq_self (hu.query q hq))
  have hfragment : u.fragment.map (encode fragmentSafe) = u.fragment := by
    cases hf : u.fragment with
    | none => rfl
    | some f => exact congrArg some (encode_eq_self (hu.fragment f hf))
  rw [hparts]
  -- of the parts only the host, the port and the path are not in normal form
  unfold assemble split
  dsimp only
  rw [hlower, hnamed, encode_eq_self hu.userinfo, normalPort_portText u.scheme hu.port, hquery,
    hfragment]
  cases normalHost u.hostText with
  | error f => rfl
  | ok host =>
    have hpath : encode pathSafe (removeDots u.path) = removeDots u.path :=
      encode_eq_self (pathSafe_removeDots hu.path)
    simp only [bind, Except.bind, hchecked, Bool.true_or, if_true, hpath]
    rfl

/-- What the parts before the path keep when a URL is written and read again. -/
structure Kept (u v : Url) : Prop where
  scheme : v.scheme = u.scheme
  userinfo : v.userinfo = u.userinfo
  /-- A port is dropped only if it is the default one. -/
  port : v.port = u.port ∨ v.port = none ∧ u.port = defaultPort? u.scheme
  /-- Only a name with percent-escapes changes, and it loses nothing but capitals. -/
  host : v.host = u.host ∨ '%' ∈ u.host ∧ ':' ∉ u.host ∧ v.host = u.host.map Char.toLower

theorem Kept.isAbsolute {v : Url} (hk : Kept u v) (habsolute : u.isAbsolute = true) :
    v.isAbsolute = true := by
  obtain ⟨hscheme, hhost⟩ := isAbsolute_eq_true.mp habsolute
  rw [isAbsolute_eq_true, hk.scheme]
  refine ⟨hscheme, ?_⟩
  rcases hk.host with hsame | ⟨-, -, hlower⟩
  · rwa [hsame]
  · rwa [hlower, Ne, List.map_eq_nil_iff]

theorem Kept.trans {v w : Url} (hfirst : Kept u v) (hsecond : Kept v w) : Kept u w where
  scheme := hsecond.scheme.trans hfirst.scheme
  userinfo := hsecond.userinfo.trans hfirst.userinfo
  port := by
    have hp := hfirst.port
    rcases hsecond.port with hsame | ⟨hnone, hdefault⟩
    · rwa [hsame]
    · rcases hp with hport | ⟨hport, hscheme⟩
      · exact .inr ⟨hnone, by rw [← hport, hdefault, hfirst.scheme]⟩
      · exact .inr ⟨hnone, hscheme⟩
  host := by
    rcases hfirst.host with hsame | ⟨hpercent, hcolon, hlower⟩
    · rw [← hsame]
      exact hsecond.host
    · refine .inr ⟨hpercent, hcolon, ?_⟩
      rcases hsecond.host with hagain | ⟨-, -, hagain⟩
      · rw [hagain, hlower]
      · rw [hagain, hlower, map_toLower_toLower]

/-- What is written before the path of an absolute URL. -/
theorem length_chars (habsolute : u.isAbsolute = true) :
    u.chars.length = u.scheme.length + 3 + u.authority.length + u.path.length
      + (marked '?' u.query).length + (marked '#' u.fragment).length := by
  obtain ⟨hscheme, -⟩ := isAbsolute_eq_true.mp habsolute
  rw [chars_of_ne hscheme, afterScheme_of_ne (authority_ne_nil habsolute)]
  unfold afterAuthority
  simp only [List.length_append, List.length_cons]
  omega

theorem length_authority (u : Url) : u.authority.length =
    (if u.userinfo.isEmpty then 0 else u.userinfo.length + 1) + u.hostText.length
      + u.afterHost.length := by
  unfold authority
  rw [hostAndPort_eq, List.length_append, List.length_append, Nat.add_assoc]
  congr 1
  split
  · rfl
  · exact List.length_append

/-- What is read from a written URL keeps what stands before the path, and is no longer. -/
theorem Clean.kept (hu : Clean u) (habsolute : u.isAbsolute = true) {v : Url}
    (hv : parse u.chars = .ok v) :
    Kept u v ∧ v.chars.length ≤ u.chars.length ∧ normalHost v.hostText = .ok v.host := by
  have hparse := hv
  rw [hu.parse_chars habsolute (of_parse hv).1] at hparse
  obtain ⟨host, hhost, rfl⟩ := ok_of_map hparse
  obtain ⟨hkept, hagain⟩ := normalHost_hostText hu.settled hhost
  -- from here on only the parts of the URL that was read are needed
  generalize hv' : ({ u with
    host
    port := u.port.filter fun n => defaultPort? u.scheme ≠ some n
    path := removeDots u.path } : Url) = v
  have hhostEq : v.host = host := by rw [← hv']
  have hport : v.port = u.port ∨ v.port = none ∧ u.port = defaultPort? u.scheme := by
    rw [← hv']
    cases u.port with
    | none => exact .inl rfl
    | some n =>
      by_cases hdefault : defaultPort? u.scheme = some n
      · exact .inr ⟨by simp [hdefault], hdefault.symm⟩
      · exact .inl (by simp [hdefault])
  obtain ⟨htext, hsettles⟩ := hagain v hhostEq
  have hk : Kept u v :=
    { scheme := by rw [← hv']
      userinfo := by rw [← hv']
      port := hport
      host := by rwa [hhostEq] }
  refine ⟨hk, ?_, hhostEq ▸ hsettles⟩
  have hauthority : v.authority.length ≤ u.authority.length := by
    have hafter : v.afterHost.length ≤ u.afterHost.length := by
      unfold afterHost
      rcases hport with hsame | ⟨hnone, -⟩
      · rw [hsame]
      · rw [hnone]
        exact Nat.zero_le _
    rw [length_authority, length_authority, hk.userinfo, htext]
    omega
  have hpath : v.path.length ≤ u.path.length := by
    rw [← hv']
    exact length_removeDots u.path
  have hquery : v.query = u.query := by rw [← hv']
  have hfragment : v.fragment = u.fragment := by rw [← hv']
  rw [length_chars habsolute, length_chars (hk.isAbsolute habsolute), hk.scheme, hquery, hfragment]
  omega

/-- What is read from a written URL can be written and read once more, and is kept so. -/
theorem Clean.reread (hu : Clean u) (habsolute : u.isAbsolute = true) {v : Url}
    (hv : parse u.chars = .ok v) : Kept u v ∧ ∃ w, parse v.chars = .ok w ∧ Kept v w := by
  obtain ⟨hkept, hshorter, hhost⟩ := hu.kept habsolute hv
  have hclean := clean_of_parse hv
  have hnamed := hkept.isAbsolute habsolute
  have hlength := (of_parse hv).1
  have hparse := hclean.parse_chars hnamed (Nat.le_trans hshorter hlength)
  rw [hhost] at hparse
  exact ⟨hkept, _, hparse, (hclean.kept hnamed hparse).1⟩

end Redial.Url
