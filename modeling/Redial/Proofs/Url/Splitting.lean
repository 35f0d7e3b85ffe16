import Mathlib.Data.List.TakeWhile
import Redial.Proofs.Url.Parts

/-! # How a URL is split

    A URL is split at its marks: a colon ends the scheme, two slashes begin the
    authority, and whichever of three marks comes first ends it.  So a scheme and an
    authority that hold no mark of their own are found again in every text that is made
    with them. -/

namespace Redial

namespace Url

/-! ## Section 1: Schemes -/

theorem toNat_lt_of_isSchemeChar {c : Char} (hc : isSchemeChar c = true) : c.toNat < 128 := by
  have hranges : isSchemeChar c = (decide (65 ≤ c.val ∧ c.val ≤ 90) ||
      (decide (97 ≤ c.val) && decide (c.val ≤ 122)) ||
      (decide (48 ≤ c.val) && decide (c.val ≤ 57)) || c == '+' || c == '.' || c == '-') := rfl
  rw [hranges] at hc
  simp only [Bool.or_eq_true, Bool.and_eq_true, decide_eq_true_eq, beq_iff_eq,
    UInt32.le_iff_toNat_le] at hc
  have hval : c.val.toNat = c.toNat := rfl
  rcases hc with ((((⟨-, hc⟩ | ⟨-, hc⟩) | ⟨-, hc⟩) | rfl) | rfl) | rfl
  · have : c.val.toNat ≤ 90 := hc
    omega
  · have : c.val.toNat ≤ 122 := hc
    omega
  · have : c.val.toNat ≤ 57 := hc
    omega
  all_goals decide

/-- Lower-casing twice a character of a scheme is lower-casing it once, and leaves it what it is. -/
theorem toLower_of_isSchemeChar {c : Char} (hc : isSchemeChar c = true) :
    isSchemeChar c.toLower = true ∧ c.toLower.toLower = c.toLower ∧
      (c.isAlpha = true → c.toLower.isAlpha = true) :=
  Text.ascii_forall (P := fun c => isSchemeChar c = true → isSchemeChar c.toLower = true ∧
    c.toLower.toLower = c.toLower ∧ (c.isAlpha = true → c.toLower.isAlpha = true))
    (by decide +kernel) (toNat_lt_of_isSchemeChar hc) hc

/-- A letter and further characters of a scheme. -/
def IsScheme (s : List Char) : Prop :=
  s.head?.any Char.isAlpha = true ∧ ∀ c ∈ s, isSchemeChar c = true

namespace IsScheme

variable {s : List Char}

theorem ne_nil (hs : IsScheme s) : s ≠ [] := by
  rintro rfl
  exact absurd hs.1 Bool.false_ne_true

theorem colon_not_mem (hs : IsScheme s) : ':' ∉ s := by
  intro hmem
  have hcolon := hs.2 ':' hmem
  exact absurd hcolon (by decide)

theorem head_append (hs : IsScheme s) (rest : List Char) : (s ++ rest).head? ≠ some ':' := by
  cases s with
  | nil => exact absurd rfl hs.ne_nil
  | cons c s =>
    intro hcolon
    obtain rfl : c = ':' := Option.some.inj hcolon
    exact hs.colon_not_mem List.mem_cons_self

theorem lower (hs : IsScheme s) :
    IsScheme (s.map Char.toLower) ∧ (s.map Char.toLower).map Char.toLower = s.map Char.toLower := by
  obtain ⟨hhead, hall⟩ := hs
  refine ⟨⟨?_, ?_⟩, ?_⟩
  · cases s with
    | nil => exact hhead
    | cons c rest =>
      have hc : c.isAlpha = true := by simpa using hhead
      have hlower := (toLower_of_isSchemeChar (hall c List.mem_cons_self)).2.2 hc
      simpa using hlower
  · intro d hd
    obtain ⟨c, hc, rfl⟩ := List.mem_map.mp hd
    exact (toLower_of_isSchemeChar (hall c hc)).1
  · rw [List.map_map]
    exact List.map_congr_left fun c hc => (toLower_of_isSchemeChar (hall c hc)).2.1

end IsScheme

/-- A text in which no scheme and no lone colon stands first. -/
def Schemeless (cs : List Char) : Prop :=
  cs.head? ≠ some ':' ∧ ∀ s rest, IsScheme s → cs ≠ s ++ ':' :: rest

theorem span_append {p : Char → Bool} {s : List Char} (hs : ∀ c ∈ s, p c = true) {d : Char}
    (hd : p d = false) (rest : List Char) : (s ++ d :: rest).span p = (s, d :: rest) := by
  rw [List.span_eq_takeWhile_dropWhile]
  rw [List.takeWhile_append_of_pos hs, List.dropWhile_append_of_pos hs]
  simp [hd]

theorem splitScheme_append {s : List Char} (hs : IsScheme s) (rest : List Char) :
    splitScheme (s ++ ':' :: rest) = (s, rest) := by
  unfold splitScheme
  rw [span_append hs.2 (by decide)]
  cases s with
  | nil => exact absurd rfl hs.ne_nil
  | cons c s =>
    have hc : c.isAlpha = true := by simpa using hs.1
    simp only [hc, if_true]

theorem splitScheme_schemeless {cs : List Char} (hcs : Schemeless cs) :
    splitScheme cs = ([], cs) := by
  obtain ⟨hcolon, hnone⟩ := hcs
  unfold splitScheme
  have hsplit : cs.takeWhile isSchemeChar ++ cs.dropWhile isSchemeChar = cs :=
    List.takeWhile_append_dropWhile
  rw [List.span_eq_takeWhile_dropWhile]
  split
  · next rest hspan =>
    obtain ⟨htake, hdrop⟩ := Prod.mk.inj hspan
    rw [htake, hdrop] at hsplit
    rw [← hsplit] at hcolon
    exact absurd rfl hcolon
  · next c s rest hspan =>
    obtain ⟨htake, hdrop⟩ := Prod.mk.inj hspan
    split
    · next halpha =>
      have hscheme : IsScheme (c :: s) := by
        refine ⟨by simpa using halpha, fun d hd => ?_⟩
        rw [← htake] at hd
        exact List.mem_takeWhile_imp hd
      rw [htake, hdrop] at hsplit
      exact absurd hsplit.symm (hnone _ _ hscheme)
    · rfl
  · rfl

/-- A text has a scheme first, a lone colon, or neither. -/
theorem splitScheme_cases (cs : List Char) :
    (∃ s rest, IsScheme s ∧ cs = s ++ ':' :: rest ∧ splitScheme cs = (s, rest)) ∨
      (∃ rest, cs = ':' :: rest ∧ splitScheme cs = ([], rest)) ∨
      (Schemeless cs ∧ splitScheme cs = ([], cs)) := by
  by_cases hscheme : ∃ s rest, IsScheme s ∧ cs = s ++ ':' :: rest
  · obtain ⟨s, rest, hs, rfl⟩ := hscheme
    exact .inl ⟨s, rest, hs, rfl, splitScheme_append hs rest⟩
  · by_cases hcolon : cs.head? = some ':'
    · obtain ⟨rest, rfl⟩ : ∃ rest, cs = ':' :: rest := by
        cases cs with
        | nil => exact absurd hcolon nofun
        | cons c rest => exact ⟨rest, by rw [Option.some.inj hcolon]⟩
      exact .inr (.inl ⟨rest, rfl, rfl⟩)
    · have hnone : Schemeless cs := ⟨hcolon, fun s rest hs heq => hscheme ⟨s, rest, hs, heq⟩⟩
      exact .inr (.inr ⟨hnone, splitScheme_schemeless hnone⟩)

/-! ## Section 2: Authorities -/

/-- A text that is empty or goes on with one of the marks. -/
def Stops (marks : List Char) (cs : List Char) : Prop := ∀ c ∈ cs.head?, c ∈ marks

theorem Stops.mono {marks marks' cs : List Char} (hcs : Stops marks cs)
    (hsub : ∀ c ∈ marks, c ∈ marks') : Stops marks' cs := fun c hc => hsub c (hcs c hc)

theorem Stops.append {marks as bs : List Char} (ha : Stops marks as) (hb : Stops marks bs) :
    Stops marks (as ++ bs) := by
  cases as with
  | nil => exact hb
  | cons c as => exact ha

/-- A text splits into a part without the marks and what goes on with one of them, in one
    way. -/
theorem spanUntil_append {marks part rest : List Char} (hpart : ∀ c ∈ part, c ∉ marks)
    (hrest : Stops marks rest) : spanUntil marks (part ++ rest) = (part, rest) := by
  have hall : ∀ c ∈ part, (!marks.contains c) = true := by
    intro c hc
    have hnone : c ∉ marks := hpart c hc
    simpa using hnone
  unfold spanUntil
  rw [List.span_eq_takeWhile_dropWhile, List.takeWhile_append_of_pos hall,
    List.dropWhile_append_of_pos hall]
  cases rest with
  | nil => simp
  | cons c rest =>
    have hc : c ∈ marks := hrest c rfl
    simp [hc]

theorem spanUntil_cases (marks cs : List Char) :
    ∃ part rest, cs = part ++ rest ∧ (∀ c ∈ part, c ∉ marks) ∧ Stops marks rest ∧
      spanUntil marks cs = (part, rest) := by
  refine ⟨_, _, List.takeWhile_append_dropWhile.symm, fun c hc => ?_, fun c hc => ?_,
    List.span_eq_takeWhile_dropWhile (p := fun c => !marks.contains c) cs⟩
  · have htake := List.mem_takeWhile_imp hc
    simpa using htake
  · have hdrop := List.head?_dropWhile_not (fun c => !marks.contains c) cs
    rw [Option.mem_def.mp hc] at hdrop
    simpa using hdrop

/-- The marks that end an authority. -/
def authorityEnds : List Char := ['/', '?', '#']

theorem splitAuthority_append {authority rest : List Char}
    (hauthority : ∀ c ∈ authority, c ∉ authorityEnds) (hrest : Stops authorityEnds rest) :
    splitAuthority ('/' :: '/' :: (authority ++ rest)) = (authority, rest) :=
  spanUntil_append hauthority hrest

/-- A text begins with an authority, which may be empty, or with no two slashes. -/
theorem splitAuthority_cases (cs : List Char) :
    (∃ authority rest, cs = '/' :: '/' :: (authority ++ rest) ∧
        (∀ c ∈ authority, c ∉ authorityEnds) ∧ Stops authorityEnds rest ∧
        splitAuthority cs = (authority, rest)) ∨
      (startsWith ['/', '/'] cs = false ∧ splitAuthority cs = ([], cs)) := by
  by_cases hslashes : startsWith ['/', '/'] cs = true
  · obtain ⟨rest, rfl⟩ := List.isPrefixOf_iff_prefix.mp hslashes
    obtain ⟨authority, rest, rfl, hauthority, hrest, -⟩ := spanUntil_cases authorityEnds rest
    exact .inl ⟨authority, rest, rfl, hauthority, hrest, splitAuthority_append hauthority hrest⟩
  · rw [Bool.not_eq_true] at hslashes
    refine .inr ⟨hslashes, ?_⟩
    unfold splitAuthority
    split
    · exact absurd hslashes (by simp [startsWith])
    · rfl

/-- An authority, as it is split off, is not ended by any of its characters. -/
theorem splitAuthority_not_ended (cs : List Char) :
    ∀ c ∈ (splitAuthority cs).1, c ∉ authorityEnds := by
  rcases splitAuthority_cases cs with ⟨_, _, -, hends, -, hsplit⟩ | ⟨-, hsplit⟩
  · rw [hsplit]
    exact hends
  · rw [hsplit]
    exact nofun

/-- What follows the user information: the host and the port. -/
theorem not_mem_afterUserinfo (authority : List Char) :
    '@' ∉ (Text.cutLast '@' authority).2 ∧
      ∀ c ∈ (Text.cutLast '@' authority).2, c ∈ authority := by
  rcases Text.cutLast_cases '@' authority with ⟨hnone, hcut⟩ | ⟨_, _, hsplit, hnone, hcut⟩
  · rw [hcut]
    exact ⟨hnone, fun c hc => hc⟩
  · rw [hcut]
    refine ⟨hnone, fun c hc => ?_⟩
    rw [hsplit]
    exact List.mem_append_right _ (List.mem_cons_of_mem _ hc)

/-- A host stands between brackets, or before the first colon. -/
theorem splitHost_cases (authority : List Char) :
    (∃ address after, (Text.cutLast '@' authority).2 = '[' :: (address ++ ']' :: after) ∧
        (splitHost authority).2.1 = '[' :: address ++ [']']) ∨
      (splitHost authority).2.1 = (spanUntil [':', '@'] (Text.cutLast '@' authority).2).1 := by
  unfold splitHost
  rcases Text.cutLast '@' authority with ⟨userinfo, text⟩
  dsimp only
  split
  · next inner =>
    rcases Text.cutLast_cases ']' inner with ⟨-, hcut⟩ | ⟨address, after, rfl, -, hcut⟩
    · rw [hcut]
      exact .inr rfl
    · rw [hcut]
      exact .inl ⟨address, after, rfl, rfl⟩
  · exact .inr rfl

/-- Whether an authority names a host. -/
def hostNamed (authority : List Char) : Bool := !(splitHost authority).2.1.isEmpty

/-- An authority names a host unless nothing but a port follows the user information. -/
theorem hostNamed_eq_true {authority : List Char} :
    hostNamed authority = true ↔
      ∃ c rest, (Text.cutLast '@' authority).2 = c :: rest ∧ c ≠ ':' := by
  obtain ⟨hat, -⟩ := not_mem_afterUserinfo authority
  unfold hostNamed
  rcases splitHost_cases authority with ⟨address, after, htext, hhost⟩ | hhost
  · rw [hhost, htext]
    exact iff_of_true rfl ⟨'[', _, rfl, by decide⟩
  · rw [hhost]
    generalize (Text.cutLast '@' authority).2 = text at hat
    obtain ⟨part, rest, rfl, hpart, hrest, hspan⟩ := spanUntil_cases [':', '@'] text
    rw [hspan]
    cases part with
    | nil =>
      refine iff_of_false (by simp) ?_
      rintro ⟨c, cs, hcs, hcolon⟩
      rw [List.nil_append] at hcs hat
      have hmark : c ∈ [':', '@'] := hrest c (by rw [hcs]; rfl)
      simp only [List.mem_cons, List.not_mem_nil, or_false] at hmark
      rcases hmark with rfl | rfl
      · exact hcolon rfl
      · rw [hcs] at hat
        exact hat List.mem_cons_self
    | cons c part =>
      refine iff_of_true rfl ⟨c, part ++ rest, rfl, fun hcolon => ?_⟩
      exact hpart c List.mem_cons_self (by simp [hcolon])

/-- The host of an authority has no dividers. -/
theorem undivided_splitHost {authority : List Char} (ha : ∀ c ∈ authority, c ∉ authorityEnds) :
    Undivided (splitHost authority).2.1 := by
  obtain ⟨hat, hsub⟩ := not_mem_afterUserinfo authority
  have htext : Undivided (Text.cutLast '@' authority).2 := by
    intro c hc
    have hends : c ∉ authorityEnds := ha c (hsub c hc)
    simp only [authorityEnds, List.mem_cons, List.not_mem_nil, or_false, not_or] at hends
    have hnone : c ≠ '@' := fun h => hat (h ▸ hc)
    simp [isDivider, hends, hnone]
  rcases splitHost_cases authority with ⟨address, after, hsplit, hhost⟩ | hhost
  · rw [hhost]
    refine htext.subset fun c hc => ?_
    rw [hsplit]
    simp only [List.cons_append, List.mem_cons, List.mem_append, List.not_mem_nil,
      or_false] at hc ⊢
    rcases hc with hc | hc | hc
    · exact .inl hc
    · exact .inr (.inl hc)
    · exact .inr (.inr (.inl hc))
  · rw [hhost]
    obtain ⟨part, rest, hsplit, -, -, hspan⟩ :=
      spanUntil_cases [':', '@'] (Text.cutLast '@' authority).2
    rw [hspan]
    refine htext.subset fun c hc => ?_
    rw [hsplit]
    exact List.mem_append_left _ hc

end Url

end Redial
