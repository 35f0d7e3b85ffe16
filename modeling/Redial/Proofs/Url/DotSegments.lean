import Redial.Proofs.Url.Origin

/-! # Dot segments

    RFC 3986 resolves a path in two steps: the path of the reference is merged with that of
    the base (section 5.2.3), and the dot segments are removed from the merged text by
    rewriting it from left to right, segment by segment (section 5.2.4).  References are
    resolved on lists of segments instead, with what stands before the first slash as an
    empty segment at the bottom of the stack.

    Both are folds over the segments, with `Reference.takeSegment` as the step.  They differ
    in the bottom of the stack only: surplus dot segments remove it, and the standard has
    none.  From then on the two stacks are the same, and as a written path begins with a
    slash anyway, so are the texts. -/

namespace Redial

open Url (Stops)

/-! ## Section 1: Merging and removing by rewriting -/

namespace Rfc3986

/-- The output without its last segment and the slash before it, if any. -/
def withoutLast (output : List Char) : List Char := (Text.cutLast '/' output).1.getD []

/-- The first segment with the slash before it, if any. -/
def firstSegment : List Char → List Char
  | [] => []
  | c :: input => c :: (Url.spanUntil ['/'] input).1

/-- What follows the first segment. -/
def afterFirst : List Char → List Char
  | [] => []
  | _ :: input => (Url.spanUntil ['/'] input).2

theorem length_afterFirst {input : List Char} (hinput : input ≠ []) :
    (afterFirst input).length < input.length := by
  cases input with
  | nil => exact absurd rfl hinput
  | cons c input =>
    obtain ⟨part, after, hsplit, -, -, hspan⟩ := Url.spanUntil_cases ['/'] input
    rw [afterFirst, hspan, hsplit]
    simp only [List.length_cons, List.length_append]
    omega

theorem length_drop {input : List Char} {n : Nat} (hn : 0 < n) (hinput : input ≠ []) :
    (input.drop n).length < input.length := by
  have hpos : 0 < input.length := List.length_pos_iff.mpr hinput
  rw [List.length_drop]
  omega

/-- Moves the input to the output, without its dot segments: section 5.2.4, steps 2A to 2E. -/
def moveSegments (output input : List Char) : List Char :=
  if input = [] then output
  -- A
  else if Url.startsWith ['.', '.', '/'] input then moveSegments output (input.drop 3)
  else if Url.startsWith ['.', '/'] input then moveSegments output (input.drop 2)
  -- B
  else if Url.startsWith ['/', '.', '/'] input then moveSegments output (input.drop 2)
  else if input = ['/', '.'] then moveSegments output ['/']
  -- C
  else if Url.startsWith ['/', '.', '.', '/'] input then
    moveSegments (withoutLast output) (input.drop 3)
  else if input = ['/', '.', '.'] then moveSegments (withoutLast output) ['/']
  -- D
  else if input = ['.'] ∨ input = ['.', '.'] then output
  -- E
  else moveSegments (output ++ firstSegment input) (afterFirst input)
termination_by input.length
decreasing_by
  · exact length_drop (by omega) ‹_›
  · exact length_drop (by omega) ‹_›
  · exact length_drop (by omega) ‹_›
  · simp_all
  · exact length_drop (by omega) ‹_›
  · simp_all
  · exact length_afterFirst ‹_›

/-- The path without its dot segments: section 5.2.4. -/
def removeDotSegments (path : List Char) : List Char := moveSegments [] path

/-- The path of a reference without an authority, behind the path of a base with one:
    section 5.2.3. -/
def merge (base reference : List Char) : List Char :=
  if base = [] then '/' :: reference
  else match (Text.cutLast '/' base).1 with
    | some directory => directory ++ '/' :: reference
    | none => reference

/-- The path of the target of a non-empty path reference: section 5.2.2. -/
def targetPath (base reference : List Char) : List Char :=
  if reference.head? = some '/' then removeDotSegments reference
  else removeDotSegments (merge base reference)

end Rfc3986

/-! ## Section 2: Paths as segments -/

/-- Segments, each after a slash. -/
def slashed (segments : List (List Char)) : List Char := segments.flatMap fun s => '/' :: s

@[simp] theorem slashed_nil : slashed [] = [] := rfl

@[simp] theorem slashed_cons (s : List Char) (segments : List (List Char)) :
    slashed (s :: segments) = '/' :: (s ++ slashed segments) := rfl

@[simp] theorem slashed_append (before after : List (List Char)) :
    slashed (before ++ after) = slashed before ++ slashed after := List.flatMap_append

theorem stops_slashed (segments : List (List Char)) : Stops ['/'] (slashed segments) := by
  cases segments with
  | nil => exact nofun
  | cons s segments =>
    intro c hc
    obtain rfl : '/' = c := Option.some.inj hc
    exact List.mem_singleton_self _

theorem join_cons (s : List Char) (segments : List (List Char)) :
    Text.join '/' (s :: segments) = s ++ slashed segments := by
  induction segments generalizing s with
  | nil => exact (List.append_nil s).symm
  | cons p segments ih =>
    rw [Text.join_cons_of_ne_nil _ _ (List.cons_ne_nil _ _), ih]
    rfl

theorem join_root (segments : List (List Char)) :
    Text.join '/' ([] :: segments) = slashed segments := join_cons [] segments

/-- No segment contains a slash. -/
def Slashless (segments : List (List Char)) : Prop := ∀ s ∈ segments, '/' ∉ s

theorem pieces_segments {s : List Char} {segments : List (List Char)}
    (hs : Slashless (s :: segments)) : Text.pieces '/' (s ++ slashed segments) = s :: segments := by
  induction segments generalizing s with
  | nil => rw [slashed_nil, List.append_nil, Text.pieces_of_not_mem (hs s List.mem_cons_self)]
  | cons p segments ih =>
    rw [slashed_cons, Text.pieces_append (hs s List.mem_cons_self),
      ih fun q hq => hs q (List.mem_cons_of_mem s hq)]

theorem pieces_slashed {segments : List (List Char)} (hs : Slashless segments) :
    Text.pieces '/' (slashed segments) = [] :: segments :=
  pieces_segments (List.forall_mem_cons.mpr ⟨List.not_mem_nil, hs⟩)

/-! ## Section 3: Removing is a fold over the segments -/

/-- A dot segment. -/
def IsDot (s : List Char) : Prop := s = ['.'] ∨ s = ['.', '.']

instance (s : List Char) : Decidable (IsDot s) := inferInstanceAs (Decidable (_ ∨ _))

/-- The stack that segments leave.  A dot segment at the end leaves an empty one. -/
def settle (stack segments : List (List Char)) : List (List Char) :=
  if segments.getLast?.any (IsDot ·) then [] :: segments.foldl Reference.takeSegment stack
  else segments.foldl Reference.takeSegment stack

theorem settle_cons (stack : List (List Char)) (s p : List Char) (segments : List (List Char)) :
    settle stack (s :: p :: segments)
      = settle (Reference.takeSegment stack s) (p :: segments) := by
  unfold settle
  rw [List.getLast?_cons_cons, List.foldl_cons]

namespace Rfc3986

/-- The first segment of a text is what stands before the first slash. -/
theorem eq_of_segment {s rest : List Char} (hs : '/' ∉ s) (hrest : Stops ['/'] rest)
    {input : List Char} (hinput : s ++ rest = input) : (Text.cut '/' input).1 = s := by
  rw [← hinput]
  cases rest with
  | nil => rw [List.append_nil, Text.cut_of_not_mem hs]
  | cons c rest =>
    obtain rfl : c = '/' := List.mem_singleton.mp (hrest c rfl)
    rw [Text.cut_append hs]

/-- Rule E, for a segment after a slash. -/
theorem moveSegments_segment (output : List Char) {s rest : List Char} (hs : '/' ∉ s)
    (hdot : ¬ IsDot s) (hrest : Stops ['/'] rest) :
    moveSegments output ('/' :: (s ++ rest)) = moveSegments (output ++ '/' :: s) rest := by
  have hspan : Url.spanUntil ['/'] (s ++ rest) = (s, rest) :=
    Url.spanUntil_append (fun c hc hslash => hs (List.mem_singleton.mp hslash ▸ hc)) hrest
  -- the other rules would want a dot segment behind the slash
  have hstart : ∀ t, IsDot t → '/' ∉ t →
      ¬ Url.startsWith ('/' :: (t ++ ['/'])) ('/' :: (s ++ rest)) = true := by
    intro t ht hslash hprefix
    obtain ⟨after, hafter⟩ := List.isPrefixOf_iff_prefix.mp hprefix
    rw [List.cons_append, List.append_assoc] at hafter
    have hsame := eq_of_segment hs hrest (List.cons.inj hafter).2.symm
    rw [List.singleton_append, Text.cut_append hslash] at hsame
    exact hdot (hsame ▸ ht)
  have hwhole : ∀ t, IsDot t → '/' ∉ t → ¬ '/' :: (s ++ rest) = '/' :: t := by
    intro t ht hslash heq
    have hsame := eq_of_segment hs hrest (List.cons.inj heq).2
    rw [Text.cut_of_not_mem hslash] at hsame
    exact hdot (hsame ▸ ht)
  have hhere : ¬ Url.startsWith ['/', '.', '/'] ('/' :: (s ++ rest)) = true :=
    hstart ['.'] (.inl rfl) (by decide)
  have hup : ¬ Url.startsWith ['/', '.', '.', '/'] ('/' :: (s ++ rest)) = true :=
    hstart ['.', '.'] (.inr rfl) (by decide)
  rw [moveSegments, if_neg (List.cons_ne_nil _ _), if_neg (by simp [Url.startsWith]),
    if_neg (by simp [Url.startsWith]), if_neg hhere, if_neg (hwhole ['.'] (.inl rfl) (by decide)),
    if_neg hup, if_neg (hwhole ['.', '.'] (.inr rfl) (by decide)), if_neg (by simp),
    firstSegment, afterFirst, hspan]

theorem moveSegments_nil (output : List Char) : moveSegments output [] = output := by
  rw [moveSegments, if_pos rfl]

/-- A slash at the end is an empty segment. -/
theorem moveSegments_slash (output : List Char) :
    moveSegments output ['/'] = output ++ ['/'] := by
  have hempty : moveSegments output ('/' :: ([] ++ [])) = moveSegments (output ++ ['/']) [] :=
    moveSegments_segment output List.not_mem_nil (by decide) nofun
  rwa [moveSegments_nil] at hempty

/-- Rule B. -/
theorem moveSegments_here (output : List Char) {s : List Char} {segments : List (List Char)} :
    moveSegments output (slashed (['.'] :: s :: segments))
      = moveSegments output (slashed (s :: segments)) := by
  simp only [slashed_cons]
  rw [moveSegments]
  rfl

/-- Rule C. -/
theorem moveSegments_up (output : List Char) {s : List Char} {segments : List (List Char)} :
    moveSegments output (slashed (['.', '.'] :: s :: segments))
      = moveSegments (withoutLast output) (slashed (s :: segments)) := by
  simp only [slashed_cons]
  rw [moveSegments]
  rfl

theorem withoutLast_slashed (segments : List (List Char)) {s : List Char} (hs : '/' ∉ s) :
    withoutLast (slashed (segments ++ [s])) = slashed segments := by
  have hsplit : slashed (segments ++ [s]) = slashed segments ++ '/' :: s := by
    rw [slashed_append, slashed_cons, slashed_nil, List.append_nil]
  rw [hsplit, withoutLast, Text.cutLast_append hs]
  rfl

/-- Going up takes the last segment off the output, and the first off the stack. -/
theorem withoutLast_stack {stack : List (List Char)} (hstack : Slashless stack) :
    withoutLast (slashed stack.reverse) = slashed (stack.drop 1).reverse := by
  cases stack with
  | nil => rfl
  | cons s stack =>
    rw [List.reverse_cons, withoutLast_slashed _ (hstack s List.mem_cons_self)]
    rfl

/-- Removing dot segments by rewriting is a fold over the segments: the output is the stack
    that is written from its bottom. -/
theorem moveSegments_eq {stack segments : List (List Char)} (hstack : Slashless stack)
    (hs : Slashless segments) :
    moveSegments (slashed stack.reverse) (slashed segments)
      = slashed (settle stack segments).reverse := by
  induction segments generalizing stack with
  | nil => exact moveSegments_nil _
  | cons s segments ih =>
    obtain ⟨hfirst, hrest⟩ := List.forall_mem_cons.mp hs
    have hdrop : Slashless (stack.drop 1) := fun p hp => hstack p (List.mem_of_mem_drop hp)
    by_cases hdot : IsDot s
    · cases segments with
      | nil =>
        -- a dot segment at the end leaves its slash
        rcases hdot with rfl | rfl
        · have hlast : moveSegments (slashed stack.reverse) ['/', '.']
              = moveSegments (slashed stack.reverse) ['/'] := by
            rw [moveSegments]
            rfl
          exact hlast.trans (by simp [moveSegments_slash, settle, IsDot, Reference.takeSegment])
        · have hlast : moveSegments (slashed stack.reverse) ['/', '.', '.']
              = moveSegments (withoutLast (slashed stack.reverse)) ['/'] := by
            rw [moveSegments]
            rfl
          rw [withoutLast_stack hstack] at hlast
          exact hlast.trans (by simp [moveSegments_slash, settle, IsDot, Reference.takeSegment])
      | cons p segments =>
        rcases hdot with rfl | rfl
        · rw [moveSegments_here, ih hstack hrest, settle_cons]
          rfl
        · rw [moveSegments_up, withoutLast_stack hstack, ih hdrop hrest, settle_cons]
          rfl
    · have htake : Reference.takeSegment stack s = s :: stack := by
        unfold Reference.takeSegment
        rw [if_neg fun h => hdot (.inr h), if_neg fun h => hdot (.inl h)]
      have hpushed : slashed stack.reverse ++ '/' :: s = slashed (s :: stack).reverse := by
        rw [List.reverse_cons, slashed_append, slashed_cons, slashed_nil, List.append_nil]
      have hstep : settle stack (s :: segments) = settle (s :: stack) segments := by
        cases segments with
        | nil => simp [settle, htake, hdot]
        | cons p segments => rw [settle_cons, htake]
      rw [slashed_cons, moveSegments_segment _ hfirst hdot (stops_slashed segments), hpushed,
        ih (List.forall_mem_cons.mpr ⟨hfirst, hstack⟩) hrest, hstep]

theorem removeDotSegments_slashed {segments : List (List Char)} (hs : Slashless segments) :
    removeDotSegments (slashed segments) = slashed (settle [] segments).reverse := by
  have hempty : Slashless [] := nofun
  exact moveSegments_eq hempty hs

/-- The examples of section 5.2.4. -/
example : removeDotSegments "/a/b/c/./../../g".toList = "/a/g".toList ∧
    removeDotSegments "mid/content=5/../6".toList = "mid/6".toList := by
  decide +kernel

end Rfc3986

/-! ## Section 4: The bottom of the stack -/

/-- Segments of which only the last may be empty. -/
structure Segments (segments : List (List Char)) : Prop where
  slashless : Slashless segments
  inner : ∀ s ∈ segments.dropLast, s ≠ []

theorem mem_settle {stack segments : List (List Char)} {s : List Char}
    (hs : s ∈ settle stack segments) : s = [] ∨ s ∈ stack ∨ s ∈ segments := by
  have hfold : ∀ p ∈ segments.foldl Reference.takeSegment stack, p ∈ stack ∨ p ∈ segments :=
    fun p hp => Url.mem_foldl_take Reference.mem_takeSegment hp
  unfold settle at hs
  split at hs
  · exact (List.mem_cons.mp hs).imp_right (hfold s)
  · exact .inr (hfold s hs)

/-- No dot segment is left. -/
theorem not_isDot_of_mem_settle {stack segments : List (List Char)}
    (hstack : ∀ s ∈ stack, ¬ IsDot s) {s : List Char} (hs : s ∈ settle stack segments) :
    ¬ IsDot s := by
  have htake : ∀ stack p, (∀ s ∈ stack, ¬ IsDot s) →
      ∀ s ∈ Reference.takeSegment stack p, ¬ IsDot s := by
    intro stack p hstack s hs
    unfold Reference.takeSegment at hs
    by_cases hup : p = ['.', '.']
    · rw [if_pos hup] at hs
      exact hstack s (List.mem_of_mem_drop hs)
    · by_cases hhere : p = ['.']
      · rw [if_neg hup, if_pos hhere] at hs
        exact hstack s hs
      · rw [if_neg hup, if_neg hhere] at hs
        rcases List.mem_cons.mp hs with rfl | hmem
        · exact fun hdot => hdot.elim hhere hup
        · exact hstack s hmem
  have hfold : ∀ (segments stack : List (List Char)), (∀ s ∈ stack, ¬ IsDot s) →
      ∀ s ∈ segments.foldl Reference.takeSegment stack, ¬ IsDot s := by
    intro segments
    induction segments with
    | nil => exact fun stack hstack => hstack
    | cons p segments ih => exact fun stack hstack => ih _ (htake stack p hstack)
  unfold settle at hs
  split at hs
  · rcases List.mem_cons.mp hs with rfl | hmem
    · decide
    · exact hfold segments stack hstack s hmem
  · exact hfold segments stack hstack s hs

/-- The stack has a last segment, and below it only non-empty ones. -/
theorem Segments.settle_eq {segments : List (List Char)} (hs : Segments segments)
    (hne : segments ≠ []) :
    ∃ last kept, settle [] segments = last :: kept ∧ ∀ s ∈ kept, s ≠ [] := by
  obtain ⟨before, p, hsplit⟩ := (List.eq_nil_or_concat segments).resolve_left hne
  rw [List.concat_eq_append] at hsplit
  subst hsplit
  have hbelow : ∀ s ∈ before.foldl Reference.takeSegment [], s ≠ [] := by
    intro s hmem
    rcases Url.mem_foldl_take Reference.mem_takeSegment hmem with hnone | hbefore
    · exact absurd hnone List.not_mem_nil
    · exact hs.inner s (by rwa [List.dropLast_concat])
  unfold settle
  rw [List.getLast?_concat, List.foldl_append, List.foldl_cons, List.foldl_nil, Option.any_some,
    Reference.takeSegment]
  by_cases hup : p = ['.', '.']
  · have hdot : IsDot p := .inr hup
    rw [if_pos hup, if_pos (decide_eq_true hdot)]
    exact ⟨_, _, rfl, fun s hmem => hbelow s (List.mem_of_mem_drop hmem)⟩
  · by_cases hhere : p = ['.']
    · have hdot : IsDot p := .inl hhere
      rw [if_neg hup, if_pos hhere, if_pos (decide_eq_true hdot)]
      exact ⟨_, _, rfl, hbelow⟩
    · have hdot : ¬ IsDot p := fun hdot => hdot.elim hhere hup
      rw [if_neg hup, if_neg hhere, decide_eq_false hdot, if_neg Bool.false_ne_true]
      exact ⟨_, _, rfl, hbelow⟩

/-- An empty segment at the bottom of the stack stays there until surplus dot segments
    remove it. -/
theorem settle_root {segments : List (List Char)} (hne : segments ≠ []) :
    settle [] ([] :: segments) = settle [] segments ++ [[]] ∨
      settle [] ([] :: segments) = settle [] segments := by
  have hfold : ∀ (segments stack : List (List Char)),
      segments.foldl Reference.takeSegment (stack ++ [[]])
          = segments.foldl Reference.takeSegment stack ++ [[]] ∨
        segments.foldl Reference.takeSegment (stack ++ [[]])
          = segments.foldl Reference.takeSegment stack := by
    intro segments
    induction segments with
    | nil => exact fun stack => .inl rfl
    | cons s segments ih =>
      intro stack
      simp only [List.foldl_cons, Reference.takeSegment]
      by_cases hup : s = ['.', '.']
      · simp only [if_pos hup]
        cases stack with
        | nil => exact .inr rfl
        | cons p stack => exact ih stack
      · by_cases hhere : s = ['.']
        · simp only [if_neg hup, if_pos hhere]
          exact ih stack
        · simp only [if_neg hup, if_neg hhere]
          exact ih (s :: stack)
  obtain ⟨p, rest, rfl⟩ := List.exists_cons_of_ne_nil hne
  rw [settle_cons]
  have hstack := hfold (p :: rest) []
  unfold settle
  split
  · exact hstack.imp (congrArg ([] :: ·)) (congrArg ([] :: ·))
  · exact hstack

/-! ## Section 5: Merged paths -/

namespace Reference

/-- The text that a list of segments resolves to. -/
def settled (segments : List (List Char)) : List Char :=
  if (Text.join '/' (settle [] segments).reverse).isEmpty then ['/']
  else Text.join '/' (settle [] segments).reverse

theorem mergePaths_eq (base path : List Char) :
    mergePaths base path = settled (if path.head? = some '/' then Text.pieces '/' path
      else dropInnerEmpty (baseSegments base ++ Text.pieces '/' path)) := by
  unfold mergePaths settled settle
  dsimp only
  generalize (if path.head? = some '/' then Text.pieces '/' path
      else dropInnerEmpty (baseSegments base ++ Text.pieces '/' path)) = segments
  have hlast : segments.getLast?.any (IsDot ·)
      = (decide (segments.getLast? = some ['.'])
        || decide (segments.getLast? = some ['.', '.'])) := by
    cases segments.getLast? with
    | none => rfl
    | some s =>
      simp only [Option.any_some, Option.some.injEq]
      exact Bool.decide_or _ _
  rw [hlast]

/-- Written behind an authority, the text begins with a slash, whether or not the bottom of
    the stack was removed. -/
theorem settled_rooted {segments : List (List Char)} (hs : Segments segments)
    (hne : segments ≠ []) :
    (if !(settled ([] :: segments)).isEmpty && (settled ([] :: segments)).head? != some '/' then
        '/' :: settled ([] :: segments) else settled ([] :: segments))
      = slashed (settle [] segments).reverse := by
  obtain ⟨last, kept, hsettle, hkept⟩ := hs.settle_eq hne
  have hslashless : Slashless (last :: kept) := by
    intro s hmem
    rw [← hsettle] at hmem
    rcases mem_settle hmem with rfl | hnone | hsegment
    · exact List.not_mem_nil
    · exact absurd hnone List.not_mem_nil
    · exact hs.slashless s hsegment
  rw [hsettle]
  rcases settle_root hne with hroot | hroot
  · -- the bottom is still there, and gives the slash
    have hjoin : Text.join '/' (settle [] ([] :: segments)).reverse
        = slashed (last :: kept).reverse := by
      rw [hroot, hsettle, List.reverse_append, List.reverse_singleton, List.singleton_append,
        join_root]
    obtain ⟨s, rest, hreverse⟩ : ∃ s rest, (last :: kept).reverse = s :: rest :=
      List.exists_cons_of_ne_nil (by simp)
    unfold settled
    rw [hjoin, hreverse]
    rfl
  · obtain ⟨s, rest, hreverse⟩ : ∃ s rest, (last :: kept).reverse = s :: rest :=
      List.exists_cons_of_ne_nil (by simp)
    have hjoin : Text.join '/' (settle [] ([] :: segments)).reverse = s ++ slashed rest := by
      rw [hroot, hsettle, hreverse, join_cons]
    unfold settled
    rw [hjoin, hreverse, slashed_cons]
    cases s with
    | nil =>
      -- only the last segment can be empty, so it is the only one
      obtain rfl : rest = [] := by
        cases rest with
        | nil => rfl
        | cons p rest =>
          have hmem : [] ∈ kept := by
            have hdrop : kept.reverse = ([] :: p :: rest).dropLast := by
              rw [← hreverse, List.reverse_cons, List.dropLast_concat]
            rw [← List.mem_reverse, hdrop]
            exact List.mem_cons_self
          exact absurd rfl (hkept [] hmem)
      rfl
    | cons c s =>
      have hslash : c ≠ '/' := by
        have hmem : c :: s ∈ last :: kept := by
          rw [← List.mem_reverse, hreverse]
          exact List.mem_cons_self
        rintro rfl
        exact hslashless _ hmem List.mem_cons_self
      simp [hslash]

/-- All segments of a base path but the last are kept. -/
theorem dropInnerEmpty_base {base own : List (List Char)} (hb : Segments base)
    (ho : Segments own) (hne : own ≠ []) :
    dropInnerEmpty (baseSegments (slashed base) ++ own) = [] :: (base.dropLast ++ own) := by
  have hfilter : ∀ segments : List (List Char), (∀ s ∈ segments, s ≠ []) →
      segments.filter (fun s => !s.isEmpty) = segments := by
    intro segments hall
    refine List.filter_eq_self.mpr fun s hmem => ?_
    rw [Bool.not_eq_true', List.isEmpty_eq_false_iff]
    exact hall s hmem
  obtain ⟨before, p, hsplit⟩ := (List.eq_nil_or_concat own).resolve_left hne
  rw [List.concat_eq_append] at hsplit
  subst hsplit
  have hinner : ∀ s ∈ before, s ≠ [] := fun s hmem => ho.inner s (by rwa [List.dropLast_concat])
  have hown : ∀ kept : List (List Char),
      kept.filter (fun s => !s.isEmpty) = base.dropLast →
      dropInnerEmpty ([] :: kept ++ (before ++ [p]))
        = [] :: (base.dropLast ++ (before ++ [p])) := by
    intro kept hkept
    have hrest : kept ++ (before ++ [p]) = (kept ++ before) ++ [p] := (List.append_assoc _ _ _).symm
    unfold dropInnerEmpty
    rw [List.cons_append, List.drop_succ_cons, List.drop_zero, hrest, List.dropLast_concat,
      List.getLast?_concat, List.filter_append, hkept, hfilter before hinner]
    simp
  unfold baseSegments
  dsimp only
  rw [pieces_slashed hb.slashless]
  rcases List.eq_nil_or_concat base with rfl | ⟨kept, q, hbase⟩
  · rw [if_pos (by rfl)]
    exact hown [] rfl
  · rw [List.concat_eq_append] at hbase
    subst hbase
    have hkept : kept.filter (fun s => !s.isEmpty) = (kept ++ [q]).dropLast := by
      rw [List.dropLast_concat]
      exact hfilter kept fun s hmem => hb.inner s (by rwa [List.dropLast_concat])
    have hlast : ([] :: (kept ++ [q])).getLast? = some q := by
      rw [← List.cons_append, List.getLast?_concat]
    rw [hlast]
    by_cases hempty : q = []
    · rw [if_pos (congrArg some hempty)]
      apply hown
      rw [hempty, List.filter_append, hkept, hempty]
      simp
    · rw [if_neg (fun h => hempty (Option.some.inj h)), ← List.cons_append, List.dropLast_concat]
      exact hown kept hkept

/-- Merged as texts, a base path gives all its segments but the last. -/
theorem merge_slashed {base own : List (List Char)} (hb : Slashless base) {s : List Char} :
    Rfc3986.merge (slashed base) (Text.join '/' (s :: own))
      = slashed (base.dropLast ++ s :: own) := by
  unfold Rfc3986.merge
  rcases List.eq_nil_or_concat base with rfl | ⟨kept, q, hbase⟩
  · rw [if_pos slashed_nil, join_cons]
    rfl
  · rw [List.concat_eq_append] at hbase
    subst hbase
    have hsplit : slashed (kept ++ [q]) = slashed kept ++ '/' :: q := by
      rw [slashed_append, slashed_cons, slashed_nil, List.append_nil]
    have hq : '/' ∉ q := hb q (List.mem_append_right _ (List.mem_singleton_self q))
    rw [hsplit, if_neg (by simp), Text.cutLast_append hq, List.dropLast_concat, slashed_append,
      join_cons]
    rfl

end Reference

end Redial
