import Mathlib.Data.List.DropRight
import Mathlib.Data.List.TakeDrop
import Redial.Text.Blank

/-! # Cutting and stripping texts

    A text is cut where a mark stands first or last, and into pieces where it stands at
    all.  A mark that does not occur cuts nothing, so what is put together from parts
    without it falls apart into them again.  Stripping takes off what was padded on. -/

namespace Redial.Text

/-! ## Section 1: Cuts -/

variable {sep : Char} {cs : List Char}

/-- Where a text is cut, and that the mark stands nowhere before. -/
theorem cut_cases (sep : Char) (cs : List Char) :
    (sep ∉ cs ∧ cut sep cs = (cs, none)) ∨
      ∃ before after, cs = before ++ sep :: after ∧ sep ∉ before ∧
        cut sep cs = (before, some after) := by
  induction cs with
  | nil => exact .inl ⟨List.not_mem_nil, rfl⟩
  | cons c rest ih =>
    by_cases hc : c = sep
    · refine .inr ⟨[], rest, by rw [hc]; rfl, List.not_mem_nil, ?_⟩
      rw [cut, if_pos hc]
    · rcases ih with ⟨hnone, hcut⟩ | ⟨before, after, hrest, hnone, hcut⟩
      · refine .inl ⟨?_, by rw [cut, if_neg hc, hcut]⟩
        exact fun hmem => (List.mem_cons.mp hmem).elim (fun h => hc h.symm) hnone
      · refine .inr ⟨c :: before, after, by rw [hrest]; rfl, ?_, by rw [cut, if_neg hc, hcut]⟩
        exact fun hmem => (List.mem_cons.mp hmem).elim (fun h => hc h.symm) hnone

theorem cut_of_not_mem (hcs : sep ∉ cs) : cut sep cs = (cs, none) := by
  rcases cut_cases sep cs with ⟨-, hcut⟩ | ⟨before, after, hsplit, -, -⟩
  · exact hcut
  · rw [hsplit] at hcs
    exact absurd (by simp) hcs

theorem cut_append {before : List Char} (hbefore : sep ∉ before) (after : List Char) :
    cut sep (before ++ sep :: after) = (before, some after) := by
  induction before with
  | nil => rw [List.nil_append, cut, if_pos rfl]
  | cons c rest ih =>
    rw [List.mem_cons, not_or] at hbefore
    rw [List.cons_append, cut, if_neg (fun h => hbefore.1 h.symm), ih hbefore.2]

/-- Where a text is cut last, and that the mark stands nowhere after. -/
theorem cutLast_cases (sep : Char) (cs : List Char) :
    (sep ∉ cs ∧ cutLast sep cs = (none, cs)) ∨
      ∃ before after, cs = before ++ sep :: after ∧ sep ∉ after ∧
        cutLast sep cs = (some before, after) := by
  unfold cutLast
  rcases cut_cases sep cs.reverse with ⟨hnone, hcut⟩ | ⟨after, before, hsplit, hnone, hcut⟩
  · rw [hcut]
    exact .inl ⟨fun hmem => hnone (List.mem_reverse.mpr hmem), by simp⟩
  · rw [hcut]
    refine .inr ⟨before.reverse, after.reverse, ?_, ?_, rfl⟩
    · rw [← List.reverse_reverse cs, hsplit]
      simp
    · exact fun hmem => hnone (List.mem_reverse.mp hmem)

theorem cutLast_of_not_mem (hcs : sep ∉ cs) : cutLast sep cs = (none, cs) := by
  unfold cutLast
  rw [cut_of_not_mem (fun hmem => hcs (List.mem_reverse.mp hmem))]
  simp

theorem cutLast_append {after : List Char} (hafter : sep ∉ after) (before : List Char) :
    cutLast sep (before ++ sep :: after) = (some before, after) := by
  have hreverse : (before ++ sep :: after).reverse = after.reverse ++ sep :: before.reverse := by
    simp
  unfold cutLast
  rw [hreverse, cut_append (fun hmem => hafter (List.mem_reverse.mp hmem))]
  simp

/-! ## Section 2: Pieces -/

theorem pieces_of_not_mem (hcs : sep ∉ cs) : pieces sep cs = [cs] := by
  induction cs with
  | nil => rfl
  | cons c cs ih =>
    rw [List.mem_cons, not_or] at hcs
    rw [pieces, if_neg (fun h => hcs.1 h.symm), ih hcs.2]

/-- Pieces on both sides of a mark. -/
theorem pieces_append_mark (sep : Char) (before after : List Char) :
    pieces sep (before ++ sep :: after) = pieces sep before ++ pieces sep after := by
  induction before with
  | nil => exact if_pos rfl
  | cons c before ih =>
    rw [List.cons_append, pieces, pieces]
    by_cases hc : c = sep
    · rw [if_pos hc, if_pos hc, ih]
      rfl
    · rw [if_neg hc, if_neg hc, ih]
      cases hpieces : pieces sep before with
      | nil => exact absurd hpieces (pieces_ne_nil sep before)
      | cons p ps => rfl

theorem pieces_append {before : List Char} (hbefore : sep ∉ before) (after : List Char) :
    pieces sep (before ++ sep :: after) = before :: pieces sep after := by
  rw [pieces_append_mark, pieces_of_not_mem hbefore]
  rfl

/-! ## Section 3: Stripping -/

section strip

variable {p : Char → Bool} {as bs : List Char}

theorem stripWhile_of_not (hcs : ∀ c ∈ cs, p c = false) : stripWhile p cs = cs := by
  have hdrop : ∀ ds : List Char, (∀ c ∈ ds, p c = false) → ds.dropWhile p = ds := by
    intro ds hds
    cases ds with
    | nil => rfl
    | cons d ds => rw [List.dropWhile_cons_of_neg (by simp [hds d List.mem_cons_self])]
  unfold stripWhile dropEndWhile
  rw [hdrop cs hcs, hdrop cs.reverse (fun c hc => hcs c (List.mem_reverse.mp hc)),
    List.reverse_reverse]

/-- What is padded on at the end is taken off again. -/
theorem dropEndWhile_append (hbs : ∀ b ∈ bs, p b = true) :
    dropEndWhile p (cs ++ bs) = dropEndWhile p cs := by
  unfold dropEndWhile
  rw [List.reverse_append,
    List.dropWhile_append_of_pos fun b hb => hbs b (List.mem_reverse.mp hb)]

theorem dropEndWhile_cons {a : Char} (ha : p a = false) (cs : List Char) :
    dropEndWhile p (a :: cs) = a :: dropEndWhile p cs := by
  unfold dropEndWhile
  rw [List.reverse_cons, List.dropWhile_append]
  split
  · next hall =>
    rw [List.isEmpty_iff.mp hall, List.dropWhile_cons_of_neg (by simp [ha])]
    rfl
  · rw [List.reverse_append]
    rfl

theorem stripWhile_cons {a : Char} (ha : p a = false) (cs : List Char) :
    stripWhile p (a :: cs) = a :: dropEndWhile p cs := by
  rw [stripWhile, List.dropWhile_cons_of_neg (by simp [ha]), dropEndWhile_cons ha]

theorem dropEndWhile_concat {b : Char} (hb : p b = false) (cs : List Char) :
    dropEndWhile p (cs ++ [b]) = cs ++ [b] :=
  List.rdropWhile_concat_neg p cs b (by simp [hb])

theorem mem_of_mem_dropEndWhile {c : Char} (hc : c ∈ dropEndWhile p cs) : c ∈ cs :=
  (List.rdropWhile_prefix p cs).subset hc

/-- What is padded on at both ends is taken off again. -/
theorem stripWhile_pad (has : ∀ a ∈ as, p a = true) (hbs : ∀ b ∈ bs, p b = true)
    (cs : List Char) : stripWhile p (as ++ cs ++ bs) = stripWhile p cs := by
  unfold stripWhile
  rw [List.append_assoc, List.dropWhile_append_of_pos has, List.dropWhile_append]
  split
  · next hall =>
    have hnone : bs.dropWhile p = [] := by
      rw [← List.append_nil bs, List.dropWhile_append_of_pos hbs]
      rfl
    rw [hnone, List.isEmpty_iff.mp hall]
  · exact dropEndWhile_append hbs

end strip

/-! ## Section 4: Characters of ASCII -/

/-- A fact about the characters of ASCII, checked one by one. -/
theorem ascii_forall {P : Char → Prop} (hP : ∀ n < 128, P (Char.ofNat n)) {c : Char}
    (hc : c.toNat < 128) : P c := by
  rw [← Char.ofNat_toNat c]
  exact hP c.toNat hc

end Redial.Text
