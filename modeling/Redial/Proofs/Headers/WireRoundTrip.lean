import Redial.Engine.Event
import Redial.Headers.Wire
import Redial.Proofs.Headers.Adding
import Redial.Proofs.LowerCase
import Mathlib.Data.List.Induction

/-! # From the wire and back

    A container that is read from pairs and written again gives the pairs grouped by their
    lower-cased names: `lines_ofWire`.  The lines of a container are grouped already, so
    reading them loses nothing that can be asked for: `wire_round_trip`.

    Both directions go through what is found under a name.  Adding a text adds it at the
    end of the texts of its name (`texts_add_text`), so the texts of a container that was
    read are the values of the pairs with that name, in order; and the lines of a container
    are, key by key, the texts that are found under the key (`lines_none`). -/

namespace Redial

/-! ## Section 1: Grouping pairs by name -/

/-- Each name once, in order of first occurrence. -/
theorem eraseDups_concat (names : List String) (name : String) :
    (names ++ [name]).eraseDups =
      if name ∈ names then names.eraseDups else names.eraseDups ++ [name] := by
  rw [List.eraseDups_append]
  by_cases hmem : name ∈ names
  · have hnone : [name].removeAll names = [] := by simp [List.removeAll, hmem]
    rw [if_pos hmem, hnone, List.eraseDups_nil, List.append_nil]
  · have hkept : [name].removeAll names = [name] := by simp [List.removeAll, hmem]
    rw [if_neg hmem, hkept, List.eraseDups_cons, List.filter_nil, List.eraseDups_nil]

theorem nodup_eraseDups (names : List String) : names.eraseDups.Nodup := by
  induction names using List.reverseRecOn with
  | nil => exact List.nodup_nil
  | append_singleton names name ih =>
    rw [eraseDups_concat]
    by_cases hmem : name ∈ names
    · rw [if_pos hmem]
      exact ih
    · rw [if_neg hmem]
      exact List.Nodup.append ih (List.nodup_singleton name)
        (by simpa [List.mem_eraseDups] using hmem)

/-- The pairs with lower-cased names. -/
def lowered (pairs : List (String × String)) : List (String × String) :=
  pairs.map fun p => (Text.lower p.1, p.2)

/-- The pairs by their names: the names in order of first occurrence, and the pairs with one
    name in the order in which they were. -/
def grouped (pairs : List (String × String)) : List (String × String) :=
  (pairs.map Prod.fst).eraseDups.flatMap fun name => pairs.filter fun p => p.1 == name

/-- Grouping keeps the pairs with a name, in their order. -/
theorem filter_grouped (pairs : List (String × String)) (name : String) :
    (grouped pairs).filter (fun p => p.1 == name) = pairs.filter fun p => p.1 == name := by
  have hmark : ∀ n, ∀ p ∈ pairs.filter (fun p => p.1 == n), p.1 = n := fun n p hp =>
    beq_iff_eq.mp (List.mem_filter.mp hp).2
  have hnodup : ((pairs.map Prod.fst).eraseDups.map fun n => n).Nodup := by
    rw [List.map_id']
    exact nodup_eraseDups _
  unfold grouped
  rw [filter_flatMap_key hmark hnodup]
  cases hfind : (pairs.map Prod.fst).eraseDups.find? fun n => n == name with
  | some n =>
    have hn : n = name := ((find?_key_eq_some hnodup).mp hfind).2
    rw [hn]
  | none =>
    have habsent : name ∉ pairs.map Prod.fst := by
      have hnot := find?_key_eq_none.mp hfind
      rwa [List.map_id', List.mem_eraseDups] at hnot
    symm
    rw [List.filter_eq_nil_iff]
    intro p hp hname
    exact habsent (beq_iff_eq.mp hname ▸ List.mem_map_of_mem hp)

/-- Grouping neither loses nor repeats a pair: a pair is counted among those with its name. -/
theorem grouped_perm (pairs : List (String × String)) : (grouped pairs).Perm pairs := by
  rw [List.perm_iff_count]
  intro p
  have hcount : ∀ ps : List (String × String),
      (ps.filter fun q => q.1 == p.1).count p = ps.count p := fun ps =>
    List.count_filter (beq_self_eq_true p.1)
  rw [← hcount, filter_grouped, hcount]

/-- The names of marked pieces are the marks of the pieces that are not empty. -/
theorem eraseDups_flatMap {names : List String} {pieces : String → List (String × String)}
    (hmark : ∀ n, ∀ p ∈ pieces n, p.1 = n) (hnames : names.Nodup) :
    ((names.flatMap pieces).map Prod.fst).eraseDups = names.filter fun n => !(pieces n).isEmpty := by
  induction names with
  | nil => rfl
  | cons name rest ih =>
    rw [List.nodup_cons] at hnames
    have hothers : ∀ m ∈ (rest.flatMap pieces).map Prod.fst, m ≠ name := by
      intro m hm heq
      obtain ⟨p, hp, hname⟩ := List.mem_map.mp hm
      obtain ⟨n, hn, hpiece⟩ := List.mem_flatMap.mp hp
      have hsame : n = name := (hmark n p hpiece).symm.trans (hname.trans heq)
      exact hnames.1 (hsame ▸ hn)
    rw [List.flatMap_cons, List.map_append]
    cases hpieces : pieces name with
    | nil =>
      have hempty : ¬ (!(pieces name).isEmpty) = true := by simp [hpieces]
      rw [List.filter_cons, if_neg hempty, ← ih hnames.2, List.map_nil, List.nil_append]
    | cons p ps =>
      have hsome : (!(pieces name).isEmpty) = true := by simp [hpieces]
      have hmarked : ∀ q ∈ p :: ps, q.1 = name := fun q hq => hmark name q (hpieces ▸ hq)
      have hgone : (ps.map Prod.fst).filter (fun m => !m == name) = [] := by
        rw [List.filter_eq_nil_iff]
        intro m hm
        obtain ⟨q, hq, rfl⟩ := List.mem_map.mp hm
        simp [hmarked q (List.mem_cons_of_mem p hq)]
      have hkept : ((rest.flatMap pieces).map Prod.fst).filter (fun m => !m == name) =
          (rest.flatMap pieces).map Prod.fst :=
        List.filter_eq_self.mpr fun m hm => by simpa using hothers m hm
      rw [List.filter_cons, if_pos hsome, ← ih hnames.2, List.map_cons, List.cons_append,
        hmarked p List.mem_cons_self, List.eraseDups_cons, List.filter_append, hgone, hkept,
        List.nil_append]

/-- What stands in groups already is its own grouping. -/
theorem grouped_flatMap {names : List String} {pieces : String → List (String × String)}
    (hmark : ∀ n, ∀ p ∈ pieces n, p.1 = n) (hnames : names.Nodup) :
    grouped (names.flatMap pieces) = names.flatMap pieces := by
  have hpiece : ∀ n ∈ names, (names.flatMap pieces).filter (fun p => p.1 == n) = pieces n := by
    intro n hn
    have hnodup : (names.map fun m => m).Nodup := by rwa [List.map_id']
    have hfind : names.find? (fun m => m == n) = some n :=
      (find?_key_eq_some hnodup).mpr ⟨hn, rfl⟩
    rw [filter_flatMap_key hmark hnodup, hfind]
  unfold grouped
  rw [eraseDups_flatMap hmark hnames]
  -- names without pieces are not among the groups, and would add nothing to them
  have hskip : ∀ ns : List String, ns ⊆ names →
      (ns.filter fun n => !(pieces n).isEmpty).flatMap
          (fun n => (names.flatMap pieces).filter fun p => p.1 == n) = ns.flatMap pieces := by
    intro ns hns
    induction ns with
    | nil => rfl
    | cons n ns ih =>
      rw [List.cons_subset] at hns
      rw [List.flatMap_cons, ← ih hns.2]
      cases hpieces : (pieces n).isEmpty with
      | true =>
        rw [List.filter_cons_of_neg (by simp [hpieces]), List.isEmpty_iff.mp hpieces,
          List.nil_append]
      | false =>
        rw [List.filter_cons_of_pos (by simp [hpieces]), List.flatMap_cons, hpiece n hns.1]
  exact hskip names (List.Subset.refl names)

/-! ## Section 2: Reading -/

namespace Headers

variable {h : Headers}

/-- A text that is added is sent last under its name. -/
theorem texts_add_text (name text other : String) :
    (h.add name (.text text)).texts other =
      if Text.lower other = Text.lower name then h.texts other ++ [text] else h.texts other := by
  have hadded : h.addedTexts name (.text text) = [text] := by
    unfold addedTexts
    split <;> rfl
  rw [texts_add, hadded]

theorem keys_add (name : String) (value : Value) :
    (h.add name value).keys =
      if Text.lower name ∈ h.keys then h.keys else h.keys ++ [Text.lower name] := by
  unfold add
  split <;> exact keys_set

/-- The last pair is added to what was read before. -/
theorem ofWire_concat (pairs : List (String × String)) (p : String × String) :
    ofWire (pairs ++ [p]) = (ofWire pairs).add p.1 (.text p.2) := by
  unfold ofWire addAll
  rw [List.map_append, List.foldl_append]
  rfl

/-- What was read is sent under a name: the values of the pairs with that name, in order. -/
theorem texts_ofWire (pairs : List (String × String)) (name : String) :
    (ofWire pairs).texts name =
      (pairs.filter fun p => Text.lower p.1 == Text.lower name).map Prod.snd := by
  induction pairs using List.reverseRecOn with
  | nil => rfl
  | append_singleton pairs p ih =>
    rw [ofWire_concat, texts_add_text, ih, List.filter_append, List.map_append]
    by_cases hname : Text.lower name = Text.lower p.1
    · have hlast : (Text.lower p.1 == Text.lower name) = true := beq_iff_eq.mpr hname.symm
      rw [if_pos hname, List.filter_cons, if_pos hlast]
      rfl
    · have hlast : ¬ (Text.lower p.1 == Text.lower name) = true := fun hbeq =>
        hname (beq_iff_eq.mp hbeq).symm
      rw [if_neg hname, List.filter_cons, if_neg hlast]
      exact (List.append_nil _).symm

/-- The keys of what was read: each lower-cased name once, in order of first occurrence. -/
theorem keys_ofWire (pairs : List (String × String)) :
    (ofWire pairs).keys = ((lowered pairs).map Prod.fst).eraseDups := by
  induction pairs using List.reverseRecOn with
  | nil => rfl
  | append_singleton pairs p ih =>
    have hnames : (lowered (pairs ++ [p])).map Prod.fst =
        (lowered pairs).map Prod.fst ++ [Text.lower p.1] := by
      rw [lowered, List.map_append, List.map_append]
      rfl
    rw [ofWire_concat, keys_add, ih, hnames, eraseDups_concat]
    simp only [List.mem_eraseDups]

/-! ## Section 3: Writing -/

/-- The lines of a container are, key by key, the texts that it sends under the key. -/
theorem lines_none (h : Headers) :
    h.lines none = h.keys.flatMap fun key => (h.texts key).map fun text => (key, text) := by
  have hentry : ∀ name, h.entryLines none name =
      (h.texts (Text.lower name)).map fun text => (Text.lower name, text) := fun name => by
    rw [texts_congr (Text.lower_lower name)]
    rfl
  show h.names.flatMap (h.entryLines none) ++ [] = _
  rw [List.append_nil, keys, names, List.flatMap_map, List.flatMap_map]
  exact List.flatMap_congr fun e _ => hentry e.name

/-- Keys are lower-cased already. -/
theorem lower_key {key : String} (hkey : key ∈ h.keys) : Text.lower key = key := by
  obtain ⟨e, -, rfl⟩ := List.mem_map.mp hkey
  exact Text.lower_lower e.name

/-- Among the lines of a container, those with a name carry the texts under that name. -/
theorem Distinct.filter_lines (hh : h.Distinct) (name : String) :
    ((h.lines none).filter fun p => Text.lower p.1 == Text.lower name).map Prod.snd =
      h.texts name := by
  have hmark : ∀ key, ∀ p ∈ (h.texts key).map (fun text => (key, text)),
      Text.lower p.1 = Text.lower key := by
    intro key p hp
    obtain ⟨text, -, rfl⟩ := List.mem_map.mp hp
    rfl
  -- keys differ after lower-casing as well, because it changes none of them
  have hkeys : h.keys.map Text.lower = h.keys := by
    rw [List.map_congr_left fun key hkey => lower_key hkey]
    exact List.map_id _
  have hnodup : (h.keys.map Text.lower).Nodup := by
    rw [hkeys]
    exact hh
  rw [lines_none, filter_flatMap_key hmark hnodup]
  cases hfind : h.keys.find? fun key => Text.lower key == Text.lower name with
  | some key =>
    have hkey : Text.lower key = Text.lower name := ((find?_key_eq_some hnodup).mp hfind).2
    show ((h.texts key).map fun text => (key, text)).map Prod.snd = _
    rw [List.map_map, texts_congr hkey]
    exact List.map_id _
  | none =>
    have habsent := find?_key_eq_none.mp hfind
    rw [hkeys] at habsent
    rw [texts_missing habsent]
    rfl

/-- The lines of a container are lower-cased already. -/
theorem lowered_lines (h : Headers) : lowered (h.lines none) = h.lines none := by
  have hself : ∀ p ∈ h.lines none, (fun p : String × String => (Text.lower p.1, p.2)) p = id p := by
    intro p hp
    rw [lines_none] at hp
    obtain ⟨key, hkey, hpiece⟩ := List.mem_flatMap.mp hp
    obtain ⟨text, -, rfl⟩ := List.mem_map.mp hpiece
    show (Text.lower key, text) = (key, text)
    rw [lower_key hkey]
  rw [lowered, List.map_congr_left hself, List.map_id]

/-- The lines of a container stand in groups already. -/
theorem Distinct.grouped_lines (hh : h.Distinct) : grouped (h.lines none) = h.lines none := by
  have hmark : ∀ key, ∀ p ∈ (h.texts key).map (fun text => (key, text)), p.1 = key := by
    intro key p hp
    obtain ⟨text, -, rfl⟩ := List.mem_map.mp hp
    rfl
  rw [lines_none]
  exact grouped_flatMap hmark hh

/-! ## Section 4: Round trips -/

/-- Reading pairs and writing them groups them by their lower-cased names. -/
theorem lines_ofWire (pairs : List (String × String)) :
    (ofWire pairs).lines none = grouped (lowered pairs) := by
  rw [lines_none, keys_ofWire, grouped]
  apply List.flatMap_congr
  intro key hkey
  have hlower : Text.lower key = key := lower_key (by rwa [keys_ofWire])
  have hpairs : (lowered pairs).filter (fun p => p.1 == key) =
      (pairs.filter fun p => Text.lower p.1 == key).map fun p => (Text.lower p.1, p.2) :=
    List.filter_map
  rw [texts_ofWire, hlower, hpairs, List.map_map]
  apply List.map_congr_left
  intro p hp
  rw [Function.comp_apply, beq_iff_eq.mp (List.mem_filter.mp hp).2]

example : (ofWire [("X-A", "1"), ("b", "2"), ("x-a", "3")]).lines none =
    [("x-a", "1"), ("x-a", "3"), ("b", "2")] := by decide +kernel

/-- Pairs that are read and written again are grouped by their lower-cased names, without
    loss, and in the same order under each name.  A container whose lines are read back
    sends the same texts under every name and the same lines, and a transmission that is
    staged with its lines answers for every name what the container does. -/
theorem wire_round_trip :
    (∀ pairs : List (String × String),
      (ofWire pairs).lines none = grouped (lowered pairs) ∧
        (grouped (lowered pairs)).Perm (lowered pairs) ∧
        ∀ name, (grouped (lowered pairs)).filter (fun p => p.1 == name) =
          (lowered pairs).filter fun p => p.1 == name) ∧
    ∀ h : Headers, h.Distinct →
      (∀ name, (ofWire (h.lines none)).texts name = h.texts name) ∧
        (ofWire (h.lines none)).lines none = h.lines none ∧
        ∀ s : Staged, s.headers = h.lines none → ∀ name, s.texts name = h.texts name := by
  refine ⟨fun pairs => ⟨lines_ofWire pairs, grouped_perm _, filter_grouped _⟩, ?_⟩
  intro h hh
  refine ⟨fun name => ?_, ?_, fun s hs name => ?_⟩
  · rw [texts_ofWire, hh.filter_lines]
  · rw [lines_ofWire, lowered_lines, hh.grouped_lines]
  · rw [Staged.texts, hs, hh.filter_lines]

/-- The theorem for a container with several values, with nothing at both levels, and with
    a member of an enumeration. -/
theorem wire_round_trip_mixed :
    let h : Headers := ⟨[⟨"X-A", .list [.text "1", .nothing, .text "2"]⟩, ⟨"Accept", .nothing⟩,
      ⟨"USER-agent", .tuple [.nothing, .member 0 "VALUE" (.text "m")]⟩]⟩
    let s : Staged := ⟨"GET", .text "http://a/", h.lines none, none⟩
    h.Distinct ∧ h.lines none = [("x-a", "1"), ("x-a", "2"), ("user-agent", "m")] ∧
      (ofWire (h.lines none)).lines none = h.lines none ∧ ∀ name, s.texts name = h.texts name := by
  intro h s
  have hh : h.Distinct := by
    show h.keys.Nodup
    decide +kernel
  obtain ⟨-, hlines, hstaged⟩ := wire_round_trip.2 h hh
  exact ⟨hh, by decide +kernel, hlines, hstaged s rfl⟩

end Headers

end Redial
