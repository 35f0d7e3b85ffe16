import Redial.Headers.Basic
import Mathlib.Data.List.Nodup

/-! # The entries of a container

    A container finds its entries by their keys, the lower-cased names, and no two entries
    have the same key: `Distinct`.  Setting a header then either changes one value in place
    or appends an entry, so the keys only ever grow at the end, and what is found under
    another key stays the same. -/

namespace Redial

/-! ## Section 1: Lists that are found by a key -/

section keyed

variable {α β : Type} {key : α → String} {l : List α} {a : α} {k : String}

theorem find?_key_cons :
    (a :: l).find? (fun b => key b == k) =
      if key a = k then some a else l.find? fun b => key b == k := by
  by_cases ha : key a = k
  · rw [List.find?_cons_of_pos (by simpa using ha), if_pos ha]
  · rw [List.find?_cons_of_neg (by simpa using ha), if_neg ha]

/-- Where the keys differ, an element is found exactly under its own key. -/
theorem find?_key_eq_some (hl : (l.map key).Nodup) :
    l.find? (fun b => key b == k) = some a ↔ a ∈ l ∧ key a = k := by
  constructor
  · intro hfind
    exact ⟨List.mem_of_find?_eq_some hfind, by simpa using List.find?_some hfind⟩
  · intro ⟨hmem, hkey⟩
    cases hfind : l.find? fun b => key b == k with
    | none => exact absurd hkey (by simpa using List.find?_eq_none.mp hfind a hmem)
    | some b =>
      have hfound : key b = key a := by
        rw [hkey]
        simpa using List.find?_some hfind
      rw [List.inj_on_of_nodup_map hl (List.mem_of_find?_eq_some hfind) hmem hfound]

theorem find?_key_eq_none :
    l.find? (fun b => key b == k) = none ↔ k ∉ l.map key := by
  rw [List.find?_eq_none, List.mem_map, not_exists]
  exact forall_congr' fun b => by simp

/-- Elements yield marked pieces, each marked with the key of its element.  The pieces with
    one mark are those of the element with that key. -/
theorem filter_flatMap_key {mark : β → String} {pieces : α → List β}
    (hmark : ∀ a, ∀ b ∈ pieces a, mark b = key a) (hl : (l.map key).Nodup) (k : String) :
    (l.flatMap pieces).filter (fun b => mark b == k) =
      match l.find? fun a => key a == k with
      | some a => pieces a
      | none => [] := by
  induction l with
  | nil => rfl
  | cons a rest ih =>
    rw [List.map_cons, List.nodup_cons] at hl
    rw [List.flatMap_cons, List.filter_append, ih hl.2]
    by_cases ha : key a = k
    · have hall : (pieces a).filter (fun b => mark b == k) = pieces a :=
        List.filter_eq_self.mpr fun b hb => by simp [hmark a b hb, ha]
      have hrest : rest.find? (fun b => key b == k) = none :=
        find?_key_eq_none.mpr (ha ▸ hl.1)
      rw [find?_key_cons, if_pos ha, hall, hrest, List.append_nil]
    · have hnone : (pieces a).filter (fun b => mark b == k) = [] :=
        List.filter_eq_nil_iff.mpr fun b hb => by simp [hmark a b hb, ha]
      rw [find?_key_cons, if_neg ha, hnone, List.nil_append]

end keyed

namespace Headers

variable {h : Headers} {es : List Header} {name : String} {value : Value}

/-! ## Section 2: Keys -/

/-- The keys of the entries, in order. -/
def keys (h : Headers) : List String := h.entries.map Header.key

/-- No two entries have the same key. -/
def Distinct (h : Headers) : Prop := h.keys.Nodup

instance (h : Headers) : Decidable h.Distinct := inferInstanceAs (Decidable h.keys.Nodup)

/-- A new name is appended. -/
theorem setIn_new (hnew : Text.lower name ∉ es.map Header.key) :
    setIn name value es = es ++ [⟨name, value⟩] := by
  induction es with
  | nil => rfl
  | cons e rest ih =>
    rw [List.map_cons, List.mem_cons, not_or] at hnew
    rw [setIn, if_neg fun hkey => hnew.1 hkey.symm, ih hnew.2, List.cons_append]

/-- A stored name keeps its place and spelling, and so does every other. -/
theorem setIn_stored (hes : (es.map Header.key).Nodup)
    (hstored : Text.lower name ∈ es.map Header.key) :
    setIn name value es =
      es.map fun e => if e.key = Text.lower name then ⟨e.name, value⟩ else e := by
  induction es with
  | nil => cases hstored
  | cons e rest ih =>
    rw [List.map_cons, List.nodup_cons] at hes
    rw [setIn, List.map_cons]
    by_cases he : e.key = Text.lower name
    -- the key does not occur a second time, so the rest is left as it is
    · have hothers : ∀ o ∈ rest, (if o.key = Text.lower name then ⟨o.name, value⟩ else o) = id o := by
        intro o ho
        apply if_neg
        intro hkey
        exact hes.1 (he ▸ hkey ▸ List.mem_map_of_mem ho)
      rw [if_pos he, if_pos he, List.map_congr_left hothers, List.map_id]
    · rw [List.map_cons, List.mem_cons] at hstored
      rw [if_neg he, if_neg he, ih hes.2 (hstored.resolve_left fun hkey => he hkey.symm)]

/-- Names only grow at the end. -/
theorem names_set :
    (h.set name value).names = if h.contains name then h.names else h.names ++ [name] := by
  show (setIn name value h.entries).map Header.name = _
  unfold contains find? names
  induction h.entries with
  | nil => rfl
  | cons e rest ih =>
    rw [setIn, find?_key_cons]
    by_cases he : e.key = Text.lower name
    · rw [if_pos he, if_pos he]
      rfl
    · rw [if_neg he, if_neg he, List.map_cons, ih]
      split
      · rfl
      · rfl

theorem keys_eq (h : Headers) : h.keys = h.names.map Text.lower := by
  rw [keys, names, List.map_map]
  rfl

theorem find?_eq_none : h.find? name = none ↔ Text.lower name ∉ h.keys :=
  find?_key_eq_none

theorem contains_iff : h.contains name = true ↔ Text.lower name ∈ h.keys := by
  rw [contains, Option.isSome_iff_ne_none, ne_eq, find?_eq_none, not_not]

/-- Keys only grow at the end. -/
theorem keys_set :
    (h.set name value).keys =
      if Text.lower name ∈ h.keys then h.keys else h.keys ++ [Text.lower name] := by
  rw [keys_eq, names_set]
  by_cases hstored : Text.lower name ∈ h.keys
  · rw [if_pos hstored, if_pos (contains_iff.mpr hstored), keys_eq]
  · rw [if_neg hstored, if_neg fun h => hstored (contains_iff.mp h), List.map_append, keys_eq]
    rfl

/-! ## Section 3: What is found -/

theorem Distinct.find?_eq_some (hh : h.Distinct) {e : Header} :
    h.find? name = some e ↔ e ∈ h.entries ∧ e.key = Text.lower name :=
  find?_key_eq_some hh

/-- Removing a name that is not stored changes nothing. -/
theorem erase_missing (hmissing : h.get? name = none) : h.erase name = h := by
  have habsent := find?_eq_none.mp (Option.map_eq_none_iff.mp hmissing)
  have hkept : h.entries.filter (fun e => e.key != Text.lower name) = h.entries := by
    apply List.filter_eq_self.mpr
    intro e he
    rw [bne_iff_ne]
    intro hkey
    exact habsent (hkey ▸ List.mem_map_of_mem he)
  rw [erase, hkept]

/-- Setting a header changes what is found under its name and nothing else. -/
theorem get?_set (other : String) :
    (h.set name value).get? other =
      if Text.lower other = Text.lower name then some value else h.get? other := by
  show ((setIn name value h.entries).find? _).map _ = _
  unfold get? find?
  induction h.entries with
  | nil =>
    have hkey : Header.key ⟨name, value⟩ = Text.lower name := rfl
    rw [setIn, find?_key_cons, hkey]
    by_cases hsame : Text.lower other = Text.lower name
    · rw [if_pos hsame, if_pos hsame.symm, Option.map_some]
    · rw [if_neg hsame, if_neg fun hback => hsame hback.symm]
  | cons e rest ih =>
    rw [setIn, find?_key_cons (l := rest)]
    by_cases he : e.key = Text.lower name
    · have hkey : Header.key ⟨e.name, value⟩ = e.key := rfl
      rw [if_pos he, find?_key_cons, hkey, he]
      by_cases hsame : Text.lower other = Text.lower name
      · rw [if_pos hsame, if_pos hsame.symm, Option.map_some]
      · rw [if_neg hsame, if_neg fun hback => hsame hback.symm,
          if_neg fun hback => hsame hback.symm]
    · rw [if_neg he, find?_key_cons]
      by_cases hfound : e.key = Text.lower other
      · rw [if_pos hfound, if_pos hfound, if_neg fun hsame => he (hfound.trans hsame)]
      · rw [if_neg hfound, if_neg hfound, ih]

end Headers

end Redial
