import Mathlib.Data.List.Forall2
import Redial.Proofs.Headers.Dictionary
import Redial.Proofs.Headers.Entries

/-! # Header containers as tables

    `table_refines_entries` says that a container that is kept as a dictionary goes
    through any edits as ordered entries do: it answers and fails in the same way, and
    shows the same entries after every step.

    What carries the proof is that the slots of the table are the entries with their keys
    in front: `Shows`.  It is more than an equality of the entries that can be listed.  A
    slot under any other key would still be listed, but neither found nor removed, and
    clearing would stop at it. -/

namespace Redial

/-! ## Section 1: What a table shows -/

/-- The slot in which an entry is kept. -/
def Header.slot (e : Header) : String × String × Value := (e.key, e.name, e.value)

namespace HeaderTable

open Scenario

variable {t u : HeaderTable} {h : Headers} {name : String} {value : Value}

/-- The slots of a table are the entries of a container, each under its key. -/
def Shows (t : HeaderTable) (h : Headers) : Prop := t.store.slots = h.entries.map Header.slot

/-- The keys of the slots are the keys of the entries. -/
theorem Shows.keys (ht : t.Shows h) : t.store.slots.map Prod.fst = h.keys := by
  rw [ht, List.map_map]
  rfl

theorem Shows.entries (ht : t.Shows h) : t.entries = h.entries := by
  rw [HeaderTable.entries, ht, List.map_map]
  exact List.map_id _

theorem Shows.names (ht : t.Shows h) : t.names = h.names := by
  rw [HeaderTable.names, ht, List.map_map]
  rfl

/-- A dictionary has one slot for each key, so the entries are distinct. -/
theorem Shows.distinct (ht : t.Shows h) : h.Distinct := by
  unfold Headers.Distinct
  rw [← ht.keys]
  exact t.store.distinct

/-- The slot of a key is that of the entry with this key. -/
theorem Shows.find (ht : t.Shows h) (name : String) :
    t.store.get? (Text.lower name) = (h.find? name).map fun e => (e.name, e.value) := by
  rw [Dictionary.get?, ht, List.find?_map, Option.map_map]
  rfl

/-! ### Look-up, assignment and removal -/

theorem Shows.get (ht : t.Shows h) (name : String) : t.get name = stored h name := by
  unfold HeaderTable.get stored Headers.get?
  rw [ht.find]
  cases h.find? name with
  | none => rfl
  | some e => rfl

/-- Overwriting the slot of a key overwrites the value of the entry, if the slot keeps the
    name of the entry or there is no entry to overwrite. -/
theorem putIn_map_slot {es : List Header} {original : String}
    (horiginal : ∀ e ∈ es, e.key = Text.lower name → e.name = original)
    (hnew : Text.lower name ∉ es.map Header.key → original = name) :
    Dictionary.putIn (Text.lower name) (original, value) (es.map Header.slot) =
      (Headers.setIn name value es).map Header.slot := by
  induction es with
  | nil =>
    rw [hnew List.not_mem_nil]
    rfl
  | cons e rest ih =>
    rw [List.map_cons, Dictionary.putIn, Headers.setIn]
    by_cases he : e.key = Text.lower name
    · have hslot : e.slot.1 = Text.lower name := he
      have hsame : Header.slot ⟨e.name, value⟩ = (Text.lower name, original, value) := by
        rw [← he, ← horiginal e List.mem_cons_self he]
        rfl
      rw [if_pos hslot, if_pos he, List.map_cons, hsame]
    · have hslot : ¬ e.slot.1 = Text.lower name := he
      rw [if_neg hslot, if_neg he, List.map_cons]
      congr 1
      apply ih
      · intro o ho
        exact horiginal o (List.mem_cons_of_mem e ho)
      · intro habsent
        apply hnew
        rw [List.map_cons, List.mem_cons, not_or]
        exact ⟨fun hkey => he hkey.symm, habsent⟩

theorem Shows.set (ht : t.Shows h) (name : String) (value : Value) :
    (t.set name value).Shows (h.set name value) := by
  show Dictionary.putIn (Text.lower name) (_, value) t.store.slots = _
  rw [ht, ht.find]
  apply putIn_map_slot
  -- the spelling that is kept is that of the entry which is found, or the new one
  · intro e he hkey
    rw [ht.distinct.find?_eq_some.mpr ⟨he, hkey⟩]
    rfl
  · intro habsent
    rw [Headers.find?_eq_none.mpr habsent]
    rfl

theorem Shows.remove (ht : t.Shows h) (name : String) :
    Shows ⟨t.store.remove (Text.lower name)⟩ (h.erase name) := by
  show t.store.slots.filter _ = _
  rw [ht, List.filter_map]
  rfl

/-- A name is removed if it is there, and missed otherwise. -/
theorem Shows.erase (ht : t.Shows h) (name : String) :
    t.erase name = (stored h name).map fun _ => ⟨t.store.remove (Text.lower name)⟩ := by
  unfold HeaderTable.erase stored Headers.get?
  rw [ht.find]
  cases h.find? name with
  | none => rfl
  | some e => rfl

/-! ### What is built from them -/

theorem Shows.texts (ht : t.Shows h) (name : String) : t.texts name = h.texts name := by
  unfold HeaderTable.texts Headers.texts
  rw [ht.get, stored]
  cases h.get? name with
  | none => rfl
  | some v => rfl

theorem Shows.add (ht : t.Shows h) (name : String) (value : Value) :
    (t.add name value).Shows (h.add name value) := by
  unfold HeaderTable.add Headers.add
  rw [ht.get, stored]
  cases h.get? name with
  | none => exact ht.set name value
  | some v =>
    cases v with
    | nothing => exact ht.set name value
    | _ => exact ht.set name _

/-- A stored value is answered and removed; a default takes the place of a missing one. -/
theorem Shows.pop (ht : t.Shows h) (name : String) (default : Option Value) :
    t.pop name default =
      match h.get? name, default with
      | some v, _ => .ok (v, ⟨t.store.remove (Text.lower name)⟩)
      | none, some v => .ok (v, t)
      | none, none => .error (.missingHeader (Text.lower name)) := by
  unfold HeaderTable.pop
  rw [ht.get, ht.erase, stored]
  cases h.get? name with
  | some v => rfl
  | none => cases default <;> rfl

theorem Shows.update (ht : t.Shows h) (pairs : List (String × Value)) :
    (t.update pairs).Shows (h.setAll pairs) := by
  unfold HeaderTable.update Headers.setAll
  induction pairs generalizing t h with
  | nil => exact ht
  | cons p rest ih => exact ih (ht.set p.1 p.2)

theorem Shows.addAll (ht : t.Shows h) (pairs : List (String × Value)) :
    (pairs.foldl (fun t p => t.add p.1 p.2) t).Shows (h.addAll pairs) := by
  unfold Headers.addAll
  induction pairs generalizing t h with
  | nil => exact ht
  | cons p rest ih => exact ih (ht.add p.1 p.2)

/-- The first entry is found under the name by which it is listed. -/
theorem Shows.popFirst_cons {e : Header} {rest : List Header} (ht : t.Shows h)
    (hentries : h.entries = e :: rest) :
    ∃ u, t.popFirst = .ok (e, u) ∧ u.Shows (h.erase e.name) := by
  have hnames : t.names = e.name :: rest.map Header.name := by
    rw [ht.names, Headers.names, hentries, List.map_cons]
  have hfind : h.find? e.name = some e :=
    ht.distinct.find?_eq_some.mpr ⟨hentries ▸ List.mem_cons_self, rfl⟩
  have hstored : stored h e.name = .ok e.value := by rw [stored, Headers.get?, hfind]; rfl
  refine ⟨_, ?_, ht.remove e.name⟩
  rw [popFirst, hnames]
  dsimp only
  rw [ht.get, ht.erase, hstored]
  rfl

/-- Clearing never stops at an entry that cannot be found. -/
theorem Shows.clear (ht : t.Shows h) : t.clear.Shows Headers.empty := by
  -- on the size: as long as there is a first entry, it is found and removed
  induction hsize : t.size using Nat.strongRecOn generalizing t h with
  | ind n ih =>
    cases hentries : h.entries with
    | nil =>
      have hnames : t.names = [] := by rw [ht.names, Headers.names, hentries, List.map_nil]
      have hpop : t.popFirst = .error (.missingHeader "") := by rw [popFirst, hnames]
      have hclear : t.clear = t := by
        rw [HeaderTable.clear]
        split
        · rename_i hok
          rw [hpop] at hok
          cases hok
        · rfl
      rw [hclear]
      exact ht.trans (congrArg _ hentries)
    | cons e rest =>
      obtain ⟨u, hpop, hu⟩ := ht.popFirst_cons hentries
      have hclear : t.clear = u.clear := by
        rw [HeaderTable.clear]
        split
        · rename_i hok
          rw [hpop] at hok
          cases hok
          rfl
        · rename_i herror
          rw [hpop] at herror
          cases herror
      rw [hclear]
      exact ih u.size (hsize ▸ size_popFirst_lt hpop) hu rfl

/-! ## Section 2: Edits -/

/-- Two outcomes of an edit are alike: both fail in the same way, or both answer the same
    and leave the same entries. -/
def Alike : Except Fault (HeaderReply × HeaderTable) → Except Fault (HeaderReply × Headers) → Prop
  | .ok (reply, t), .ok (reply', h) => reply = reply' ∧ t.Shows h
  | .error f, .error f' => f = f'
  | _, _ => False

/-- Every edit of a table is like the step on a container that makes it. -/
theorem Shows.edit (ht : t.Shows h) (cs : Containers) (e : Edit) :
    Alike (t.edit e) (headerStep cs h e.step) := by
  cases e with
  | set name value => exact ⟨rfl, ht.set name value⟩
  | delete name =>
    show Alike ((t.erase name).map _) ((stored h name).map _)
    rw [ht.erase]
    cases stored h name with
    | error f => rfl
    | ok v => exact ⟨rfl, ht.remove name⟩
  | add name value => exact ⟨rfl, ht.add name value⟩
  | pop name default =>
    have htake : headerStep cs h (Edit.pop name default).step =
        match h.get? name, default with
        | some v, _ => .ok (.value v, h.erase name)
        | none, some v => .ok (.value v, h)
        | none, none => .error (.missingHeader (Text.lower name)) := rfl
    show Alike ((t.pop name default).map _) _
    rw [htake, ht.pop]
    cases h.get? name with
    | some v => exact ⟨rfl, ht.remove name⟩
    | none =>
      cases default with
      | some v => exact ⟨rfl, ht⟩
      | none => rfl
  | setDefault name value =>
    show Alike (.ok (.value (t.setDefault name value).1, (t.setDefault name value).2))
      (.ok (.value (h.getOrSet name value).1, (h.getOrSet name value).2))
    unfold HeaderTable.setDefault Headers.getOrSet
    rw [ht.get, stored]
    cases h.get? name with
    | some v => exact ⟨rfl, ht⟩
    | none => exact ⟨rfl, ht.set name value⟩
  | update pairs => exact ⟨rfl, ht.update pairs⟩
  | clear => exact ⟨rfl, ht.clear⟩
  | setField f value => exact ⟨rfl, ht.set f.name value⟩
  | deleteField f =>
    show Alike (((t.pop f.name (some .nothing)).map Prod.snd).map _) (.ok (.done, h.erase f.name))
    rw [ht.pop]
    cases hget : h.get? f.name with
    | some v => exact ⟨rfl, ht.remove f.name⟩
    | none =>
      rw [Headers.erase_missing hget]
      exact ⟨rfl, ht⟩

theorem Containers.at_put (cs : Containers) (place : String) (h : Headers) :
    (cs.put place h).at place = h := by
  have hfirst : (cs.put place h).find? (fun c => c.1 == place) = some (place, h) :=
    List.find?_cons_of_pos (beq_self_eq_true place)
  rw [Containers.at, hfirst]

theorem afterStep_edit (cs : Containers) (place : String) (h : Headers) (e : Edit) :
    afterStep cs place h e.step = cs.put place h := by
  cases e <;> rfl

theorem playHeaders_cons (cs : Containers) (place : String) (e : Edit)
    (rest : List (String × HeaderStep)) :
    playHeaders cs ((place, e.step) :: rest) =
      match headerStep cs (cs.at place) e.step with
      | .ok (reply, h) => (.ok reply, h) :: playHeaders (cs.put place h) rest
      | .error f => (.error f, cs.at place) :: playHeaders cs rest := by
  rw [playHeaders]
  cases headerStep cs (cs.at place) e.step with
  | error f => rfl
  | ok answer =>
    dsimp only
    rw [afterStep_edit]

/-- A table goes through edits as a container does, from entries that it shows. -/
theorem Shows.play {cs : Containers} {place : String} (ht : t.Shows (cs.at place))
    (edits : List Edit) :
    List.Forall₂ (fun x y => x.1 = y.1 ∧ x.2.Shows y.2) (t.play edits)
      (playHeaders cs (edits.map fun e => (place, e.step))) := by
  induction edits generalizing t cs with
  | nil => exact .nil
  | cons e rest ih =>
    have halike := ht.edit cs e
    rw [List.map_cons, playHeaders_cons, HeaderTable.play]
    cases hedit : t.edit e with
    | error f =>
      cases hstep : headerStep cs (cs.at place) e.step with
      | error g =>
        rw [hedit, hstep] at halike
        exact .cons ⟨congrArg _ halike, ht⟩ (ih ht)
      | ok after =>
        rw [hedit, hstep] at halike
        exact halike.elim
    | ok after =>
      cases hstep : headerStep cs (cs.at place) e.step with
      | error g =>
        rw [hedit, hstep] at halike
        exact halike.elim
      | ok after' =>
        rw [hedit, hstep] at halike
        obtain ⟨hreply, hshows⟩ := halike
        refine .cons ⟨congrArg _ hreply, hshows⟩ (ih ?_)
        rw [Containers.at_put]
        exact hshows

/-- A new table shows the entries of the container that is made from the same data. -/
theorem shows_make (data : HeaderData) (coding : Value) :
    (data.table coding).Shows (data.headers coding) := by
  have hempty : HeaderTable.empty.Shows Headers.empty := rfl
  have hstart : (HeaderData.absent.table coding).Shows (Headers.initial coding) := by
    cases coding with
    | nothing => exact hempty
    | _ => exact hempty.set "Accept-Encoding" _
  cases data with
  | absent => exact hstart
  | mapping items => exact hstart.update items
  | pairs items => exact hstart.addAll items

/-! ## Section 3: Ordered entries -/

/-- All that can be asked of a table agrees with a list of entries, no two of which have the
    same key. -/
structure Presents (t : HeaderTable) (h : Headers) : Prop where
  entries : t.entries = h.entries
  distinct : (h.entries.map Header.key).Nodup
  /-- Every key is the lower-case form of the name that is kept with it. -/
  keys : ∀ slot ∈ t.store.slots, slot.1 = Text.lower slot.2.1
  names : t.names = h.entries.map Header.name
  size : t.size = h.entries.length
  contains : ∀ name, t.contains name = true ↔ ∃ e ∈ h.entries, e.key = Text.lower name
  /-- An entry is found under its name in any letter case. -/
  found : ∀ e ∈ h.entries, ∀ name, Text.lower name = e.key → t.get name = .ok e.value
  missed : ∀ name, (∀ e ∈ h.entries, e.key ≠ Text.lower name) →
    t.get name = .error (.missingHeader (Text.lower name))
  field : ∀ e ∈ h.entries, ∀ f : Field, Text.lower f.name = e.key →
    t.field? f = e.value.wireTexts.head?
  noField : ∀ f : Field, (∀ e ∈ h.entries, e.key ≠ Text.lower f.name) → t.field? f = none

/-- Edits of a table as edits of its list of entries. -/
structure KeepsOrder (t : HeaderTable) : Prop where
  /-- A stored name keeps its place and spelling. -/
  set_stored : ∀ name value, (∃ e ∈ t.entries, e.key = Text.lower name) →
    (t.set name value).entries =
      t.entries.map fun e => if e.key = Text.lower name then ⟨e.name, value⟩ else e
  /-- A new name is appended. -/
  set_new : ∀ name value, (∀ e ∈ t.entries, e.key ≠ Text.lower name) →
    (t.set name value).entries = t.entries ++ [⟨name, value⟩]
  /-- A name that is removed and set again stands at the end, in its new spelling. -/
  erase_stored : ∀ name, (∃ e ∈ t.entries, e.key = Text.lower name) →
    ∃ u, t.erase name = .ok u ∧
      u.entries = t.entries.filter (fun e => e.key != Text.lower name) ∧
      ∀ again value, Text.lower again = Text.lower name →
        (u.set again value).entries = u.entries ++ [⟨again, value⟩]
  /-- A name that is missing cannot be removed, and nothing is. -/
  erase_missing : ∀ name, (∀ e ∈ t.entries, e.key ≠ Text.lower name) →
    t.play [.delete name] = [(.error (.missingHeader (Text.lower name)), t)]

/-- A name is stored in the entries if and only if its key is. -/
theorem mem_keys_iff {es : List Header} {key : String} :
    key ∈ es.map Header.key ↔ ∃ e ∈ es, e.key = key := List.mem_map

theorem Shows.get_found (ht : t.Shows h) {e : Header} (he : e ∈ h.entries)
    (hname : Text.lower name = e.key) : t.get name = .ok e.value := by
  have hfind : h.find? name = some e := ht.distinct.find?_eq_some.mpr ⟨he, hname.symm⟩
  rw [ht.get, stored, Headers.get?, hfind]
  rfl

theorem Shows.get_missed (ht : t.Shows h) (hname : ∀ e ∈ h.entries, e.key ≠ Text.lower name) :
    t.get name = .error (.missingHeader (Text.lower name)) := by
  have habsent : Text.lower name ∉ h.keys := fun hmem =>
    have ⟨e, he, hkey⟩ := mem_keys_iff.mp hmem
    hname e he hkey
  rw [ht.get, stored, Headers.get?, Headers.find?_eq_none.mpr habsent]
  rfl

theorem Shows.presents (ht : t.Shows h) : t.Presents h where
  entries := ht.entries
  distinct := ht.distinct
  keys := by
    intro slot hslot
    rw [ht] at hslot
    obtain ⟨e, -, rfl⟩ := List.mem_map.mp hslot
    rfl
  names := ht.names
  size := by rw [HeaderTable.size, ht, List.length_map]
  contains := by
    intro name
    by_cases hstored : ∃ e ∈ h.entries, e.key = Text.lower name
    · obtain ⟨e, he, hkey⟩ := hstored
      rw [HeaderTable.contains, ht.get_found he hkey.symm]
      exact ⟨fun _ => ⟨e, he, hkey⟩, fun _ => rfl⟩
    · have hmissed : ∀ e ∈ h.entries, e.key ≠ Text.lower name := fun e he hkey =>
        hstored ⟨e, he, hkey⟩
      rw [HeaderTable.contains, ht.get_missed hmissed]
      exact ⟨fun htrue => absurd htrue Bool.false_ne_true, fun hmem => absurd hmem hstored⟩
  found := fun _ he _ hname => ht.get_found he hname
  missed := fun _ hname => ht.get_missed hname
  field := by
    intro e he f hname
    rw [HeaderTable.field?, HeaderTable.texts, ht.get_found he hname]
  noField := by
    intro f hname
    rw [HeaderTable.field?, HeaderTable.texts, ht.get_missed hname]
    rfl

theorem Shows.keepsOrder (ht : t.Shows h) : t.KeepsOrder where
  set_stored := by
    intro name value hstored
    rw [ht.entries] at hstored ⊢
    rw [(ht.set name value).entries]
    exact Headers.setIn_stored ht.distinct (mem_keys_iff.mpr hstored)
  set_new := by
    intro name value hnew
    rw [ht.entries] at hnew ⊢
    rw [(ht.set name value).entries]
    apply Headers.setIn_new
    intro hmem
    obtain ⟨e, he, hkey⟩ := mem_keys_iff.mp hmem
    exact hnew e he hkey
  erase_stored := by
    intro name hstored
    rw [ht.entries] at hstored ⊢
    obtain ⟨e, he, hkey⟩ := hstored
    have hfind : h.find? name = some e := ht.distinct.find?_eq_some.mpr ⟨he, hkey⟩
    have hget : stored h name = .ok e.value := by
      rw [stored, Headers.get?, hfind]
      rfl
    refine ⟨⟨t.store.remove (Text.lower name)⟩, ?_, (ht.remove name).entries, ?_⟩
    · rw [ht.erase, hget]
      rfl
    · intro again value hagain
      rw [((ht.remove name).set again value).entries, (ht.remove name).entries]
      apply Headers.setIn_new
      intro hmem
      obtain ⟨o, ho, hother⟩ := mem_keys_iff.mp hmem
      have hkept := (List.mem_filter.mp ho).2
      rw [bne_iff_ne, hother, hagain] at hkept
      exact hkept rfl
  erase_missing := by
    intro name hmissing
    rw [ht.entries] at hmissing
    have hget := ht.get_missed hmissing
    rw [ht.get] at hget
    have herase : t.erase name = .error (.missingHeader (Text.lower name)) := by
      rw [ht.erase, hget]
      rfl
    have hedit : t.edit (.delete name) = .error (.missingHeader (Text.lower name)) := by
      show (t.erase name).map _ = _
      rw [herase]
      rfl
    rw [HeaderTable.play, hedit]
    rfl

/-- A table that is made from any data and edited in any way answers and fails as the
    container does, and after every step it presents the entries of the container and
    keeps their order under further edits. -/
theorem table_refines_entries (data : HeaderData) (coding : Value) (edits : List Edit) :
    List.Forall₂ (fun x y => x.1 = y.1 ∧ x.2.Presents y.2 ∧ x.2.KeepsOrder)
      ((.ok .done, data.table coding) :: (data.table coding).play edits)
      (playHeaders []
        (("", .new (data.headers coding)) :: edits.map fun e => ("", e.step))) := by
  have hmake := shows_make data coding
  have hplace : (Containers.put [] "" (data.headers coding)).at "" = data.headers coding :=
    Containers.at_put [] "" _
  have hplay := (hplace.symm ▸ hmake :
    (data.table coding).Shows ((Containers.put [] "" (data.headers coding)).at "")).play edits
  refine .cons ⟨rfl, hmake.presents, hmake.keepsOrder⟩ (hplay.imp ?_)
  intro x y hxy
  exact ⟨hxy.1, hxy.2.presents, hxy.2.keepsOrder⟩

end HeaderTable

end Redial
