import Mathlib.Data.List.Nodup
import Redial.Proofs.LowerCase
import Redial.Scenario.Containers

/-! # Header containers as dictionaries

    A container can also be kept as a dictionary from lower-cased names to the original
    name and the value, with every operation that is not a look-up, an assignment or a
    removal built from those three.  An edit is what a program may do to a container,
    be it kept as ordered entries or as such a table. -/

namespace Redial

/-! ## Section 1: Dictionaries -/

/-- A dictionary: one slot for each key, in the order in which the keys were first put. -/
structure Dictionary (α : Type) where
  slots : List (String × α)
  distinct : (slots.map Prod.fst).Nodup

namespace Dictionary

variable {α : Type}

/-- Without any slot. -/
def empty : Dictionary α := ⟨[], List.nodup_nil⟩

/-- What is stored under a key. -/
def get? (d : Dictionary α) (key : String) : Option α :=
  (d.slots.find? fun s => s.1 == key).map Prod.snd

/-- Overwrites the slot of a key in place, or appends one. -/
def putIn (key : String) (a : α) : List (String × α) → List (String × α)
  | [] => [(key, a)]
  | s :: rest => if s.1 = key then (key, a) :: rest else s :: putIn key a rest

theorem mem_putIn {key other : String} {a : α} {slots : List (String × α)}
    (hother : other ∈ (putIn key a slots).map Prod.fst) :
    other = key ∨ other ∈ slots.map Prod.fst := by
  induction slots with
  | nil => exact .inl (by simpa [putIn] using hother)
  | cons s rest ih =>
    rw [putIn] at hother
    by_cases hs : s.1 = key
    · rw [if_pos hs, List.map_cons, List.mem_cons] at hother
      exact hother.imp_right (List.mem_cons_of_mem _)
    · rw [if_neg hs, List.map_cons, List.mem_cons] at hother
      rw [List.map_cons, List.mem_cons]
      rcases hother with hhead | htail
      · exact .inr (.inl hhead)
      · exact (ih htail).imp_right .inr

theorem nodup_putIn {slots : List (String × α)} (hslots : (slots.map Prod.fst).Nodup)
    (key : String) (a : α) : ((putIn key a slots).map Prod.fst).Nodup := by
  induction slots with
  | nil => exact List.nodup_singleton _
  | cons s rest ih =>
    rw [List.map_cons, List.nodup_cons] at hslots
    rw [putIn]
    by_cases hs : s.1 = key
    · rw [if_pos hs, List.map_cons, List.nodup_cons]
      exact ⟨hs ▸ hslots.1, hslots.2⟩
    · rw [if_neg hs, List.map_cons, List.nodup_cons]
      refine ⟨fun hmem => ?_, ih hslots.2⟩
      rcases mem_putIn hmem with hkey | hrest
      · exact hs hkey
      · exact hslots.1 hrest

/-- Stores under a key; a stored key keeps its place. -/
def put (d : Dictionary α) (key : String) (a : α) : Dictionary α :=
  ⟨putIn key a d.slots, nodup_putIn d.distinct key a⟩

/-- Removes the slot of a key, if there is one. -/
def remove (d : Dictionary α) (key : String) : Dictionary α where
  slots := d.slots.filter fun s => s.1 != key
  distinct := d.distinct.sublist (List.filter_sublist.map Prod.fst)

/-- Removing a stored key leaves fewer slots. -/
theorem length_remove_lt {d : Dictionary α} {key : String} {a : α} (hget : d.get? key = some a) :
    (d.remove key).slots.length < d.slots.length := by
  obtain ⟨s, hfind, -⟩ := Option.map_eq_some_iff.mp hget
  apply List.length_filter_lt_length_iff_exists.mpr
  have hs : s.1 = key := by simpa using List.find?_some hfind
  exact ⟨s, List.mem_of_find?_eq_some hfind, by simp [hs]⟩

end Dictionary

/-! ## Section 2: Tables -/

/-- A container kept as a dictionary: under the lower-cased name, the name as first spelled
    and the value. -/
structure HeaderTable where
  store : Dictionary (String × Value)

namespace HeaderTable

/-- Without any header. -/
def empty : HeaderTable := ⟨.empty⟩

/-! ### Look-up, assignment and removal -/

/-- The value of a name, which must be there. -/
def get (t : HeaderTable) (name : String) : Except Fault Value :=
  match t.store.get? (Text.lower name) with
  | some slot => .ok slot.2
  | none => .error (.missingHeader (Text.lower name))

/-- Sets a header; a stored name keeps its spelling. -/
def set (t : HeaderTable) (name : String) (value : Value) : HeaderTable :=
  let key := Text.lower name
  let original :=
    match t.store.get? key with
    | some slot => slot.1
    | none => name
  ⟨t.store.put key (original, value)⟩

/-- Removes a name, which must be there. -/
def erase (t : HeaderTable) (name : String) : Except Fault HeaderTable :=
  match t.store.get? (Text.lower name) with
  | some _ => .ok ⟨t.store.remove (Text.lower name)⟩
  | none => .error (.missingHeader (Text.lower name))

/-- The names in their order and spelling. -/
def names (t : HeaderTable) : List String := t.store.slots.map fun slot => slot.2.1

/-- The number of entries. -/
def size (t : HeaderTable) : Nat := t.store.slots.length

/-- The entries in their order: original name and value. -/
def entries (t : HeaderTable) : List Header := t.store.slots.map fun slot => ⟨slot.2.1, slot.2.2⟩

theorem size_erase_lt {t u : HeaderTable} {name : String} (herase : t.erase name = .ok u) :
    u.size < t.size := by
  unfold erase at herase
  split at herase
  · rename_i hget
    cases herase
    exact Dictionary.length_remove_lt hget
  · cases herase

/-! ### What is built from them -/

/-- Whether a name can be looked up. -/
def contains (t : HeaderTable) (name : String) : Bool :=
  match t.get name with
  | .ok _ => true
  | .error _ => false

/-- Adds a value to a header: a stored value other than nothing becomes a list. -/
def add (t : HeaderTable) (name : String) (value : Value) : HeaderTable :=
  match t.get name with
  | .error _ => t.set name value
  | .ok .nothing => t.set name value
  | .ok current => t.set name (.list (current.items ++ [value]))

/-- Every wire text of a name, in order. -/
def texts (t : HeaderTable) (name : String) : List String :=
  match t.get name with
  | .ok v => v.wireTexts
  | .error _ => []

/-- Removes a name and answers its value; a name that is missing is answered by the default,
    if there is one. -/
def pop (t : HeaderTable) (name : String) (default : Option Value) :
    Except Fault (Value × HeaderTable) :=
  match t.get name with
  | .ok v => (t.erase name).map fun rest => (v, rest)
  | .error f =>
    match default with
    | some v => .ok (v, t)
    | none => .error f

/-- The stored value, or else the given one, which is then stored. -/
def setDefault (t : HeaderTable) (name : String) (value : Value) : Value × HeaderTable :=
  match t.get name with
  | .ok v => (v, t)
  | .error _ => (value, t.set name value)

/-- Sets headers one after the other. -/
def update (t : HeaderTable) (pairs : List (String × Value)) : HeaderTable :=
  pairs.foldl (fun t p => t.set p.1 p.2) t

/-- Removes the first entry: its name is listed, looked up and removed. -/
def popFirst (t : HeaderTable) : Except Fault (Header × HeaderTable) :=
  match t.names with
  | [] => .error (.missingHeader "")
  | name :: _ =>
    match t.get name, t.erase name with
    | .ok v, .ok rest => .ok (⟨name, v⟩, rest)
    | .error f, _ => .error f
    | _, .error f => .error f

theorem size_popFirst_lt {t u : HeaderTable} {e : Header} (hpop : t.popFirst = .ok (e, u)) :
    u.size < t.size := by
  unfold popFirst at hpop
  split at hpop
  · cases hpop
  · split at hpop
    · rename_i herase
      cases hpop
      exact size_erase_lt herase
    · cases hpop
    · cases hpop

/-- Removes the first entry until that fails. -/
def clear (t : HeaderTable) : HeaderTable :=
  match _hpop : t.popFirst with
  | .ok (_, rest) => rest.clear
  | .error _ => t
termination_by t.size
decreasing_by exact size_popFirst_lt _hpop

/-- The first wire text of a known field. -/
def field? (t : HeaderTable) (f : Field) : Option String := (t.texts f.name).head?

/-- Sets a known field. -/
def setField (t : HeaderTable) (f : Field) (value : Value) : HeaderTable := t.set f.name value

/-- Removes a known field, if it is there. -/
def eraseField (t : HeaderTable) (f : Field) : Except Fault HeaderTable :=
  (t.pop f.name (some .nothing)).map Prod.snd

end HeaderTable

/-! ## Section 3: Construction and edits -/

/-- What a container is made from. -/
inductive HeaderData where
  | absent
  | mapping (items : List (String × Value))
  | pairs (items : List (String × Value))

/-- The table made from data, with the content encoding that is asked for, if any. -/
def HeaderData.table (data : HeaderData) (coding : Value) : HeaderTable :=
  let start :=
    match coding with
    | .nothing => HeaderTable.empty
    | coding => HeaderTable.empty.set "Accept-Encoding" coding
  match data with
  | absent => start
  | mapping items => start.update items
  | pairs items => items.foldl (fun t p => t.add p.1 p.2) start

/-- The container made from data. -/
def HeaderData.headers (data : HeaderData) (coding : Value) : Headers :=
  match data with
  | absent => Headers.initial coding
  | mapping items => (Headers.initial coding).setAll items
  | pairs items => (Headers.initial coding).addAll items

/-- An edit of a container. -/
inductive Edit where
  | set (name : String) (value : Value)
  | delete (name : String)
  | add (name : String) (value : Value)
  | pop (name : String) (default : Option Value)
  | setDefault (name : String) (value : Value)
  | update (pairs : List (String × Value))
  | clear
  | setField (f : Field) (value : Value)
  | deleteField (f : Field)

/-- The step on a container that makes an edit. -/
def Edit.step : Edit → Scenario.HeaderStep
  | set name value => .set name value
  | delete name => .erase name
  | add name value => .add name value
  | pop name default => .take name default
  | setDefault name value => .getOrSet name value
  | update pairs => .setAll pairs
  | clear => .clear
  | setField f value => .setField f value
  | deleteField f => .eraseField f

namespace HeaderTable

/-- Makes an edit of a table. -/
def edit (t : HeaderTable) : Edit → Except Fault (Scenario.HeaderReply × HeaderTable)
  | .set name value => .ok (.done, t.set name value)
  | .delete name => (t.erase name).map fun u => (.done, u)
  | .add name value => .ok (.done, t.add name value)
  | .pop name default => (t.pop name default).map fun p => (.value p.1, p.2)
  | .setDefault name value => .ok (.value (t.setDefault name value).1, (t.setDefault name value).2)
  | .update pairs => .ok (.done, t.update pairs)
  | .clear => .ok (.done, t.clear)
  | .setField f value => .ok (.done, t.setField f value)
  | .deleteField f => (t.eraseField f).map fun u => (.done, u)

/-- Makes edits one after the other; answers how each ended and the table afterwards. -/
def play (t : HeaderTable) : List Edit → List (Except Fault Scenario.HeaderReply × HeaderTable)
  | [] => []
  | e :: rest =>
    match t.edit e with
    | .ok (reply, u) => (.ok reply, u) :: u.play rest
    | .error f => (.error f, t) :: t.play rest

end HeaderTable

end Redial
