import Redial.Config
import Redial.Headers.Wire

/-! # Trials of containers

    Steps on named header containers and on shared settings. -/

namespace Redial.Scenario

/-! ## Section 1: Header containers -/

/-- A step on a header container. -/
inductive HeaderStep where
  /-- Puts a new container in place. -/
  | new (h : Headers)
  /-- Copies the container to another place. -/
  | copy (place : String)
  | set (name : String) (value : Value)
  | get (name : String)
  | erase (name : String)
  | add (name : String) (value : Value)
  | texts (name : String)
  | first (name : String)
  | contains (name : String)
  | size
  | names
  | field (f : Field)
  | setField (f : Field) (value : Value)
  | eraseField (f : Field)
  /-- Asks for a typed field that does not exist. -/
  | unknownField (name : String)
  /-- Names a header by a value that is no text. -/
  | unnamed (name : Value)
  /-- Looks up a value, or else answers the given one. -/
  | lookup (name : String) (default : Value)
  /-- Removes a value, or else answers the given one, if any. -/
  | take (name : String) (default : Option Value)
  | takeFirst
  | getOrSet (name : String) (value : Value)
  | setAll (pairs : List (String × Value))
  | clear
  /-- Compares with the container at another place. -/
  | same (place : String)
  | listing
  | lines (suffix : Option String)

/-- What a step on a header container answers. -/
inductive HeaderReply where
  | done
  | copied
  | value (v : Value)
  | text (t : Option String)
  | texts (ts : List String)
  | flag (b : Bool)
  | size (n : Nat)
  | entry (h : Header)
  | lines (ls : List (String × String))
  | listing (t : String)

/-- The containers by their places. -/
abbrev Containers : Type := List (String × Headers)

/-- The container at a place; an empty one if there is none. -/
def Containers.at (cs : Containers) (place : String) : Headers :=
  match cs.find? fun c => c.1 == place with
  | some c => c.2
  | none => Headers.empty

/-- Puts a container in place. -/
def Containers.put (cs : Containers) (place : String) (h : Headers) : Containers :=
  (place, h) :: cs.filter fun c => c.1 != place

/-- The stored value of a name, which must be there. -/
def stored (h : Headers) (name : String) : Except Fault Value :=
  match h.get? name with
  | some v => .ok v
  | none => .error (.missingHeader (Text.lower name))

/-- Takes a step on one container. -/
def headerStep (cs : Containers) (h : Headers) : HeaderStep → Except Fault (HeaderReply × Headers)
  | .new h => .ok (.done, h)
  | .copy _ => .ok (.copied, h)
  | .set name value => .ok (.done, h.set name value)
  | .get name => (stored h name).map fun v => (.value v, h)
  | .erase name => (stored h name).map fun _ => (.done, h.erase name)
  | .add name value => .ok (.done, h.add name value)
  | .texts name => .ok (.texts (h.texts name), h)
  | .first name => .ok (.text (h.first? name), h)
  | .contains name => .ok (.flag (h.contains name), h)
  | .size => .ok (.size h.size, h)
  | .names => .ok (.texts h.names, h)
  | .field f => .ok (.text (h.field? f), h)
  | .setField f value => .ok (.done, h.setField f value)
  | .eraseField f => .ok (.done, h.eraseField f)
  | .unknownField name => .error (.notAHook "HttpHeaders" name)
  | .unnamed v => .error (.notAHook v.kindName "lower")
  | .lookup name default => .ok (.value ((h.get? name).getD default), h)
  | .take name default =>
    match h.get? name, default with
    | some v, _ => .ok (.value v, h.erase name)
    | none, some v => .ok (.value v, h)
    | none, none => .error (.missingHeader (Text.lower name))
  | .takeFirst =>
    match h.popFirst? with
    | some (e, rest) => .ok (.entry e, rest)
    | none => .error (.missingHeader "")
  | .getOrSet name value =>
    let (v, h) := h.getOrSet name value
    .ok (.value v, h)
  | .setAll pairs => .ok (.done, h.setAll pairs)
  | .clear => .ok (.done, Headers.empty)
  | .same place =>
    match cs.lookup place with
    | some other => .ok (.flag (h.sameAs other), h)
    | none => .error (.missingHeader place)
  | .listing => .ok (.listing h.listing, h)
  | .lines suffix => .ok (.lines (h.lines suffix), h)

/-- The containers after a step that left a container at a place. -/
def afterStep (cs : Containers) (place : String) (h : Headers) : HeaderStep → Containers
  | .copy other => cs.put other h
  | _ => cs.put place h

/-- Takes steps at their places; answers how each ended and the container afterwards. -/
def playHeaders (cs : Containers) :
    List (String × HeaderStep) → List (Except Fault HeaderReply × Headers)
  | [] => []
  | (place, s) :: rest =>
    match headerStep cs (cs.at place) s with
    | .ok (reply, h) => (.ok reply, h) :: playHeaders (afterStep cs place h s) rest
    | .error f => (.error f, cs.at place) :: playHeaders cs rest

/-! ## Section 2: Shared settings -/

/-- A step on shared settings. -/
inductive ConfigStep where
  /-- Merges fields into the settings, which stay as they are. -/
  | merge (fields : List (String × Value))
  /-- Replaces the settings by a merge. -/
  | become (fields : List (String × Value))
  /-- Assigns a field without a check. -/
  | assign (name : String) (value : Value)
  /-- Compares with settings made from fields. -/
  | same (fields : List (String × Value))

/-- What a step on shared settings answers. -/
inductive ConfigReply where
  | done
  | merged (c : Config) (same : Bool)
  | flag (b : Bool)

/-- Takes a step on shared settings. -/
def configStep (c : Config) : ConfigStep → Except Fault (ConfigReply × Config)
  | .merge fields => (c.merge fields).map fun d => (.merged d (d.same c), c)
  | .become fields => (c.merge fields).map fun d => (.done, d)
  | .assign name value =>
    match Setting.ofName? name with
    | some s => .ok (.done, c.assign s value)
    | none => .ok (.done, c)
  | .same fields => (Config.make fields).map fun d => (.flag (c.same d), c)

end Redial.Scenario
