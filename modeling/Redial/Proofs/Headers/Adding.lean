import Redial.Proofs.Headers.Entries

/-! # Adding to a header

    A value that is added to a name sends its texts after those that the name sent
    before, and every other name is left alone: `texts_add`.  There is one exception.  A
    list or a tuple that comes to a name which holds a value already becomes one item of
    the list there, and is sent as a single text, its listing, where by itself it sends one
    text for each of its items.

    The exception always shows.  The listing of a list is longer than the texts of its items
    together (`weight_wireTexts`), so the texts of a name weigh more than they should from
    the first such list on.  Hence `add_appends`: adding appends exactly if no list or tuple
    comes to a name that holds a value. -/

namespace Redial

/-! ## Section 1: What items send -/

namespace Value

/-- A value that sends one text for each of its items. -/
def isSeveral : Value → Bool
  | list _ => true
  | tuple _ => true
  | _ => false

/-- What a value sends as an item of a list. -/
def itemTexts (v : Value) : List String := if v.isNothing then [] else [v.wireText]

theorem map_wireText (vs : List Value) :
    (vs.filter fun v => !v.isNothing).map wireText = vs.flatMap itemTexts := by
  induction vs with
  | nil => rfl
  | cons v rest ih =>
    rw [List.flatMap_cons, ← ih, itemTexts]
    cases hv : v.isNothing <;> simp [hv]

theorem wireTexts_list (vs : List Value) : (list vs).wireTexts = vs.flatMap itemTexts :=
  map_wireText vs

theorem wireTexts_tuple (vs : List Value) : (tuple vs).wireTexts = vs.flatMap itemTexts :=
  map_wireText vs

/-- A single value sends the same by itself and as an item. -/
theorem wireTexts_single {v : Value} (hv : v.isSeveral = false) : v.wireTexts = v.itemTexts := by
  cases v with
  | list | tuple => cases hv
  | _ => rfl

/-- An item that is put behind the items of a value is sent after what the value sends. -/
theorem wireTexts_items {v : Value} (hv : v.isNothing = false) (added : Value) :
    (list (v.items ++ [added])).wireTexts = v.wireTexts ++ added.itemTexts := by
  rw [wireTexts_list, List.flatMap_append, List.flatMap_singleton]
  congr 1
  cases v with
  | nothing => cases hv
  | list vs => exact (wireTexts_list vs).symm
  | tuple vs => exact (wireTexts_tuple vs).symm
  | _ => rfl

end Value

/-! ## Section 2: Listings are long -/

theorem Text.escapeChar_ne_nil (quote c : Char) : Text.escapeChar quote c ≠ [] := by
  unfold Text.escapeChar Text.numericEscape
  intro h
  split_ifs at h

/-- A quoted text is not shorter than the text. -/
theorem Text.length_quoted (s : String) : s.length ≤ (Text.quoted s).length := by
  have hescaped : ∀ (quote : Char) (cs : List Char),
      cs.length ≤ (cs.flatMap (Text.escapeChar quote)).length := by
    intro quote cs
    induction cs with
    | nil => simp
    | cons c rest ih =>
      have hc := List.length_pos_iff.mpr (Text.escapeChar_ne_nil quote c)
      simp only [List.flatMap_cons, List.length_append, List.length_cons]
      omega
  have hs := hescaped (Text.quoteFor s.toList) s.toList
  simp only [Text.quoted, String.length_ofList, List.length_append, List.length_cons]
  rw [String.length_toList] at hs
  omega

/-- How many characters texts have together. -/
def weight : List String → Nat
  | [] => 0
  | text :: texts => text.length + weight texts

theorem weight_append (texts more : List String) :
    weight (texts ++ more) = weight texts + weight more := by
  induction texts with
  | nil => simp [weight]
  | cons text texts ih =>
    rw [List.cons_append, weight, ih, weight]
    omega

namespace Value

/-- As an item a value sends no more than its listing holds. -/
theorem weight_itemTexts (v : Value) : weight v.itemTexts ≤ v.listed.length := by
  have htext : v.wireText.length ≤ v.listed.length := by
    unfold wireText
    split
    · simp only [listed, String.length_append]
      have := Text.length_quoted ‹String›
      omega
    · simp only [listed, String.length_append]
      omega
    · unfold plain
      split
      · simpa only [listed] using Text.length_quoted _
      · simp_all
      · exact Nat.le_refl _
  unfold itemTexts
  split
  · simp [weight]
  · simpa [weight] using htext

theorem weight_items : ∀ vs : List Value, weight (vs.flatMap itemTexts) ≤ (listedItems vs).length
  | [] => by simp [weight]
  | [v] => by
    simpa [listedItems] using weight_itemTexts v
  | v :: w :: rest => by
    have hv := weight_itemTexts v
    have hrest := weight_items (w :: rest)
    rw [List.flatMap_cons, weight_append]
    simp only [listedItems, String.length_append]
    omega

/-- The listing of a list or a tuple is longer than what its items send together. -/
theorem weight_wireTexts {v : Value} (hv : v.isSeveral = true) :
    weight v.wireTexts < weight v.itemTexts := by
  have hone : ∀ {w : Value}, w.isNothing = false → weight w.itemTexts = w.wireText.length := by
    intro w hw
    simp [itemTexts, hw, weight]
  -- the brackets make the difference
  have hopen : ∀ (texts ending : String), ("(" ++ texts ++ ending).length = texts.length
      + ending.length + 1 := by
    intro texts ending
    simp only [String.length_append]
    show 1 + _ + _ = _
    omega
  cases v with
  | list vs =>
    have hvs := weight_items vs
    have hlisted : (list vs).listed.length = ("(" ++ listedItems vs ++ "]").length := by
      simp only [listed, String.length_append]
      rfl
    rw [hone rfl, wireTexts_list]
    show _ < (list vs).listed.length
    rw [hlisted, hopen]
    omega
  | tuple vs =>
    have hvs := weight_items vs
    rw [hone rfl, wireTexts_tuple]
    show _ < (tuple vs).listed.length
    match vs with
    | [] =>
      rw [listed, hopen]
      · omega
      · nofun
    | [v] =>
      rw [listed, hopen]
      rw [listedItems] at hvs
      omega
    | v :: w :: rest =>
      rw [listed, hopen]
      · omega
      · nofun
  | _ => cases hv

end Value

/-! ## Section 3: Adding one value -/

namespace Headers

variable {h : Headers} {name other : String} {v : Value}

/-- Whether something other than nothing is stored under a name. -/
def holds (h : Headers) (name : String) : Bool := (h.get? name).any fun v => !v.isNothing

/-- What a value sends that is added to a name. -/
def addedTexts (h : Headers) (name : String) (v : Value) : List String :=
  if h.holds name then v.itemTexts else v.wireTexts

/-- What is found under a name depends on its key only. -/
theorem get?_congr (hsame : Text.lower name = Text.lower other) : h.get? name = h.get? other := by
  unfold get? find?
  rw [hsame]

/-- What is sent under a name depends on its key only. -/
theorem texts_congr (hsame : Text.lower name = Text.lower other) : h.texts name = h.texts other := by
  unfold texts
  rw [get?_congr hsame]

/-- Nothing is sent under a name that is not stored. -/
theorem texts_missing (hmissing : Text.lower name ∉ h.keys) : h.texts name = [] := by
  rw [texts, get?, find?_eq_none.mpr hmissing]
  rfl

theorem holds_congr (hsame : Text.lower name = Text.lower other) : h.holds name = h.holds other := by
  unfold holds
  rw [get?_congr hsame]

theorem texts_set (name : String) (value : Value) (other : String) :
    (h.set name value).texts other =
      if Text.lower other = Text.lower name then value.wireTexts else h.texts other := by
  unfold texts
  rw [get?_set]
  by_cases hsame : Text.lower other = Text.lower name
  · rw [if_pos hsame, if_pos hsame]
  · rw [if_neg hsame, if_neg hsame]

/-- A value is added by setting the name: to the value, or to a list that ends in it. -/
theorem add_cases (h : Headers) (name : String) (v : Value) :
    (h.holds name = false ∧ h.texts name = [] ∧ h.add name v = h.set name v) ∨
      ∃ current : Value, h.holds name = true ∧ current.isNothing = false ∧
        h.texts name = current.wireTexts ∧
        h.add name v = h.set name (.list (current.items ++ [v])) := by
  unfold add holds texts
  match h.get? name with
  | none => exact .inl ⟨rfl, rfl, rfl⟩
  | some current =>
    cases current with
    | nothing => exact .inl ⟨rfl, rfl, rfl⟩
    | _ => exact .inr ⟨_, rfl, rfl, rfl, rfl⟩

/-- A value that is added is sent after what the name sent before. -/
theorem texts_add (name : String) (v : Value) (other : String) :
    (h.add name v).texts other =
      if Text.lower other = Text.lower name then h.texts other ++ h.addedTexts name v
      else h.texts other := by
  have hset : ∀ value : Value, value.wireTexts = h.texts name ++ h.addedTexts name v →
      (h.set name value).texts other =
        if Text.lower other = Text.lower name then h.texts other ++ h.addedTexts name v
        else h.texts other := by
    intro value hvalue
    rw [texts_set, hvalue]
    by_cases hsame : Text.lower other = Text.lower name
    · rw [if_pos hsame, if_pos hsame, texts_congr hsame]
    · rw [if_neg hsame, if_neg hsame]
  rcases h.add_cases name v with ⟨hholds, htexts, hadd⟩ | ⟨current, hholds, hcurrent, htexts, hadd⟩
  · rw [hadd]
    apply hset
    simp [addedTexts, hholds, htexts]
  · rw [hadd]
    apply hset
    rw [Value.wireTexts_items hcurrent, addedTexts, if_pos hholds, htexts]

/-- A name holds a value once one other than nothing was added. -/
theorem holds_add (name : String) (v : Value) (other : String) :
    (h.add name v).holds other =
      if Text.lower other = Text.lower name then h.holds other || !v.isNothing
      else h.holds other := by
  have hset : ∀ value : Value, (!value.isNothing) = (h.holds name || !v.isNothing) →
      (h.set name value).holds other =
        if Text.lower other = Text.lower name then h.holds other || !v.isNothing
        else h.holds other := by
    intro value hvalue
    show ((h.set name value).get? other).any _ = _
    rw [get?_set]
    by_cases hsame : Text.lower other = Text.lower name
    · rw [if_pos hsame, if_pos hsame, Option.any_some, hvalue, holds_congr hsame]
    · rw [if_neg hsame, if_neg hsame]
      rfl
  rcases h.add_cases name v with ⟨hholds, -, hadd⟩ | ⟨current, hholds, -, -, hadd⟩
  · rw [hadd]
    apply hset
    simp [hholds]
  · rw [hadd]
    apply hset
    simp [hholds, Value.isNothing]

/-- The names keep their order and spelling; a new one comes last. -/
theorem names_add (name : String) (v : Value) :
    (h.add name v).names = if h.contains name then h.names else h.names ++ [name] := by
  rcases h.add_cases name v with ⟨-, -, hadd⟩ | ⟨current, -, -, -, hadd⟩
  · rw [hadd, names_set]
  · rw [hadd, names_set]

/-- A value that is added to an empty container is sent as by itself. -/
theorem texts_fresh (name : String) (v : Value) : (empty.set name v).texts name = v.wireTexts := by
  rw [texts_set, if_pos rfl]

/-! ## Section 4: Adding pairs -/

/-- What the pairs with a name send by themselves, in order. -/
def gives (pairs : List (String × Value)) (name : String) : List String :=
  (pairs.filter fun p => Text.lower p.1 == Text.lower name).flatMap fun p =>
    (empty.set p.1 p.2).texts p.1

/-- No list or tuple comes to a name that holds a value, in the container or by an earlier
    pair. -/
def Admits (h : Headers) (pairs : List (String × Value)) : Prop :=
  (∀ p ∈ pairs, p.2.isSeveral = true → h.holds p.1 = false) ∧
    pairs.Pairwise fun p q =>
      q.2.isSeveral = true → Text.lower q.1 = Text.lower p.1 → p.2.isNothing = true

theorem gives_cons (p : String × Value) (pairs : List (String × Value)) (name : String) :
    gives (p :: pairs) name =
      (if Text.lower name = Text.lower p.1 then p.2.wireTexts else []) ++ gives pairs name := by
  unfold gives
  rw [List.filter_cons]
  by_cases hsame : Text.lower name = Text.lower p.1
  · rw [if_pos hsame, if_pos (beq_iff_eq.mpr hsame.symm), List.flatMap_cons, texts_fresh]
  · rw [if_neg hsame, if_neg fun hbeq => hsame (beq_iff_eq.mp hbeq).symm, List.nil_append]

theorem admits_cons (p : String × Value) (pairs : List (String × Value)) :
    h.Admits (p :: pairs) ↔
      (p.2.isSeveral = true → h.holds p.1 = false) ∧ (h.add p.1 p.2).Admits pairs := by
  unfold Admits
  rw [List.forall_mem_cons, List.pairwise_cons]
  -- a later list is refused by what the container held, or by this pair
  have hlater : ∀ q : String × Value, (h.add p.1 p.2).holds q.1 = false ↔
      h.holds q.1 = false ∧ (Text.lower q.1 = Text.lower p.1 → p.2.isNothing = true) := by
    intro q
    rw [holds_add]
    by_cases hsame : Text.lower q.1 = Text.lower p.1
    · simp [hsame]
    · simp [hsame]
  constructor
  · intro ⟨⟨hp, hpairs⟩, hfirst, hrest⟩
    refine ⟨hp, fun q hq hseveral => ?_, hrest⟩
    exact (hlater q).mpr ⟨hpairs q hq hseveral, hfirst q hq hseveral⟩
  · intro ⟨hp, hpairs, hrest⟩
    refine ⟨⟨hp, fun q hq hseveral => ?_⟩, fun q hq hseveral => ?_, hrest⟩
    · exact ((hlater q).mp (hpairs q hq hseveral)).1
    · exact ((hlater q).mp (hpairs q hq hseveral)).2

/-- An added value sends what it sends by itself, unless it is a list or a tuple that comes to
    a value: then it sends more. -/
theorem addedTexts_cases (h : Headers) (name : String) (v : Value) :
    ((v.isSeveral = true → h.holds name = false) ∧ h.addedTexts name v = v.wireTexts) ∨
      (v.isSeveral = true ∧ h.holds name = true ∧
        weight v.wireTexts < weight (h.addedTexts name v)) := by
  unfold addedTexts
  cases hholds : h.holds name with
  | false => exact .inl ⟨fun _ => rfl, rfl⟩
  | true =>
    cases hseveral : v.isSeveral with
    | false => exact .inl ⟨nofun, (Value.wireTexts_single hseveral).symm⟩
    | true => exact .inr ⟨rfl, rfl, Value.weight_wireTexts hseveral⟩

theorem addedTexts_eq_iff :
    h.addedTexts name v = v.wireTexts ↔ (v.isSeveral = true → h.holds name = false) := by
  rcases h.addedTexts_cases name v with ⟨hadmitted, hadded⟩ | ⟨hseveral, hholds, hheavy⟩
  · exact iff_of_true hadded hadmitted
  · refine iff_of_false (fun hadded => ?_) fun hadmitted => ?_
    · rw [hadded] at hheavy
      omega
    · rw [hadmitted hseveral] at hholds
      cases hholds

/-- Pairs that are added never send less than they should. -/
theorem weight_addAll (pairs : List (String × Value)) (name : String) :
    weight (h.texts name ++ gives pairs name) ≤ weight ((h.addAll pairs).texts name) := by
  induction pairs generalizing h with
  | nil => simp [gives, addAll]
  | cons p pairs ih =>
    have hrest := ih (h := h.add p.1 p.2)
    have hp : weight p.2.wireTexts ≤ weight (h.addedTexts p.1 p.2) := by
      rcases h.addedTexts_cases p.1 p.2 with ⟨-, hadded⟩ | ⟨-, -, hheavy⟩
      · exact Nat.le_of_eq (congrArg weight hadded.symm)
      · exact Nat.le_of_lt hheavy
    show _ ≤ weight (((h.add p.1 p.2).addAll pairs).texts name)
    rw [texts_add, weight_append] at hrest
    rw [gives_cons, weight_append, weight_append]
    by_cases hsame : Text.lower name = Text.lower p.1
    · rw [if_pos hsame, weight_append] at hrest
      rw [if_pos hsame]
      omega
    · rw [if_neg hsame] at hrest
      rw [if_neg hsame]
      simp only [weight] at *
      omega

/-- Pairs send under every name what they give, one after the other, exactly if they are
    admitted. -/
theorem texts_addAll_iff (pairs : List (String × Value)) :
    (∀ name, (h.addAll pairs).texts name = h.texts name ++ gives pairs name) ↔ h.Admits pairs := by
  induction pairs generalizing h with
  | nil => simp [gives, addAll, Admits]
  | cons p pairs ih =>
    have hfirst : ∀ name, h.addedTexts p.1 p.2 = p.2.wireTexts →
        (h.add p.1 p.2).texts name ++ gives pairs name = h.texts name ++ gives (p :: pairs) name := by
      intro name hadded
      rw [texts_add, gives_cons, hadded]
      by_cases hsame : Text.lower name = Text.lower p.1
      · rw [if_pos hsame, if_pos hsame, List.append_assoc]
      · rw [if_neg hsame, if_neg hsame, List.nil_append]
    rw [admits_cons, ← addedTexts_eq_iff, ← ih]
    show (∀ name, ((h.add p.1 p.2).addAll pairs).texts name = _) ↔ _
    constructor
    · intro hall
      have hadded : h.addedTexts p.1 p.2 = p.2.wireTexts := by
        rcases h.addedTexts_cases p.1 p.2 with ⟨-, hadded⟩ | ⟨-, -, hheavy⟩
        · exact hadded
        -- what the first pair sends too much, no later pair makes up for
        · exfalso
          have hrest := weight_addAll (h := h.add p.1 p.2) pairs p.1
          rw [hall p.1, texts_add, if_pos rfl, gives_cons, if_pos rfl] at hrest
          simp only [weight_append] at hrest
          omega
      exact ⟨hadded, fun name => (hall name).trans (hfirst name hadded).symm⟩
    · intro ⟨hadded, hall⟩ name
      exact (hall name).trans (hfirst name hadded)

/-! ## Section 5: The law -/

/-- A value that is added sends what it sends by itself, after what its name sent before; a list
    or a tuple that comes to a value sends one text instead, and only there adding does not
    append.  Every other name sends what it sent, and the names keep their order.  Pairs
    that are added one after the other send under every name what they send by themselves,
    in order, exactly if no list or tuple among them comes to a value. -/
theorem add_appends (h : Headers) :
    (∀ name v other,
      (h.add name v).texts other =
        if Text.lower other = Text.lower name then
          h.texts name ++ if v.isSeveral && h.holds name then [v.wireText]
            else (empty.set name v).texts name
        else h.texts other) ∧
      (∀ name v,
        (h.add name v).texts name = h.texts name ++ (empty.set name v).texts name ↔
          ¬ (v.isSeveral = true ∧ h.holds name = true)) ∧
      (∀ name v,
        (h.add name v).names = if h.contains name then h.names else h.names ++ [name]) ∧
      ∀ pairs,
        (∀ name, (h.addAll pairs).texts name = h.texts name ++ gives pairs name) ↔
          h.Admits pairs := by
  refine ⟨fun name v other => ?_, fun name v => ?_, names_add, texts_addAll_iff⟩
  · have hadded : h.addedTexts name v =
        if v.isSeveral && h.holds name then [v.wireText] else (empty.set name v).texts name := by
      rw [texts_fresh, addedTexts]
      cases hseveral : v.isSeveral with
      | false => simp [Value.wireTexts_single hseveral]
      | true =>
        have hsome : v.isNothing = false := by
          cases v with
          | nothing => cases hseveral
          | _ => rfl
        simp [Value.itemTexts, hsome]
    rw [texts_add, hadded]
    by_cases hsame : Text.lower other = Text.lower name
    · rw [if_pos hsame, if_pos hsame, texts_congr hsame]
    · rw [if_neg hsame, if_neg hsame]
  · rw [texts_add, if_pos rfl, texts_fresh, List.append_right_inj, addedTexts_eq_iff]
    simp

example : ((empty.add "X" (.text "1")).add "x" (.text "2")).texts "X" = ["1", "2"] ∧
    ((empty.add "X" (.text "1")).add "x" (.list [.text "a"])).texts "X" = ["1", "['a']"] := by
  decide +kernel

end Headers

end Redial
