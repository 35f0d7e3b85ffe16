import Redial.Body.MediaType
import Redial.Proofs.LowerCase

/-! # Media types by their grammar

    RFC 9110 writes a media type as a type, a slash and a subtype, and after them any
    number of parameters, each behind a semicolon with optional blanks around it.  The
    value of a parameter is a token or a quoted text, and a quoted text may hold
    semicolons.

    Reading cuts at every semicolon, also within quotes.  So each parameter is read on its
    own, as the pieces that it falls into: `scan_parameters`.  A parameter without a
    semicolon in its value is one piece and is read as it stands, apart from an empty
    `charset`, which is taken for an empty name.  A quoted text with semicolons is cut
    short if it is that of a `charset`, and otherwise its later pieces are taken for
    parameters.  `Parameter.isMisread` says which parameters these are. -/

namespace Redial.MediaType

/-! ## Section 1: The grammar -/

/-- A character of a token. -/
def isTokenChar (c : Char) : Bool :=
  c.toNat < 128 && (c.isAlphanum || "!#$%&'*+-.^_\x60|~".toList.contains c)

/-- A token. -/
structure Token where
  chars : List Char
  ne_nil : chars ≠ []
  safe : ∀ c ∈ chars, isTokenChar c = true

/-- The value of a parameter. -/
inductive ParameterValue where
  | token (t : Token)
  /-- A text between double quotes, without escapes. -/
  | quoted (s : List Char) (plain : ∀ c ∈ s, c ≠ '"' ∧ c ≠ '\\')

/-- What a value says, without its quotes. -/
def ParameterValue.content : ParameterValue → List Char
  | token t => t.chars
  | quoted s _ => s

/-- How a value is written. -/
def ParameterValue.chars : ParameterValue → List Char
  | token t => t.chars
  | quoted s _ => '"' :: s ++ ['"']

/-- Spaces and tabs. -/
def IsGap (cs : List Char) : Prop := ∀ c ∈ cs, c = ' ' ∨ c = '\t'

instance (cs : List Char) : Decidable (IsGap cs) :=
  List.decidableBAll (fun c => c = ' ' ∨ c = '\t') cs

/-- A parameter, with the blanks around its semicolon. -/
structure Parameter where
  before : List Char
  gap_before : IsGap before
  after : List Char
  gap_after : IsGap after
  name : Token
  value : ParameterValue

namespace Parameter

/-- A parameter without its semicolon. -/
def body (p : Parameter) : List Char := p.name.chars ++ '=' :: p.value.chars

/-- How a parameter is written. -/
def chars (p : Parameter) : List Char := p.before ++ ';' :: (p.after ++ p.body)

/-- Whether the name is `charset`, in any letter case. -/
def isCharset (p : Parameter) : Bool := p.name.chars.map Char.toLower == "charset".toList

/-- The character set that a parameter declares, in lower case. -/
def declared? (p : Parameter) : Option String :=
  if p.isCharset && !p.value.content.isEmpty then
    some (Text.lower (String.ofList p.value.content))
  else none

end Parameter

/-- A media type as it is written. -/
structure Written where
  type : Token
  subtype : Token
  parameters : List Parameter

namespace Written

/-- The type and the subtype. -/
def essence (m : Written) : List Char := m.type.chars ++ '/' :: m.subtype.chars

def chars (m : Written) : List Char := m.essence ++ m.parameters.flatMap Parameter.chars

def text (m : Written) : String := String.ofList m.chars

/-- The character set that the first parameter declares that declares one. -/
def declared? (m : Written) : Option String := m.parameters.findSome? Parameter.declared?

end Written

/-! ## Section 2: Characters of the parts -/

/-- No character of a token divides a media type or is stripped off. -/
theorem of_isTokenChar {c : Char} (hc : isTokenChar c = true) :
    c.toNat < 128 ∧ c ≠ ';' ∧ c ≠ '=' ∧ c ≠ '"' ∧ Text.isBlank c = false := by
  have hascii : c.toNat < 128 := of_decide_eq_true (Bool.and_eq_true_iff.mp hc).1
  exact ⟨hascii, Text.ascii_forall (P := fun c => isTokenChar c = true →
    c ≠ ';' ∧ c ≠ '=' ∧ c ≠ '"' ∧ Text.isBlank c = false) (by decide +kernel) hascii hc⟩

namespace Token

variable (t : Token)

theorem semicolon_not_mem : ';' ∉ t.chars := fun h => (of_isTokenChar (t.safe _ h)).2.1 rfl

theorem equals_not_mem : '=' ∉ t.chars := fun h => (of_isTokenChar (t.safe _ h)).2.2.1 rfl

theorem strip_blanks : Text.stripWhile Text.isBlank t.chars = t.chars :=
  Text.stripWhile_of_not fun c hc => (of_isTokenChar (t.safe c hc)).2.2.2.2

theorem strip_quotes : Text.stripWhile (· == '"') t.chars = t.chars :=
  Text.stripWhile_of_not fun c hc => beq_eq_false_iff_ne.mpr (of_isTokenChar (t.safe c hc)).2.2.2.1

/-- A token is lower-cased character by character. -/
theorem lower_eq :
    Text.lower (String.ofList t.chars) = String.ofList (t.chars.map Char.toLower) := by
  have hascii : Text.isAscii (String.ofList t.chars) = true := by
    rw [Text.isAscii, String.toList_ofList, List.all_eq_true]
    exact fun c hc => decide_eq_true (of_isTokenChar (t.safe c hc)).1
  rw [Text.lower, if_pos hascii, String.toList_ofList]

end Token

theorem IsGap.blank {cs : List Char} (hcs : IsGap cs) : ∀ c ∈ cs, Text.isBlank c = true := by
  intro c hc
  rcases hcs c hc with rfl | rfl <;> decide

theorem IsGap.not_mem {cs : List Char} (hcs : IsGap cs) {c : Char} (hspace : c ≠ ' ')
    (htab : c ≠ '\t') : c ∉ cs := fun hc => (hcs c hc).elim hspace htab

/-! ## Section 3: Pieces -/

/-- The character set that is read from a text of parameters without the first semicolon. -/
def scan (cs : List Char) : Option String := (Text.pieces ';' cs).findSome? parameterCharset?

/-- What is read from a name and a value that were stripped of blanks. -/
def named (name value : List Char) : Option String :=
  if Text.lower (String.ofList name) = "charset" && !value.isEmpty then
    some (Text.lower (String.ofList (Text.stripWhile (· == '"') value)))
  else none

theorem parameterCharset?_eq (piece : List Char) :
    parameterCharset? piece = named (Text.stripWhile Text.isBlank (Text.cut '=' piece).1)
      (Text.stripWhile Text.isBlank ((Text.cut '=' piece).2.getD [])) := rfl

theorem isGap_nil : IsGap [] := fun _ hc => absurd hc List.not_mem_nil

theorem strip_gaps {as bs : List Char} (has : IsGap as) (hbs : IsGap bs) (cs : List Char) :
    Text.stripWhile Text.isBlank (as ++ cs ++ bs) = Text.stripWhile Text.isBlank cs :=
  Text.stripWhile_pad has.blank hbs.blank cs

/-- Blanks around a piece are no part of it. -/
theorem parameterCharset?_pad {as bs : List Char} (has : IsGap as) (hbs : IsGap bs)
    (piece : List Char) : parameterCharset? (as ++ piece ++ bs) = parameterCharset? piece := by
  have hno : ∀ gap : List Char, IsGap gap → '=' ∉ gap := fun gap hgap =>
    hgap.not_mem (by decide) (by decide)
  rw [parameterCharset?_eq, parameterCharset?_eq]
  -- without an equals sign all blanks are around the name, else those behind are behind the value
  rcases Text.cut_cases '=' piece with ⟨hnone, hcut⟩ | ⟨name, value, rfl, hname, hcut⟩
  · have hall : '=' ∉ as ++ piece ++ bs := by
      simp only [List.mem_append, not_or]
      exact ⟨⟨hno as has, hnone⟩, hno bs hbs⟩
    rw [hcut, Text.cut_of_not_mem hall, strip_gaps has hbs]
  · have hsplit :
        as ++ (name ++ '=' :: value) ++ bs = (as ++ name ++ []) ++ '=' :: (value ++ bs) := by
      simp
    have hfront : '=' ∉ as ++ name ++ [] := by
      simp only [List.mem_append, not_or]
      exact ⟨⟨hno as has, hname⟩, List.not_mem_nil⟩
    rw [hcut, hsplit, Text.cut_append hfront, strip_gaps has isGap_nil]
    exact congrArg _ (strip_gaps isGap_nil hbs value)

theorem scan_append (before after : List Char) :
    scan (before ++ ';' :: after) = (scan before).or (scan after) := by
  unfold scan
  rw [Text.pieces_append_mark, List.findSome?_append]

theorem scan_of_not_mem {cs : List Char} (hcs : ';' ∉ cs) : scan cs = parameterCharset? cs := by
  rw [scan, Text.pieces_of_not_mem hcs, List.findSome?_singleton]

/-- Blanks in front join the first piece. -/
theorem scan_gap_append {as : List Char} (has : IsGap as) (cs : List Char) :
    scan (as ++ cs) = scan cs := by
  have hno : ';' ∉ as := has.not_mem (by decide) (by decide)
  have hpad : ∀ piece, ';' ∉ piece → scan (as ++ piece) = scan piece := by
    intro piece hpiece
    have hall : ';' ∉ as ++ piece := by
      rw [List.mem_append, not_or]
      exact ⟨hno, hpiece⟩
    rw [scan_of_not_mem hall, scan_of_not_mem hpiece, ← parameterCharset?_pad has isGap_nil piece,
      List.append_nil]
  rcases Text.cut_cases ';' cs with ⟨hnone, -⟩ | ⟨before, after, rfl, hbefore, -⟩
  · exact hpad cs hnone
  · rw [← List.append_assoc, scan_append, scan_append, hpad before hbefore]

/-- Blanks at the end join the last piece. -/
theorem scan_append_gap {bs : List Char} (hbs : IsGap bs) (cs : List Char) :
    scan (cs ++ bs) = scan cs := by
  have hno : ';' ∉ bs := hbs.not_mem (by decide) (by decide)
  have hpad : ∀ piece, ';' ∉ piece → scan (piece ++ bs) = scan piece := by
    intro piece hpiece
    have hall : ';' ∉ piece ++ bs := by
      rw [List.mem_append, not_or]
      exact ⟨hpiece, hno⟩
    rw [scan_of_not_mem hall, scan_of_not_mem hpiece]
    exact parameterCharset?_pad isGap_nil hbs piece
  rcases Text.cutLast_cases ';' cs with ⟨hnone, -⟩ | ⟨before, after, rfl, hafter, -⟩
  · exact hpad cs hnone
  · rw [List.append_assoc, List.cons_append, scan_append, scan_append, hpad after hafter]

/-- Each parameter is read on its own. The blanks in front of a semicolon fall to the
    parameter before it. -/
theorem scan_parameters (p : Parameter) (ps : List Parameter) :
    scan (p.after ++ p.body ++ ps.flatMap Parameter.chars)
      = (p :: ps).findSome? fun p => scan p.body := by
  induction ps generalizing p with
  | nil =>
    rw [List.flatMap_nil, scan_append_gap isGap_nil, scan_gap_append p.gap_after,
      List.findSome?_singleton]
  | cons q ps ih =>
    have hsplit : p.after ++ p.body ++ (q :: ps).flatMap Parameter.chars
        = (p.after ++ p.body ++ q.before) ++
          ';' :: (q.after ++ q.body ++ ps.flatMap Parameter.chars) := by
      simp [Parameter.chars]
    rw [hsplit, scan_append, scan_append_gap q.gap_before, scan_gap_append p.gap_after, ih,
      ← List.singleton_append (x := p), List.findSome?_append, List.findSome?_singleton]

/-! ## Section 4: One parameter -/

namespace Parameter

/-- As much of the value of a `charset` as is read: a quoted text up to its first
    semicolon. -/
def readContent (p : Parameter) : List Char :=
  match p.value with
  | .token t => t.chars
  | .quoted s _ =>
    match Text.cut ';' s with
    | (_, none) => s
    | (before, some _) => Text.dropEndWhile Text.isBlank before

/-- What is read from a quoted text behind its first semicolon, as if it were parameters. -/
def strayed? (p : Parameter) : Option String :=
  match p.value with
  | .token _ => none
  | .quoted s _ => (Text.cut ';' s).2.bind fun after => scan (after ++ ['"'])

/-- What is read from a parameter. -/
def read? (p : Parameter) : Option String :=
  if p.isCharset then some (Text.lower (String.ofList p.readContent)) else p.strayed?

/-- Whether something else is read from a parameter than it declares. -/
def isMisread (p : Parameter) : Bool :=
  if p.isCharset then p.value.content.isEmpty || p.value.content.contains ';'
  else p.strayed?.isSome

variable (p : Parameter)

theorem lower_name_iff : Text.lower (String.ofList p.name.chars) = "charset" ↔
    p.isCharset = true := by
  rw [Token.lower_eq, isCharset, beq_iff_eq]
  constructor
  · intro hname
    rw [← hname, String.toList_ofList]
  · intro hname
    rw [hname, String.ofList_toList]

/-- What is read from the name of a parameter with a value without a semicolon. -/
theorem scan_name {value : List Char} (hvalue : ';' ∉ value) :
    scan (p.name.chars ++ '=' :: value) =
      if p.isCharset && !(Text.stripWhile Text.isBlank value).isEmpty then
        some (Text.lower (String.ofList
          (Text.stripWhile (· == '"') (Text.stripWhile Text.isBlank value))))
      else none := by
  have hno : ';' ∉ p.name.chars ++ '=' :: value := by
    simp only [List.mem_append, List.mem_cons, not_or]
    exact ⟨p.name.semicolon_not_mem, by decide, hvalue⟩
  rw [scan_of_not_mem hno, parameterCharset?_eq, Text.cut_append p.name.equals_not_mem]
  simp only [named, Token.strip_blanks, lower_name_iff, Option.getD_some, Bool.decide_eq_true]

/-- The quotes around a text are stripped off, and so is the one in front if the text is
    cut short. -/
theorem unquote {s back : List Char} (hs : ∀ c ∈ s, c ≠ '"') (hback : ∀ c ∈ back, c = '"') :
    Text.stripWhile (· == '"') ('"' :: s ++ back) = s := by
  have hfront : ∀ c ∈ ['"'], (c == '"') = true := fun c hc =>
    beq_iff_eq.mpr (List.mem_singleton.mp hc)
  have hpad := Text.stripWhile_pad hfront (fun c hc => beq_iff_eq.mpr (hback c hc)) s
  rw [List.singleton_append] at hpad
  rw [hpad]
  exact Text.stripWhile_of_not fun c hc => beq_eq_false_iff_ne.mpr (hs c hc)

/-- What is read from a parameter that is followed by nothing. -/
theorem scan_body : scan p.body = p.read? := by
  have hquote : Text.isBlank '"' = false := by decide
  unfold body read? readContent strayed?
  cases p.value with
  | token t =>
    have hfull : t.chars.isEmpty = false := List.isEmpty_eq_false_iff.mpr t.ne_nil
    simp only [ParameterValue.chars]
    rw [p.scan_name t.semicolon_not_mem, t.strip_blanks, t.strip_quotes, hfull]
    simp
  | quoted s plain =>
    simp only [ParameterValue.chars]
    rcases Text.cut_cases ';' s with ⟨hnone, hcut⟩ | ⟨before, after, rfl, hbefore, hcut⟩
    · -- one piece, whose last quote keeps the blanks in front of it
      have hno : ';' ∉ '"' :: s ++ ['"'] := by
        simp only [List.cons_append, List.mem_cons, List.mem_append, List.not_mem_nil, or_false,
          not_or]
        exact ⟨by decide, hnone, by decide⟩
      have hkept : Text.stripWhile Text.isBlank ('"' :: s ++ ['"']) = '"' :: s ++ ['"'] := by
        rw [List.cons_append, Text.stripWhile_cons hquote, Text.dropEndWhile_concat hquote]
      rw [p.scan_name hno, hkept,
        unquote (fun c hc => (plain c hc).1) (fun c hc => List.mem_singleton.mp hc), hcut]
      simp
    · -- the first piece ends within the quotes, and what follows is read as if it stood outside
      have hno : ';' ∉ '"' :: before := by
        rw [List.mem_cons, not_or]
        exact ⟨by decide, hbefore⟩
      have hsplit : p.name.chars ++ '=' :: ('"' :: (before ++ ';' :: after) ++ ['"'])
          = (p.name.chars ++ '=' :: '"' :: before) ++ ';' :: (after ++ ['"']) := by
        simp
      have hshort : ∀ c ∈ Text.dropEndWhile Text.isBlank before, c ≠ '"' := fun c hc =>
        (plain c (List.mem_append_left _ (Text.mem_of_mem_dropEndWhile hc))).1
      have hcontent := unquote hshort (fun c hc => absurd hc List.not_mem_nil)
      rw [List.append_nil] at hcontent
      rw [hsplit, scan_append, p.scan_name hno, Text.stripWhile_cons hquote, hcontent, hcut]
      cases p.isCharset <;> simp

/-! ### Misreadings -/

/-- What is read of a `charset` is one piece. -/
theorem semicolon_not_mem_readContent : ';' ∉ p.readContent := by
  unfold readContent
  cases p.value with
  | token t => exact t.semicolon_not_mem
  | quoted s plain =>
    rcases Text.cut_cases ';' s with ⟨hnone, hcut⟩ | ⟨before, after, -, hbefore, hcut⟩
    · simp only [hcut]
      exact hnone
    · simp only [hcut]
      exact fun hmem => hbefore (Text.mem_of_mem_dropEndWhile hmem)

theorem readContent_eq (hvalue : ';' ∉ p.value.content) : p.readContent = p.value.content := by
  unfold readContent
  cases hcase : p.value with
  | token t => rfl
  | quoted s plain =>
    rw [hcase] at hvalue
    have hcut : Text.cut ';' s = (s, none) := Text.cut_of_not_mem hvalue
    simp only [hcut]
    rfl

/-- Whether a parameter declares a character set or is misread. -/
def decides (p : Parameter) : Bool := p.isMisread || p.declared?.isSome

variable {p}

/-- A value without a semicolon is read as it stands, unless it is an empty `charset`. -/
theorem isMisread_of_plain (hvalue : ';' ∉ p.value.content)
    (hfull : p.isCharset = true → p.value.content ≠ []) : p.isMisread = false := by
  unfold isMisread
  cases hname : p.isCharset with
  | true =>
    have hcontains : p.value.content.contains ';' = false := by
      rw [Bool.eq_false_iff, ne_eq, List.contains_iff_mem]
      exact hvalue
    rw [if_pos rfl, List.isEmpty_eq_false_iff.mpr (hfull hname), hcontains]
    rfl
  | false =>
    rw [if_neg Bool.false_ne_true, strayed?]
    cases hcase : p.value with
    | token t => rfl
    | quoted s plain =>
      rw [hcase] at hvalue
      have hcut : Text.cut ';' s = (s, none) := Text.cut_of_not_mem hvalue
      simp only [hcut]
      rfl

theorem read?_eq_declared? (hp : p.isMisread = false) : p.read? = p.declared? := by
  unfold isMisread at hp
  unfold read? declared?
  cases hname : p.isCharset with
  | true =>
    rw [hname, if_pos rfl, Bool.or_eq_false_iff] at hp
    have hvalue : ';' ∉ p.value.content := by
      rw [← List.contains_iff_mem, hp.2]
      exact Bool.false_ne_true
    rw [p.readContent_eq hvalue, hp.1]
    rfl
  | false =>
    rw [hname, if_neg Bool.false_ne_true, Option.isSome_eq_false_iff,
      Option.isNone_iff_eq_none] at hp
    rw [hp]
    rfl

theorem read?_of_isMisread (hp : p.isMisread = true) :
    ∃ name, p.read? = some name ∧ p.declared? ≠ some name := by
  unfold isMisread at hp
  unfold read? declared?
  cases hname : p.isCharset with
  | true =>
    refine ⟨_, if_pos rfl, ?_⟩
    intro hsame
    rw [hname, if_pos rfl, Bool.or_eq_true] at hp
    cases hempty : p.value.content.isEmpty with
    | true =>
      -- an empty value declares nothing, but the empty name is read from it
      rw [hempty] at hsame
      cases hsame
    | false =>
      -- the semicolon of the value is in what is declared, and in nothing that is read
      rw [hempty] at hp hsame
      have hcontent : ';' ∈ p.value.content :=
        List.contains_iff_mem.mp (hp.resolve_left Bool.false_ne_true)
      have hlower : Text.lower (String.ofList p.value.content)
          = Text.lower (String.ofList p.readContent) := Option.some.inj hsame
      have hmark : ∀ cs : List Char, ';' ∈ (Text.lower (String.ofList cs)).toList ↔ ';' ∈ cs := by
        intro cs
        rw [Text.mem_lower_iff (by decide) (by decide), String.toList_ofList]
      refine p.semicolon_not_mem_readContent ((hmark _).mp ?_)
      rw [← hlower]
      exact (hmark _).mpr hcontent
  | false =>
    rw [hname, if_neg Bool.false_ne_true] at hp
    obtain ⟨name, hstrayed⟩ := Option.isSome_iff_exists.mp hp
    refine ⟨name, hstrayed, ?_⟩
    intro hsame
    cases hsame

/-- A parameter that does not decide is passed over, as it should be. -/
theorem passed_over (hp : p.decides = false) : p.read? = none ∧ p.declared? = none := by
  rw [decides, Bool.or_eq_false_iff, Option.isSome_eq_false_iff, Option.isNone_iff_eq_none] at hp
  exact ⟨(read?_eq_declared? hp.1).trans hp.2, hp.2⟩

theorem findSome?_read_eq {ps : List Parameter}
    (hps : ∀ p, ps.find? decides = some p → p.isMisread = false) :
    ps.findSome? read? = ps.findSome? declared? := by
  -- by induction up to the first parameter that decides
  induction ps with
  | nil => rfl
  | cons q qs ih =>
    rw [List.find?_cons] at hps
    rw [List.findSome?_cons, List.findSome?_cons]
    cases hq : q.decides with
    | false =>
      rw [hq] at hps
      rw [(passed_over hq).1, (passed_over hq).2]
      exact ih hps
    | true =>
      rw [hq] at hps
      have hread : q.isMisread = false := hps q rfl
      have hdeclares : q.declared?.isSome = true := by rwa [decides, hread, Bool.false_or] at hq
      obtain ⟨name, hname⟩ := Option.isSome_iff_exists.mp hdeclares
      rw [read?_eq_declared? hread, hname]

theorem findSome?_read_of_find? {ps : List Parameter} {name : String}
    (hps : ps.find? decides = some p) (hp : p.read? = some name) :
    ps.findSome? read? = some name := by
  induction ps with
  | nil => cases hps
  | cons q qs ih =>
    rw [List.find?_cons] at hps
    rw [List.findSome?_cons]
    cases hq : q.decides with
    | false =>
      rw [hq] at hps
      rw [(passed_over hq).1]
      exact ih hps
    | true =>
      rw [hq] at hps
      cases hps
      rw [hp]

end Parameter

/-! ## Section 5: Whole media types -/

namespace Written

variable (m : Written)

theorem semicolon_not_mem_essence : ';' ∉ m.essence := by
  unfold essence
  simp only [List.mem_append, List.mem_cons, not_or]
  exact ⟨m.type.semicolon_not_mem, by decide, m.subtype.semicolon_not_mem⟩

theorem strip_essence : Text.stripWhile Text.isBlank m.essence = m.essence := by
  refine Text.stripWhile_of_not fun c hc => ?_
  rcases List.mem_append.mp hc with htype | hrest
  · exact (of_isTokenChar (m.type.safe c htype)).2.2.2.2
  rcases List.mem_cons.mp hrest with rfl | hsubtype
  · decide
  · exact (of_isTokenChar (m.subtype.safe c hsubtype)).2.2.2.2

theorem chars_nil (hps : m.parameters = []) : m.chars = m.essence := by
  rw [chars, hps, List.flatMap_nil, List.append_nil]

/-- A media type with parameters, up to the first semicolon and from there on. -/
theorem chars_cons {p : Parameter} {ps : List Parameter} (hps : m.parameters = p :: ps) :
    m.chars = (m.essence ++ p.before) ++ ';' :: (p.after ++ p.body ++ ps.flatMap Parameter.chars) ∧
      ';' ∉ m.essence ++ p.before := by
  constructor
  · rw [chars, hps]
    simp [Parameter.chars]
  · rw [List.mem_append, not_or]
    exact ⟨m.semicolon_not_mem_essence, p.gap_before.not_mem (by decide) (by decide)⟩

theorem bare_text : bare m.text = Text.lower (String.ofList m.essence) := by
  unfold bare Text.trim
  rw [text, String.toList_ofList, String.toList_ofList]
  cases hps : m.parameters with
  | nil =>
    rw [m.chars_nil hps, Text.cut_of_not_mem m.semicolon_not_mem_essence, m.strip_essence]
  | cons p ps =>
    obtain ⟨hchars, hno⟩ := m.chars_cons hps
    rw [hchars, Text.cut_append hno]
    have hstrip := strip_gaps isGap_nil p.gap_before m.essence
    rw [List.nil_append, m.strip_essence] at hstrip
    rw [hstrip]

theorem charset?_text : charset? m.text = m.parameters.findSome? Parameter.read? := by
  unfold charset?
  rw [text, String.toList_ofList]
  cases hps : m.parameters with
  | nil =>
    rw [m.chars_nil hps, Text.pieces_of_not_mem m.semicolon_not_mem_essence]
    rfl
  | cons p ps =>
    obtain ⟨hchars, hno⟩ := m.chars_cons hps
    rw [hchars, Text.pieces_append hno]
    show scan (p.after ++ p.body ++ ps.flatMap Parameter.chars) = _
    rw [scan_parameters]
    exact congrArg (List.findSome? · (p :: ps)) (funext Parameter.scan_body)

/-- The first parameter that declares a character set or is misread. -/
def decisive? : Option Parameter := m.parameters.find? Parameter.decides

end Written

/-- What is read from a media type that follows the grammar. -/
structure Understood (m : Written) : Prop where
  bare : MediaType.bare m.text = Text.lower (String.ofList m.essence)
  /-- Each parameter is read on its own, and the first that yields a name is believed. -/
  charset : ∀ fallback, MediaType.charset (some m.text) fallback
    = (m.parameters.findSome? Parameter.read?).getD fallback
  /-- Nothing else is read than what is declared, unless a misread parameter comes first. -/
  faithful : (∀ p, m.decisive? = some p → p.isMisread = false) →
    ∀ fallback, MediaType.charset (some m.text) fallback = m.declared?.getD fallback
  /-- So a media type is read as declared if no value holds a semicolon and no `charset` is
      empty. -/
  plain : (∀ p ∈ m.parameters, ';' ∉ p.value.content ∧
      (p.isCharset = true → p.value.content ≠ [])) →
    ∀ fallback, MediaType.charset (some m.text) fallback = m.declared?.getD fallback
  /-- A misread parameter yields a name that it does not declare, and the name is believed. -/
  misled : ∀ p, m.decisive? = some p → p.isMisread = true →
    ∃ name, p.declared? ≠ some name ∧
      ∀ fallback, MediaType.charset (some m.text) fallback = name

/-- A media type is read by its grammar, up to the first parameter that is misread: a quoted
    `charset` that is empty or holds a semicolon, or another quoted text in which something
    like `;charset=` stands. -/
theorem media_type_understood (m : Written) : Understood m := by
  have hcharset : ∀ fallback, charset (some m.text) fallback
      = (m.parameters.findSome? Parameter.read?).getD fallback := by
    intro fallback
    rw [charset, Option.bind_some, m.charset?_text]
  have hfaithful : (∀ p, m.decisive? = some p → p.isMisread = false) →
      ∀ fallback, charset (some m.text) fallback = m.declared?.getD fallback := by
    intro hfirst fallback
    rw [hcharset, Parameter.findSome?_read_eq hfirst]
    rfl
  refine ⟨m.bare_text, hcharset, hfaithful, ?_, ?_⟩
  · intro hplain
    apply hfaithful
    intro p hfirst
    obtain ⟨hvalue, hfull⟩ := hplain p (List.mem_of_find?_eq_some hfirst)
    exact Parameter.isMisread_of_plain hvalue hfull
  · intro p hfirst hp
    obtain ⟨name, hread, hdeclared⟩ := Parameter.read?_of_isMisread hp
    refine ⟨name, hdeclared, ?_⟩
    intro fallback
    rw [hcharset, Parameter.findSome?_read_of_find? hfirst hread]
    rfl

/-- A quoted text in which something like a `charset` stands is believed before the `charset`
    that follows it. -/
theorem media_type_understood_misled :
    let strayed : Parameter := {
      before := [], gap_before := by decide, after := [' '], gap_after := by decide
      name := ⟨['x'], by decide, List.all_eq_true.mp (by decide)⟩
      value := .quoted "a;charset=b".toList fun _ hc =>
        ⟨ne_of_mem_of_not_mem hc (by decide), ne_of_mem_of_not_mem hc (by decide)⟩ }
    let declaring : Parameter := {
      before := [], gap_before := by decide, after := [' '], gap_after := by decide
      name := ⟨"charset".toList, by decide, List.all_eq_true.mp (by decide)⟩
      value := .token ⟨"utf-8".toList, by decide, List.all_eq_true.mp (by decide +kernel)⟩ }
    let m : Written := {
      type := ⟨"text".toList, by decide, List.all_eq_true.mp (by decide)⟩
      subtype := ⟨"plain".toList, by decide, List.all_eq_true.mp (by decide)⟩
      parameters := [strayed, declaring] }
    m.text = "text/plain; x=\"a;charset=b\"; charset=utf-8" ∧
      MediaType.bare m.text = "text/plain" ∧ m.declared? = some "utf-8" ∧
      strayed.isMisread = true ∧ strayed.declared? = none ∧
      ∀ fallback, MediaType.charset (some m.text) fallback = "b" := by
  intro strayed declaring m
  have hm : Understood m := media_type_understood m
  have hread : m.parameters.findSome? Parameter.read? = some "b" := by decide +kernel
  refine ⟨by decide +kernel, ?_, by decide +kernel, by decide +kernel, by decide +kernel, ?_⟩
  · rw [hm.bare]
    decide +kernel
  · intro fallback
    rw [hm.charset, hread]
    rfl

end Redial.MediaType
