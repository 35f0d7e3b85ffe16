import Redial.Response

/-! # The text of a response

    A body is read in the character set that the content type names, or in UTF-8 if it
    names none that is known.  Reading fails exactly where the decoder fails otherwise
    than by not finding the name.

    Decoding in the sets of the registry never fails for what the body holds, and for an
    empty body the name is not even looked up.  The one exception is a name with a zero
    character.  Looking up such a name is refused in another way than looking up an
    unknown one, so neither a text nor an error with a message of its own comes out of
    the response. -/

namespace Redial

/-! ## Section 1: Bytes under a name -/

theorem decodeNamed_nullInName (name : String) (bytes : List UInt8) :
    decodeNamed name bytes = .error .nullInName ↔ name.toList.contains '\x00' = true := by
  unfold decodeNamed
  by_cases hnull : name.toList.contains '\x00' = true
  · simp only [hnull, if_true]
  · simp only [hnull, if_false, iff_false, Bool.false_eq_true]
    split
    · simp
    · split <;> simp

/-- Nothing is decoded to nothing. -/
theorem Charset.decode_nil (c : Charset) : c.decode [] = [] := by
  cases c <;> rfl

/-- Bytes decoded in the character set of a meaning, and in UTF-8 if it means none. -/
def Charset.decodeMeant (meaning : Option Charset.Meaning) (bytes : List UInt8) : String :=
  match meaning with
  | some (.charset c) => String.ofList (c.decode bytes)
  | _ => String.ofList (Charset.decodeUtf8 bytes)

/-- What decoding under a name without a zero character comes to. -/
theorem decodeNamed_cases {name : String} (hname : name.toList.contains '\x00' = false)
    (bytes : List UInt8) :
    decodeNamed name bytes = .ok (Charset.decodeMeant (Charset.meaning? name) bytes) ∨
      ∃ f, decodeNamed name bytes = .error f ∧ f.isLookup = true ∧
        Charset.decodeMeant (Charset.meaning? name) bytes
          = String.ofList (Charset.decodeUtf8 bytes) := by
  unfold decodeNamed Charset.decodeMeant
  simp only [hname, Bool.false_eq_true, if_false]
  cases bytes with
  | nil =>
    -- the name is not looked up, and whatever it means decodes nothing to nothing
    left
    cases Charset.meaning? name with
    | none => rfl
    | some meaning =>
      cases meaning with
      | charset c =>
        simp only [c.decode_nil]
        rfl
      | transformation => rfl
  | cons b bytes =>
    cases Charset.meaning? name with
    | none => exact .inr ⟨_, rfl, rfl, rfl⟩
    | some meaning =>
      cases meaning with
      | charset c => exact .inl rfl
      | transformation => exact .inr ⟨_, rfl, rfl, rfl⟩

/-! ## Section 2: Texts of responses -/

namespace Response

variable (r : Response)

/-- The name of a character set that the content type declares. -/
def declaredName? : Option String := r.contentType.bind MediaType.charset?

/-- The name of the character set that a response declares. -/
def declaredSet : String := MediaType.charset r.contentType MediaType.defaultCharset

/-- Whether the declared name holds a zero character. -/
def NullNamed : Prop := ∃ name, r.declaredName? = some name ∧ '\x00' ∈ name.toList

/-- The body in the declared character set, and in UTF-8 if none that is known is declared. -/
def decoded : String := Charset.decodeMeant (r.declaredName?.bind Charset.meaning?) r.body

theorem nullNamed_iff : r.NullNamed ↔ r.declaredSet.toList.contains '\x00' = true := by
  unfold NullNamed
  show _ ↔ (r.declaredName?.getD MediaType.defaultCharset).toList.contains '\x00' = true
  cases r.declaredName? with
  | none =>
    constructor
    · rintro ⟨_, hnone, -⟩
      cases hnone
    · intro hnull
      exact absurd hnull (by decide)
  | some name => simp

theorem decoded_eq : r.decoded = Charset.decodeMeant (Charset.meaning? r.declaredSet) r.body := by
  unfold decoded
  show _ = Charset.decodeMeant
    (Charset.meaning? (r.declaredName?.getD MediaType.defaultCharset)) r.body
  cases r.declaredName? with
  | none =>
    -- the name that is assumed means UTF-8 as well
    have hdefault : Charset.meaning? MediaType.defaultCharset = some (.charset .utf8) := by
      decide +kernel
    rw [Option.getD_none, hdefault]
    rfl
  | some name => rfl

theorem text_of_nullNamed (hr : r.NullNamed) : r.text = .error .nullInName := by
  have hread := (decodeNamed_nullInName _ r.body).mpr (r.nullNamed_iff.mp hr)
  unfold text textBy
  rw [← declaredSet, hread]
  rfl

theorem text_eq (hr : ¬ r.NullNamed) : r.text = .ok r.decoded := by
  rw [nullNamed_iff, Bool.not_eq_true] at hr
  rw [decoded_eq]
  unfold text textBy
  rw [← declaredSet]
  rcases decodeNamed_cases hr r.body with hread | ⟨f, hread, hf, hutf8⟩
  · rw [hread]
  · simp only [hread, hf, if_true, hutf8]

/-- Reading fails as the decoder does, unless that has just not found the name. -/
theorem textBy_error_iff (decode : Decoder) (f : CharsetFault) :
    r.textBy decode = .error f ↔ decode r.declaredSet r.body = .error f ∧ f.isLookup = false := by
  unfold textBy
  rw [← declaredSet]
  cases decode r.declaredSet r.body with
  | ok text => simp
  | error g =>
    show (if g.isLookup = true then Except.ok _ else Except.error g) = Except.error f ↔ _
    cases hg : g.isLookup with
    | true =>
      rw [if_pos rfl]
      refine iff_of_false nofun ?_
      rintro ⟨⟨⟩, hf⟩
      rw [hg] at hf
      cases hf
    | false =>
      rw [if_neg Bool.false_ne_true]
      constructor
      · rintro ⟨⟩
        exact ⟨rfl, hg⟩
      · rintro ⟨⟨⟩, -⟩
        rfl

/-- The status code and the reason, without blanks at the end. -/
def statusLine : String := Text.trimEnd (toString r.status ++ " " ++ r.reason)

end Response

/-! ## Section 3: Errors made from responses -/

namespace ResponseError

/-- No error can be made from a response whose text cannot be read, and from every other
    response one can be made. -/
theorem ofResponseBy_error_iff (response : Response) (decode : Decoder) (f : CharsetFault) :
    ofResponseBy decode response none = .error f ↔
      decode response.declaredSet response.body = .error f ∧ f.isLookup = false := by
  rw [← Response.textBy_error_iff]
  unfold ofResponseBy describe
  cases htext : response.textBy decode with
  | error g => simp [Except.map, bind, Except.bind]
  | ok text => simp [Except.map, bind, Except.bind, Pure.pure, Except.pure]

/-- What a message says: the status line alone if there is no text, and else on a new line
    the text or as much of it as is quoted. -/
structure Reports (line text message : String) : Prop where
  bare : text = "" → message = line
  whole : text ≠ "" → text.length ≤ 1024 → message = line ++ "\n" ++ text
  cut : 1024 < text.length →
    message = line ++ "\n" ++ (String.ofList (text.toList.take 1024) ++ "...")

theorem describe_eq {decode : Decoder} {r : Response} {text : String}
    (htext : r.textBy decode = .ok text) :
    ∃ message, describe decode r = .ok message ∧ Reports r.statusLine text message := by
  refine ⟨if text = "" then r.statusLine else r.statusLine ++ "\n" ++ excerpt text, ?_, ?_⟩
  · unfold describe
    rw [htext]
    rfl
  · constructor
    · intro hempty
      exact if_pos hempty
    · intro hfull hshort
      rw [if_neg hfull, excerpt, quotedLength, if_neg (Nat.not_lt.mpr hshort)]
    · intro hlong
      have hfull : text ≠ "" := by
        rintro rfl
        exact absurd hlong (by decide)
      rw [if_neg hfull, excerpt, quotedLength, if_pos hlong]

end ResponseError

/-- How a response is read. -/
structure Response.Readable (r : Response) : Prop where
  text : ¬ r.NullNamed → r.text = .ok r.decoded
  /-- An error made without a message reports the text. -/
  reported : ¬ r.NullNamed → ∀ message, message = none ∨ message = some "" →
    ∃ report, ResponseError.ofResponse r message = .ok ⟨r, report⟩ ∧
      ResponseError.Reports r.statusLine r.decoded report
  /-- An error made with a message does not look at the text. -/
  given : ∀ message, message ≠ "" → ResponseError.ofResponse r (some message) = .ok ⟨r, message⟩
  /-- A name with a zero character lets both fail. -/
  refused : r.NullNamed → r.text = .error .nullInName ∧
    ∀ message, message = none ∨ message = some "" →
      ResponseError.ofResponse r message = .error .nullInName

/-- Every response is read, and reported by an error, unless the name of its character set
    holds a zero character. -/
theorem Response.text_readable (r : Response) : r.Readable where
  text := r.text_eq
  reported := by
    intro hr message hmessage
    obtain ⟨report, hreport, hreports⟩ := ResponseError.describe_eq (r.text_eq hr)
    refine ⟨report, ?_, hreports⟩
    rcases hmessage with rfl | rfl <;>
      rw [ResponseError.ofResponse, ResponseError.ofResponseBy, hreport] <;> rfl
  given := by
    intro message hmessage
    unfold ResponseError.ofResponse ResponseError.ofResponseBy
    split
    · rename_i hnone
      cases hnone
    · rename_i hempty
      exact absurd (Option.some.inj hempty) hmessage
    · rename_i hgiven
      rw [Option.some.inj hgiven]
  refused := by
    intro hr
    refine ⟨r.text_of_nullNamed hr, ?_⟩
    intro message hmessage
    have hread : r.textBy decodeNamed = .error .nullInName := r.text_of_nullNamed hr
    have hdescribe : ResponseError.describe decodeNamed r = .error .nullInName := by
      rw [ResponseError.describe, hread]
      rfl
    rcases hmessage with rfl | rfl <;>
      rw [ResponseError.ofResponse, ResponseError.ofResponseBy, hdescribe] <;> rfl

example : (Response.ofRaw ⟨200, "", [("Content-Type", "text/plain; charset=a\x00b")], []⟩ "GET"
    (.text "")).text = .error .nullInName := by
  rfl

end Redial
