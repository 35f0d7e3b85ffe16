/-! # Blanks and pieces

    Blank characters, trimming, and cutting a text at a separator.  Cutting works on
    lists of characters: `pieces` returns at least one piece, and joining the pieces
    with the separator gives the text back. -/

namespace Redial.Text

/-! ## Section 1: Blanks -/

/-- Blank characters: the ASCII separators and controls that count as spacing, and the
    spaces beyond ASCII. -/
def isBlank (c : Char) : Bool :=
  let n := c.toNat
  (0x09 ≤ n && n ≤ 0x0d) || (0x1c ≤ n && n ≤ 0x20) || n == 0x85 || n == 0xa0 || n == 0x1680
    || (0x2000 ≤ n && n ≤ 0x200a) || n == 0x2028 || n == 0x2029 || n == 0x202f || n == 0x205f
    || n == 0x3000

/-- Drops the characters of a class at the end. -/
def dropEndWhile (p : Char → Bool) (cs : List Char) : List Char :=
  (cs.reverse.dropWhile p).reverse

/-- Drops the characters of a class at both ends. -/
def stripWhile (p : Char → Bool) (cs : List Char) : List Char :=
  dropEndWhile p (cs.dropWhile p)

/-- Without the blanks at both ends. -/
def trim (s : String) : String := String.ofList (stripWhile isBlank s.toList)

/-- Without the blanks at the end. -/
def trimEnd (s : String) : String := String.ofList (dropEndWhile isBlank s.toList)

/-! ## Section 2: Pieces -/

/-- The pieces of a text between the occurrences of a separator. -/
def pieces (sep : Char) : List Char → List (List Char)
  | [] => [[]]
  | c :: rest =>
    if c = sep then [] :: pieces sep rest
    else match pieces sep rest with
      | [] => [[c]]
      | p :: ps => (c :: p) :: ps

/-- The text before the first separator, and the text after it if there is one. -/
def cut (sep : Char) : List Char → List Char × Option (List Char)
  | [] => ([], none)
  | c :: rest =>
    if c = sep then ([], some rest)
    else ((c :: (cut sep rest).1), (cut sep rest).2)

/-- The text before the last separator if there is one, and the text after it. -/
def cutLast (sep : Char) (cs : List Char) : Option (List Char) × List Char :=
  match cut sep cs.reverse with
  | (after, some before) => (some before.reverse, after.reverse)
  | (after, none) => (none, after.reverse)

/-- Joins pieces with a separator. -/
def join (sep : Char) : List (List Char) → List Char
  | [] => []
  | [p] => p
  | p :: q :: ps => p ++ sep :: join sep (q :: ps)

/-! ## Section 3: Small laws -/

theorem pieces_ne_nil (sep : Char) (cs : List Char) : pieces sep cs ≠ [] := by
  induction cs with
  | nil => simp [pieces]
  | cons c rest ih =>
    rw [pieces]
    split
    · simp
    · split <;> simp

theorem join_cons_of_ne_nil (sep : Char) (p : List Char) {ps : List (List Char)} (h : ps ≠ []) :
    join sep (p :: ps) = p ++ sep :: join sep ps := by
  cases ps with
  | nil => exact absurd rfl h
  | cons q qs => rfl

theorem join_head_cons (sep c : Char) (p : List Char) (ps : List (List Char)) :
    join sep ((c :: p) :: ps) = c :: join sep (p :: ps) := by
  cases ps <;> rfl

theorem join_pieces (sep : Char) (cs : List Char) : join sep (pieces sep cs) = cs := by
  induction cs with
  | nil => rfl
  | cons c rest ih =>
    rw [pieces]
    split
    · next h => rw [join_cons_of_ne_nil sep [] (pieces_ne_nil sep rest), ih, h]; rfl
    · split
      · next h => exact absurd h (pieces_ne_nil sep rest)
      · next p ps h => rw [join_head_cons, ← h, ih]

end Redial.Text
