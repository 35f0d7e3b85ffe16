import Redial.Headers.Basic

/-! # Headers on the wire

    The ordered lines of a container: lower-cased names, one line per wire value.  A
    suffix, if given, is appended to the user agent with a space, or sent alone in a
    line of its own when no user agent is stored. -/

namespace Redial.Headers

/-- The values that a stored entry sends.  The user agent is sent as one value that ends in
    the suffix. -/
def entryTexts (suffix : Option String) (h : Headers) (name : String) : List String :=
  match suffix with
  | none => h.texts name
  | some s =>
    if Text.lower name = Text.lower Field.userAgent.name then
      [String.intercalate " " (h.texts name ++ [s])]
    else h.texts name

/-- The lines of one stored entry. -/
def entryLines (suffix : Option String) (h : Headers) (name : String) : List (String × String) :=
  (h.entryTexts suffix name).map fun v => (Text.lower name, v)

/-- The line that carries the suffix when no user agent is stored. -/
def suffixLines (suffix : Option String) (h : Headers) : List (String × String) :=
  match suffix with
  | none => []
  | some s =>
    if h.names.any fun n => Text.lower n == Text.lower Field.userAgent.name then []
    else [(Text.lower Field.userAgent.name, s)]

/-- The lines of a container, in order. -/
def lines (h : Headers) (suffix : Option String) : List (String × String) :=
  h.names.flatMap (h.entryLines suffix) ++ h.suffixLines suffix

end Redial.Headers
