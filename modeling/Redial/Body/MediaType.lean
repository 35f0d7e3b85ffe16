import Redial.Text.Blank
import Redial.Text.Case

/-! # Media types

    The two things read from a media type: its bare form without parameters, and the
    character set that it declares. -/

namespace Redial.MediaType

/-- The media type without its parameters, in lower case. -/
def bare (mediaType : String) : String :=
  Text.lower (Text.trim (String.ofList (Text.cut ';' mediaType.toList).1))

/-- The character set declared by one parameter, if it is a `charset` with a value.  One
    layer of quotes around the value is dropped, and so is every further one. -/
def parameterCharset? (parameter : List Char) : Option String :=
  let (name, value) := Text.cut '=' parameter
  let value := Text.stripWhile Text.isBlank (value.getD [])
  if Text.lower (String.ofList (Text.stripWhile Text.isBlank name)) = "charset"
      && !value.isEmpty then
    some (Text.lower (String.ofList (Text.stripWhile (· == '"') value)))
  else none

/-- The character set declared by the first parameter that declares one. -/
def charset? (mediaType : String) : Option String :=
  ((Text.pieces ';' mediaType.toList).drop 1).findSome? parameterCharset?

/-- The character set of content with the given media type, if any. -/
def charset (mediaType : Option String) (fallback : String) : String :=
  (mediaType.bind charset?).getD fallback

/-- The character set that is assumed where none is declared. -/
def defaultCharset : String := "utf-8"

end Redial.MediaType
