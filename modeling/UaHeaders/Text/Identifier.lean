/-!
# Identifiers

## Main definitions

* `UaHeaders.Text.isIdentifier` — the names that the C preprocessor takes for one word.
-/

set_option autoImplicit false

namespace UaHeaders.Text

/-- A character that may begin an identifier: an ASCII letter or the underscore. -/
def isIdentifierStart (c : Char) : Bool :=
  ('a' ≤ c && c ≤ 'z') || ('A' ≤ c && c ≤ 'Z') || c == '_'

/-- A character that may go on in an identifier: one that may begin it, or an ASCII digit. -/
def isIdentifierPart (c : Char) : Bool := isIdentifierStart c || ('0' ≤ c && c ≤ '9')

/-- **A name of letters, digits and underscores** that does not begin with a digit. -/
def isIdentifier (s : String) : Bool :=
  match s.toList with
  | [] => false
  | c :: cs => isIdentifierStart c && cs.all isIdentifierPart

end UaHeaders.Text
