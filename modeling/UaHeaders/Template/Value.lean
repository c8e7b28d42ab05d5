import UaHeaders.Decimal.Shortest
import UaHeaders.Json.Value

/-!
# Values in a template

## Main definitions

* `UaHeaders.Json.follow` — the value that names lead to.
* `UaHeaders.Json.plain` — the text of a value where it fills a place.
* `UaHeaders.Json.isTrue` — whether a value counts as true.
* `UaHeaders.Json.items?` — what a loop runs over.
-/

set_option autoImplicit false

namespace UaHeaders.Json

/-- The number that decimal digits stand for, if there are any and nothing else. -/
def digitsNumber? (cs : List Char) : Option Nat :=
  if !cs.isEmpty && cs.all Char.isDigit then some (Nat.ofDigitChars 10 cs 0) else none

/-- The number in a text, if it is a whole one of 64 bits. -/
def wholeNumber? (text : String) : Option Int :=
  let number : Option Int :=
    match text.toList with
    | '-' :: digits => (digitsNumber? digits).map Int.negOfNat
    | digits => (digitsNumber? digits).map Int.ofNat
  number.filter fun n =>
    text != "-0" && -9223372036854775808 ≤ n && n < 18446744073709551616

/-- The place in a list that a name stands for. -/
def index? (name : String) : Option Nat :=
  if name.toList.all Char.isDigit && (name == "0" || name.toList.head? != some '0') then name.toNat?
  else none

/-- **The value that names lead to**, through the fields of objects and the places of lists. -/
def follow (value : Json) : List String → Option Json
  | [] => some value
  | name :: names =>
    match value with
    | object fields => ((fields.reverse.lookup name).bind fun field => field.follow names)
    | array items => ((index? name).bind (items[·]?)).bind fun item => item.follow names
    | _ => none

mutual

/-- **The text of a value where it fills a place.** -/
def plain : Json → String
  | null => ""
  | bool value => if value then "true" else "false"
  | number text =>
    match wholeNumber? text with
    | some n => toString n
    | none => ((Double.ofText? text).map Double.plainText).getD text
  | string value => value
  | array items => "[" ++ ", ".intercalate (plainItems items) ++ "]"
  | object _ => "[object]"

/-- The texts of the items of a list. -/
def plainItems : List Json → List String
  | [] => []
  | item :: items => item.plain :: plainItems items

end

/-- **Whether a value counts as true**: it is neither nothing nor false, zero or empty. -/
def isTrue : Json → Bool
  | null => false
  | bool value => value
  | number text =>
    match Double.ofText? text with
    | some (.finite _ significand _) => significand != 0
    | some .nan => false
    | _ => true
  | string value => !value.isEmpty
  | array items => !items.isEmpty
  | object fields => !fields.isEmpty

/-- **What a loop runs over**: the items of a list or the characters of a text. -/
def items? : Json → Option (List Json)
  | array items => some items
  | string value => some (value.toList.map fun c => string (String.singleton c))
  | _ => none

end UaHeaders.Json
