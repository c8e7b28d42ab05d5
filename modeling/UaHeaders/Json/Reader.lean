import UaHeaders.Json.Value

/-!
# Reading JSON

A text is JSON if it is one value with blanks around it. There are no comments and no commas before a
closing bracket.

## Main definitions

* `UaHeaders.Json.parse` — the value in a text.

## Implementation notes

The readers take the characters that are left and answer a value and what is left behind it. Those
for nested values count down `fuel`, of which the number of characters is always enough.
-/

set_option autoImplicit false

namespace UaHeaders.Json

/-! ## Strings -/

/-- The value of a hexadecimal digit. -/
def hexValue? (c : Char) : Option Nat :=
  if '0' ≤ c ∧ c ≤ '9' then some (c.toNat - '0'.toNat)
  else if 'a' ≤ c ∧ c ≤ 'f' then some (c.toNat - 'a'.toNat + 10)
  else if 'A' ≤ c ∧ c ≤ 'F' then some (c.toNat - 'A'.toNat + 10)
  else none

/-- The number in a list of hexadecimal digits. -/
def hexNumber? (digits : List Char) : Option Nat :=
  digits.foldlM (fun n c => (hexValue? c).map fun d => 16 * n + d) 0

/-- Four hexadecimal digits. -/
def readHex4 (cs : List Char) : Option (Nat × List Char) :=
  if (cs.take 4).length = 4 then (hexNumber? (cs.take 4)).map fun n => (n, cs.drop 4) else none

/-- What one short escape stands for. -/
def shortEscape? : Char → Option Char
  | '"' => some '"'
  | '\\' => some '\\'
  | '/' => some '/'
  | 'b' => some '\x08'
  | 'f' => some '\x0c'
  | 'n' => some '\n'
  | 'r' => some '\r'
  | 't' => some '\t'
  | _ => none

/-- A code point given by four digits, or by two times four where it needs them. -/
def readCodePoint (cs : List Char) : Option (Char × List Char) := do
  let (high, cs) ← readHex4 cs
  if 0xD800 ≤ high ∧ high ≤ 0xDBFF then
    match cs with
    | '\\' :: 'u' :: cs =>
      let (low, cs) ← readHex4 cs
      if 0xDC00 ≤ low ∧ low ≤ 0xDFFF then
        some (Char.ofNat (0x10000 + (high - 0xD800) * 0x400 + (low - 0xDC00)), cs)
      else none
    | _ => none
  else if 0xDC00 ≤ high ∧ high ≤ 0xDFFF then none
  else some (Char.ofNat high, cs)

/-- The rest of a string, behind its opening quote. -/
def readString : Nat → List Char → Option (List Char × List Char)
  | 0, _ => none
  | fuel + 1, cs =>
    match cs with
    | [] => none
    | '"' :: cs => some ([], cs)
    | '\\' :: 'u' :: cs => do
      let (c, cs) ← readCodePoint cs
      let (text, cs) ← readString fuel cs
      return (c :: text, cs)
    | '\\' :: e :: cs => do
      let c ← shortEscape? e
      let (text, cs) ← readString fuel cs
      return (c :: text, cs)
    | c :: cs =>
      if c.toNat < 0x20 ∨ c = '\\' then none
      else do
        let (text, cs) ← readString fuel cs
        return (c :: text, cs)

/-! ## Numbers -/

/-- The decimal digits at the front. -/
def digits (cs : List Char) : List Char := cs.takeWhile fun c => '0' ≤ c && c ≤ '9'

/-- The integer part of a number, which has no leading zeros. -/
def readInteger (cs : List Char) : Option (List Char × List Char) :=
  match digits cs with
  | [] => none
  | '0' :: _ :: _ => none
  | ds => some (ds, cs.drop ds.length)

/-- The fraction of a number, if it has one. -/
def readFraction (cs : List Char) : Option (List Char × List Char) :=
  match cs with
  | '.' :: cs =>
    match digits cs with
    | [] => none
    | ds => some ('.' :: ds, cs.drop ds.length)
  | cs => some ([], cs)

/-- The exponent of a number, if it has one. -/
def readExponent (cs : List Char) : Option (List Char × List Char) :=
  let afterSign (mark cs : List Char) : Option (List Char × List Char) :=
    match digits cs with
    | [] => none
    | ds => some (mark ++ ds, cs.drop ds.length)
  match cs with
  | 'e' :: '+' :: cs => afterSign ['e', '+'] cs
  | 'e' :: '-' :: cs => afterSign ['e', '-'] cs
  | 'e' :: cs => afterSign ['e'] cs
  | 'E' :: '+' :: cs => afterSign ['e', '+'] cs
  | 'E' :: '-' :: cs => afterSign ['e', '-'] cs
  | 'E' :: cs => afterSign ['e'] cs
  | cs => some ([], cs)

/-- A number. -/
def readNumber (cs : List Char) : Option (Json × List Char) := do
  let (sign, cs) := match cs with
    | '-' :: cs => (['-'], cs)
    | cs => ([], cs)
  let (whole, cs) ← readInteger cs
  let (fraction, cs) ← readFraction cs
  let (exponent, cs) ← readExponent cs
  return (number (String.ofList (sign ++ whole ++ fraction ++ exponent)), cs)

/-! ## Values -/

/-- The characters without the blanks in front. -/
def skipBlanks (cs : List Char) : List Char :=
  cs.dropWhile fun c => c == ' ' || c == '\n' || c == '\r' || c == '\t'

/-- A word that stands for a value. -/
def readWord (cs : List Char) : Option (Json × List Char) :=
  match cs with
  | 'n' :: 'u' :: 'l' :: 'l' :: cs => some (null, cs)
  | 't' :: 'r' :: 'u' :: 'e' :: cs => some (bool true, cs)
  | 'f' :: 'a' :: 'l' :: 's' :: 'e' :: cs => some (bool false, cs)
  | _ => none

mutual

/-- A value, perhaps behind blanks. -/
def readValue : Nat → List Char → Option (Json × List Char)
  | 0, _ => none
  | fuel + 1, cs =>
    match skipBlanks cs with
    | '"' :: cs => (readString (cs.length + 1) cs).map fun (text, cs) => (string (String.ofList text), cs)
    | '[' :: cs =>
      match skipBlanks cs with
      | ']' :: cs => some (array [], cs)
      | cs => (readItems fuel cs).map fun (items, cs) => (array items, cs)
    | '\x7b' :: cs =>
      match skipBlanks cs with
      | '\x7d' :: cs => some (object [], cs)
      | cs => (readFields fuel cs).map fun (fields, cs) => (object fields, cs)
    | c :: cs => if c.isAlpha then readWord (c :: cs) else readNumber (c :: cs)
    | [] => none

/-- The items of a list, up to its closing bracket. -/
def readItems : Nat → List Char → Option (List Json × List Char)
  | 0, _ => none
  | fuel + 1, cs => do
    let (item, cs) ← readValue fuel cs
    match skipBlanks cs with
    | ',' :: cs =>
      let (items, cs) ← readItems fuel cs
      return (item :: items, cs)
    | ']' :: cs => return ([item], cs)
    | _ => none

/-- The fields of an object, up to its closing bracket. -/
def readFields : Nat → List Char → Option (List (String × Json) × List Char)
  | 0, _ => none
  | fuel + 1, cs => do
    match skipBlanks cs with
    | '"' :: cs =>
      let (name, cs) ← readString (cs.length + 1) cs
      match skipBlanks cs with
      | ':' :: cs =>
        let (value, cs) ← readValue fuel cs
        match skipBlanks cs with
        | ',' :: cs =>
          let (fields, cs) ← readFields fuel cs
          return ((String.ofList name, value) :: fields, cs)
        | '\x7d' :: cs => return ([(String.ofList name, value)], cs)
        | _ => none
      | _ => none
    | _ => none

end

/-- **The value in a text**, if the text is one value. -/
def parse (text : String) : Option Json :=
  -- a character takes two steps at most
  match readValue (2 * text.length + 2) text.toList with
  | some (value, rest) => if (skipBlanks rest).isEmpty then some value else none
  | none => none

end UaHeaders.Json
