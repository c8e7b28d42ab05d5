import UaHeaders.Json.Value
import UaHeaders.Text.Quoted

/-!
# Writing JSON

A value is written over several lines: each item of a list and each field of an object on a line of
its own, indented by two blanks more than what holds it.

## Main definitions

* `UaHeaders.Json.quote` — a string in quotes.
* `UaHeaders.Json.pretty` — a value.
-/

set_option autoImplicit false

namespace UaHeaders.Json

/-- One character inside quotes: quote, backslash and control characters are escaped. -/
def escapeChar (c : Char) : List Char :=
  match c with
  | '"' => ['\\', '"']
  | '\\' => ['\\', '\\']
  | '\x08' => ['\\', 'b']
  | '\x0c' => ['\\', 'f']
  | '\n' => ['\\', 'n']
  | '\r' => ['\\', 'r']
  | '\t' => ['\\', 't']
  | c =>
    if c.toNat < 0x20 then
      ['\\', 'u', '0', '0'] ++ List.replicate (2 - (Text.hexDigits c.toNat).length) '0' ++
        Text.hexDigits c.toNat
    else [c]

/-- **A string in quotes.** -/
def quote (s : String) : String := String.ofList ('"' :: s.toList.flatMap escapeChar ++ ['"'])

/-- The blanks in front of a line at some depth. -/
def indentation (depth : Nat) : String := String.ofList (List.replicate (2 * depth) ' ')

/-- Entries between brackets, each on its own line; without entries the brackets stand together. -/
def bracket (opening closing : String) (depth : Nat) (entries : List String) : String :=
  if entries.isEmpty then opening ++ closing
  else
    opening ++ "\n" ++
      ",\n".intercalate (entries.map fun entry => indentation (depth + 1) ++ entry) ++
      "\n" ++ indentation depth ++ closing

mutual

/-- A value that begins at some depth. -/
def prettyAt (depth : Nat) : Json → String
  | null => "null"
  | bool value => if value then "true" else "false"
  | number text => text
  | string value => quote value
  | array items => bracket "[" "]" depth (prettyItems (depth + 1) items)
  | object fields => bracket "\x7b" "\x7d" depth (prettyFields (depth + 1) fields)

/-- The items of a list, each from its first character on. -/
def prettyItems (depth : Nat) : List Json → List String
  | [] => []
  | item :: items => item.prettyAt depth :: prettyItems depth items

/-- The fields of an object, each with its name. -/
def prettyFields (depth : Nat) : List (String × Json) → List String
  | [] => []
  | (name, value) :: fields => (quote name ++ ": " ++ value.prettyAt depth) :: prettyFields depth fields

end

/-- **A value over several lines.** -/
def pretty (value : Json) : String := value.prettyAt 0

end UaHeaders.Json
