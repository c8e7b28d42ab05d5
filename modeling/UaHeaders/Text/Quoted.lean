import UaHeaders.Text.Printable

/-!
# Quoted text

A text inside a message stands between double quotes, with the characters escaped that could be
misread there.

## Main definitions

* `UaHeaders.Text.quote` — the quoted form of a text.
* `UaHeaders.Text.quoteList` — a list of texts in brackets, each quoted.
-/

set_option autoImplicit false

namespace UaHeaders.Text

/-- The digits of `n` in base sixteen, lower case and without leading zeros. -/
def hexDigits (n : Nat) : List Char := Nat.toDigits 16 n

/-- **One character inside quotes.** The quote and the backslash are escaped, the common control
characters have short escapes, and what cannot be shown is given by its code point. -/
def escapeChar (c : Char) : List Char :=
  match c with
  | '"' => ['\\', '"']
  | '\\' => ['\\', '\\']
  | '\n' => ['\\', 'n']
  | '\r' => ['\\', 'r']
  | '\t' => ['\\', 't']
  | '\x00' => ['\\', '0']
  | c =>
    if isPrintable c then [c]
    else ['\\', 'u', '\x7b'] ++ hexDigits c.toNat ++ ['\x7d']

/-- **A text in double quotes.** -/
def quote (s : String) : String :=
  String.ofList ('"' :: s.toList.flatMap escapeChar ++ ['"'])

/-- Texts in brackets, each in quotes, set apart by commas. -/
def quoteList (ss : List String) : String :=
  "[" ++ ", ".intercalate (ss.map quote) ++ "]"

end UaHeaders.Text
