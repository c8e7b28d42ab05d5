/-!
# Cursors

A cursor is a place in a text that is read from left to right, with what a reader of an indented format
needs to know of it.

## Main definitions

* `UaHeaders.Cursor` — what is left to read, and where in its line it begins.
* `UaHeaders.Cursor.advance` — one character further.
-/

set_option autoImplicit false

namespace UaHeaders

/-- **A place in a text.** `fresh` says that nothing but blanks stands before it in its line. -/
structure Cursor where
  rest : List Char
  line : Nat
  column : Nat
  fresh : Bool
  deriving Inhabited

namespace Cursor

/-- The beginning of a text. -/
def start (text : List Char) : Cursor := ⟨text, 0, 0, true⟩

/-- The place with one character less to read. -/
def advance (c : Cursor) : Cursor :=
  match c.rest with
  | [] => c
  | '\n' :: rest => ⟨rest, c.line + 1, 0, true⟩
  | ' ' :: rest => { c with rest, column := c.column + 1 }
  | _ :: rest => ⟨rest, c.line, c.column + 1, false⟩

/-- The place with some characters less to read. -/
def advanceBy (c : Cursor) : Nat → Cursor
  | 0 => c
  | n + 1 => c.advance.advanceBy n

/-- The next character. -/
def peek? (c : Cursor) : Option Char := c.rest.head?

/-- Whether nothing is left to read. -/
def atEnd (c : Cursor) : Bool := c.rest.isEmpty

/-- The place behind the characters in front that satisfy `p`. -/
def skipWhile (c : Cursor) (p : Char → Bool) : Cursor := c.advanceBy (c.rest.takeWhile p).length

end Cursor

/-- Whether a list of characters is at its end or goes on with a blank or a line end. -/
def beginsBlank : List Char → Bool
  | [] => true
  | c :: _ => c == ' ' || c == '\t' || c == '\n'

end UaHeaders
