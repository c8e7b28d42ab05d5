/-!
# White space

Which characters separate words, and the two operations that rest on it: trimming a text and cutting
it into words.

## Main definitions

* `UaHeaders.Text.isBlank` — the `White_Space` property of Unicode.
* `UaHeaders.Text.trim` — a text without the white space at both ends.
* `UaHeaders.Text.words` — the maximal runs of characters that are not white space.
-/

set_option autoImplicit false

namespace UaHeaders.Text

/-- **White space**, as the `White_Space` property of Unicode has it. -/
def isBlank (c : Char) : Bool :=
  let n := c.toNat
  (0x09 ≤ n && n ≤ 0x0D) || n == 0x20 || n == 0x85 || n == 0xA0 || n == 0x1680 ||
    (0x2000 ≤ n && n ≤ 0x200A) || n == 0x2028 || n == 0x2029 || n == 0x202F || n == 0x205F ||
    n == 0x3000

/-- The characters left when the blank ones at the end are dropped. -/
def dropBlankEnd (cs : List Char) : List Char :=
  (cs.reverse.dropWhile isBlank).reverse

/-- The characters between the leading and the trailing blank ones. -/
def trimChars (cs : List Char) : List Char :=
  dropBlankEnd (cs.dropWhile isBlank)

/-- **A text without the white space at its ends.** -/
def trim (s : String) : String := String.ofList (trimChars s.toList)

/-- Whether a text holds white space only; the empty text does. -/
def isBlankText (s : String) : Bool := s.toList.all isBlank

/-- The maximal runs of characters that are not blank, in order. -/
def wordChars : List Char → List (List Char)
  | [] => []
  | c :: cs =>
    if isBlank c then wordChars cs
    else
      match cs with
      | [] => [[c]]
      | d :: _ =>
        if isBlank d then [c] :: wordChars cs
        else
          match wordChars cs with
          | [] => [[c]]
          | w :: ws => (c :: w) :: ws

/-- **The words of a text**, none of them empty. -/
def words (s : String) : List String := (wordChars s.toList).map String.ofList

end UaHeaders.Text
