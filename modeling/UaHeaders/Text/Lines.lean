/-!
# Lines

A text is read line by line in two ways. A *content line* is what stands between line ends, and a
carriage return before the line feed belongs to the end. A *terminated line* keeps its end, and here
a lone carriage return ends a line as well; this is the unit in which two texts are compared.

## Main definitions

* `UaHeaders.Text.lines` — the content lines.
* `UaHeaders.Text.terminatedLines` — the terminated lines; joined they give the text back.
* `UaHeaders.Text.joinLines` — lines set apart by line feeds.
* `UaHeaders.Text.trimNewlines` — a text without the line feeds at both ends.
-/

set_option autoImplicit false

namespace UaHeaders.Text

/-- The content lines of a list of characters. An unfinished last line is a line, an empty rest after
the last line end is none. -/
def lineChars : List Char → List (List Char)
  | [] => []
  | '\r' :: '\n' :: cs => [] :: lineChars cs
  | '\n' :: cs => [] :: lineChars cs
  | c :: cs =>
    match lineChars cs with
    | [] => [[c]]
    | l :: ls => (c :: l) :: ls

/-- **The content lines of a text**: ended by `\n` or `\r\n`, the last end being optional. -/
def lines (s : String) : List String := (lineChars s.toList).map String.ofList

/-- The terminated lines of a list of characters: each ends with `\n`, `\r\n` or a lone `\r`, the
last one perhaps with nothing. -/
def terminatedChars : List Char → List (List Char)
  | [] => []
  | '\r' :: '\n' :: cs => ['\r', '\n'] :: terminatedChars cs
  | '\r' :: cs => ['\r'] :: terminatedChars cs
  | '\n' :: cs => ['\n'] :: terminatedChars cs
  | c :: cs =>
    match terminatedChars cs with
    | [] => [[c]]
    | l :: ls => (c :: l) :: ls

/-- **The terminated lines of a text.** -/
def terminatedLines (s : String) : List String := (terminatedChars s.toList).map String.ofList

/-- Nothing is lost or moved by cutting a text into terminated lines. -/
theorem flatten_terminatedChars (cs : List Char) : (terminatedChars cs).flatten = cs := by
  fun_induction terminatedChars cs with
  | case1 => rfl
  | case2 cs ih => simp [ih]
  | case3 cs _ ih => simp [ih]
  | case4 cs ih => simp [ih]
  | case5 c cs _ _ _ h ih => simp [h] at ih; simp [← ih]
  | case6 c cs _ _ _ l ls h ih => simp [h] at ih; simp [← ih]

/-- Lines set apart by line feeds. -/
def joinLines (ls : List String) : String := "\n".intercalate ls

/-- The text without the line feeds at both ends. -/
def trimNewlines (s : String) : String :=
  String.ofList (((s.toList.dropWhile (· == '\n')).reverse.dropWhile (· == '\n')).reverse)

end UaHeaders.Text
