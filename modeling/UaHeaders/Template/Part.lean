/-!
# Parts of a template

A template is a text with marks. A place `{{ a.b }}` is filled with a value; what stands between
`{% if a %}` and `{% endif %}` is written if a value counts as true, and what stands between
`{% for x in a %}` and `{% endfor %}` once for each item of a list.

## Main definitions

* `UaHeaders.Template.Mark` — the marks of a template and the text between them.
* `UaHeaders.Template.Part` — a template as a tree.
* `UaHeaders.Template.parse` — the parts of a text.
-/

set_option autoImplicit false

namespace UaHeaders.Template

/-- The names that lead to a value, the outermost first. -/
abbrev NamePath := List String

/-- **A mark, or the text between two marks.** -/
inductive Mark where
  | literal (text : String)
  | place (path : NamePath)
  | ifTrue (path : NamePath)
  | endIf
  | forEach (name : String) (path : NamePath)
  | endFor
  deriving DecidableEq, Inhabited

/-- **A part of a template.** -/
inductive Part where
  | literal (text : String)
  | place (path : NamePath)
  | ifTrue (path : NamePath) (body : List Part)
  | forEach (name : String) (path : NamePath) (body : List Part)
  deriving Inhabited

/-! ## Reading marks -/

/-- The characters without the blanks in front. -/
def skipBlanks (cs : List Char) : List Char :=
  cs.dropWhile fun c => c == ' ' || c == '\t' || c == '\r' || c == '\n'

/-- What follows a word, blanks in front passed over. -/
def expect (word : String) (cs : List Char) : Option (List Char) :=
  let cs := skipBlanks cs
  if word.toList.isPrefixOf cs then some (cs.drop word.length) else none

/-- Whether a character may stand in a name. -/
def isNameChar (c : Char) : Bool := c.isAlphanum || c == '_'

/-- A name, blanks in front passed over. -/
def readName (cs : List Char) : Option (String × List Char) :=
  let cs := skipBlanks cs
  match cs with
  | c :: _ =>
    if isNameChar c && !c.isDigit then
      some (String.ofList (cs.takeWhile isNameChar), cs.dropWhile isNameChar)
    else none
  | [] => none

/-- The names behind the first one, each after a point. `fuel` is at least the number of
characters. -/
def readRest : Nat → List Char → List String × List Char
  | fuel + 1, '.' :: cs =>
    let name := cs.takeWhile isNameChar
    if name.isEmpty then ([], '.' :: cs)
    else
      let (names, cs) := readRest fuel (cs.drop name.length)
      (String.ofList name :: names, cs)
  | _, cs => ([], cs)

/-- Names set apart by points, blanks in front passed over. -/
def readPath (cs : List Char) : Option (NamePath × List Char) := do
  let (name, cs) ← readName cs
  let (names, cs) := readRest cs.length cs
  return (name :: names, cs)

/-- How a place opens. -/
def placeOpening : List Char := ['\x7b', '\x7b']

/-- How a mark with a word opens. -/
def wordOpening : List Char := ['\x7b', '%']

/-- A place, behind its opening. -/
def readPlace (cs : List Char) : Option (Mark × List Char) := do
  let (path, cs) ← readPath cs
  return (.place path, ← expect "\x7d\x7d" cs)

/-- A mark with a word, behind its opening. -/
def readWordMark (cs : List Char) : Option (Mark × List Char) := do
  let closing := "%\x7d"
  if let some cs := expect "endif" cs then
    return (.endIf, ← expect closing cs)
  else if let some cs := expect "endfor" cs then
    return (.endFor, ← expect closing cs)
  else if let some cs := expect "if" cs then
    let (path, cs) ← readPath cs
    return (.ifTrue path, ← expect closing cs)
  else
    let cs ← expect "for" cs
    let (name, cs) ← readName cs
    let cs ← expect "in" cs
    let (path, cs) ← readPath cs
    return (.forEach name path, ← expect closing cs)

/-- Puts a character in front of a list of marks. -/
def consChar (c : Char) : List Mark → List Mark
  | .literal text :: marks => .literal (String.singleton c ++ text) :: marks
  | marks => .literal (String.singleton c) :: marks

/-- The marks of a text and the texts between them. `fuel` is more than the number of characters. -/
def readMarks : Nat → List Char → Option (List Mark)
  | 0, _ => none
  | _, [] => some []
  | fuel + 1, c :: cs =>
    let opened :=
      if placeOpening.isPrefixOf (c :: cs) then some (readPlace (cs.drop 1))
      else if wordOpening.isPrefixOf (c :: cs) then some (readWordMark (cs.drop 1))
      else none
    match opened with
    | some none => none
    | some (some (mark, rest)) => (readMarks fuel rest).map (mark :: ·)
    | none => (readMarks fuel cs).map (consChar c)

/-! ## The tree -/

/-- A part that is still open: how it begins, and the parts before it, the last first. -/
structure Opened where
  make : List Part → Part
  isLoop : Bool
  before : List Part

/-- Builds the tree of a list of marks. The parts that are open stand innermost first, and the parts
read so far last first. -/
def build : List Mark → List Opened → List Part → Option (List Part)
  | [], [], parts => some parts.reverse
  | [], _ :: _, _ => none
  | .literal text :: marks, opened, parts => build marks opened (.literal text :: parts)
  | .place path :: marks, opened, parts => build marks opened (.place path :: parts)
  | .ifTrue path :: marks, opened, parts => build marks (⟨.ifTrue path, false, parts⟩ :: opened) []
  | .forEach name path :: marks, opened, parts =>
    build marks (⟨.forEach name path, true, parts⟩ :: opened) []
  | .endIf :: marks, o :: opened, parts =>
    if o.isLoop then none else build marks opened (o.make parts.reverse :: o.before)
  | .endFor :: marks, o :: opened, parts =>
    if o.isLoop then build marks opened (o.make parts.reverse :: o.before) else none
  | _, [], _ => none

/-- **The parts of a text**, if its marks are well-formed and nested. -/
def parse (text : String) : Option (List Part) := do
  build (← readMarks (text.length + 1) text.toList) [] []

end UaHeaders.Template
