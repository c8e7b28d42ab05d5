import UaHeaders.Shell.CharSet

/-!
# Patterns

The patterns of `case` arms and of the operators that cut a value: `*` stands for any text, `?` for
any character and a bracket for one of a set. A quoted character stands for itself.

## Main definitions

* `UaHeaders.Shell.PatternChar` — a character of a pattern.
* `UaHeaders.Shell.covers` — whether a pattern covers a whole text.
-/

set_option autoImplicit false

namespace UaHeaders.Shell

/-- A character of a pattern and whether it is quoted. -/
abbrev PatternChar := Char × Bool

/-- Whether a pattern covers a whole text. -/
def coversWithin : Nat → List PatternChar → List Char → Bool
  | 0, _, _ => false
  | _ + 1, [], cs => cs.isEmpty
  | bound + 1, ('*', false) :: pattern, [] => coversWithin bound pattern []
  | bound + 1, ('*', false) :: pattern, c :: cs =>
    coversWithin bound pattern (c :: cs) || coversWithin bound (('*', false) :: pattern) cs
  | _ + 1, _ :: _, [] => false
  | bound + 1, ('?', false) :: pattern, _ :: cs => coversWithin bound pattern cs
  | bound + 1, ('[', false) :: pattern, c :: cs =>
    match CharSet.read ['!', '^'] (pattern.map Prod.fst) with
    | some (set, rest) =>
      set.contains c && coversWithin bound (pattern.drop (pattern.length - rest.length)) cs
    | none => c == '[' && coversWithin bound pattern cs
  | bound + 1, (p, _) :: pattern, c :: cs => p == c && coversWithin bound pattern cs

/-- **Whether a pattern covers a whole text.** Each step of the comparison uses up a character of the
pattern or of the text. -/
def covers (pattern : List PatternChar) (text : String) : Bool :=
  coversWithin (pattern.length + text.length + 1) pattern text.toList

/-- The text without its shortest, or longest, beginning that the pattern covers. -/
def cutStart (longest : Bool) (pattern : List PatternChar) (text : String) : String :=
  let cs := text.toList
  let lengths := List.range (cs.length + 1)
  let order := if longest then lengths.reverse else lengths
  match order.find? fun n => covers pattern (String.ofList (cs.take n)) with
  | some n => String.ofList (cs.drop n)
  | none => text

/-- The text without its shortest, or longest, end that the pattern covers. -/
def cutEnd (longest : Bool) (pattern : List PatternChar) (text : String) : String :=
  let cs := text.toList
  let lengths := List.range (cs.length + 1)
  let order := if longest then lengths else lengths.reverse
  match order.find? fun n => covers pattern (String.ofList (cs.drop n)) with
  | some n => String.ofList (cs.take n)
  | none => text

end UaHeaders.Shell
