/-!
# Literal search and replacement

## Main definitions

* `UaHeaders.Text.replaceAll` — every occurrence of a text, from left to right and without overlap.
* `UaHeaders.Text.hasPrefix`, `UaHeaders.Text.hasSuffix` — what a text begins and ends with.
-/

set_option autoImplicit false

namespace UaHeaders.Text

/-- Whether `s` begins with `start`. -/
def hasPrefix (start s : String) : Bool := start.toList.isPrefixOf s.toList

/-- Whether `s` ends with `ending`. -/
def hasSuffix (ending s : String) : Bool := ending.toList.isSuffixOf s.toList

/-- Replaces each occurrence of `old`, going on behind it. An empty `old` occurs nowhere. -/
def replaceChars (old new : List Char) : List Char → List Char
  | [] => []
  | c :: cs =>
    if old.isPrefixOf (c :: cs) && !old.isEmpty then
      new ++ replaceChars old new (cs.drop (old.length - 1))
    else c :: replaceChars old new cs
termination_by cs => cs.length
decreasing_by
  all_goals simp only [List.length_cons, List.length_drop]; omega

/-- **Every occurrence of `old` replaced by `new`**, found from left to right without overlap. -/
def replaceAll (old new s : String) : String :=
  String.ofList (replaceChars old.toList new.toList s.toList)

/-- The parts of `s` between occurrences of `sep`; there is always one part. -/
def fields (sep : Char) (s : String) : List String := (s.toList.splitOn sep).map String.ofList

/-- The text padded with blanks at its end to `width` characters; a longer one stays whole. -/
def padEnd (width : Nat) (s : String) : String :=
  s ++ String.ofList (List.replicate (width - s.length) ' ')

end UaHeaders.Text
