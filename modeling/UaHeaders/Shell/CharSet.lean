/-!
# Sets of characters

The sets that patterns write between brackets: characters, ranges `a-z`, and named classes such as
`[:alpha:]`, or all characters that are none of these.

## Main definitions

* `UaHeaders.Shell.CharSet` — sets.
* `UaHeaders.Shell.CharSet.contains` — membership.
* `UaHeaders.Shell.CharSet.read` — the set behind an opening bracket.
* `UaHeaders.Shell.classRanges?` — the named classes.
-/

set_option autoImplicit false

namespace UaHeaders.Shell

/-- **A set of characters**, given by ranges, or with `negated` the set of all others. -/
structure CharSet where
  negated : Bool
  ranges : List (Char × Char)
  deriving Inhabited

namespace CharSet

/-- **Whether a character belongs to a set.** -/
def contains (s : CharSet) (c : Char) : Bool :=
  (s.ranges.any fun (low, high) => low ≤ c && c ≤ high) != s.negated

/-- The set of one character. -/
def single (c : Char) : CharSet := ⟨false, [(c, c)]⟩

end CharSet

/-- **The ranges of a named class** of ASCII characters. -/
def classRanges? (name : String) : Option (List (Char × Char)) :=
  match name with
  | "alpha" => some [('A', 'Z'), ('a', 'z')]
  | "digit" => some [('0', '9')]
  | "alnum" => some [('0', '9'), ('A', 'Z'), ('a', 'z')]
  | "upper" => some [('A', 'Z')]
  | "lower" => some [('a', 'z')]
  | "space" => some [('\t', '\x0d'), (' ', ' ')]
  | "blank" => some [('\t', '\t'), (' ', ' ')]
  | "punct" => some [('!', '/'), (':', '@'), ('[', '\x60'), ('\x7b', '~')]
  | "print" => some [(' ', '~')]
  | "graph" => some [('!', '~')]
  | "cntrl" => some [('\x00', '\x1f'), ('\x7f', '\x7f')]
  | "xdigit" => some [('0', '9'), ('A', 'F'), ('a', 'f')]
  | _ => none

/-- The ranges of the class that is named at the start of a text, behind `[:`, and the rest. -/
def readClass (cs : List Char) : Option (List (Char × Char) × List Char) :=
  let name := cs.takeWhile Char.isAlpha
  match cs.drop name.length with
  | ':' :: ']' :: rest => (classRanges? (String.ofList name)).map (·, rest)
  | _ => none

/-- Reads the members of a set up to the closing bracket; `first` says that a bracket would be a
member. -/
def readMembers (first : Bool) : Nat → List (Char × Char) → List Char →
    Option (List (Char × Char) × List Char)
  | 0, _, _ => none
  | _ + 1, _, [] => none
  | bound + 1, ranges, '[' :: ':' :: cs =>
    match readClass cs with
    | some (more, rest) => readMembers false bound (ranges ++ more) rest
    | none => readMembers false bound (ranges ++ [('[', '['), (':', ':')]) cs
  | bound + 1, ranges, c :: cs =>
    if c == ']' && !first then some (ranges, cs)
    else
      match cs with
      | '-' :: d :: rest =>
        if d == ']' then readMembers false bound (ranges ++ [(c, c)]) cs
        else readMembers false bound (ranges ++ [(c, d)]) rest
      | _ => readMembers false bound (ranges ++ [(c, c)]) cs

/-- **The set at the start of a text**, behind its opening bracket, and the rest; `negations` are the
characters that mean all others. -/
def CharSet.read (negations : List Char) (cs : List Char) : Option (CharSet × List Char) :=
  match cs with
  | [] => none
  | c :: rest =>
    if negations.contains c then
      (readMembers true (rest.length + 1) [] rest).map fun (ranges, rest) => (⟨true, ranges⟩, rest)
    else (readMembers true (cs.length + 1) [] cs).map fun (ranges, rest) => (⟨false, ranges⟩, rest)

end UaHeaders.Shell
