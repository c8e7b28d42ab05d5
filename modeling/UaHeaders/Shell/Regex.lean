import UaHeaders.Shell.CharSet

/-!
# Regular expressions

The expressions with which `grep` and `sed` search lines, in their basic and their extended form.

## Main definitions

* `UaHeaders.Shell.Regex` — expressions.
* `UaHeaders.Shell.Regex.ends` — all places where a match from a given place may end.
* `UaHeaders.Shell.Regex.find` — the first match in a line, and of those that start there the longest.
* `UaHeaders.Shell.Regex.read` — an expression from its text.

## Implementation notes

A repetition goes on only after a match that has used up characters, so the number of characters left
bounds it.
-/

set_option autoImplicit false

namespace UaHeaders.Shell

/-- **A regular expression.** -/
inductive Regex where
  | empty
  | one (set : CharSet)
  | lineStart
  | lineEnd
  /-- A border between word characters and others; `enters` and `leaves` say which are meant. -/
  | wordBorder (enters leaves : Bool)
  /-- A place that no word character stands right before. -/
  | notBehindWord
  /-- A place that no word character stands right behind. -/
  | notBeforeWord
  | both (first second : Regex)
  | either (first second : Regex)
  | repeated (body : Regex) (least : Nat) (most : Option Nat)
  | group (number : Nat) (body : Regex)
  /-- What the group matched once more. -/
  | again (number : Nat)
  deriving Inhabited

/-- **A place in a line**: the number of characters before it, the last of them, those behind it, and
what the groups have matched so far. -/
structure Place where
  position : Nat
  before : Option Char
  rest : List Char
  groups : List (Nat × List Char)
  deriving Inhabited

namespace Place

/-- The start of a line. -/
def ofLine (line : List Char) : Place := ⟨0, none, line, []⟩

/-- The place behind the next character, if there is one. -/
def next? (s : Place) : Option (Char × Place) :=
  match s.rest with
  | [] => none
  | c :: cs => some (c, { s with position := s.position + 1, before := some c, rest := cs })

/-- What the group of a number has matched. -/
def groupText (s : Place) (number : Nat) : List Char := (s.groups.lookup number).getD []

end Place

/-- Whether a character may stand in a word. -/
def isWordChar (c : Char) : Bool := c.isAlphanum || c == '_'

namespace Regex

/-- Repeats a step from a place up to `most` times, at least `least` times, as often as possible
first. -/
def iterate (step : Place → List Place) : Nat → Nat → Option Nat → Place → List Place
  | 0, least, _, s => if least == 0 then [s] else []
  | bound + 1, least, most, s =>
    let more :=
      if most == some 0 then []
      else
        (step s).flatMap fun s' =>
          -- a round that takes no character is not repeated
          if s.position < s'.position then
            iterate step bound (least - 1) (most.map (· - 1)) s'
          else if least ≤ 1 then [s'] else []
    more ++ if least == 0 then [s] else []

/-- Whether a set has a character, with `folded` in either case. -/
def admits (folded : Bool) (set : CharSet) (c : Char) : Bool :=
  set.contains c || (folded && (set.contains c.toLower || set.contains c.toUpper))

/-- The place behind a given text, if it stands next. -/
def behind? (folded : Bool) : List Char → Place → Option Place
  | [], s => some s
  | a :: text, s =>
    match s.next? with
    | none => none
    | some (c, s') =>
      if c == a || (folded && c.toLower == a.toLower) then behind? folded text s' else none

/-- **All places where a match from a place may end.** -/
def ends (folded : Bool) : Regex → Place → List Place
  | empty, s => [s]
  | one set, s =>
    match s.next? with
    | some (c, s') => if admits folded set c then [s'] else []
    | none => []
  | lineStart, s => if s.position == 0 then [s] else []
  | lineEnd, s => if s.rest.isEmpty then [s] else []
  | wordBorder enters leaves, s =>
    let inside := s.before.any isWordChar
    let follows := s.rest.head?.any isWordChar
    if (enters && !inside && follows) || (leaves && inside && !follows) then [s] else []
  | notBehindWord, s => if s.before.any isWordChar then [] else [s]
  | notBeforeWord, s => if s.rest.head?.any isWordChar then [] else [s]
  | both first second, s => (ends folded first s).flatMap (ends folded second)
  | either first second, s => ends folded first s ++ ends folded second s
  | repeated body least most, s =>
    iterate (ends folded body) (s.rest.length + least + 1) least most s
  | group number body, s =>
    (ends folded body s).map fun s' =>
      let text := s.rest.take (s'.position - s.position)
      { s' with groups := (number, text) :: s'.groups.filter (·.1 != number) }
  | again number, s => (behind? folded (s.groupText number) s).toList

/-- The longest match from a place. -/
def longest? (folded : Bool) (r : Regex) (s : Place) : Option Place :=
  (ends folded r s).foldl
    (fun best s' =>
      match best with
      | some b => if b.position < s'.position then some s' else some b
      | none => some s')
    none

/-- **The first match at or behind a place**: where it starts and where it ends. -/
def findFrom (folded : Bool) (r : Regex) : Nat → Place → Option (Place × Place)
  | 0, _ => none
  | bound + 1, s =>
    match longest? folded r s with
    | some s' => some (s, s')
    | none => s.next? >>= fun (_, s') => findFrom folded r bound s'

/-- **The first match in a line.** -/
def find (folded : Bool) (r : Regex) (line : List Char) : Option (Place × Place) :=
  findFrom folded r (line.length + 1) (.ofLine line)

/-! ## Reading -/

/-- What an operator of repetition asks for: the least and the most times. -/
abbrev Times := Nat × Option Nat

/-- Reads the bounds between braces, whose closing is written with a backslash in the basic form. -/
def readBounds (extended : Bool) (cs : List Char) : Option (Times × List Char) :=
  let number := fun (ds : List Char) => ds.foldl (fun n d => n * 10 + (d.toNat - 48)) 0
  let low := cs.takeWhile Char.isDigit
  let cs := cs.drop low.length
  let close := fun (times : Times) (cs : List Char) =>
    match extended, cs with
    | true, '\x7d' :: rest => some (times, rest)
    | false, '\\' :: '\x7d' :: rest => some (times, rest)
    | _, _ => none
  match cs with
  | ',' :: cs =>
    let high := cs.takeWhile Char.isDigit
    close (number low, if high.isEmpty then none else some (number high)) (cs.drop high.length)
  | cs => if low.isEmpty then none else close (number low, some (number low)) cs

/-- Reads an operator of repetition. -/
def readTimes (extended : Bool) (cs : List Char) : Option (Times × List Char) :=
  match extended, cs with
  | _, '*' :: rest => some ((0, none), rest)
  | true, '+' :: rest => some ((1, none), rest)
  | true, '?' :: rest => some ((0, some 1), rest)
  | true, '\x7b' :: rest => readBounds true rest
  | false, '\\' :: '+' :: rest => some ((1, none), rest)
  | false, '\\' :: '?' :: rest => some ((0, some 1), rest)
  | false, '\\' :: '\x7b' :: rest => readBounds false rest
  | _, _ => none

/-- An expression with all operators of repetition behind it. -/
def readRepeats (extended : Bool) : Nat → Regex → List Char → Regex × List Char
  | 0, r, cs => (r, cs)
  | bound + 1, r, cs =>
    match readTimes extended cs with
    | some ((least, most), rest) => readRepeats extended bound (.repeated r least most) rest
    | none => (r, cs)

/-- The set a backslash and a letter stand for. -/
def letterSet? : Char → Option CharSet
  | 'w' => some ⟨false, [('0', '9'), ('A', 'Z'), ('_', '_'), ('a', 'z')]⟩
  | 'W' => some ⟨true, [('0', '9'), ('A', 'Z'), ('_', '_'), ('a', 'z')]⟩
  | 's' => some ⟨false, [('\t', '\x0d'), (' ', ' ')]⟩
  | 'S' => some ⟨true, [('\t', '\x0d'), (' ', ' ')]⟩
  | 'n' => some (.single '\n')
  | 't' => some (.single '\t')
  | _ => none

/-- The expression a backslash and a character stand for by themselves. -/
def escaped (c : Char) : Regex :=
  match c with
  | '<' => .wordBorder true false
  | '>' => .wordBorder false true
  | 'b' => .wordBorder true true
  | _ => if c.isDigit then .again (c.toNat - 48) else .one ((letterSet? c).getD (.single c))

/-- Whether an alternative ends here. -/
def atEnd (extended : Bool) (cs : List Char) : Bool :=
  match extended, cs with
  | _, [] => true
  | true, '|' :: _ => true
  | true, ')' :: _ => true
  | false, '\\' :: '|' :: _ => true
  | false, '\\' :: ')' :: _ => true
  | _, _ => false

mutual

/-- Alternatives; `number` is that of the next group. -/
def readEither (extended : Bool) (bound number : Nat) (cs : List Char) :
    Option (Regex × Nat × List Char) :=
  match bound with
  | 0 => none
  | bound + 1 => do
    let (first, number, rest) ← readBoth extended bound number true .empty cs
    let others ← match extended, rest with
      | true, '|' :: rest => some (some rest)
      | false, '\\' :: '|' :: rest => some (some rest)
      | _, _ => some none
    match others with
    | some rest => do
      let (second, number, rest) ← readEither extended bound number rest
      some (.either first second, number, rest)
    | none => some (first, number, rest)

/-- A sequence behind what was read already; `first` says that nothing was. -/
def readBoth (extended : Bool) (bound number : Nat) (first : Bool) (done : Regex) (cs : List Char) :
    Option (Regex × Nat × List Char) :=
  match bound with
  | 0 => none
  | bound + 1 =>
    if atEnd extended cs then some (done, number, cs)
    else do
      let (r, number, rest) ← readOne extended bound number first cs
      -- an asterisk behind an anchor stands for itself
      let (r, rest) := match r with
        | .lineStart => (r, rest)
        | r => readRepeats extended (rest.length + 1) r rest
      readBoth extended bound number false (.both done r) rest

/-- One character, set, anchor or group. -/
def readOne (extended : Bool) (bound number : Nat) (first : Bool) (cs : List Char) :
    Option (Regex × Nat × List Char) :=
  match bound, cs with
  | 0, _ => none
  | _ + 1, [] => none
  | bound + 1, '\\' :: c :: rest =>
    if c == '(' && !extended then do
      let (body, after, rest) ← readEither extended bound (number + 1) rest
      match rest with
      | '\\' :: ')' :: rest => some (.group number body, after, rest)
      | _ => none
    else some (escaped c, number, rest)
  | bound + 1, c :: rest =>
    if c == '(' && extended then do
      let (body, after, rest) ← readEither extended bound (number + 1) rest
      match rest with
      | ')' :: rest => some (.group number body, after, rest)
      | _ => none
    else if c == '[' then do
      let (set, rest) ← CharSet.read ['^'] rest
      some (.one set, number, rest)
    else if c == '.' then some (.one ⟨true, []⟩, number, rest)
    else if c == '^' && (first || extended) then some (.lineStart, number, rest)
    else if c == '$' && (extended || atEnd extended rest) then some (.lineEnd, number, rest)
    else if c == '\\' then none
    else some (.one (.single c), number, rest)

end

/-- **An expression from its text**, if it is one. -/
def read (extended : Bool) (text : List Char) : Option Regex := do
  let (r, _, rest) ← readEither extended (4 * (text.length + 2)) 1 text
  if rest.isEmpty then some r else none

/-- The expression that stands for a text as it is. -/
def ofText (text : List Char) : Regex := text.foldr (fun c r => .both (.one (.single c)) r) .empty

end Regex

end UaHeaders.Shell
