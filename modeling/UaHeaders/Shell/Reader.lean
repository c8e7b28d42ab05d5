import UaHeaders.Shell.Word

/-!
# Reading shell scripts

A recursive-descent reader from text to `UaHeaders.Shell.Command`. Every function answers the rest of
the text next to what it read, or nothing when the text breaks the grammar.

## Main definitions

* `UaHeaders.Shell.readScript` — a whole script.
* `UaHeaders.Shell.lastLine` — the number of the last line of a script.

## Implementation notes

The reader of commands is driven by a bound that is larger than the number of characters; each nested
call has read at least one character or goes one level down in the grammar, of which there are fewer
than eight.

The text of a document that is written below its command is taken out of the text still to be read as
soon as the operator `<<` is met, so that the rest of the line is followed by the line behind the
document.
-/

set_option autoImplicit false

namespace UaHeaders.Shell

/-! ## Blanks and reserved words -/

/-- The text behind blanks, comments and joined lines. -/
def skipBlanks : List Char → List Char
  | ' ' :: cs => skipBlanks cs
  | '\t' :: cs => skipBlanks cs
  | '\\' :: '\n' :: cs => skipBlanks cs
  | '#' :: cs => cs.dropWhile (· != '\n')
  | cs => cs

/-- The unquoted word at the start of the text, if there is one. -/
def peekPlain (cs : List Char) : Option (String × List Char) := do
  let (word, rest) ← readWord cs
  some (← plainText? word, rest)

/-- The text behind the reserved word `name`, if it stands at the start. -/
def readReserved (name : String) (cs : List Char) : Option (List Char) := do
  let (text, rest) ← peekPlain (skipBlanks cs)
  if text == name then some rest else none

/-! ## Documents below a command -/

/-- The first line of a text and the text behind its end. -/
def firstLine (cs : List Char) : List Char × List Char :=
  (cs.takeWhile (· != '\n'), (cs.dropWhile (· != '\n')).drop 1)

/-- The lines above the one that is `delimiter`, and the text behind that. With `indented`, tabs at
the start of a line do not count. -/
def untilDelimiter (indented : Bool) (delimiter : List Char) : Nat → List Char →
    List Char × List Char
  | 0, cs => ([], cs)
  | bound + 1, cs =>
    if cs.isEmpty then ([], [])
    else
      let (line, rest) := firstLine cs
      let line := if indented then line.dropWhile (· == '\t') else line
      if line == delimiter then ([], rest)
      else
        let (more, rest) := untilDelimiter indented delimiter bound rest
        (line ++ '\n' :: more, rest)

/-- Reads the document that starts below the line of its operator. Its delimiter stands at the start
of `cs`; one that is quoted anywhere keeps expansions out. -/
def readDocument (indented : Bool) (cs : List Char) : Option (Redirect × List Char) := do
  let (word, rest) ← readWord (skipBlanks cs)
  let text := word.foldl
    (fun text piece =>
      match piece with
      | .literal s _ => text ++ s
      | _ => text)
    ""
  let (line, below) := firstLine rest
  let (body, after) := untilDelimiter indented text.toList (below.length + 1) below
  let content ← if (plainText? word).isSome then readWhole body
    else some [.literal (String.ofList body) true]
  some (.here content, line ++ '\n' :: after)

/-! ## Redirections and simple commands -/

/-- Reads a redirection at the start of the text, if one stands there. -/
def readRedirect (cs : List Char) : Option (Redirect × List Char) := do
  let digits := cs.takeWhile Char.isDigit
  let rest := cs.dropWhile Char.isDigit
  let number := digits.foldl (fun n d => n * 10 + (d.toNat - 48)) 0
  let out := if digits.isEmpty then 1 else number
  match rest with
  | '>' :: '>' :: cs => do
    let (word, rest) ← readWord (skipBlanks cs)
    some (.extend out word, rest)
  | '>' :: '&' :: cs => do
    let (word, rest) ← readWord (skipBlanks cs)
    some (.duplicate out word, rest)
  | '>' :: '|' :: cs => do
    let (word, rest) ← readWord (skipBlanks cs)
    some (.truncate out word, rest)
  | '>' :: cs => do
    let (word, rest) ← readWord (skipBlanks cs)
    some (.truncate out word, rest)
  | '<' :: '<' :: '-' :: cs => readDocument true cs
  | '<' :: '<' :: cs => readDocument false cs
  | '<' :: cs => do
    let (word, rest) ← readWord (skipBlanks cs)
    some (.input word, rest)
  | _ => none

/-- Reads the redirections at the start of the text. -/
def readRedirects : Nat → List Char → List Redirect × List Char
  | 0, cs => ([], cs)
  | bound + 1, cs =>
    match readRedirect (skipBlanks cs) with
    | some (redirect, rest) =>
      let (more, rest) := readRedirects bound rest
      (redirect :: more, rest)
    | none => ([], cs)

/-- The name and the value if a word is an assignment. -/
def assignment? : Word → Option (String × Word)
  | w =>
    let name := w.takeWhile fun piece =>
      match piece with
      | .literal text false => text.toList.all isNameChar
      | _ => false
    match w.drop name.length with
    | .literal "=" false :: value => do
      let text ← plainText? name
      match text.toList with
      | [] => none
      | c :: _ => if c.isDigit then none else some (text, value)
    | _ => none

/-- Reads a simple command word by word; `below` lines lie under its start. -/
def readSimple (below : Nat) : Nat → List (String × Word) → List Word → List Redirect →
    List Char → Command × List Char
  | 0, assignments, words, redirects, cs =>
    (.simple below assignments.reverse words.reverse redirects.reverse, cs)
  | bound + 1, assignments, words, redirects, cs =>
    let cs := skipBlanks cs
    match readRedirect cs with
    | some (redirect, rest) => readSimple below bound assignments words (redirect :: redirects) rest
    | none =>
      match readWord cs with
      | none => (.simple below assignments.reverse words.reverse redirects.reverse, cs)
      | some (word, rest) =>
        match words.isEmpty, assignment? word with
        | true, some pair => readSimple below bound (pair :: assignments) words redirects rest
        | _, _ => readSimple below bound assignments (word :: words) redirects rest

/-! ## Compound commands -/

/-- The text behind separators: blanks, line ends and semicolons. -/
def skipSeparators : Nat → List Char → List Char
  | 0, cs => cs
  | bound + 1, cs =>
    match skipBlanks cs with
    | '\n' :: rest => skipSeparators bound rest
    | ';' :: ';' :: rest => ';' :: ';' :: rest
    | ';' :: rest => skipSeparators bound rest
    | rest => rest

/-- The text behind blanks and line ends. -/
def skipNewlines : Nat → List Char → List Char
  | 0, cs => cs
  | bound + 1, cs =>
    match skipBlanks cs with
    | '\n' :: rest => skipNewlines bound rest
    | rest => rest

/-- Reserved words that end a list of commands. -/
def closers : List String := ["then", "elif", "else", "fi", "do", "done", "esac", "\x7d"]

/-- Whether a list of commands ends here. -/
def atListEnd (cs : List Char) : Bool :=
  match cs with
  | [] => true
  | ')' :: _ => true
  | ';' :: ';' :: _ => true
  | _ =>
    match peekPlain cs with
    | some (text, _) => closers.contains text
    | none => false

/-- Reads words up to the end of the line or a semicolon. -/
def readWords : Nat → List Char → List Word × List Char
  | 0, cs => ([], cs)
  | bound + 1, cs =>
    match readWord (skipBlanks cs) with
    | some (word, rest) =>
      let (more, rest) := readWords bound rest
      (word :: more, rest)
    | none => ([], skipBlanks cs)

/-- Reads the patterns of a `case` arm up to the closing parenthesis. -/
def readPatterns : Nat → List Char → Option (List Word × List Char)
  | 0, _ => none
  | bound + 1, cs => do
    let (word, rest) ← readWord (skipBlanks cs)
    match skipBlanks rest with
    | ')' :: rest => some ([word], rest)
    | '|' :: rest =>
      let (more, rest) ← readPatterns bound rest
      some (word :: more, rest)
    | _ => none

/-- The name of the command that is defined here, and the text behind its parentheses. -/
def definition? (cs : List Char) : Option (String × List Char) := do
  let (name, rest) ← peekPlain cs
  match skipBlanks rest with
  | '(' :: rest =>
    match skipBlanks rest with
    | ')' :: rest => if name.toList.all isNameChar then some (name, rest) else none
    | _ => none
  | _ => none

mutual

/-- Reads commands up to the end of a list. -/
def readList (bound : Nat) (cs : List Char) : Option (Command × List Char) :=
  match bound with
  | 0 => none
  | bound + 1 =>
    let cs := skipSeparators (cs.length + 1) cs
    if atListEnd cs then some (.nothing, cs)
    else do
      let (first, rest) ← readAndOr bound cs
      match skipBlanks rest with
      | '\n' :: _ => do
        let (more, rest) ← readList bound rest
        some (.sequence first more, rest)
      | ';' :: ';' :: _ => some (first, skipBlanks rest)
      | ';' :: _ => do
        let (more, rest) ← readList bound rest
        some (.sequence first more, rest)
      | rest => if atListEnd rest then some (first, rest) else none

/-- Reads commands joined by `&&` and `||`, which group to the left. -/
def readAndOr (bound : Nat) (cs : List Char) : Option (Command × List Char) :=
  match bound with
  | 0 => none
  | bound + 1 => do
    let (first, rest) ← readPipe bound cs
    readAndOrRest bound first rest

/-- Goes on behind a command that may be joined to others. -/
def readAndOrRest (bound : Nat) (first : Command) (cs : List Char) :
    Option (Command × List Char) :=
  match bound with
  | 0 => none
  | bound + 1 =>
    match skipBlanks cs with
    | '&' :: '&' :: rest => do
      let (second, rest) ← readPipe bound (skipNewlines (rest.length + 1) rest)
      readAndOrRest bound (.andThen first second) rest
    | '|' :: '|' :: rest => do
      let (second, rest) ← readPipe bound (skipNewlines (rest.length + 1) rest)
      readAndOrRest bound (.orElse first second) rest
    | _ => some (first, cs)

/-- Reads commands joined by pipes, perhaps negated. -/
def readPipe (bound : Nat) (cs : List Char) : Option (Command × List Char) :=
  match bound with
  | 0 => none
  | bound + 1 =>
    match readReserved "!" cs with
    | some rest => do
      let (body, rest) ← readPipe bound rest
      some (.negation body, rest)
    | none => do
      let (first, rest) ← readCommand bound (skipBlanks cs)
      match skipBlanks rest with
      | '|' :: '|' :: _ => some (first, rest)
      | '|' :: more => do
        let (second, rest) ← readPipe bound (skipNewlines (more.length + 1) more)
        some (.pipe first second, rest)
      | _ => some (first, rest)

/-- Reads a compound or a simple command with its redirections. -/
def readCommand (bound : Nat) (cs : List Char) : Option (Command × List Char) :=
  match bound with
  | 0 => none
  | bound + 1 =>
    let withRedirects : Command → List Char → Option (Command × List Char) := fun body rest =>
      let (redirects, rest) := readRedirects (rest.length + 1) rest
      some (if redirects.isEmpty then body else .redirected body redirects, rest)
    match cs with
    | '(' :: rest => do
      let (body, rest) ← readList bound rest
      match rest with
      | ')' :: rest => withRedirects (.subshell body) rest
      | _ => none
    | _ =>
      match (peekPlain cs).map Prod.fst with
      | some "\x7b" => do
        let (body, rest) ← readList bound (← readReserved "\x7b" cs)
        withRedirects body (← readReserved "\x7d" rest)
      | some "if" => do
        let (body, rest) ← readIf bound (← readReserved "if" cs)
        withRedirects body rest
      | some "while" => do
        let (test, rest) ← readList bound (← readReserved "while" cs)
        let (body, rest) ← readList bound (← readReserved "do" rest)
        withRedirects (.loop true test body) (← readReserved "done" rest)
      | some "until" => do
        let (test, rest) ← readList bound (← readReserved "until" cs)
        let (body, rest) ← readList bound (← readReserved "do" rest)
        withRedirects (.loop false test body) (← readReserved "done" rest)
      | some "for" => do
        let (name, rest) ← peekPlain (skipBlanks (← readReserved "for" cs))
        let (words, rest) := match readReserved "in" (skipNewlines (rest.length + 1) rest) with
          | some rest => readWords (rest.length + 1) rest
          | none => ([[.parameter "@" true]], rest)
        let rest := skipSeparators (rest.length + 1) rest
        let (body, rest) ← readList bound (← readReserved "do" rest)
        withRedirects (.each name words body) (← readReserved "done" rest)
      | some "case" => do
        let (subject, rest) ← readWord (skipBlanks (← readReserved "case" cs))
        let rest ← readReserved "in" (skipNewlines (rest.length + 1) rest)
        let (body, rest) ← readArms bound subject rest
        withRedirects body rest
      | some text =>
        if closers.contains text then none
        else
          match definition? cs with
          | some (name, rest) => do
            let (body, rest) ← readCommand bound (skipNewlines (rest.length + 1) rest)
            some (.define name body, rest)
          | none => some (readSimple (lineEnds cs) (cs.length + 1) [] [] [] cs)
      | none =>
        match readSimple (lineEnds cs) (cs.length + 1) [] [] [] cs with
        | (.simple _ [] [] [], _) => none
        | result => some result

/-- Reads what follows `if` or `elif`, up to and including `fi`. -/
def readIf (bound : Nat) (cs : List Char) : Option (Command × List Char) :=
  match bound with
  | 0 => none
  | bound + 1 => do
    let (test, rest) ← readList bound cs
    let (yes, rest) ← readList bound (← readReserved "then" rest)
    match readReserved "elif" rest with
    | some rest => do
      let (no, rest) ← readIf bound rest
      some (.conditional test yes no, rest)
    | none =>
      match readReserved "else" rest with
      | some rest => do
        let (no, rest) ← readList bound rest
        some (.conditional test yes no, ← readReserved "fi" rest)
      | none => some (.conditional test yes .nothing, ← readReserved "fi" rest)

/-- Reads the arms of a `case`, up to and including `esac`. -/
def readArms (bound : Nat) (subject : Word) (cs : List Char) : Option (Command × List Char) :=
  match bound with
  | 0 => none
  | bound + 1 =>
    let cs := skipNewlines (cs.length + 1) cs
    match readReserved "esac" cs with
    | some rest => some (.nothing, rest)
    | none => do
      let cs := match cs with
        | '(' :: rest => rest
        | _ => cs
      let (patterns, rest) ← readPatterns (cs.length + 1) cs
      let (body, rest) ← readList bound rest
      let rest := match rest with
        | ';' :: ';' :: rest => rest
        | _ => rest
      let (others, rest) ← readArms bound subject rest
      some (.select subject patterns body others, rest)

end

/-- **The number of the last line** of a script. -/
def lastLine (script : String) : Nat := lineEnds script.toList + 1

/-- **Reads a whole script.** -/
def readScript (script : String) : Option Command := do
  let cs := script.toList
  let (command, rest) ← readList (8 * (cs.length + 2)) cs
  if rest.isEmpty then some command else none

end UaHeaders.Shell
