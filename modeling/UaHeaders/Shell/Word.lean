import UaHeaders.Shell.Command

/-!
# Reading words

A reader from text to `UaHeaders.Shell.Word`: quotes, escapes, parameters and what stands in for the
output of a script or the value of a sum.

## Main definitions

* `UaHeaders.Shell.readWord` — one word at the start of a text.
* `UaHeaders.Shell.readWhole` — a text as one word, in which only expansions are special.
* `UaHeaders.Shell.plainText?` — the text of a word without quotes and expansions.

## Implementation notes

The reader is driven by a bound that is larger than the number of characters; each nested call has
read at least one character before.
-/

set_option autoImplicit false

namespace UaHeaders.Shell

/-! ## Characters -/

/-- Whether a character ends an unquoted word. -/
def endsWord (c : Char) : Bool := " \t\n;&|<>()".toList.contains c

/-- Whether a character may stand in the name of a variable. -/
def isNameChar (c : Char) : Bool := c.isAlphanum || c == '_'

/-- Whether a character names a parameter by itself. -/
def isSpecialParameter (c : Char) : Bool := c.isDigit || "*@#?$!-".toList.contains c

/-- The number of line ends in a text. -/
def lineEnds (cs : List Char) : Nat := cs.count '\n'

/-! ## Enclosed scripts -/

/-- The text up to the parenthesis that closes the one already open, with quoted text passed over,
and the rest. -/
def untilClose (depth : Nat) (quote : Option Char) (read : List Char) :
    List Char → Option (List Char × List Char)
  | [] => none
  | '\\' :: c :: cs =>
    if quote == some '\'' then
      untilClose depth (if c == '\'' then none else quote) (c :: '\\' :: read) cs
    else untilClose depth quote (c :: '\\' :: read) cs
  | c :: cs =>
    match quote with
    | some q => untilClose depth (if c == q then none else some q) (c :: read) cs
    | none =>
      if c == '\'' || c == '"' then untilClose depth (some c) (c :: read) cs
      else if c == '(' then untilClose (depth + 1) none (c :: read) cs
      else if c == ')' then
        match depth with
        | 0 => some (read.reverse, cs)
        | d + 1 => untilClose d none (c :: read) cs
      else untilClose depth none (c :: read) cs

/-- The script up to the closing backquote, with the backslashes taken away that protect one of the
characters `protected_`, and the rest. -/
def untilBackquote (protected_ : List Char) (read : List Char) :
    List Char → Option (List Char × List Char)
  | [] => none
  | '\x60' :: cs => some (read.reverse, cs)
  | '\\' :: c :: cs =>
    if protected_.contains c then untilBackquote protected_ (c :: read) cs
    else untilBackquote protected_ (c :: '\\' :: read) cs
  | c :: cs => untilBackquote protected_ (c :: read) cs

/-! ## Words -/

/-- **Where the text that is read stands.** -/
inductive Setting where
  /-- Outside quotes; a blank or an operator ends the word. -/
  | bare
  /-- Between double quotes. -/
  | quotes
  /-- Behind a parameter between braces. -/
  | braces (quoted : Bool)
  /-- In a text that is one word from its start to its end. -/
  | whole

namespace Setting

/-- Whether text in the setting is quoted. -/
def quoted : Setting → Bool
  | bare => false
  | quotes => true
  | braces q => q
  | whole => true

/-- Whether a character ends the setting. -/
def isEnd (c : Char) : Setting → Bool
  | bare => endsWord c
  | quotes => c == '"'
  | braces _ => c == '\x7d'
  | whole => false

/-- Whether the end of the text may end the setting. -/
def mayEndText : Setting → Bool
  | bare => true
  | whole => true
  | _ => false

/-- The rest behind the character that ends the setting; what ends a bare word is not part of it. -/
def restBehind (c : Char) (cs : List Char) : Setting → List Char
  | bare => c :: cs
  | _ => cs

/-- Whether quotes have a meaning in the setting. -/
def knowsQuotes : Setting → Bool
  | bare => true
  | braces _ => true
  | _ => false

/-- Whether a backslash protects a character in the setting, where text is quoted. -/
def protects (c : Char) : Setting → Bool
  | quotes => "$\"\\\x60".toList.contains c
  | braces _ => "$\"\\\x60\x7d".toList.contains c
  | _ => "$\\\x60".toList.contains c

end Setting

/-- The operator behind the name of a parameter, and the rest. -/
def readChange : List Char → Option (Change × List Char)
  | ':' :: '-' :: cs => some (.byDefault true, cs)
  | '-' :: cs => some (.byDefault false, cs)
  | ':' :: '=' :: cs => some (.byAssigning true, cs)
  | '=' :: cs => some (.byAssigning false, cs)
  | ':' :: '?' :: cs => some (.byDemand true, cs)
  | '?' :: cs => some (.byDemand false, cs)
  | ':' :: '+' :: cs => some (.byOther true, cs)
  | '+' :: cs => some (.byOther false, cs)
  | '#' :: '#' :: cs => some (.cutStart true, cs)
  | '#' :: cs => some (.cutStart false, cs)
  | '%' :: '%' :: cs => some (.cutEnd true, cs)
  | '%' :: cs => some (.cutEnd false, cs)
  | _ => none

/-- Whether the word behind an operator is a pattern, in which quotes of the outside do not count. -/
def Change.takesPattern : Change → Bool
  | cutStart _ => true
  | cutEnd _ => true
  | _ => false

/-- The name of a parameter at the start of a text between braces, and the rest. -/
def parameterName : List Char → List Char × List Char
  | c :: cs =>
    if c.isDigit then ((c :: cs).takeWhile Char.isDigit, (c :: cs).dropWhile Char.isDigit)
    else if isNameChar c then ((c :: cs).takeWhile isNameChar, (c :: cs).dropWhile isNameChar)
    else if isSpecialParameter c then ([c], cs)
    else ([], c :: cs)
  | [] => ([], [])

mutual

/-- Reads a word piece by piece. -/
def readPieces (bound : Nat) (setting : Setting) (done : Word) (cs : List Char) :
    Option (Word × List Char) :=
  match bound, cs with
  | 0, _ => none
  | _ + 1, [] => if setting.mayEndText then some (done.reverse, []) else none
  | bound + 1, c :: cs =>
    if setting.isEnd c then some (done.reverse, setting.restBehind c cs)
    else if c == '\'' && setting.knowsQuotes && !setting.quoted then
      match cs.dropWhile (· != '\'') with
      | [] => none
      | _ :: rest =>
        readPieces bound setting
          (.literal (String.ofList (cs.takeWhile (· != '\''))) true :: done) rest
    else if c == '"' && setting.knowsQuotes then do
      let (inside, rest) ← readPieces bound .quotes [] cs
      let inside := if inside.isEmpty then [.literal "" true] else inside
      readPieces bound setting (inside.reverse ++ done) rest
    else if c == '\x60' then do
      let protected_ := if setting.quoted then "$\\\x60\"" else "$\\\x60"
      let (script, rest) ← untilBackquote protected_.toList [] cs
      readPieces bound setting
        (.output (String.ofList script) (lineEnds rest) setting.quoted :: done) rest
    else if c == '$' then do
      let (piece, rest) ← readDollar bound setting.quoted cs
      readPieces bound setting (piece :: done) rest
    else if c == '\\' then
      match cs with
      | [] => readPieces bound setting (.literal "\\" true :: done) []
      | '\n' :: rest => readPieces bound setting done rest
      | d :: rest =>
        if !setting.quoted || setting.protects d then
          readPieces bound setting (.literal (String.singleton d) true :: done) rest
        else readPieces bound setting (.literal "\\" true :: done) (d :: rest)
    else readPieces bound setting (.literal (String.singleton c) setting.quoted :: done) cs

/-- Reads what follows a dollar sign. -/
def readDollar (bound : Nat) (quoted : Bool) (cs : List Char) : Option (Piece × List Char) :=
  match bound, cs with
  | 0, _ => none
  | bound + 1, '(' :: '(' :: cs => do
    let (script, rest) ← untilClose 0 none [] ('(' :: cs)
    match script.getLast? with
    | some ')' =>
      let (word, _) ← readPieces bound .whole [] (script.drop 1).dropLast
      some (.arithmetic word quoted, rest)
    | _ => some (.output (String.ofList script) (lineEnds rest) quoted, rest)
  | _ + 1, '(' :: cs => do
    let (script, rest) ← untilClose 0 none [] cs
    some (.output (String.ofList script) (lineEnds rest) quoted, rest)
  | bound + 1, '\x7b' :: cs =>
    match cs with
    | '#' :: rest =>
      match parameterName rest with
      | ([], _) => readBraced bound quoted cs
      | (name, '\x7d' :: rest) => some (.altered (String.ofList name) .length [] quoted, rest)
      | _ => none
    | _ => readBraced bound quoted cs
  | _ + 1, c :: cs =>
    if isSpecialParameter c then some (.parameter (String.singleton c) quoted, cs)
    else if isNameChar c then
      some (.parameter (String.ofList ((c :: cs).takeWhile isNameChar)) quoted,
        (c :: cs).dropWhile isNameChar)
    else some (.literal "$" quoted, c :: cs)
  | _ + 1, [] => some (.literal "$" quoted, [])

/-- Reads a parameter between braces, behind the opening one. -/
def readBraced (bound : Nat) (quoted : Bool) (cs : List Char) : Option (Piece × List Char) :=
  match bound, parameterName cs with
  | 0, _ => none
  | _ + 1, ([], _) => none
  | _ + 1, (name, '\x7d' :: rest) => some (.parameter (String.ofList name) quoted, rest)
  | bound + 1, (name, rest) => do
    let (change, rest) ← readChange rest
    let (word, rest) ← readPieces bound (.braces (quoted && !change.takesPattern)) [] rest
    some (.altered (String.ofList name) change word quoted, rest)

end

/-- **Reads one word** at the start of the text; there has to be one. -/
def readWord (cs : List Char) : Option (Word × List Char) := do
  let (word, rest) ← readPieces (2 * cs.length + 2) .bare [] cs
  if word.isEmpty then none else some (word, rest)

/-- **A text as one word**, in which only expansions are special. -/
def readWhole (cs : List Char) : Option Word :=
  (readPieces (2 * cs.length + 2) .whole [] cs).map Prod.fst

/-- The unquoted literal text of a word, if it has nothing else. -/
def plainText? (w : Word) : Option String :=
  w.foldlM
    (fun text piece =>
      match piece with
      | .literal s false => some (text ++ s)
      | _ => none)
    ""

end UaHeaders.Shell
