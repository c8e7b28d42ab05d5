import UaHeaders.Settings.Datum

/-!
# Reading TOML

A text is a list of statements, one on a line: a key with its value, or a heading under which the keys
of a table follow. A heading in double brackets begins the next table of a list. No name is given twice
in one table.

Only texts and truth values can become settings; numbers and dates are recognised, but their value is
not kept.

## Main definitions

* `UaHeaders.Toml.Node` — tables while they are being filled.
* `UaHeaders.Toml.parse` — the datum in a text.

## Implementation notes

The readers take the characters that are left and answer what they have read and what is left behind
it. Those for nested values count down `fuel`, of which twice the number of characters is always
enough.
-/

set_option autoImplicit false

namespace UaHeaders.Toml

/-! ## Strings -/

/-- The characters without the blanks in front; a line end is no blank. -/
def skipBlanks (cs : List Char) : List Char := cs.dropWhile fun c => c == ' ' || c == '\t'

/-- Whether a character may stand for itself in a string or a comment. -/
def isPlain (c : Char) : Bool := c == '\t' || (0x20 ≤ c.toNat && c.toNat != 0x7F)

/-- The code point in the hexadecimal digits in front. -/
def codePoint? (length : Nat) (cs : List Char) : Option Char := do
  if (cs.take length).length < length then none
  else
    let n ← Json.hexNumber? (cs.take length)
    if n.isValidChar then some (Char.ofNat n) else none

/-- An escape, behind its backslash. -/
def readEscape : List Char → Option (Char × List Char)
  | 'b' :: cs => some ('\x08', cs)
  | 't' :: cs => some ('\t', cs)
  | 'n' :: cs => some ('\n', cs)
  | 'f' :: cs => some ('\x0c', cs)
  | 'r' :: cs => some ('\r', cs)
  | '"' :: cs => some ('"', cs)
  | '\\' :: cs => some ('\\', cs)
  | 'u' :: cs => (codePoint? 4 cs).map fun c => (c, cs.drop 4)
  | 'U' :: cs => (codePoint? 8 cs).map fun c => (c, cs.drop 8)
  | _ => none

/-- The rest of a string on one line, behind its opening quote. Between single quotes nothing is
escaped. -/
def readLineString (quote : Char) : Nat → List Char → Option (List Char × List Char)
  | 0, _ => none
  | fuel + 1, cs =>
    match cs with
    | [] => none
    | c :: cs =>
      if c == quote then some ([], cs)
      else if c == '\\' && quote == '"' then do
        let (ch, cs) ← readEscape cs
        let (text, cs) ← readLineString quote fuel cs
        return (ch :: text, cs)
      else if isPlain c then do
        let (text, cs) ← readLineString quote fuel cs
        return (c :: text, cs)
      else none

/-- What is left behind a backslash at the end of a line: blanks and line ends are passed over, and
there has to be a line end among them. -/
def skipContinuation (cs : List Char) : Option (List Char) :=
  let behind := skipBlanks cs
  let goOn := behind.dropWhile fun c => c == ' ' || c == '\t' || c == '\n' || c == '\r'
  match behind with
  | '\n' :: _ => some goOn
  | '\r' :: '\n' :: _ => some goOn
  | _ => none

/-- The rest of a string over several lines, behind its opening quotes. Up to two quotes may stand
before the closing ones. -/
def readLongString (quote : Char) : Nat → List Char → Option (List Char × List Char)
  | 0, _ => none
  | fuel + 1, cs =>
    let quotes := (cs.takeWhile (· == quote)).length
    if quotes ≥ 3 then
      -- the last three quotes close the string
      if quotes ≤ 5 then some (List.replicate (quotes - 3) quote, cs.drop quotes) else none
    else
      match cs with
      | [] => none
      | '\r' :: '\n' :: cs => do
        let (text, cs) ← readLongString quote fuel cs
        return ('\n' :: text, cs)
      | c :: rest =>
        if c == '\\' && quote == '"' then
          match skipContinuation rest with
          | some rest => readLongString quote fuel rest
          | none => do
            let (ch, rest) ← readEscape rest
            let (text, rest) ← readLongString quote fuel rest
            return (ch :: text, rest)
        else if isPlain c || c == '\n' then do
          let (text, rest) ← readLongString quote fuel rest
          return (c :: text, rest)
        else none

/-- A line end right behind the opening quotes does not count. -/
def skipFirstBreak : List Char → List Char
  | '\n' :: cs => cs
  | '\r' :: '\n' :: cs => cs
  | cs => cs

/-- A string of any kind. -/
def readString (cs : List Char) : Option (List Char × List Char) :=
  match cs with
  | '"' :: '"' :: '"' :: cs => readLongString '"' (cs.length + 1) (skipFirstBreak cs)
  | '\'' :: '\'' :: '\'' :: cs => readLongString '\'' (cs.length + 1) (skipFirstBreak cs)
  | '"' :: cs => readLineString '"' (cs.length + 1) cs
  | '\'' :: cs => readLineString '\'' (cs.length + 1) cs
  | _ => none

/-! ## Keys -/

/-- A character of a key without quotes. -/
def isKeyChar (c : Char) : Bool := c.isAlphanum || c == '_' || c == '-'

/-- One part of a key. -/
def readKeyPart (cs : List Char) : Option (String × List Char) :=
  match cs with
  | '"' :: cs => (readLineString '"' (cs.length + 1) cs).map fun (t, cs) => (String.ofList t, cs)
  | '\'' :: cs => (readLineString '\'' (cs.length + 1) cs).map fun (t, cs) => (String.ofList t, cs)
  | cs =>
    let text := cs.takeWhile isKeyChar
    if text.isEmpty then none else some (String.ofList text, cs.drop text.length)

/-- A key: parts with dots between them. -/
def readKey : Nat → List Char → Option (List String × List Char)
  | 0, _ => none
  | fuel + 1, cs => do
    let (part, cs) ← readKeyPart (skipBlanks cs)
    match skipBlanks cs with
    | '.' :: cs =>
      let (parts, cs) ← readKey fuel cs
      return (part :: parts, cs)
    | cs => return ([part], cs)

/-! ## Tables -/

/-- How a table came to be, which decides how it may grow. -/
inductive Origin where
  /-- It was passed on the way to a heading. -/
  | passed
  /-- It has a heading. -/
  | heading
  /-- It was passed on the way to a key. -/
  | dotted
  deriving DecidableEq, Inhabited

/-- **A table while it is being filled**, or what stands in one. -/
inductive Node where
  | leaf (value : Datum)
  | table (origin : Origin) (fields : List (String × Node))
  /-- The tables of a list, the latest first. -/
  | tables (items : List (List (String × Node)))
  deriving Inhabited

/-- The fields of a table. -/
abbrev Fields := List (String × Node)

/-- Puts a node in the place of the one that a name has, or at the end. -/
def setField (fields : Fields) (name : String) (node : Node) : Fields :=
  if fields.any (·.1 == name) then
    fields.map fun field => if field.1 == name then (name, node) else field
  else fields ++ [(name, node)]

/-- Puts a value at a key. Tables on the way are made, and no other table may be entered than those
made so. -/
def putValue (fields : Fields) (value : Node) : List String → Option Fields
  | [] => none
  | [name] => if (fields.lookup name).isSome then none else some (fields ++ [(name, value)])
  | name :: rest =>
    match fields.lookup name with
    | none => (putValue [] value rest).map fun inner => setField fields name (.table .dotted inner)
    | some (.table .dotted inner) =>
      (putValue inner value rest).map fun inner => setField fields name (.table .dotted inner)
    | some _ => none

/-- Changes the fields of the table below a heading, going into the latest table of a list. -/
def changeAt (change : Fields → Option Fields) (fields : Fields) : List String → Option Fields
  | [] => change fields
  | name :: rest =>
    match fields.lookup name with
    | none => (changeAt change [] rest).map fun inner => setField fields name (.table .passed inner)
    | some (.table origin inner) =>
      (changeAt change inner rest).map fun inner => setField fields name (.table origin inner)
    | some (.tables (latest :: items)) =>
      (changeAt change latest rest).map fun latest => setField fields name (.tables (latest :: items))
    | some _ => none

/-- Opens the table of a heading. -/
def openTable (name : String) (fields : Fields) : Option Fields :=
  match fields.lookup name with
  | none => some (fields ++ [(name, .table .heading [])])
  | some (.table .passed inner) => some (setField fields name (.table .heading inner))
  | some _ => none

/-- Opens the next table of a list. -/
def openNext (name : String) (fields : Fields) : Option Fields :=
  match fields.lookup name with
  | none => some (fields ++ [(name, .tables [[]])])
  | some (.tables items) => some (setField fields name (.tables ([] :: items)))
  | some _ => none

mutual

/-- What a node says. -/
def Node.datum : Node → Datum
  | .leaf value => value
  | .table _ fields => .table (fieldData fields)
  | .tables items => .list (tableData items).reverse

/-- The data of some fields. -/
def fieldData : List (String × Node) → List (String × Datum)
  | [] => []
  | (name, node) :: fields => (name, node.datum) :: fieldData fields

/-- The data of some tables. -/
def tableData : List (List (String × Node)) → List Datum
  | [] => []
  | fields :: items => .table (fieldData fields) :: tableData items

end

/-! ## Values -/

/-- Blanks, line ends and comments between the items of a list. -/
def skipGaps : Nat → List Char → List Char
  | 0, cs => cs
  | fuel + 1, cs =>
    match skipBlanks cs with
    | '\n' :: cs => skipGaps fuel cs
    | '\r' :: '\n' :: cs => skipGaps fuel cs
    | '#' :: cs => skipGaps fuel (cs.dropWhile isPlain)
    | cs => cs

/-- A number or a date, whose value is not kept. -/
def readNumeral (cs : List Char) : Option (Datum × List Char) :=
  let text := cs.takeWhile fun c => c.isAlphanum || "_+-.:".toList.contains c
  match text with
  | [] => none
  | c :: _ =>
    let word := String.ofList (text.dropWhile fun c => c == '+' || c == '-')
    if c.isDigit || ((c == '+' || c == '-') && word.toList.head?.any Char.isDigit) ||
        word == "inf" || word == "nan" then
      some (.unreadable, cs.drop text.length)
    else none

mutual

/-- A value. -/
def readValue : Nat → List Char → Option (Datum × List Char)
  | 0, _ => none
  | fuel + 1, cs =>
    match cs with
    | '"' :: _ => (readString cs).map fun (text, cs) => (.ofText (String.ofList text), cs)
    | '\'' :: _ => (readString cs).map fun (text, cs) => (.ofText (String.ofList text), cs)
    | '[' :: cs => (readItems fuel (skipGaps cs.length cs)).map fun (items, cs) => (.list items, cs)
    | '\x7b' :: cs =>
      match skipBlanks cs with
      | '\x7d' :: cs => some (.table [], cs)
      | cs => (readInline fuel [] cs).map fun (fields, cs) => (.table (fieldData fields), cs)
    | 't' :: 'r' :: 'u' :: 'e' :: cs => some (.ofFlag true, cs)
    | 'f' :: 'a' :: 'l' :: 's' :: 'e' :: cs => some (.ofFlag false, cs)
    | cs => readNumeral cs

/-- The items of a list, up to its closing bracket. -/
def readItems : Nat → List Char → Option (List Datum × List Char)
  | 0, _ => none
  | fuel + 1, cs =>
    match cs with
    | ']' :: cs => some ([], cs)
    | cs => do
      let (item, cs) ← readValue fuel cs
      match skipGaps cs.length cs with
      | ',' :: cs =>
        let (items, cs) ← readItems fuel (skipGaps cs.length cs)
        return (item :: items, cs)
      | ']' :: cs => return ([item], cs)
      | _ => none

/-- The fields of a table written on one line, up to its closing bracket. -/
def readInline : Nat → Fields → List Char → Option (Fields × List Char)
  | 0, _, _ => none
  | fuel + 1, fields, cs => do
    let (key, cs) ← readKey (cs.length + 1) cs
    match cs with
    | '=' :: cs =>
      let (value, cs) ← readValue fuel (skipBlanks cs)
      let fields ← putValue fields (.leaf value) key
      match skipBlanks cs with
      | ',' :: cs => readInline fuel fields cs
      | '\x7d' :: cs => return (fields, cs)
      | _ => none
    | _ => none

end

/-! ## Statements -/

/-- What is left behind the end of a line, with a comment before it. -/
def endOfLine (cs : List Char) : Option (List Char) :=
  let cs :=
    match skipBlanks cs with
    | '#' :: cs => cs.dropWhile isPlain
    | cs => cs
  match cs with
  | [] => some []
  | '\n' :: cs => some cs
  | '\r' :: '\n' :: cs => some cs
  | _ => none

/-- Reads statements. `at_` is the heading under which they stand and `fields` what was read before. -/
def readStatements : Nat → List String → Fields → List Char → Option Fields
  | 0, _, _, _ => none
  | fuel + 1, at_, fields, cs =>
    match skipBlanks cs with
    | [] => some fields
    | '[' :: '[' :: cs => do
      let (key, cs) ← readKey (cs.length + 1) cs
      match cs with
      | ']' :: ']' :: cs =>
        let cs ← endOfLine cs
        let name ← key.getLast?
        let fields ← changeAt (openNext name) fields key.dropLast
        readStatements fuel key fields cs
      | _ => none
    | '[' :: cs => do
      let (key, cs) ← readKey (cs.length + 1) cs
      match cs with
      | ']' :: cs =>
        let cs ← endOfLine cs
        let name ← key.getLast?
        let fields ← changeAt (openTable name) fields key.dropLast
        readStatements fuel key fields cs
      | _ => none
    | c :: cs =>
      if c == '#' || c == '\n' || c == '\r' then do
        let cs ← endOfLine (c :: cs)
        readStatements fuel at_ fields cs
      else do
        let (key, cs) ← readKey (cs.length + 2) (c :: cs)
        match cs with
        | '=' :: cs =>
          let (value, cs) ← readValue (2 * cs.length + 2) (skipBlanks cs)
          let cs ← endOfLine cs
          let fields ← changeAt (fun inner => putValue inner (.leaf value) key) fields at_
          readStatements fuel at_ fields cs
        | _ => none

/-- **The datum in a text**, which is a table. -/
def parse (text : String) : Option Datum :=
  let cs :=
    match text.toList with
    | '\ufeff' :: cs => cs
    | cs => cs
  (readStatements (cs.length + 1) [] [] cs).map fun fields => .table (fieldData fields)

end UaHeaders.Toml
