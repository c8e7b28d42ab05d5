import UaHeaders.Settings.Cursor
import UaHeaders.Settings.Datum

/-!
# Reading YAML

The part of YAML in which settings are written: block and flow collections, scalars in all five
styles, comments and the marks around a single document. Anchors, aliases, tags and explicit keys are
not read.

A plain scalar is a text whatever it looks like; some plain scalars are truth values or say "no value"
besides.

## Main definitions

* `UaHeaders.Yaml.parse` — the datum in a text.

## Implementation notes

Readers take a cursor and answer what they have read and the cursor behind it, or nothing where the
text is not written by the rules. A block collection is known by the column of its first entry; what
belongs to it stands further to the right. Readers that go into depth count down `fuel`, of which twice
the number of characters is always enough.
-/

set_option autoImplicit false

namespace UaHeaders.Yaml

/-! ## Between tokens -/

/-- Whether a document ends or begins here: three dots or dashes at the beginning of a line. -/
def atMarker (c : Cursor) : Bool :=
  c.column == 0 &&
    match c.rest with
    | '-' :: '-' :: '-' :: rest => beginsBlank rest
    | '.' :: '.' :: '.' :: rest => beginsBlank rest
    | _ => false

/-- Whether no token of the document is left. -/
def atStop (c : Cursor) : Bool := c.atEnd || atMarker c

/-- Goes to the next token, over blanks, comments and line ends. Where a key may stand, a tab is no
blank; in block context this is so at the beginning of every line. -/
def toToken (flow : Bool) : Nat → Bool → Cursor → Cursor
  | 0, _, c => c
  | fuel + 1, tabs, c =>
    match c.peek? with
    | some ' ' => toToken flow fuel tabs c.advance
    | some '\t' => if tabs then toToken flow fuel tabs c.advance else c
    | some '\n' => toToken flow fuel flow c.advance
    | some '#' => toToken flow fuel tabs (c.skipWhile (· != '\n'))
    | _ => c

/-- The next token in block context. -/
def nextToken (tabs : Bool) (c : Cursor) : Cursor := toToken false (c.rest.length + 1) tabs c

/-- The next token in flow context. -/
def nextFlowToken (c : Cursor) : Cursor := toToken true (c.rest.length + 1) true c

/-- Whether an entry of a block sequence begins here. -/
def atDash (c : Cursor) : Bool :=
  match c.rest with
  | '-' :: rest => beginsBlank rest
  | _ => false

/-! ## Plain scalars -/

/-- The datum of a plain scalar. -/
def plainScalar (text : String) : Datum :=
  .scalar
    { text? := some text
      flag? :=
        if ["true", "True", "TRUE"].contains text then some true
        else if ["false", "False", "FALSE"].contains text then some false
        else none
      isNothing := ["", "~", "null", "Null", "NULL"].contains text }

/-- The scalar that stands where nothing is written. -/
def emptyScalar : Datum := plainScalar ""

/-- The brackets and commas of flow collections. -/
def isFlowMark (c : Char) : Bool := ",[]\x7b\x7d".toList.contains c

/-- Whether a plain scalar may begin here. -/
def beginsPlain (flow : Bool) : List Char → Bool
  | [] => false
  | '-' :: rest => !beginsBlank rest && !(flow && rest.head?.any isFlowMark)
  | '?' :: rest => !flow && !beginsBlank rest
  | ':' :: rest => !flow && !beginsBlank rest
  | c :: _ => !"\t\n #&*!|>'\"%@`".toList.contains c && !isFlowMark c

/-- Whether a plain scalar goes on with the next character. -/
def endsPlain (flow : Bool) : List Char → Bool
  | [] => true
  | '\n' :: _ => true
  | ':' :: rest => beginsBlank rest
  | c :: _ => flow && isFlowMark c

/-- The characters of one line of a plain scalar. Blanks belong to it only if more follows, and a
number sign behind a blank begins a comment. -/
def plainLine (flow : Bool) : Nat → List Char → List Char
  | 0, _ => []
  | fuel + 1, cs =>
    if endsPlain flow cs then []
    else
      match cs with
      | [] => []
      | c :: rest =>
        if c == ' ' || c == '\t' then
          let blanks := cs.takeWhile fun c => c == ' ' || c == '\t'
          let behind := cs.drop blanks.length
          if behind.head? == some '#' || endsPlain flow behind then []
          else blanks ++ plainLine flow fuel behind
        else c :: plainLine flow fuel rest

/-- One line of a plain scalar. -/
def readPlainLine (flow : Bool) (c : Cursor) : List Char × Cursor :=
  let text := plainLine flow (c.rest.length + 1) c.rest
  (text, c.advanceBy text.length)

/-- What stands for some line ends inside a scalar: one is a blank, of more the first is dropped. -/
def foldedBreaks (breaks : Nat) : List Char :=
  if breaks ≤ 1 then [' '] else List.replicate (breaks - 1) '\n'

/-- The lines of a plain scalar behind its first. They stand to the right of `parent`. -/
def plainRest (flow : Bool) (parent : Int) : Nat → Cursor → List Char × Cursor
  | 0, c => ([], c)
  | fuel + 1, c =>
    let atBreak := c.skipWhile fun ch => ch == ' ' || ch == '\t'
    if atBreak.peek? != some '\n' then ([], c)
    else
      let next := atBreak.skipWhile fun ch => ch == ' ' || ch == '\t' || ch == '\n'
      if atStop next || next.peek? == some '#' || (!flow && (next.column : Int) ≤ parent) then ([], c)
      else
        let (text, behind) := readPlainLine flow next
        if text.isEmpty then ([], c)
        else
          let (more, behind) := plainRest flow parent fuel behind
          (foldedBreaks (next.line - atBreak.line) ++ text ++ more, behind)

/-- The rest of a plain scalar whose first line has been read. -/
def finishPlain (flow : Bool) (parent : Int) (first : List Char) (c : Cursor) : Datum × Cursor :=
  let (more, c) := plainRest flow parent (c.rest.length + 1) c
  (plainScalar (String.ofList (first ++ more)), c)

/-! ## Quoted scalars -/

/-- The characters that an escape stands for, and how many hexadecimal digits follow where it is a
code point. -/
def escape? : Char → Option (Char ⊕ Nat)
  | '0' => some (.inl '\x00')
  | 'a' => some (.inl '\x07')
  | 'b' => some (.inl '\x08')
  | 't' => some (.inl '\t')
  | '\t' => some (.inl '\t')
  | 'n' => some (.inl '\n')
  | 'v' => some (.inl '\x0b')
  | 'f' => some (.inl '\x0c')
  | 'r' => some (.inl '\r')
  | 'e' => some (.inl '\x1b')
  | ' ' => some (.inl ' ')
  | '"' => some (.inl '"')
  | '/' => some (.inl '/')
  | '\\' => some (.inl '\\')
  | 'N' => some (.inl (Char.ofNat 0x85))
  | '_' => some (.inl (Char.ofNat 0xA0))
  | 'L' => some (.inl (Char.ofNat 0x2028))
  | 'P' => some (.inl (Char.ofNat 0x2029))
  | 'x' => some (.inr 2)
  | 'u' => some (.inr 4)
  | 'U' => some (.inr 8)
  | _ => none

/-- The character of a code point given by `length` hexadecimal digits. -/
def codePoint? (length : Nat) (cs : List Char) : Option Char := do
  let digits := cs.take length
  if digits.length < length then none
  else
    let n ← Json.hexNumber? digits
    if n.isValidChar then some (Char.ofNat n) else none

/-- Line ends inside a quoted scalar with the blanks around them: what they stand for. -/
def quotedBreak (c : Cursor) : List Char × Cursor :=
  let next := c.skipWhile fun ch => ch == ' ' || ch == '\t' || ch == '\n'
  (foldedBreaks (next.line - c.line), next)

/-- The rest of a scalar in double quotes, behind its opening quote. -/
def readDouble : Nat → Cursor → Option (List Char × Cursor)
  | 0, _ => none
  | fuel + 1, c =>
    if atMarker c then none
    else
      match c.rest with
      | [] => none
      | '"' :: _ => some ([], c.advance)
      | '\\' :: '\n' :: _ =>
        let next := (c.advanceBy 2).skipWhile fun ch => ch == ' ' || ch == '\t'
        readDouble fuel next
      | '\\' :: e :: rest => do
        match ← escape? e with
        | .inl ch =>
          let (text, c) ← readDouble fuel (c.advanceBy 2)
          return (ch :: text, c)
        | .inr length =>
          let ch ← codePoint? length rest
          let (text, c) ← readDouble fuel (c.advanceBy (2 + length))
          return (ch :: text, c)
      | ch :: _ =>
        if ch == ' ' || ch == '\t' || ch == '\n' then
          let blanks := c.rest.takeWhile fun ch => ch == ' ' || ch == '\t'
          let atBreak := c.advanceBy blanks.length
          if atBreak.peek? == some '\n' then do
            let (folded, next) := quotedBreak atBreak
            let (text, c) ← readDouble fuel next
            return (folded ++ text, c)
          else do
            let (text, c) ← readDouble fuel atBreak
            return (blanks ++ text, c)
        else do
          let (text, c) ← readDouble fuel c.advance
          return (ch :: text, c)

/-- The rest of a scalar in single quotes, behind its opening quote. -/
def readSingle : Nat → Cursor → Option (List Char × Cursor)
  | 0, _ => none
  | fuel + 1, c =>
    if atMarker c then none
    else
      match c.rest with
      | [] => none
      | '\'' :: '\'' :: _ => do
        let (text, c) ← readSingle fuel (c.advanceBy 2)
        return ('\'' :: text, c)
      | '\'' :: _ => some ([], c.advance)
      | ch :: _ =>
        if ch == ' ' || ch == '\t' || ch == '\n' then
          let blanks := c.rest.takeWhile fun ch => ch == ' ' || ch == '\t'
          let atBreak := c.advanceBy blanks.length
          if atBreak.peek? == some '\n' then do
            let (folded, next) := quotedBreak atBreak
            let (text, c) ← readSingle fuel next
            return (folded ++ text, c)
          else do
            let (text, c) ← readSingle fuel atBreak
            return (blanks ++ text, c)
        else do
          let (text, c) ← readSingle fuel c.advance
          return (ch :: text, c)

/-- A quoted scalar. -/
def readQuoted (c : Cursor) : Option (List Char × Cursor) :=
  match c.peek? with
  | some '"' => readDouble (c.rest.length + 1) c.advance
  | some '\'' => readSingle (c.rest.length + 1) c.advance
  | _ => none

/-! ## Block scalars -/

/-- What happens to the line ends at the end of a block scalar. -/
inductive Chomping where
  | strip
  | clip
  | keep
  deriving DecidableEq, Inhabited

/-- The indicators of a block scalar: its chomping and its indentation, in either order. -/
def blockIndicators : List Char → Chomping × Option Nat × List Char
  | '+' :: cs =>
    match cs with
    | d :: rest => if '1' ≤ d ∧ d ≤ '9' then (.keep, some (d.toNat - 48), rest) else (.keep, none, cs)
    | [] => (.keep, none, cs)
  | '-' :: cs =>
    match cs with
    | d :: rest => if '1' ≤ d ∧ d ≤ '9' then (.strip, some (d.toNat - 48), rest) else (.strip, none, cs)
    | [] => (.strip, none, cs)
  | d :: cs =>
    if '1' ≤ d ∧ d ≤ '9' then
      match cs with
      | '+' :: rest => (.keep, some (d.toNat - 48), rest)
      | '-' :: rest => (.strip, some (d.toNat - 48), rest)
      | _ => (.clip, some (d.toNat - 48), cs)
    else (.clip, none, d :: cs)
  | [] => (.clip, none, [])

/-- Blank lines of a block scalar and the indentation of the line behind them: how many line ends were
passed and how far the blanks went. With a known indentation blanks beyond it are content. -/
def blockBreaks (indent : Option Nat) : Nat → Nat → Nat → Cursor → Nat × Nat × Cursor
  | 0, breaks, widest, c => (breaks, widest, c)
  | fuel + 1, breaks, widest, c =>
    let next :=
      match indent with
      | none => c.skipWhile (· == ' ')
      | some n => c.advanceBy (min (c.rest.takeWhile (· == ' ')).length (n - c.column))
    let widest := max widest next.column
    if next.peek? == some '\n' then blockBreaks indent fuel (breaks + 1) widest next.advance
    else (breaks, widest, next)

/-- The lines of a block scalar from the one at the cursor on. `lead` is the line end before it, if it
still has to be written, and `breaks` are the blank lines behind that. -/
def blockLines (folded : Bool) (indent : Nat) (chomping : Chomping) :
    Nat → List Char → Nat → Bool → Cursor → List Char × Cursor
  | 0, _, _, _, c => ([], c)
  | fuel + 1, lead, breaks, leadBlank, c =>
    if c.column == indent && !c.atEnd && !atMarker c then
      let blankStart := c.peek? == some ' ' || c.peek? == some '\t'
      -- a line end between two lines of text is folded; beside an indented line it stays
      let joint :=
        if folded && !lead.isEmpty && !leadBlank && !blankStart then
          (if breaks = 0 then [' '] else []) ++ List.replicate breaks '\n'
        else lead ++ List.replicate breaks '\n'
      let text := c.rest.takeWhile (· != '\n')
      let atBreak := c.advanceBy text.length
      let (lead, next) := if atBreak.atEnd then ([], atBreak) else (['\n'], atBreak.advance)
      let (breaks, _, next) := blockBreaks (some indent) (next.rest.length + 1) 0 0 next
      let (more, c) := blockLines folded indent chomping fuel lead breaks blankStart next
      (joint ++ text ++ more, c)
    else
      let ending :=
        match chomping with
        | .strip => []
        | .clip => lead
        | .keep => lead ++ List.replicate breaks '\n'
      (ending, c)

/-- A block scalar below `parent`. -/
def readBlockScalar (parent : Int) (c : Cursor) : Option (Datum × Cursor) := do
  let folded := c.peek? == some '>'
  let (chomping, increment, rest) := blockIndicators c.advance.rest
  let c := c.advanceBy (c.rest.length - rest.length)
  let blanks := c.skipWhile fun ch => ch == ' ' || ch == '\t'
  let c := if blanks.peek? == some '#' then blanks.skipWhile (· != '\n') else blanks
  if !c.atEnd && c.peek? != some '\n' then none
  else
    let c := c.advance
    -- at the top level the parent stands at -1, and an indentation is counted from the margin
    let base := parent.toNat
    let indent := increment.map fun n => if parent < 0 then n else base + n
    let (breaks, widest, c) := blockBreaks indent (c.rest.length + 1) 0 0 c
    let indent := indent.getD (max 1 (max widest (parent + 1).toNat))
    let (text, c) := blockLines folded indent chomping (c.rest.length + 1) [] breaks false c
    return (.ofText (String.ofList text), c)

/-! ## Flow collections -/

/-- The text of a scalar, for a key. -/
def keyText? : Datum → Option String
  | .scalar s => s.text?
  | _ => none

mutual

/-- A node in flow context. -/
def readFlow : Nat → Cursor → Option (Datum × Cursor)
  | 0, _ => none
  | fuel + 1, c =>
    match c.peek? with
    | some '[' => (readFlowItems fuel (nextFlowToken c.advance)).map fun (items, c) => (.list items, c)
    | some '\x7b' =>
      (readFlowFields fuel (nextFlowToken c.advance)).map fun (fields, c) => (.table fields, c)
    | some '"' => (readQuoted c).map fun (text, c) => (.ofText (String.ofList text), c)
    | some '\'' => (readQuoted c).map fun (text, c) => (.ofText (String.ofList text), c)
    | _ =>
      if beginsPlain true c.rest && !atMarker c then
        let (first, c) := readPlainLine true c
        some (finishPlain true (-1) first c)
      else none

/-- The items of a flow sequence, up to its closing bracket. An item may be a single field. -/
def readFlowItems : Nat → Cursor → Option (List Datum × Cursor)
  | 0, _ => none
  | fuel + 1, c =>
    match c.peek? with
    | some ']' => some ([], c.advance)
    | _ => do
      let (item, c) ← readFlow fuel c
      let c := nextFlowToken c
      let (item, c) ←
        match c.peek? with
        | some ':' => do
          let key ← keyText? item
          let (value, c) ← readFlowValue fuel (nextFlowToken c.advance)
          pure (Datum.table [(key, value)], nextFlowToken c)
        | _ => pure (item, c)
      match c.peek? with
      | some ',' =>
        let (items, c) ← readFlowItems fuel (nextFlowToken c.advance)
        return (item :: items, c)
      | some ']' => return ([item], c.advance)
      | _ => none

/-- The value of a field, which may be left out. -/
def readFlowValue : Nat → Cursor → Option (Datum × Cursor)
  | 0, _ => none
  | fuel + 1, c =>
    match c.peek? with
    | some ',' => some (emptyScalar, c)
    | some ']' => some (emptyScalar, c)
    | some '\x7d' => some (emptyScalar, c)
    | _ => readFlow fuel c

/-- The fields of a flow mapping, up to its closing bracket. -/
def readFlowFields : Nat → Cursor → Option (List (String × Datum) × Cursor)
  | 0, _ => none
  | fuel + 1, c =>
    match c.peek? with
    | some '\x7d' => some ([], c.advance)
    | _ => do
      let (key, c) ← readFlow fuel c
      let key ← keyText? key
      let c := nextFlowToken c
      let (value, c) ←
        match c.peek? with
        | some ':' => readFlowValue fuel (nextFlowToken c.advance)
        | _ => pure (emptyScalar, c)
      let c := nextFlowToken c
      match c.peek? with
      | some ',' =>
        let (fields, c) ← readFlowFields fuel (nextFlowToken c.advance)
        return ((key, value) :: fields, c)
      | some '\x7d' => return ([(key, value)], c.advance)
      | _ => none

end

/-! ## Block collections -/

/-- The cursor behind the colon of a key, if one stands here. -/
def behindColon? (c : Cursor) : Option Cursor :=
  let c := c.skipWhile fun ch => ch == ' ' || ch == '\t'
  match c.rest with
  | ':' :: rest => if beginsBlank rest then some c.advance else none
  | _ => none

/-- A key with its colon, all on one line. -/
def readKey (c : Cursor) : Option (String × Cursor) := do
  let (text, behind) ←
    if beginsPlain false c.rest then some (readPlainLine false c) else readQuoted c
  if behind.line == c.line then (behindColon? behind).map fun c => (String.ofList text, c) else none

mutual

/-- A node at the cursor, below `parent`. Where `keys` holds, a block collection may begin here. -/
def readNode : Nat → Int → Bool → Cursor → Option (Datum × Cursor)
  | 0, _, _, _ => none
  | fuel + 1, parent, keys, c =>
    if atDash c then
      if keys then
        (readSequence fuel c.column c).map fun (items, c) => (.list items, c)
      else none
    else
      match readKey c with
      | some (key, behind) =>
        if keys then
          (readMapping fuel c.column key behind).map fun (fields, c) => (.table fields, c)
        else none
      | none =>
        match c.peek? with
        | some '|' => readBlockScalar parent c
        | some '>' => readBlockScalar parent c
        | some '[' => readFlow fuel c
        | some '\x7b' => readFlow fuel c
        | some '"' => readFlow fuel c
        | some '\'' => readFlow fuel c
        | _ =>
          if beginsPlain false c.rest then
            let (first, c) := readPlainLine false c
            some (finishPlain false parent first c)
          else none

/-- The entries of a block sequence, whose dashes stand at `column`. -/
def readSequence : Nat → Nat → Cursor → Option (List Datum × Cursor)
  | 0, _, _ => none
  | fuel + 1, column, c => do
    let start := nextToken false c.advance
    let (item, c) ←
      if atStop start || (start.fresh && start.column ≤ column) then some (emptyScalar, start)
      else readNode fuel column true start
    let c := nextToken true c
    if atStop c || (c.fresh && c.column < column) then return ([item], c)
    else if c.fresh && c.column == column then
      if atDash c then
        let (items, c) ← readSequence fuel column c
        return (item :: items, c)
      else return ([item], c)
    else none

/-- The entries of a block mapping whose keys stand at `column`, from the value of the key before the
cursor on. A sequence that is a value may stand at the column of the keys. -/
def readMapping : Nat → Nat → String → Cursor → Option (List (String × Datum) × Cursor)
  | 0, _, _, _ => none
  | fuel + 1, column, key, c => do
    let start := nextToken true c
    let (value, c) ←
      if atStop start then some (emptyScalar, start)
      else if !start.fresh then readNode fuel column false start
      else if start.column > column then readNode fuel column true start
      else if start.column == column && atDash start then
        (readSequence fuel column start).map fun (items, c) => (Datum.list items, c)
      else some (emptyScalar, start)
    let c := nextToken true c
    if atStop c || (c.fresh && c.column < column) then return ([(key, value)], c)
    else if c.fresh && c.column == column then
      let (next, behind) ← readKey c
      let (fields, c) ← readMapping fuel column next behind
      return ((key, value) :: fields, c)
    else none

end

/-! ## Documents -/

/-- Line ends as line feeds. -/
def normalizeBreaks : List Char → List Char
  | [] => []
  | '\r' :: '\n' :: cs => '\n' :: normalizeBreaks cs
  | '\r' :: cs => '\n' :: normalizeBreaks cs
  | '\u0085' :: cs => '\n' :: normalizeBreaks cs
  | c :: cs => c :: normalizeBreaks cs

/-- Whether a character may stand in a document. -/
def isAllowed (c : Char) : Bool :=
  let n := c.toNat
  n == 0x09 || n == 0x0A || (0x20 ≤ n && n ≤ 0x7E) || n == 0x85 || (0xA0 ≤ n && n ≤ 0xD7FF) ||
    (0xE000 ≤ n && n ≤ 0xFFFD && n != 0xFEFF) || 0x10000 ≤ n

/-- The cursor behind lines that begin with a percent sign, comments and blank lines. -/
def skipDirectives : Nat → Cursor → Cursor
  | 0, c => c
  | fuel + 1, c =>
    let c := nextToken false c
    if c.column == 0 && c.peek? == some '%' then skipDirectives fuel (c.skipWhile (· != '\n')) else c

/-- Whether only blanks, comments and one mark of the end stand behind a document. -/
def isFinished (c : Cursor) : Bool :=
  let c := nextToken true c
  if c.atEnd then true
  else if atMarker c && c.peek? == some '.' then (nextToken true (c.advanceBy 3)).atEnd
  else false

/-- **The datum in a text**, if the text is at most one document. -/
def parse (text : String) : Option Datum := do
  let cs :=
    match text.toList with
    | '\ufeff' :: cs => cs
    | cs => cs
  let cs := normalizeBreaks cs
  if !cs.all isAllowed then none
  else
    let fuel := 2 * cs.length + 2
    let first := nextToken false (Cursor.start cs)
    let directives := first.column == 0 && first.peek? == some '%'
    let c := skipDirectives fuel first
    let marked := atMarker c && c.peek? == some '-'
    if directives && !marked then none
    else
      let c := if marked then nextToken true (c.advanceBy 3) else c
      let (datum, c) ←
        if atStop c then some (emptyScalar, c) else readNode fuel (-1) c.fresh c
      if isFinished c then some datum else none

end UaHeaders.Yaml
