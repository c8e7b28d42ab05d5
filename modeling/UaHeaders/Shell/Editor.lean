import UaHeaders.Shell.LineText
import UaHeaders.Shell.Regex

/-!
# Editing lines

The stream editor `sed`: a script of instructions, each for the lines its addresses choose, is done
for every line.

## Main definitions

* `UaHeaders.Shell.Editor.Instruction` — an instruction with its addresses.
* `UaHeaders.Shell.Editor.readScript` — a script from its text, or the cause why it is none.
* `UaHeaders.Shell.Editor.substitute` — matches replaced in one line.
* `UaHeaders.Shell.Editor.edit` — a script done for all lines.
* `UaHeaders.Shell.sed` — the utility.
-/

set_option autoImplicit false

namespace UaHeaders.Shell

namespace Editor

/-! ## Instructions -/

/-- What chooses a line. -/
inductive Address where
  | number (n : Nat)
  | last
  | matching (r : Regex) (folded : Bool)

/-- A part of a replacement. -/
inductive Insert where
  | char (c : Char)
  | group (number : Nat)

/-- **A replacement of matches**: of the `nth` match, or with `everywhere` of that and all behind it. -/
structure Substitution where
  pattern : Regex
  folded : Bool
  replacement : List Insert
  nth : Nat
  everywhere : Bool
  prints : Bool

/-- What is done to a line. -/
inductive Action where
  | substitute (s : Substitution)
  | exchange (source target : List Char)
  | delete
  | print
  | quit (status : Nat)
  | tell
  | before (text : List Char)
  | behind (text : List Char)
  | change (text : List Char)

/-- **An instruction with its addresses.** With one address it is for the lines that it chooses, with
two for the lines from the first to the second; `negated` exchanges these lines and the others. -/
structure Instruction where
  first : Option Address
  second : Option Address
  negated : Bool
  action : Action

/-! ## Reading -/

/-- **Why a script cannot be read.** -/
inductive Cause where
  | unknownCommand (c : Char)
  | missingCommand
  | unterminated (c : Char)
  | unterminatedAddress
  | unknownOption
  | extraCharacters
  | badPattern

/-- The wording of a cause. -/
def Cause.message : Cause → String
  | unknownCommand c => "unknown command: \x60" ++ String.singleton c ++ "'"
  | missingCommand => "missing command"
  | unterminated c => "unterminated \x60" ++ String.singleton c ++ "' command"
  | unterminatedAddress => "unterminated address regex"
  | unknownOption => "unknown option to \x60s'"
  | extraCharacters => "extra characters after command"
  | badPattern => "Unmatched ( or \\("

/-- What was read, or a cause and the number of characters behind the place where it shows. -/
abbrev Reading := Except (Cause × Nat)

/-- Text up to a delimiter, which a backslash protects, and the rest. -/
def readDelimited (cause : Cause) (delimiter : Char) (done : List Char) :
    List Char → Reading (List Char × List Char)
  | [] => .error (cause, 0)
  | '\\' :: c :: cs =>
    if c == delimiter then readDelimited cause delimiter (c :: done) cs
    else readDelimited cause delimiter (c :: '\\' :: done) cs
  | c :: cs =>
    if c == delimiter then .ok (done.reverse, cs)
    else readDelimited cause delimiter (c :: done) cs

/-- The expression of a text, in front of `rest`. -/
def readPattern (extended : Bool) (text rest : List Char) : Reading Regex :=
  match Regex.read extended text with
  | some r => .ok r
  | none => .error (.badPattern, rest.length)

/-- The parts of a replacement. -/
def readInserts : List Char → List Insert
  | [] => []
  | '&' :: cs => .group 0 :: readInserts cs
  | '\\' :: 'n' :: cs => .char '\n' :: readInserts cs
  | '\\' :: 't' :: cs => .char '\t' :: readInserts cs
  | '\\' :: c :: cs =>
    (if c.isDigit then .group (c.toNat - 48) else .char c) :: readInserts cs
  | c :: cs => .char c :: readInserts cs

/-- The text without blanks at its start. -/
def skipBlank (cs : List Char) : List Char := cs.dropWhile fun c => c == ' ' || c == '\t'

/-- Reads an address, if one stands at the start. -/
def readAddress (extended : Bool) (cs : List Char) : Reading (Option Address × List Char) :=
  match cs with
  | '$' :: rest => .ok (some .last, rest)
  | '/' :: rest => do
    let (text, rest) ← readDelimited .unterminatedAddress '/' [] rest
    let r ← readPattern extended text rest
    match rest with
    | 'I' :: rest => .ok (some (.matching r true), rest)
    | rest => .ok (some (.matching r false), rest)
  | cs =>
    let digits := cs.takeWhile Char.isDigit
    if digits.isEmpty then .ok (none, cs)
    else .ok (some (.number (decimalValue digits)), cs.drop digits.length)

/-- Reads the flags of a replacement. -/
def readFlags (s : Substitution) : Nat → List Char → Substitution × List Char
  | 0, cs => (s, cs)
  | bound + 1, cs =>
    match cs with
    | 'g' :: rest => readFlags { s with everywhere := true } bound rest
    | 'p' :: rest => readFlags { s with prints := true } bound rest
    | 'i' :: rest => readFlags { s with folded := true } bound rest
    | 'I' :: rest => readFlags { s with folded := true } bound rest
    | c :: _ =>
      if c.isDigit then
        let digits := cs.takeWhile Char.isDigit
        readFlags { s with nth := decimalValue digits } bound (cs.drop digits.length)
      else (s, cs)
    | [] => (s, [])

/-- The text of an instruction that has one: behind a backslash and a line end, or on the same line. -/
def readText (cs : List Char) : List Char × List Char :=
  let cs := match skipBlank cs with
    | '\\' :: cs =>
      match skipBlank cs with
      | '\n' :: rest => rest
      | rest => rest
    | rest => rest
  (cs.takeWhile (· != '\n'), cs.dropWhile (· != '\n'))

/-- Reads an action. -/
def readAction (extended : Bool) (cs : List Char) : Reading (Action × List Char) :=
  match cs with
  | 's' :: d :: rest => do
    let (pattern, rest) ← readDelimited (.unterminated 's') d [] rest
    let (replacement, rest) ← readDelimited (.unterminated 's') d [] rest
    let r ← readPattern extended pattern rest
    let (s, rest) := readFlags ⟨r, false, readInserts replacement, 1, false, false⟩
      (rest.length + 1) rest
    match skipBlank rest with
    | [] => .ok (.substitute s, rest)
    | c :: after =>
      if ";\n\x7d#".toList.contains c then .ok (.substitute s, rest)
      else .error (.unknownOption, after.length)
  | 'y' :: d :: rest => do
    let (source, rest) ← readDelimited (.unterminated 'y') d [] rest
    let (target, rest) ← readDelimited (.unterminated 'y') d [] rest
    .ok (.exchange source target, rest)
  | 'd' :: rest => .ok (.delete, rest)
  | 'p' :: rest => .ok (.print, rest)
  | '=' :: rest => .ok (.tell, rest)
  | 'q' :: rest =>
    let rest := skipBlank rest
    let digits := rest.takeWhile Char.isDigit
    .ok (.quit (decimalValue digits), rest.drop digits.length)
  | 'i' :: rest => let (text, rest) := readText rest; .ok (.before text, rest)
  | 'a' :: rest => let (text, rest) := readText rest; .ok (.behind text, rest)
  | 'c' :: rest => let (text, rest) := readText rest; .ok (.change text, rest)
  | ['s'] => .error (.unterminated 's', 0)
  | ['y'] => .error (.unterminated 'y', 0)
  | c :: rest => .error (.unknownCommand c, rest.length)
  | [] => .error (.missingCommand, 0)

/-- Reads an instruction. -/
def readInstruction (extended : Bool) (cs : List Char) : Reading (Instruction × List Char) := do
  let (first, rest) ← readAddress extended cs
  let (second, rest) ← match first, skipBlank rest with
    | some _, ',' :: rest => readAddress extended (skipBlank rest)
    | _, rest => .ok (none, rest)
  let (negated, rest) := match skipBlank rest with
    | '!' :: rest => (true, rest)
    | rest => (false, rest)
  let (action, rest) ← readAction extended (skipBlank rest)
  .ok (⟨first, second, negated, action⟩, rest)

/-- Reads instructions set apart by semicolons and line ends. -/
def readInstructions (extended : Bool) : Nat → List Char → Reading (List Instruction)
  | 0, _ => .ok []
  | bound + 1, cs =>
    match cs.dropWhile fun c => c == ' ' || c == '\t' || c == ';' || c == '\n' with
    | [] => .ok []
    | '#' :: rest => readInstructions extended bound (rest.dropWhile (· != '\n'))
    | rest => do
      let (instruction, rest) ← readInstruction extended rest
      match skipBlank rest with
      | [] => .ok [instruction]
      | c :: rest =>
        if c == ';' || c == '\n' then
          .ok (instruction :: (← readInstructions extended bound rest))
        else .error (.extraCharacters, rest.length)

/-- **A script from its text**, or why it is none and behind how many characters that shows. -/
def readScript (extended : Bool) (text : String) : Except (Cause × Nat) (List Instruction) :=
  let cs := textChars text
  (readInstructions extended (cs.length + 1) cs).mapError fun (cause, left) =>
    (cause, cs.length - left)

/-! ## Doing -/

/-- The characters that take the place of the match from one place to another. -/
def replaced (inserts : List Insert) (start stop : Place) : List Char :=
  inserts.flatMap fun
    | .char c => [c]
    | .group 0 => start.rest.take (stop.position - start.position)
    | .group n => stop.groupText n

/-- Goes through a line from a place behind `count` matches. An empty match right behind another one
is none. The second component tells whether a match was replaced. -/
def substituteFrom (s : Substitution) : Nat → Nat → Bool → Place → List Char × Bool
  | 0, _, _, at_ => (at_.rest, false)
  | bound + 1, count, behindMatch, at_ =>
    let step := fun (count : Nat) (shown : List Char) =>
      match at_.next? with
      | none => (shown, false)
      | some (c, next) =>
        let (more, done) := substituteFrom s bound count false next
        (shown ++ c :: more, done)
    match Regex.longest? s.folded s.pattern { at_ with groups := [] } with
    | none => step count []
    | some stop =>
      let isEmpty := stop.position == at_.position
      if isEmpty && behindMatch then step count []
      else
        let applies := if s.everywhere then s.nth ≤ count + 1 else count + 1 == s.nth
        let shown :=
          if applies then replaced s.replacement at_ stop
          else at_.rest.take (stop.position - at_.position)
        if applies && !s.everywhere then (shown ++ stop.rest, true)
        else
          let (more, done) :=
            if isEmpty then step (count + 1) shown
            else
              let (more, done) := substituteFrom s bound (count + 1) true stop
              (shown ++ more, done)
          (more, applies || done)

/-- **The line with matches replaced**, and whether there were any. -/
def substitute (s : Substitution) (line : List Char) : List Char × Bool :=
  substituteFrom s (2 * line.length + 2) 0 false (.ofLine line)

/-- Where an instruction stands between its addresses: not begun, or begun. -/
abbrev Begun := List Bool

/-- Whether an address chooses a line. -/
def Address.chooses (a : Address) (number : Nat) (isLast : Bool) (line : List Char) : Bool :=
  match a with
  | .number n => n == number
  | .last => isLast
  | .matching r folded => (Regex.find folded r line).isSome

/-- Whether the addresses of an instruction choose a line, and whether a later line may end them. -/
def Instruction.chooses (i : Instruction) (begun : Bool) (number : Nat) (isLast : Bool)
    (line : List Char) : Bool × Bool :=
  match i.first, i.second with
  | none, _ => (true, false)
  | some a, none => (a.chooses number isLast line, false)
  | some a, some b =>
    if begun then
      match b with
      | .number n => if n < number then (a.chooses number isLast line, false) else (true, n != number)
      | b => (true, !b.chooses number isLast line)
    else if a.chooses number isLast line then
      match b with
      | .number n => (true, number < n)
      | _ => (true, true)
    else (false, false)

/-- **What has become of a line**: what is printed above it, the line itself unless it is gone, what
is printed below, and the status with which the editor ends. -/
structure Outcome where
  above : List (List Char)
  line : Option (List Char)
  below : List (List Char)
  ended : Option Nat

/-- Does an action to a line that is still there. -/
def Action.apply (a : Action) (number : Nat) (inRange : Bool) (line : List Char) (o : Outcome) :
    Outcome :=
  match a with
  | .substitute s =>
    let (line', done) := Editor.substitute s line
    { o with line := some line', above := o.above ++ if done && s.prints then [line'] else [] }
  | .exchange source target =>
    { o with line := some (line.map fun c =>
        match source.findIdx? (· == c) with
        | some i => target.getD i c
        | none => c) }
  | .delete => { o with line := none }
  | .print => { o with above := o.above ++ [line] }
  | .quit status => { o with ended := some status }
  | .tell => { o with above := o.above ++ [(toString number).toList] }
  | .before text => { o with above := o.above ++ [text] }
  | .behind text => { o with below := o.below ++ [text] }
  | .change text => { o with line := none, above := o.above ++ if inRange then [] else [text] }

/-- Does instructions to a line one after the other, until it is gone or the editor ends. -/
def applyAll (number : Nat) (isLast : Bool) : List Instruction → Begun → Outcome → Outcome × Begun
  | [], _, o => (o, [])
  | i :: is, begun, o =>
    match o.line, o.ended with
    | some line, none =>
      let (chosen, goesOn) := i.chooses (begun.headD false) number isLast line
      let o := if chosen != i.negated then i.action.apply number (goesOn && !isLast) line o else o
      let (o, more) := applyAll number isLast is begun.tail o
      (o, goesOn :: more)
    | _, _ => (o, begun)

/-- **What has become of lines**: those printed, whether the last of them is the last line that was
there, and the status with which the editor ended before it came to the last. -/
structure Edited where
  lines : List (List Char)
  reachesEnd : Bool
  ended : Option Nat

/-- What is printed for a line. -/
def Outcome.shown (o : Outcome) (silent : Bool) : List (List Char) :=
  o.above ++ (if silent then [] else o.line.toList) ++ o.below

/-- Goes through lines with the number of the first. -/
def editFrom (silent : Bool) (script : List Instruction) : Nat → Begun → List (List Char) → Edited
  | _, _, [] => ⟨[], false, none⟩
  | number, begun, line :: rest =>
    let (o, begun) := applyAll number rest.isEmpty script begun ⟨[], some line, [], none⟩
    let shown := o.shown silent
    if rest.isEmpty || o.ended.isSome then
      let endsWithLine :=
        o.below.isEmpty && (if silent || o.line.isNone then !o.above.isEmpty else true)
      ⟨shown, rest.isEmpty && endsWithLine, o.ended⟩
    else
      let more := editFrom silent script (number + 1) begun rest
      { more with lines := shown ++ more.lines }

/-- **A script done for all lines**, and the status with which the editor ended before the last. Only
the last line that was there may stay without its end. -/
def edit (silent : Bool) (script : List Instruction) (x : LineText) : LineText × Option Nat :=
  let edited := editFrom silent script 1 [] x.lines
  (⟨edited.lines, x.ended || !edited.reachesEnd⟩, edited.ended)

/-- What the editor is asked to do. -/
structure Request where
  silent : Bool
  extended : Bool
  inPlace : Option String
  scripts : List String
  files : List String

/-- Reads the arguments of the editor. -/
def readArgs (r : Request) : List String → Request
  | [] => r
  | "-n" :: rest => readArgs { r with silent := true } rest
  | "-E" :: rest => readArgs { r with extended := true } rest
  | "-r" :: rest => readArgs { r with extended := true } rest
  | "-s" :: rest => readArgs r rest
  | "--" :: rest => { r with files := r.files ++ rest }
  | "-e" :: script :: rest => readArgs { r with scripts := r.scripts ++ [script] } rest
  | "-ni" :: rest => readArgs { r with silent := true, inPlace := some "" } rest
  | "-Ei" :: rest => readArgs { r with extended := true, inPlace := some "" } rest
  | "-ri" :: rest => readArgs { r with extended := true, inPlace := some "" } rest
  | arg :: rest =>
    match arg.toList with
    | '-' :: 'i' :: ending => readArgs { r with inPlace := some (String.ofList ending) } rest
    | _ => readArgs { r with files := r.files ++ [arg] } rest

/-- The request that arguments make: without `-e` the first of the others is the script. -/
def Request.ofArgs (args : List String) : Request :=
  let r := readArgs ⟨false, false, none, [], []⟩ args
  if r.scripts.isEmpty then { r with scripts := r.files.take 1, files := r.files.drop 1 } else r

/-- Edits a file in its place, and keeps it as it was under another name if an ending is given. -/
def editFile (r : Request) (script : List Instruction) (ending : String) (p : Process)
    (t : FileTree) (name : String) : Process × FileTree :=
  let path := p.pathOf name
  match t.read path with
  | .error .isDirectory => p.complain t 4 ("sed: couldn't edit " ++ name ++ ": not a regular file")
  | .error cause => p.complain t 2 ("sed: can't read " ++ name ++ ": " ++ cause.reason)
  | .ok content =>
    let (edited, ended) := edit r.silent script (.ofOctets content.toList)
    let kept := if ending.isEmpty then .ok t
      else do
        let copy := p.pathOf (name ++ ending)
        (← t.write copy content).setMode copy (← t.mode? path)
    match kept >>= fun t => t.write path (octets edited.toOctets) with
    | .ok t => (p.withStatus (ended.getD p.status), t)
    | .error cause => p.complain t 4 ("sed: couldn't edit " ++ name ++ ": " ++ cause.reason)

end Editor

/-- **Edits lines by a script**, of files in their place or for printing. -/
def sed : Utility := fun p t args =>
  let r := Editor.Request.ofArgs args
  if r.scripts.isEmpty then
    p.complain t 1 "Usage: sed [OPTION]... \x7bscript-only-if-no-other-script\x7d [input-file]..."
  else
    match Editor.readScript r.extended ("\n".intercalate r.scripts) with
    | .error (cause, place) =>
      p.complain t 1 ("sed: -e expression #1, char " ++ toString place ++ ": " ++ cause.message)
    | .ok script =>
      match r.inPlace with
      | some ending =>
        r.files.foldl (fun (state : Process × FileTree) name =>
          Editor.editFile r script ending state.1 state.2 name) (p, t)
      | none =>
        let (contents, p, t) := p.inputs t 2
          (fun name cause => "sed: can't read " ++ name ++ ": " ++ cause.reason) r.files
        let texts := contents.map fun c => LineText.ofOctets c.2
        let all : LineText :=
          ⟨texts.flatMap LineText.lines, (texts.getLast?.map LineText.ended).getD true⟩
        let (edited, ended) := Editor.edit r.silent script all
        let p := p.withStatus (ended.getD p.status)
        p.emit t 1 (octets edited.toOctets)

end UaHeaders.Shell
