import UaHeaders.Shell.LineText
import UaHeaders.Shell.Regex

/-!
# Filters

The utilities that read lines and print some of them, or something about them.

## Main definitions

* `UaHeaders.Shell.translate` — characters exchanged, deleted or squeezed.
* `UaHeaders.Shell.grep` — lines in which an expression is found.
* `UaHeaders.Shell.head`, `tail` — the first and the last lines or octets.
* `UaHeaders.Shell.sort`, `uniq`, `cut` — lines in order, without repeats, and in part.
* `UaHeaders.Shell.compareFiles` — whether two files are equal.
* `UaHeaders.Shell.count` — the numbers of lines, words and octets.
* `UaHeaders.Shell.tee`, `seq` — copies of the input, and numbers.
-/

set_option autoImplicit false

namespace UaHeaders.Shell

/-! ## Arguments -/

/-- The letters of the options among arguments, and the arguments that are none. A single dash is a
file. -/
def splitOptions (args : List String) : List Char × List String :=
  args.foldr
    (fun arg (letters, rest) =>
      if arg.startsWith "-" && arg != "-" && arg != "--" then (arg.toList.drop 1 ++ letters, rest)
      else if arg == "--" then (letters, rest)
      else (letters, arg :: rest))
    ([], [])

/-- The complaint about a missing argument. -/
def missingOperand (label what : String) : String :=
  label ++ ": missing " ++ what ++ "\nTry '" ++ label ++ " --help' for more information."

/-! ## Translating -/

/-- The octets that a set of `tr` stands for. -/
def setOctets : Nat → List Char → List UInt8
  | 0, _ => []
  | _ + 1, [] => []
  | bound + 1, '[' :: ':' :: cs =>
    match readClass cs with
    | some (ranges, rest) =>
      ranges.flatMap (fun (low, high) =>
        (List.range (high.toNat + 1 - low.toNat)).map fun n => UInt8.ofNat (low.toNat + n)) ++
        setOctets bound rest
    | none => charOctets '[' ++ setOctets bound (':' :: cs)
  | bound + 1, '\\' :: c :: cs =>
    if isOctal c then
      let digits := ((c :: cs).take 3).takeWhile isOctal
      UInt8.ofNat (octalValue digits) :: setOctets bound ((c :: cs).drop digits.length)
    else
      (match escapeOctet? c with
        | some octet => [octet]
        | none => charOctets c) ++ setOctets bound cs
  | bound + 1, c :: '-' :: d :: cs =>
    (List.range (d.toNat + 1 - c.toNat)).flatMap (fun n => charOctets (Char.ofNat (c.toNat + n))) ++
      setOctets bound cs
  | bound + 1, c :: cs => charOctets c ++ setOctets bound cs

/-- The octets of a whole set. -/
def setOf (s : String) : List UInt8 := setOctets (s.length + 1) s.toList

/-- The octet that takes the place of one, by two sets of equal rank; the last of the second set stands
in for all that it lacks. -/
def translateOctet (source target : List UInt8) (b : UInt8) : UInt8 :=
  match source.findIdx? (· == b) with
  | some i => target[i]?.getD (target.getLast?.getD b)
  | none => b

/-- Runs of one octet of a set shortened to a single one. -/
def squeeze (set : List UInt8) : Option UInt8 → List UInt8 → List UInt8
  | _, [] => []
  | last, b :: bs =>
    if set.contains b && last == some b then squeeze set last bs else b :: squeeze set (some b) bs

/-- **Exchanges, deletes or squeezes characters of the input.** -/
def translate : Utility := fun p t args =>
  let (letters, sets) := splitOptions args
  let input := p.streams.input
  let p := p.withInput []
  let complement := fun (set : List UInt8) =>
    if letters.contains 'c' || letters.contains 'C' then
      ((List.range 256).map UInt8.ofNat).filter fun b => !set.contains b
    else set
  let print := fun (bytes : List UInt8) => p.emit t 1 (octets bytes)
  match letters.contains 'd', letters.contains 's', sets.map setOf with
  | true, false, [set] => print (input.filter fun b => !(complement set).contains b)
  | true, true, [set, squeezed] =>
    print (squeeze squeezed none (input.filter fun b => !(complement set).contains b))
  | false, true, [set] => print (squeeze (complement set) none input)
  | false, true, [source, target] =>
    print (squeeze target none (input.map (translateOctet (complement source) target)))
  | false, false, [source, target] => print (input.map (translateOctet (complement source) target))
  | _, _, [] => p.complain t 1 (missingOperand "tr" "operand")
  | _, _, _ =>
    p.complain t 1 ("tr: missing operand after '" ++ sets.headD "" ++
      "'\nTwo strings must be given when translating.\nTry 'tr --help' for more information.")

/-! ## Searching -/

/-- **What a search is asked for.** -/
structure Search where
  folded : Bool
  inverted : Bool
  counts : Bool
  quiet : Bool
  names : Bool
  numbers : Bool
  parts : Bool
  wholeLines : Bool
  wholeWords : Bool

/-- The parts of a line that an expression matches. -/
def matchedParts (folded : Bool) (r : Regex) : Nat → Place → List (List Char)
  | 0, _ => []
  | bound + 1, s =>
    match Regex.findFrom folded r (s.rest.length + 1) s with
    | none => []
    | some (start, stop) =>
      if stop.position == start.position then
        match stop.next? with
        | some (_, next) => matchedParts folded r bound next
        | none => []
      else start.rest.take (stop.position - start.position) :: matchedParts folded r bound stop

/-- Whether a line is one of those that are searched for. -/
def Search.finds (s : Search) (r : Regex) (line : List Char) : Bool :=
  let found := match Regex.find s.folded r line with
    | some (_, _) => true
    | none => false
  found != s.inverted

/-- What a search prints for one file, and whether it found a line. -/
def Search.report (s : Search) (r : Regex) (label : Option String) (name : String)
    (x : LineText) : List (List Char) × Bool :=
  let found := x.lines.zipIdx.filter fun (line, _) => s.finds r line
  let lead := match label with
    | some l => textChars (l ++ ":")
    | none => []
  let shown :=
    if s.quiet then []
    else if s.counts then [lead ++ (toString found.length).toList]
    else if s.names then (if found.isEmpty then [] else [textChars name])
    else
      found.flatMap fun (line, i) =>
        let lead := lead ++ if s.numbers then (toString (i + 1) ++ ":").toList else []
        if s.parts then
          (matchedParts s.folded r (line.length + 1) (.ofLine line)).map (lead ++ ·)
        else [lead ++ line]
  (shown, !found.isEmpty)

/-- The expression for several patterns, of which any may be found. -/
def anyOf (read : List Char → Option Regex) (wholeLines wholeWords : Bool)
    (patterns : List String) : Option Regex := do
  let all ← (patterns.flatMap fun text => (LineText.ofChars (textChars text ++ ['\n'])).lines).mapM
    read
  let between := fun (before after : Regex) =>
    all.map fun r => Regex.both before (.both r after)
  let all :=
    if wholeLines then between .lineStart .lineEnd
    else if wholeWords then between .notBehindWord .notBeforeWord
    else all
  match all with
  | [] => none
  | r :: rs => some (rs.foldl Regex.either r)

/-- Takes the patterns given by `-e` out of arguments. -/
def takePatterns : List String → List String × List String
  | "-e" :: pattern :: rest =>
    let (patterns, others) := takePatterns rest
    (pattern :: patterns, others)
  | arg :: rest =>
    let (patterns, others) := takePatterns rest
    (patterns, arg :: others)
  | [] => ([], [])

/-- **Prints the lines in which an expression is found**; succeeds if there are any. -/
def grep : Utility := fun p t args =>
  let (patterns, args) := takePatterns args
  let (letters, rest) := splitOptions args
  let has := letters.contains
  let (patterns, files) := if patterns.isEmpty then (rest.take 1, rest.drop 1) else (patterns, rest)
  let read := fun (text : List Char) =>
    if has 'F' then some (Regex.ofText text) else Regex.read (has 'E') text
  let s : Search :=
    { folded := has 'i', inverted := has 'v', counts := has 'c', quiet := has 'q', names := has 'l',
      numbers := has 'n', parts := has 'o', wholeLines := has 'x', wholeWords := has 'w' }
  match anyOf read s.wholeLines s.wholeWords patterns with
  | none =>
    p.complain t 2 ("Usage: grep [OPTION]... PATTERNS [FILE]...\n" ++
      "Try 'grep --help' for more information.")
  | some r =>
    let (contents, p, t) := p.inputs t 2 (usualComplaint "grep") files
    let several := (files.length > 1 && !has 'h') || has 'H'
    let reports := contents.map fun (name, bytes) =>
      s.report r (if several then some name else none) name (.ofOctets bytes)
    let (p, t) := p.emit t 1 (octets (LineText.ofLines (reports.flatMap Prod.fst)).toOctets)
    let found := reports.any Prod.snd
    let status := if found && (has 'q' || p.status == 0) then 0
      else if p.status == 0 then 1 else p.status
    (p.withStatus status, t)

/-! ## Parts of a text -/

/-- The number asked for by `-n`, `-c` or the digits alone, whether it counts octets, and the files. -/
def readCount : List String → (Nat × Bool × Bool) → (Nat × Bool × Bool) × List String
  | [], asked => (asked, [])
  | arg :: rest, (n, bytes, plus) =>
    let value := fun (text : List Char) =>
      match text with
      | '+' :: ds => (decimalValue ds, true)
      | '-' :: ds => (decimalValue ds, false)
      | ds => (decimalValue ds, false)
    let files := fun (result : (Nat × Bool × Bool) × List String) => (result.1, arg :: result.2)
    match arg.toList, rest with
    | ['-', 'n'], count :: rest =>
      let (n, plus) := value count.toList
      readCount rest (n, false, plus)
    | ['-', 'c'], count :: rest =>
      let (n, plus) := value count.toList
      readCount rest (n, true, plus)
    | '-' :: 'n' :: ds, rest =>
      let (n, plus) := value ds
      readCount rest (n, false, plus)
    | '-' :: 'c' :: ds, rest =>
      let (n, plus) := value ds
      readCount rest (n, true, plus)
    | '-' :: d :: ds, rest =>
      if d.isDigit then readCount rest (decimalValue (d :: ds), false, false)
      else readCount rest (n, bytes, plus)
    | _, rest => files (readCount rest (n, bytes, plus))

/-- Prints a part of each file, with its name above if there are several. -/
def partOfEach (label : String) (part : List UInt8 → List UInt8) (files : List String) :
    Process → FileTree → Process × FileTree := fun p t =>
  let complaint := fun (name : String) (cause : Fault) =>
    if cause == .isDirectory then label ++ ": error reading '" ++ name ++ "': " ++ cause.reason
    else label ++ ": cannot open '" ++ name ++ "' for reading: " ++ cause.reason
  let (contents, p, t) := p.inputs t 1 complaint files
  let shown := contents.zipIdx.flatMap fun ((name, bytes), i) =>
    let title := if files.length ≤ 1 then []
      else ((if i == 0 then "" else "\n") ++ "==> " ++ name ++ " <==\n").toUTF8.toList
    title ++ part bytes
  p.emit t 1 (octets shown)

/-- The octets of some of the lines. -/
def someLines (choose : List (List Char) → List (List Char)) (fromEnd : Bool)
    (bytes : List UInt8) : List UInt8 :=
  let x := LineText.ofOctets bytes
  let chosen := choose x.lines
  let reachesEnd := fromEnd || chosen.length == x.lines.length
  (LineText.mk chosen (x.ended || !reachesEnd || chosen.isEmpty)).toOctets

/-- **Prints the first lines** or octets. -/
def head : Utility := fun p t args =>
  let ((n, bytes, _), files) := readCount args (10, false, false)
  let part := fun (content : List UInt8) =>
    if bytes then content.take n else someLines (·.take n) false content
  partOfEach "head" part files p t

/-- **Prints the last lines** or octets, or those from a place on. -/
def tail : Utility := fun p t args =>
  let ((n, bytes, plus), files) := readCount args (10, false, false)
  let skipped := fun (length : Nat) => if plus then n - 1 else length - n
  let part := fun (content : List UInt8) =>
    if bytes then content.drop (skipped content.length)
    else someLines (fun ls => ls.drop (skipped ls.length)) true content
  partOfEach "tail" part files p t

/-- The lines of all files together. -/
def allLines (contents : List (String × List UInt8)) : List (List Char) :=
  contents.flatMap fun c => (LineText.ofOctets c.2).lines

/-! ## Lines in order -/

/-- The number at the start of a line. -/
def leadingNumber (line : List Char) : Int :=
  match line.dropWhile (· == ' ') with
  | '-' :: cs => -(decimalValue (cs.takeWhile Char.isDigit) : Int)
  | cs => decimalValue (cs.takeWhile Char.isDigit)

/-- Takes the file after `-o` out of arguments. -/
def takeOutput : List String → Option String × List String
  | "-o" :: name :: rest => (some name, (takeOutput rest).2)
  | arg :: rest =>
    let (name, others) := takeOutput rest
    (name, arg :: others)
  | [] => (none, [])

/-- Lines of which no two neighbours are equal. -/
def withoutRepeats (lines : List (List Char)) : List (List Char × Nat) :=
  lines.foldr
    (fun line groups =>
      match groups with
      | (other, n) :: rest => if line == other then (line, n + 1) :: rest else (line, 1) :: groups
      | [] => [(line, 1)])
    []

/-- **Prints lines in order.** -/
def sort : Utility := fun p t args =>
  let (output, args) := takeOutput args
  let (letters, files) := splitOptions args
  let complaint := fun (name : String) (cause : Fault) =>
    "sort: cannot read: " ++ name ++ ": " ++ cause.reason
  let (contents, p, t) := p.inputs t 2 complaint files
  let key := fun (line : List Char) => if letters.contains 'f' then line.map Char.toUpper else line
  let before := fun (a b : List Char) =>
    if letters.contains 'n' && leadingNumber a != leadingNumber b then
      decide (leadingNumber a < leadingNumber b)
    else if key a == key b then precedes a b else precedes (key a) (key b)
  let sorted := (allLines contents).mergeSort
    fun a b => if letters.contains 'r' then before b a else before a b
  let lines := if letters.contains 'u' then (withoutRepeats sorted).map Prod.fst else sorted
  let shown := octets (LineText.ofLines lines).toOctets
  if p.status != 0 then (p, t)
  else
    match output with
    | none => p.emit t 1 shown
    | some name =>
      match t.write (p.pathOf name) shown with
      | .ok t => (p, t)
      | .error cause => p.complain t 2 ("sort: open failed: " ++ name ++ ": " ++ cause.reason)

/-- **Prints lines without repeats.** -/
def uniq : Utility := fun p t args =>
  let (letters, files) := splitOptions args
  let (contents, p, t) := p.inputs t 1 (usualComplaint "uniq") (files.take 1)
  let groups := (withoutRepeats (allLines contents)).filter fun (_, n) =>
    (!letters.contains 'd' || n > 1) && (!letters.contains 'u' || n == 1)
  let lines := groups.map fun (line, n) =>
    if letters.contains 'c' then
      let number := (toString n).toList
      List.replicate (7 - number.length) ' ' ++ number ++ ' ' :: line
    else line
  p.emit t 1 (octets (LineText.ofLines lines).toOctets)

/-- The places a list such as `1,3-5` chooses: from and perhaps up to. -/
def readPlaces (text : String) : List (Nat × Option Nat) :=
  (text.toList.splitOn ',').map fun part =>
    match part.splitOn '-' with
    | [n] => (decimalValue n, some (decimalValue n))
    | [low, high] =>
      (if low.isEmpty then 1 else decimalValue low,
        if high.isEmpty then none else some (decimalValue high))
    | _ => (1, none)

/-- The items that stand at chosen places. -/
def chosen {α : Type} (places : List (Nat × Option Nat)) (items : List α) : List α :=
  (items.zipIdx.filter fun (_, i) =>
    places.any fun (low, high) => low ≤ i + 1 && high.all fun h => i + 1 ≤ h).map Prod.fst

/-- What `cut` is asked for: the delimiter, the places, whether they count fields, and the files. -/
def readCut : List String → (Char × String × Bool × Bool) → (Char × String × Bool × Bool) × List String
  | [], asked => (asked, [])
  | arg :: rest, (delimiter, places, fields, only) =>
    match arg.toList, rest with
    | ['-', 'd'], d :: rest => readCut rest (d.toList.headD '\t', places, fields, only)
    | ['-', 'f'], list :: rest => readCut rest (delimiter, list, true, only)
    | ['-', 'c'], list :: rest => readCut rest (delimiter, list, false, only)
    | ['-', 'b'], list :: rest => readCut rest (delimiter, list, false, only)
    | ['-', 's'], rest => readCut rest (delimiter, places, fields, true)
    | '-' :: 'd' :: ds, rest => readCut rest (ds.headD '\t', places, fields, only)
    | '-' :: 'f' :: list, rest => readCut rest (delimiter, String.ofList list, true, only)
    | '-' :: 'c' :: list, rest => readCut rest (delimiter, String.ofList list, false, only)
    | '-' :: 'b' :: list, rest => readCut rest (delimiter, String.ofList list, false, only)
    | _, rest =>
      let (asked, files) := readCut rest (delimiter, places, fields, only)
      (asked, arg :: files)

/-- **Prints parts of lines.** -/
def cut : Utility := fun p t args =>
  let ((delimiter, places, fields, only), files) := readCut args ('\t', "", true, false)
  let (contents, p, t) := p.inputs t 1 (usualComplaint "cut") files
  let lines := (allLines contents).filterMap fun line =>
    if !fields then some (chosen (readPlaces places) line)
    else if line.contains delimiter then
      some ([delimiter].intercalate (chosen (readPlaces places) (line.splitOn delimiter)))
    else if only then none else some line
  p.emit t 1 (octets (LineText.ofLines lines).toOctets)

/-- **Prints the lines in reverse order.** -/
def tac : Utility := fun p t args =>
  let (contents, p, t) := p.inputs t 1
    (fun name cause => "tac: failed to open '" ++ name ++ "' for reading: " ++ cause.reason) args
  let shown := contents.flatMap fun (_, bytes) =>
    let x := LineText.ofOctets bytes
    charsOctets (match x.lines.reverse with
      | [] => []
      | last :: rest => last ++ (if x.ended then ['\n'] else []) ++ rest.flatMap (· ++ ['\n']))
  p.emit t 1 (octets shown)

/-- **Prints every line backwards.** -/
def rev : Utility := fun p t args =>
  let (contents, p, t) := p.inputs t 1
    (fun name cause => "rev: cannot open " ++ name ++ ": " ++ cause.reason) args
  let shown := contents.flatMap fun (_, bytes) =>
    let x := LineText.ofOctets bytes
    (LineText.mk (x.lines.map List.reverse) x.ended).toOctets
  p.emit t 1 (octets shown)

/-- **Compares two files**; succeeds if they are equal. -/
def compareFiles : Utility := fun p t args =>
  let (letters, names) := splitOptions args
  let complaint := fun (name : String) (cause : Fault) => usualComplaint "cmp" name cause
  let (contents, p, t) := p.inputs t 2 complaint names
  match contents with
  | [(first, a), (second, b)] =>
    let same := ((a.zip b).takeWhile fun (x, y) => x == y).length
    if a == b then (p, t)
    else if letters.contains 's' then (p.withStatus 1, t)
    else if same == a.length || same == b.length then
      let short := if same == a.length then first else second
      let left := (a.take same).count 10
      let place := if same == 0 then "which is empty"
        else "after byte " ++ toString same ++ ", " ++
          (if (a.take same).getLast? == some 10 then "line " ++ toString left
            else "in line " ++ toString (left + 1))
      p.complain t 1 ("cmp: EOF on " ++ short ++ " " ++ place)
    else
      let line := (a.take same).count 10 + 1
      (p.withStatus 1).say t 1 (first ++ " " ++ second ++ " differ: byte " ++ toString (same + 1) ++
        ", line " ++ toString line ++ "\n")
  | _ => (p.withStatus 2, t)

/-! ## Counting and copying -/

/-- The number of words: runs of what is not white space. -/
def wordCount (cs : List Char) : Nat :=
  (cs.foldl
    (fun (state : Nat × Bool) c =>
      if c == ' ' || ('\t' ≤ c && c ≤ '\x0d') then (state.1, false)
      else (if state.2 then state.1 else state.1 + 1, true))
    (0, false)).1

/-- **Prints the numbers of lines, words and octets.** One number for the input alone stands by itself;
else the numbers are as wide as the count of all octets. -/
def count : Utility := fun p t args =>
  let (letters, files) := splitOptions args
  let (contents, p, t) := p.inputs t 1 (usualComplaint "wc") files
  let all := letters.isEmpty
  let numbers := fun (bytes : List UInt8) =>
    let cs := octetChars bytes
    (if all || letters.contains 'l' then [cs.count '\n'] else []) ++
      (if all || letters.contains 'w' then [wordCount cs] else []) ++
      (if all || letters.contains 'c' then [bytes.length] else []) ++
      (if letters.contains 'm' then [bytes.length] else [])
  let rows := contents.map fun (name, bytes) => (numbers bytes, if files.isEmpty then "" else name)
  let total := contents.flatMap Prod.snd
  let rows := if files.length > 1 then rows ++ [(numbers total, "total")] else rows
  let single := rows.length ≤ 1 && rows.all fun r => r.1.length ≤ 1
  let width := if single then 1
    else if files.isEmpty || files.contains "-" then 7
    else (toString total.length).length
  let shown := rows.map fun (ns, name) =>
    let columns := ns.map fun n =>
      let text := toString n
      String.ofList (List.replicate (width - text.length) ' ') ++ text
    " ".intercalate (columns ++ if name.isEmpty then [] else [name]) ++ "\n"
  p.say t 1 (String.join shown)

/-- **Copies the input** to files and to its output. -/
def tee : Utility := fun p t args =>
  let (letters, files) := splitOptions args
  let input := octets p.streams.input
  let (p, t) := (p.withInput []).emit t 1 input
  files.foldl
    (fun (state : Process × FileTree) name =>
      let path := state.1.pathOf name
      let written := if letters.contains 'a' then state.2.append path input
        else state.2.write path input
      match written with
      | .ok t => (state.1, t)
      | .error cause => state.1.complain state.2 1 (usualComplaint "tee" name cause))
    (p, t)

/-- **Prints numbers in steps**, one a line. -/
def seq : Utility := fun p t args =>
  let numbers := args.map fun a => (Arithmetic.number? a).getD 0
  let (first, step, last) := match numbers with
    | [last] => (1, 1, last)
    | [first, last] => (first, 1, last)
    | [first, step, last] => (first, step, last)
    | _ => (1, 1, 0)
  if args.isEmpty then p.complain t 1 (missingOperand "seq" "operand")
  else
    let steps := if step > 0 then (last - first) / step else if step < 0 then (first - last) / -step
      else -1
    let shown := (List.range (steps + 1).toNat).map fun (i : Nat) =>
      toString (first + step * (i : Int)) ++ "\n"
    p.say t 1 (String.join shown)

end UaHeaders.Shell
