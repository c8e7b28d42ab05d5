import UaHeaders.Shell.Arithmetic
import UaHeaders.Shell.Glob

/-!
# Expansion of words

Before a command is run its words become fields: parameters are replaced by their values, scripts by
what they print, sums by their values; values outside quotes are cut at separators, and fields that
are patterns are replaced by the paths they cover.

## Main definitions

* `UaHeaders.Shell.Runner` — the way nested scripts are run.
* `UaHeaders.Shell.assemble` — parts of words to fields.
* `UaHeaders.Shell.Process.fields` — words to fields.
* `UaHeaders.Shell.Process.text` — a word to one text.
* `UaHeaders.Shell.Process.pattern` — a word to a pattern.

## Design

An expansion that fails ends the process, so whoever asked for it has to look whether the process is
still there.
-/

set_option autoImplicit false

namespace UaHeaders.Shell

/-- Runs a process to its end. -/
abbrev Runner := Process → FileTree → Process × FileTree

/-! ## Parts and fields -/

/-- A part of an expanded word. -/
inductive Part where
  /-- Text that stays together. -/
  | kept (text : String) (quoted : Bool)
  /-- Text that is cut at separators. -/
  | cuttable (text : String)
  /-- The border between two fields. -/
  | border

/-- The characters of a part, with what is quoted in it. -/
def Part.chars : Part → List PatternChar
  | kept text quoted => text.toList.map (·, quoted)
  | cuttable text => text.toList.map (·, false)
  | border => [(' ', true)]

/-- The text of a part. -/
def Part.text : Part → String
  | kept text _ => text
  | cuttable text => text
  | border => " "

/-- A part that stands in for a value: outside quotes it is cut like one. -/
def Part.asValue : Part → Part
  | kept text false => cuttable text
  | part => part

/-- The separators that stand for white space, of which a run separates only once. -/
def isWhite (c : Char) : Bool := c == ' ' || c == '\t' || c == '\n'

/-- **Fields being built**, the last one first. `absorbs` says that the last field was closed by white
space, so that another separator belongs to the same border. -/
structure Fields where
  current : Option (List PatternChar)
  done : List (List PatternChar)
  absorbs : Bool

namespace Fields

/-- No fields. -/
def none : Fields := ⟨.none, [], false⟩

/-- Adds characters to the current field, or starts one. -/
def add (f : Fields) (cs : List PatternChar) : Fields :=
  { f with current := some (f.current.getD [] ++ cs) }

/-- Ends the current field, if there is one. -/
def close (f : Fields) (absorbs : Bool) : Fields :=
  match f.current with
  | some field => ⟨.none, field :: f.done, absorbs⟩
  | .none => f

/-- Adds one character that may be a separator. -/
def cut (separators : List Char) (f : Fields) (c : Char) : Fields :=
  if !separators.contains c then f.add [(c, false)]
  else if isWhite c then f.close true
  else if f.current.isSome then f.close false
  else if f.absorbs then { f with absorbs := false }
  else { f with done := [] :: f.done }

/-- Adds a part. -/
def addPart (separators : List Char) (f : Fields) : Part → Fields
  | .cuttable text => text.toList.foldl (cut separators) f
  | .border => f.close false
  | part => f.add part.chars

end Fields

/-- **The fields of a list of parts.** -/
def assemble (separators : List Char) (parts : List Part) : List (List PatternChar) :=
  ((parts.foldl (Fields.addPart separators) .none).close false).done.reverse

namespace Process

/-! ## Parameters -/

/-- The characters at which values are cut. -/
def separators (p : Process) : List Char := ((p.valueOf? "IFS").getD " \t\n").toList

/-- The value of a parameter. -/
def parameter? (p : Process) (name : String) : Option String :=
  match name with
  | "#" => some (toString p.args.length)
  | "?" => some (toString p.status)
  | "$" => some (toString ownNumber)
  | "-" => some (if p.session.strict then "e" else "")
  | "!" => none
  | "*" => some (" ".intercalate p.args)
  | "@" => some (" ".intercalate p.args)
  | "0" => some p.name
  | name =>
    match name.toNat? with
    | some n => p.args[n - 1]?
    | none => p.valueOf? name

/-- The value of a parameter, where none may be an error. -/
def value (p : Process) (t : FileTree) (name : String) : String × Process × FileTree :=
  match p.parameter? name with
  | some v => (v, p, t)
  | none =>
    if p.session.demanding then ("", p.abort t 2 (name ++ ": parameter not set"))
    else ("", p, t)

/-- The complaint about a parameter without value. -/
def demandFault (name text : String) (ofEmpty : Bool) : String :=
  name ++ ": " ++
    if text.isEmpty then (if ofEmpty then "parameter not set or null" else "parameter not set")
    else text

/-- What a script prints, without the line ends at its end. -/
def outputOf (run : Runner) (p : Process) (t : FileTree) (script : String) (below : Nat) :
    String × Process × FileTree :=
  match readScript script with
  | none => ("", p.finish (.ofCode 2), t)
  | some command =>
    let session :=
      { p.session with lastLine := p.session.lastLine - below, traps := [] }
    let inner : Process :=
      { p with frames := [.run command], out := .empty, err := .empty, session,
               streams := { p.streams with sinks := Streams.captured.sinks } }
    let (inner, t) := run inner t
    let code := match inner.ended with
      | some s => s.code?.getD 137
      | none => 137
    let (p, t) := p.emit t 2 inner.err
    let text := (Text.decodeLossy inner.out).toList.reverse.dropWhile (· == '\n')
    (String.ofList text.reverse, { p with status := code, clock := max p.clock inner.clock }, t)

/-- One part, of which a value that is not quoted may be cut. -/
def partOf (text : String) (quoted : Bool) : Part :=
  if quoted then .kept text true else .cuttable text

mutual

/-- The parts of one piece. -/
def parts (run : Runner) (p : Process) (t : FileTree) : Piece → List Part × Process × FileTree
  | .literal text quoted => ([.kept text quoted], p, t)
  | .parameter name quoted =>
    if name == "@" then
      ((p.args.map fun arg => partOf arg quoted).intersperse .border, p, t)
    else
      let (text, p, t) := p.value t name
      ([partOf text quoted], p, t)
  | .altered name change word quoted =>
    let value := p.parameter? name
    let isAbsent := fun (ofEmpty : Bool) => value.isNone || (ofEmpty && value == some "")
    let asIs := [partOf (value.getD "") quoted]
    match change with
    | .byDefault ofEmpty =>
      if isAbsent ofEmpty then
        let (parts, p, t) := p.wordParts run t word
        (parts.map Part.asValue, p, t)
      else (asIs, p, t)
    | .byAssigning ofEmpty =>
      if isAbsent ofEmpty then
        let (parts, p, t) := p.wordParts run t word
        let text := String.join (parts.map Part.text)
        ([partOf text quoted], p.assign name text, t)
      else (asIs, p, t)
    | .byDemand ofEmpty =>
      if isAbsent ofEmpty then
        let (parts, p, t) := p.wordParts run t word
        let text := String.join (parts.map Part.text)
        ([], p.abort t 2 (demandFault name text ofEmpty))
      else (asIs, p, t)
    | .byOther ofEmpty =>
      if isAbsent ofEmpty then ([], p, t)
      else
        let (parts, p, t) := p.wordParts run t word
        (parts.map Part.asValue, p, t)
    | .cutStart longest =>
      let (parts, p, t) := p.wordParts run t word
      ([partOf (cutStart longest (parts.flatMap Part.chars) (value.getD "")) quoted], p, t)
    | .cutEnd longest =>
      let (parts, p, t) := p.wordParts run t word
      ([partOf (cutEnd longest (parts.flatMap Part.chars) (value.getD "")) quoted], p, t)
    | .length => ([partOf (toString (value.getD "").utf8ByteSize) quoted], p, t)
  | .output script below quoted =>
    let (text, p, t) := p.outputOf run t script below
    ([partOf text quoted], p, t)
  | .arithmetic word quoted =>
    let (parts, p, t) := p.wordParts run t word
    let text := String.join (parts.map Part.text)
    match Arithmetic.value p.parameter? text with
    | .ok n => ([partOf (toString n) quoted], p, t)
    | .error fault => ([], p.abort t 2 (fault.message text))

/-- The parts of a word. -/
def wordParts (run : Runner) (p : Process) (t : FileTree) :
    List Piece → List Part × Process × FileTree
  | [] => ([], p, t)
  | piece :: rest =>
    if p.running then
      let (first, p, t) := p.parts run t piece
      let (others, p, t) := p.wordParts run t rest
      (first ++ others, p, t)
    else ([], p, t)

end

/-! ## Words -/

/-- **The fields of words.** -/
def fields (run : Runner) (p : Process) (t : FileTree) : List Word →
    List String × Process × FileTree
  | [] => ([], p, t)
  | word :: rest =>
    let (parts, p, t) := p.wordParts run t word
    let first := (assemble p.separators parts).flatMap (p.pathsOf t)
    let (others, p, t) := p.fields run t rest
    (first ++ others, p, t)

/-- **A word as one text**, not cut. -/
def text (run : Runner) (p : Process) (t : FileTree) (word : Word) : String × Process × FileTree :=
  let (parts, p, t) := p.wordParts run t word
  (String.join (parts.map Part.text), p, t)

/-- **A word as a pattern**: what was quoted stands for itself. -/
def pattern (run : Runner) (p : Process) (t : FileTree) (word : Word) :
    List PatternChar × Process × FileTree :=
  let (parts, p, t) := p.wordParts run t word
  (parts.flatMap Part.chars, p, t)

/-- The redirections with their words expanded. -/
def openings (run : Runner) (p : Process) (t : FileTree) : List Redirect →
    List Opening × Process × FileTree
  | [] => ([], p, t)
  | redirect :: rest =>
    let expanded := fun (word : Word) (opening : String → Opening) =>
      let (name, p, t) := p.text run t word
      (opening name, p, t)
    let (first, p, t) := match redirect with
      | .input word => expanded word .input
      | .truncate n word => expanded word (.truncate n)
      | .extend n word => expanded word (.extend n)
      | .duplicate n word => expanded word (.duplicate n)
      | .here word => expanded word .here
    let (others, p, t) := p.openings run t rest
    (first :: others, p, t)

end Process

end UaHeaders.Shell
