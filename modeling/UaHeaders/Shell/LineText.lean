import UaHeaders.Shell.Printing

/-!
# Lines of octets

The utilities that work line by line see an octet as a character of its own, so that they handle text
that is not UTF-8 like any other.

## Main definitions

* `UaHeaders.Shell.LineText` — lines, and whether the last one is ended.
* `UaHeaders.Shell.LineText.ofOctets`, `toOctets` — octets to lines and back.
* `UaHeaders.Shell.Process.inputs` — what a utility is given to read.
-/

set_option autoImplicit false

namespace UaHeaders.Shell

/-- The characters of octets, one for each. -/
def octetChars (bytes : List UInt8) : List Char := bytes.map fun b => Char.ofNat b.toNat

/-- The octets of characters below 256. -/
def charsOctets (cs : List Char) : List UInt8 := cs.map fun c => UInt8.ofNat c.toNat

/-- The characters of a text's octets. -/
def textChars (s : String) : List Char := octetChars s.toUTF8.toList

/-- **Lines, and whether the last one is ended.** -/
structure LineText where
  lines : List (List Char)
  ended : Bool

/-- Whether a line comes before another in the order of their octets, or is equal to it. -/
def precedes : List Char → List Char → Bool
  | [], _ => true
  | _ :: _, [] => false
  | a :: as, b :: bs => a.toNat < b.toNat || (a == b && precedes as bs)

namespace LineText

/-- The lines of characters; what follows the last line end is a line if it is not empty. -/
def ofChars : List Char → LineText
  | [] => ⟨[], true⟩
  | '\n' :: cs =>
    let more := ofChars cs
    ⟨[] :: more.lines, more.ended⟩
  | [c] => ⟨[[c]], false⟩
  | c :: cs =>
    let more := ofChars cs
    match more.lines with
    | [] => ⟨[[c]], false⟩
    | l :: ls => ⟨(c :: l) :: ls, more.ended⟩

/-- **The lines of octets.** -/
def ofOctets (bytes : List UInt8) : LineText := ofChars (octetChars bytes)

/-- The characters of lines. -/
def toChars (x : LineText) : List Char :=
  let cs := x.lines.flatMap (· ++ ['\n'])
  if x.ended then cs else cs.dropLast

/-- **The octets of lines.** -/
def toOctets (x : LineText) : List UInt8 := charsOctets x.toChars

/-- Lines that are all ended. -/
def ofLines (lines : List (List Char)) : LineText := ⟨lines, true⟩

end LineText

namespace Process

/-- The content of one file, or for `-` the input, which is then used up. -/
def contentOf (p : Process) (t : FileTree) (name : String) :
    Except Fault (List UInt8) × Process :=
  if name == "-" then (.ok p.streams.input, p.withInput [])
  else
    match t.read (p.pathOf name) with
    | .ok content => (.ok content.toList, p)
    | .error cause => (.error cause, p)

/-- **What a utility is given to read**: the files of the given names, or the input if there are none.
A file that cannot be read is left out after a complaint that fails with `status`. -/
def inputs (p : Process) (t : FileTree) (status : Nat) (complaint : String → Fault → String)
    (names : List String) : List (String × List UInt8) × Process × FileTree :=
  (if names.isEmpty then ["-"] else names).foldl
    (fun (state : List (String × List UInt8) × Process × FileTree) name =>
      let (done, p, t) := state
      match p.contentOf t name with
      | (.ok content, p) => (done ++ [(name, content)], p, t)
      | (.error cause, p) =>
        let (p, t) := p.complain t status (complaint name cause)
        (done, p, t))
    ([], p, t)

end Process

/-- The usual complaint of a utility about a file. -/
def usualComplaint (label : String) (name : String) (cause : Fault) : String :=
  label ++ ": " ++ name ++ ": " ++ cause.reason

end UaHeaders.Shell
