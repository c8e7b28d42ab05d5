import UaHeaders.Sweep.Change
import UaHeaders.Text.Search

/-!
# Comments of bundled headers

A documentation tool reads `/** … */` and stumbles over export macros. So the documentation blocks a
header brings along are dropped, its plain comments at the start of a line are made documentation, and
the macros are taken out. All of this looks at the text alone.

## Main definitions

* `UaHeaders.Sweep.dropBlocks` — the text without documentation blocks.
* `UaHeaders.Sweep.promoteComments` — plain comments made documentation.
* `UaHeaders.Sweep.stripHeader` — all three changes to one header.
* `UaHeaders.Sweep.stripComments` — the headers below a directory.
-/

set_option autoImplicit false

namespace UaHeaders.Sweep

/-! ## One header -/

/-- Whether a line ends here. -/
def endsLine : List Char → Bool
  | [] => true
  | c :: _ => c == '\n'

/-- What follows the first `*/` that ends a line. -/
def behindMark? : List Char → Option (List Char)
  | [] => none
  | c :: cs =>
    if "*/".toList.isPrefixOf (c :: cs) && endsLine (cs.drop 1) then some (cs.drop 1)
    else behindMark? cs

/-- **What follows a documentation block that starts here.** The block holds at least one character
between its marks, and ends where a line does. -/
def behindBlock? : List Char → Option (List Char)
  | '/' :: '*' :: '*' :: _ :: cs => behindMark? cs
  | _ => none

/-- What follows the mark is no longer than what the mark was looked for in. -/
theorem length_behindMark?_le {cs rest : List Char} (h : behindMark? cs = some rest) :
    rest.length ≤ cs.length := by
  induction cs with
  | nil => cases h
  | cons c cs ih =>
    rw [behindMark?] at h
    split at h
    · obtain rfl : cs.drop 1 = rest := Option.some.inj h
      rw [List.length_drop, List.length_cons]
      omega
    · exact Nat.le_succ_of_le (ih h)

/-- A block is not empty, so what follows it is shorter. -/
theorem length_behindBlock?_lt {cs rest : List Char} (h : behindBlock? cs = some rest) :
    rest.length < cs.length := by
  unfold behindBlock? at h
  split at h
  · next c cs =>
    have hrest : rest.length ≤ cs.length := length_behindMark?_le h
    simp only [List.length_cons]
    omega
  · cases h

/-- **The characters without documentation blocks**, found from left to right. -/
def dropBlocks (cs : List Char) : List Char :=
  match _found : behindBlock? cs with
  | some rest => dropBlocks rest
  | none =>
    match cs with
    | [] => []
    | c :: cs => c :: dropBlocks cs
termination_by cs.length
decreasing_by
  · exact length_behindBlock?_lt _found
  · simp

/-- The characters with `/* ` at the start of a line made `/** `. The first argument tells whether a
line starts here. -/
def promoteFrom : Bool → List Char → List Char
  | _, [] => []
  | true, '/' :: '*' :: ' ' :: cs => '/' :: '*' :: '*' :: ' ' :: promoteFrom false cs
  | _, c :: cs => c :: promoteFrom (c == '\n') cs

/-- **Plain comments at the start of a line made documentation.** -/
def promoteComments (cs : List Char) : List Char := promoteFrom true cs

/-- The texts taken out of a header, in order; the blanks belong to them. -/
def removedTexts : List String :=
  [" UA_EXPORT", " UA_INLINE", " UA_FUNC_ATTR_WARN_UNUSED_RESULT", " UA_FUNC_ATTR_MALLOC",
    " UA_RESTRICT "]

/-- **One header for the documentation tool.** -/
def stripHeader (text : String) : String :=
  removedTexts.foldl (fun text removed => Text.replaceAll removed "" text)
    (String.ofList (promoteComments (dropBlocks text.toList)))

/-! ## All headers below a directory -/

/-- **What a sweep over headers did**: how many it looked at, and which it changed. -/
structure StripReport where
  scanned : Nat
  changed : List Path
  deriving DecidableEq, Inhabited

/-- The extension of the headers that are swept. -/
def headerExtension : String := "h"

/-- The headers below a directory. -/
def headersUnder (t : FileTree) (dir : Path) : List Path :=
  (t.filesUnder dir).filter (·.extension? == some headerExtension)

/-- **Strips every header below `dir`**, in order. -/
def stripComments (dir : Path) (t : FileTree) : Except Problem StripReport × FileTree :=
  if t.isDir dir then
    let headers := headersUnder t dir
    match changeAll stripHeader headers t with
    | (.error problem, t) => (.error problem, t)
    | (.ok changed, t) => (.ok ⟨headers.length, changed⟩, t)
  else (.error (.notDirectory dir), t)

end UaHeaders.Sweep
