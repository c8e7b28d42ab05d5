import UaHeaders.Diff.Compare
import UaHeaders.Text.Lines

/-!
# Unified diffs

The text that shows how a file would change: hunks of removed and added lines with three kept lines
around them, each headed by the places it has in both files.

## Main definitions

* `UaHeaders.Diff.Hunk` — blocks with the number of lines that stand before them.
* `UaHeaders.Diff.hunks` — the hunks of a list of blocks.
* `UaHeaders.Diff.unified` — the text of the diff between two contents.
-/

set_option autoImplicit false

namespace UaHeaders.Diff

/-- The number of kept lines around a change. -/
def contextSize : Nat := 3

/-- **Blocks that stand together**, behind `oldStart` old and `newStart` new lines. -/
structure Hunk where
  oldStart : Nat
  newStart : Nat
  blocks : List (Block String)
  deriving Inhabited

namespace Hunk

/-- The old lines a hunk covers. -/
def old (h : Hunk) : List String := h.blocks.flatMap Block.old

/-- The new lines a hunk covers. -/
def new (h : Hunk) : List String := h.blocks.flatMap Block.new

/-- Whether a hunk changes anything. -/
def hasChange (h : Hunk) : Bool :=
  h.blocks.any fun
    | .same _ => false
    | .change .. => true

/-- The hunk with one more block at its end. -/
def snoc (h : Hunk) (b : Block String) : Hunk := { h with blocks := h.blocks ++ [b] }

end Hunk

/-! ## Cutting into hunks -/

/-- The first block cut down to the context in front of a change; answers how many lines it lost. -/
def trimFirst : List (Block String) → Nat × List (Block String)
  | .same ls :: rest => (ls.length - contextSize, .same (ls.drop (ls.length - contextSize)) :: rest)
  | blocks => (0, blocks)

/-- The last block cut down to the context behind a change. -/
def trimLast : List (Block String) → List (Block String)
  | [] => []
  | [.same ls] => [.same (ls.take contextSize)]
  | b :: rest => b :: trimLast rest

/-- Goes through the blocks with the hunk being built; a run of kept lines longer than twice the
context ends it and begins another. -/
def cutHunks (current : Hunk) : List (Block String) → List Hunk
  | [] => [current]
  | .same ls :: rest =>
    if ls.length > 2 * contextSize then
      let finished := current.snoc (.same (ls.take contextSize))
      let skipped := ls.length - contextSize
      let next : Hunk :=
        ⟨current.oldStart + current.old.length + skipped,
          current.newStart + current.new.length + skipped, [.same (ls.drop skipped)]⟩
      finished :: cutHunks next rest
    else cutHunks (current.snoc (.same ls)) rest
  | .change removed added :: rest => cutHunks (current.snoc (.change removed added)) rest

/-- **The hunks of a list of blocks.** -/
def hunks (blocks : List (Block String)) : List Hunk :=
  let (skipped, blocks) := trimFirst blocks
  (cutHunks ⟨skipped, skipped, []⟩ (trimLast blocks)).filter Hunk.hasChange

/-! ## Writing -/

/-- The place of a hunk in one file: the number of its first line and how many there are, the latter
left out for one. No lines stand behind the line before them. -/
def rangeText (start count : Nat) : String :=
  if count = 1 then toString (start + 1)
  else if count = 0 then toString start ++ ",0"
  else toString (start + 1) ++ "," ++ toString count

/-- The first line of a hunk. -/
def Hunk.header (h : Hunk) : String :=
  "@@ -" ++ rangeText h.oldStart h.old.length ++ " +" ++ rangeText h.newStart h.new.length ++ " @@\n"

/-- Whether a line has an end. -/
def isTerminated (line : String) : Bool :=
  line.toList.getLast? == some '\n' || line.toList.getLast? == some '\r'

/-- A line behind its sign. A line without an end is followed by a note that says so. -/
def signedLine (sign : Char) (line : String) : String :=
  String.singleton sign ++ line ++
    if isTerminated line then "" else "\n\\ No newline at end of file\n"

/-- Lines behind one sign. -/
def signedLines (sign : Char) (ls : List String) : String := String.join (ls.map (signedLine sign))

/-- The lines of a block: kept ones, or the removed and then the added ones. -/
def Block.text : Block String → String
  | .same ls => signedLines ' ' ls
  | .change removed added => signedLines '-' removed ++ signedLines '+' added

/-- A hunk with its header. -/
def Hunk.text (h : Hunk) : String := h.header ++ String.join (h.blocks.map Block.text)

/-- The blocks between two contents. -/
def blocksBetween (old new : String) : List (Block String) :=
  blocks (settle (compare (Text.terminatedLines old) (Text.terminatedLines new)))

/-- **The unified diff between two contents** under the names of both files; it is empty if no line
differs. -/
def unified (oldName newName old new : String) : String :=
  match hunks (blocksBetween old new) with
  | [] => ""
  | hs => "--- " ++ oldName ++ "\n+++ " ++ newName ++ "\n" ++ String.join (hs.map Hunk.text)

end UaHeaders.Diff
