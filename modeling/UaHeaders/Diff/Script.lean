/-!
# Edit scripts

How one list of lines becomes another: a script is a list of segments, each of which keeps, removes or
adds a run of lines. The old list is what a script keeps and removes, the new list what it keeps and
adds.

## Main definitions

* `UaHeaders.Diff.Segment` — segments, with the two views `old` and `new` of a script.
* `UaHeaders.Diff.settle` — moves every addition as far down as it goes, so that neighbouring ones
  meet.
* `UaHeaders.Diff.Block`, `UaHeaders.Diff.blocks` — the normal form: runs of kept lines, and between
  them changes with their removed and added lines.

## Main results

* `UaHeaders.Diff.flatMap_blocks_old`, `flatMap_blocks_new` — a script and its blocks have the same
  two views.

## Implementation notes

`settle` works on a zipper: the segments before an addition in reverse order, the addition, and the
segments behind it. The addition first goes up, over kept lines that end as it ends and past removals,
taking up the additions it meets; then down again in the same way. Removals stay where they are.
-/

set_option autoImplicit false

namespace UaHeaders.Diff

variable {α : Type}

/-- **A run of lines and what becomes of it.** -/
inductive Segment (α : Type) where
  | keep (lines : List α)
  | remove (lines : List α)
  | add (lines : List α)
  deriving Inhabited

namespace Segment

/-- The lines of a segment. -/
def lines : Segment α → List α
  | keep ls => ls
  | remove ls => ls
  | add ls => ls

/-- What a segment takes from the old list. -/
def old : Segment α → List α
  | keep ls => ls
  | remove ls => ls
  | add _ => []

/-- What a segment gives to the new list. -/
def new : Segment α → List α
  | keep ls => ls
  | remove _ => []
  | add ls => ls

/-- Room a segment takes in the bounds of `settle`. -/
def size (s : Segment α) : Nat := s.lines.length + 1

end Segment

/-! ## Common beginnings and ends -/

variable [DecidableEq α]

/-- The number of lines with which both lists begin. -/
def commonStart : List α → List α → Nat
  | a :: as, b :: bs => if a = b then commonStart as bs + 1 else 0
  | _, _ => 0

/-- The number of lines with which both lists end. -/
def commonEnd (as bs : List α) : Nat := commonStart as.reverse bs.reverse

/-! ## Settling -/

/-- A script around an addition. -/
structure Zipper (α : Type) where
  /-- The segments before, nearest first. -/
  before : List (Segment α)
  added : List α
  after : List (Segment α)

namespace Zipper

/-- The script a zipper stands for. -/
def script (z : Zipper α) : List (Segment α) := z.before.reverse ++ .add z.added :: z.after

/-- Kept lines in front of segments, joined to kept lines that stand there. -/
def consKeep (ls : List α) : List (Segment α) → List (Segment α)
  | .keep more :: rest => .keep (ls ++ more) :: rest
  | rest => .keep ls :: rest

/-- Kept lines behind segments in reverse order, joined to kept lines that stand there. -/
def snocKeep (ls : List α) : List (Segment α) → List (Segment α)
  | .keep more :: rest => .keep (more ++ ls) :: rest
  | rest => .keep ls :: rest

/-- Kept lines in front of segments, unless there are none. -/
def keepNonempty (ls : List α) (rest : List (Segment α)) : List (Segment α) :=
  if ls.isEmpty then rest else .keep ls :: rest

/-- Takes the addition up while it can go. -/
def up : Nat → Zipper α → Zipper α
  | 0, z => z
  | bound + 1, z =>
    match z.before with
    | .keep kept :: before =>
      let n := commonEnd kept z.added
      if n = 0 then z
      else
        -- the lines with which it ends come to its front, and those it has passed stand behind it
        let stay := z.added.length - n
        up bound ⟨keepNonempty (kept.take (kept.length - n)) before,
          z.added.drop stay ++ z.added.take stay, consKeep (kept.drop (kept.length - n)) z.after⟩
    | .remove removed :: before => up bound ⟨before, z.added, .remove removed :: z.after⟩
    | .add more :: before => up bound ⟨before, more ++ z.added, z.after⟩
    | [] => z

/-- Takes the addition down while it can go. -/
def down : Nat → Zipper α → Zipper α
  | 0, z => z
  | bound + 1, z =>
    match z.after with
    | .keep kept :: after =>
      let n := commonStart kept z.added
      if n = 0 then z
      else
        down bound ⟨snocKeep (kept.take n) z.before, z.added.drop n ++ z.added.take n,
          keepNonempty (kept.drop n) after⟩
    | .remove removed :: after => down bound ⟨.remove removed :: z.before, z.added, after⟩
    | .add more :: after => down bound ⟨z.before, z.added ++ more, after⟩
    | [] => z

/-- The room the segments of a list take together. -/
def room (segments : List (Segment α)) : Nat := segments.foldr (fun segment n => segment.size + n) 0

/-- Takes the addition up and then down, as far as it goes each time. -/
def settle (z : Zipper α) : Zipper α :=
  let z := up (room z.before + 1) z
  down (room z.after + 1) z

end Zipper

/-- Settles the additions from the segment in hand to the last. -/
def settleFrom : Nat → List (Segment α) → List (Segment α) → List (Segment α)
  | 0, before, rest => before.reverse ++ rest
  | _ + 1, before, [] => before.reverse
  | bound + 1, before, .add added :: after =>
    let z := (Zipper.mk before added after).settle
    settleFrom bound (.add z.added :: z.before) z.after
  | bound + 1, before, here :: after => settleFrom bound (here :: before) after

/-- **Moves every addition as far down as it goes.** -/
def settle (script : List (Segment α)) : List (Segment α) :=
  settleFrom (Zipper.room script + 1) [] script

/-! ## Blocks -/

/-- **A run of kept lines, or a change.** -/
inductive Block (α : Type) where
  | same (lines : List α)
  | change (removed added : List α)
  deriving Inhabited

namespace Block

/-- What a block takes from the old list. -/
def old : Block α → List α
  | same ls => ls
  | change removed _ => removed

/-- What a block gives to the new list. -/
def new : Block α → List α
  | same ls => ls
  | change _ added => added

end Block

/-- Puts a segment in front of blocks, joined to the first where they are of one kind. -/
def consSegment : Segment α → List (Block α) → List (Block α)
  | .keep ls, .same more :: rest => .same (ls ++ more) :: rest
  | .keep ls, rest => .same ls :: rest
  | .remove ls, .change removed added :: rest => .change (ls ++ removed) added :: rest
  | .remove ls, rest => .change ls [] :: rest
  | .add ls, .change removed added :: rest => .change removed (ls ++ added) :: rest
  | .add ls, rest => .change [] ls :: rest

/-- **The blocks of a script**: neighbouring segments of one kind are joined, and between two runs of
kept lines there is one change. -/
def blocks (script : List (Segment α)) : List (Block α) := script.foldr consSegment []

omit [DecidableEq α] in
/-- A script and its blocks take the same lines from the old list. -/
theorem flatMap_blocks_old (script : List (Segment α)) :
    (blocks script).flatMap Block.old = script.flatMap Segment.old := by
  induction script with
  | nil => rfl
  | cons s script ih =>
    have h : blocks (s :: script) = consSegment s (blocks script) := rfl
    rw [h, List.flatMap_cons, ← ih]
    cases s <;> cases blocks script with
      | nil => simp [consSegment, Block.old, Segment.old]
      | cons b bs => cases b <;> simp [consSegment, Block.old, Segment.old]

omit [DecidableEq α] in
/-- A script and its blocks give the same lines to the new list. -/
theorem flatMap_blocks_new (script : List (Segment α)) :
    (blocks script).flatMap Block.new = script.flatMap Segment.new := by
  induction script with
  | nil => rfl
  | cons s script ih =>
    have h : blocks (s :: script) = consSegment s (blocks script) := rfl
    rw [h, List.flatMap_cons, ← ih]
    cases s <;> cases blocks script with
      | nil => simp [consSegment, Block.new, Segment.new]
      | cons b bs => cases b <;> simp [consSegment, Block.new, Segment.new]

end UaHeaders.Diff
