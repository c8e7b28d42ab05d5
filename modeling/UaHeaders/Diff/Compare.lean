import UaHeaders.Diff.Script

/-!
# Comparing two lists of lines

A shortest edit script by divide and conquer: common lines at both ends are kept, and what lies
between is cut where the furthest-reaching paths from both ends of the edit graph meet. The cut only
decides how good the script is; that the script leads from the old list to the new one does not depend
on it.

## Main definitions

* `UaHeaders.Diff.meetingPoint?` — where the two searches meet.
* `UaHeaders.Diff.compare` — a script from one list to the other.
-/

set_option autoImplicit false

namespace UaHeaders.Diff

variable {α : Type} [DecidableEq α]

/-! ## The search from both ends -/

/-- The furthest positions reached on the diagonals from `-radius` to `radius`. -/
structure Frontier where
  radius : Nat
  reach : Array Int

namespace Frontier

/-- Nothing reached yet. -/
def start (radius : Nat) : Frontier := ⟨radius, Array.replicate (2 * radius + 1) 0⟩

/-- The position reached on diagonal `k`. -/
def get (f : Frontier) (k : Int) : Int := f.reach.getD (k + f.radius).toNat 0

/-- The frontier with a new position on diagonal `k`. -/
def set (f : Frontier) (k x : Int) : Frontier :=
  { f with reach := f.reach.setIfInBounds (k + f.radius).toNat x }

/-- Where a path on diagonal `k` begins after `d` edits. -/
def entry (f : Frontier) (d k : Int) : Int :=
  if k = -d ∨ (k ≠ d ∧ f.get (k - 1) < f.get (k + 1)) then f.get (k + 1) else f.get (k - 1) + 1

end Frontier

/-- The number of equal elements from `x` in the one and `y` in the other array on; `bound` is at
least the number of elements left. -/
def runLength (as bs : Array α) : Nat → Nat → Nat → Nat
  | 0, _, _ => 0
  | bound + 1, x, y =>
    match as[x]?, bs[y]? with
    | some a, some b => if a = b then runLength as bs bound (x + 1) (y + 1) + 1 else 0
    | _, _ => 0

/-- How far a path at `(x, y)` runs along equal elements; outside of the arrays it does not. -/
def slide (as bs : Array α) (x y : Int) : Int :=
  if 0 ≤ x ∧ 0 ≤ y then runLength as bs as.size x.toNat y.toNat else 0

/-- The state of the search: the frontiers from the start and from the end, and the meeting point once
it is known. -/
structure Search where
  forward : Frontier
  backward : Frontier
  met : Option (Int × Int)

/-- The diagonals looked at after `d` edits, highest first. -/
def diagonals (d : Nat) : List Int :=
  (List.range (d + 1)).map fun (i : Nat) => (d : Int) - 2 * (i : Int)

/-- One step from the start along diagonal `k`. -/
def forwardStep (as bs : Array α) (d k : Int) (s : Search) : Search :=
  if s.met.isSome then s
  else
    let delta : Int := as.size - bs.size
    let x0 := s.forward.entry d k
    let y0 := x0 - k
    let x := x0 + slide as bs x0 y0
    let forward := s.forward.set k x
    -- where the lengths differ by an odd number the searches meet on a step from the start, else on one
    -- from the end
    if delta % 2 ≠ 0 ∧ (k - delta).natAbs ≤ d - 1 ∧ x + s.backward.get (delta - k) ≥ as.size then
      { s with forward, met := some (x0, y0) }
    else { s with forward }

/-- One step from the end along diagonal `k`; the arrays are the reversed lists. -/
def backwardStep (as bs : Array α) (d k : Int) (s : Search) : Search :=
  if s.met.isSome then s
  else
    let delta : Int := as.size - bs.size
    let x0 := s.backward.entry d k
    let y0 := x0 - k
    let run := slide as bs x0 y0
    let x := x0 + run
    let y := y0 + run
    let backward := s.backward.set k x
    if delta % 2 = 0 ∧ (k - delta).natAbs ≤ d ∧ x + s.forward.get (delta - k) ≥ as.size then
      { s with backward, met := some (as.size - x, bs.size - y) }
    else { s with backward }

/-- **Where the searches from both ends meet**, as a number of old and a number of new elements. -/
def meetingPoint? (old new : List α) : Option (Nat × Nat) :=
  let as := old.toArray
  let bs := new.toArray
  let asRev := old.reverse.toArray
  let bsRev := new.reverse.toArray
  let limit := (as.size + bs.size + 1) / 2 + 1
  let s := (List.range limit).foldl
    (fun (s : Search) d =>
      if s.met.isSome then s
      else
        let s := (diagonals d).foldl (fun s k => forwardStep as bs d k s) s
        (diagonals d).foldl (fun s k => backwardStep asRev bsRev d k s) s)
    ⟨.start (limit + 1), .start (limit + 1), none⟩
  s.met.map fun (x, y) => (x.toNat, y.toNat)

/-! ## Divide and conquer -/

/-- A segment unless it has no lines. -/
def nonempty (make : List α → Segment α) (ls : List α) : List (Segment α) :=
  if ls.isEmpty then [] else [make ls]

/-- **A script from the old list to the new one.** -/
def compare (old new : List α) : List (Segment α) :=
  let start := commonStart old new
  let old' := old.drop start
  let new' := new.drop start
  let ending := commonEnd old' new'
  let oldCore := old'.take (old'.length - ending)
  let newCore := new'.take (new'.length - ending)
  let middle :=
    if oldCore.isEmpty ∨ newCore.isEmpty then
      nonempty .remove oldCore ++ nonempty .add newCore
    else
      match meetingPoint? oldCore newCore with
      | some (x, y) =>
        -- a meeting point in a corner parts nothing, and the recursion would not end
        if 0 < x + y ∧ x + y < oldCore.length + newCore.length ∧ x ≤ oldCore.length ∧
            y ≤ newCore.length then
          compare (oldCore.take x) (newCore.take y) ++ compare (oldCore.drop x) (newCore.drop y)
        else [.remove oldCore, .add newCore]
      | none => [.remove oldCore, .add newCore]
  nonempty .keep (old.take start) ++ middle ++
    nonempty .keep (old'.drop (old'.length - ending))
termination_by old.length + new.length
decreasing_by
  all_goals
    have h1 : oldCore.length ≤ old.length := by simp [oldCore, old']; omega
    have h2 : newCore.length ≤ new.length := by simp [newCore, new']; omega
    simp only [List.length_take, List.length_drop]
    omega

end UaHeaders.Diff
