import UaHeaders.Sweep.Change
import UaHeaders.Text.Blank
import UaHeaders.Text.Search

/-!
# Deprecated includes

A build file declares each header that has moved as `deprecated_header(old new)`, both paths relative
to the include root. Sources that name an old path are updated by plain replacement.

## Main definitions

* `UaHeaders.Sweep.Deprecations` — old paths with their new ones, in order of declaration.
* `UaHeaders.Sweep.Deprecations.parse` — those a build file declares.
* `UaHeaders.Sweep.Deprecations.replaceIn` — a text with every old path replaced.
* `UaHeaders.Sweep.Deprecations.update` — the same for files.

## Implementation notes

A word is a maximal run of characters that are not white space; what a declaration names last ends
before the last closing parenthesis of its word, so a path may hold parentheses itself.
-/

set_option autoImplicit false

namespace UaHeaders.Sweep

/-- **Old include paths with their new ones**, each old path once. -/
structure Deprecations where
  pairs : List (String × String)
  deriving DecidableEq, Inhabited

namespace Deprecations

/-- Where the paths of a declaration start. -/
def includeRoot : String := "open62541pp/"

/-- How a declaration opens. -/
def opening : List Char := "deprecated_header(".toList

/-- The characters before and behind the last closing parenthesis of a word. -/
def splitAtLastClose (word : List Char) : Option (List Char × List Char) :=
  match word.reverse.dropWhile (· != ')') with
  | [] => none
  | _ :: before => some (before.reverse, word.drop (before.length + 1))

/-- Nothing is gained by splitting a word. -/
theorem length_splitAtLastClose {word before trailing : List Char}
    (h : splitAtLastClose word = some (before, trailing)) : trailing.length ≤ word.length := by
  unfold splitAtLastClose at h
  split at h
  · cases h
  · next closing front _ =>
    obtain ⟨-, rfl⟩ := Prod.mk.inj (Option.some.inj h)
    rw [List.length_drop]
    exact Nat.sub_le _ _

/-- What follows the last closing parenthesis of the first word of a text is no longer than the text. -/
theorem length_behindClose_le {text before trailing : List Char}
    (h : splitAtLastClose (text.takeWhile (!Text.isBlank ·)) = some (before, trailing)) :
    (trailing ++ text.drop (text.takeWhile (!Text.isBlank ·)).length).length ≤ text.length := by
  have htrailing := length_splitAtLastClose h
  have hword := (List.takeWhile_sublist (l := text) (!Text.isBlank ·)).length_le
  rw [List.length_append, List.length_drop]
  omega

/-- **The declaration that starts here**: its old path, its new path, and what follows it. -/
def declaration? (cs : List Char) : Option (List Char × List Char × List Char) :=
  if opening.isPrefixOf cs then
    let inside := cs.drop opening.length
    let old := inside.takeWhile (!Text.isBlank ·)
    let behindOld := inside.drop old.length
    let last := behindOld.dropWhile Text.isBlank
    let word := last.takeWhile (!Text.isBlank ·)
    if old.isEmpty || behindOld.length == last.length then none
    else
      match splitAtLastClose word with
      | some (c :: new, trailing) => some (old, c :: new, trailing ++ last.drop word.length)
      | _ => none
  else none

/-- What follows a declaration is shorter. -/
theorem length_declaration?_lt {cs old new rest : List Char}
    (h : declaration? cs = some (old, new, rest)) : rest.length < cs.length := by
  unfold declaration? at h
  split at h
  · next hopen =>
    have hopening : 0 < opening.length := by decide
    have hcs : opening.length ≤ cs.length := (List.isPrefixOf_iff_prefix.1 hopen).length_le
    have hinside : (cs.drop opening.length).length < cs.length := by
      rw [List.length_drop]
      omega
    dsimp only at h
    split at h
    · cases h
    · split at h
      · next c target trailing hsplit =>
        simp only [Option.some.injEq, Prod.mk.injEq] at h
        obtain ⟨-, -, rfl⟩ := h
        -- from the end on: the last word, the blanks in front of it, and the old path
        refine Nat.lt_of_le_of_lt (Nat.le_trans (length_behindClose_le hsplit) ?_) hinside
        refine Nat.le_trans (List.dropWhile_sublist _).length_le ?_
        rw [List.length_drop]
        exact Nat.sub_le _ _
      · cases h
  · cases h

/-- The declarations of a text, from left to right and without overlap. -/
def declarations (cs : List Char) : List (String × String) :=
  match _found : declaration? cs with
  | some (old, new, rest) =>
    (includeRoot ++ String.ofList old, includeRoot ++ String.ofList new) :: declarations rest
  | none =>
    match cs with
    | [] => []
    | _ :: cs => declarations cs
termination_by cs.length
decreasing_by
  · exact length_declaration?_lt _found
  · simp

/-- Notes one declaration: a path declared before keeps its place and gets the new target. -/
def note (pairs : List (String × String)) (old new : String) : List (String × String) :=
  if pairs.any (·.1 == old) then pairs.map fun pair => if pair.1 == old then (old, new) else pair
  else pairs ++ [(old, new)]

/-- **The deprecations a build file declares.** -/
def parse (text : String) : Deprecations :=
  ⟨(declarations text.toList).foldl (fun pairs (old, new) => note pairs old new) []⟩

/-- **A text with every old path replaced**, one declaration after the other. -/
def replaceIn (d : Deprecations) (text : String) : String :=
  d.pairs.foldl (fun text (old, new) => Text.replaceAll old new text) text

/-- The deprecations that the build file at a path declares. -/
def load (t : FileTree) (path : Path) : Except Problem Deprecations :=
  match t.readText path with
  | .ok text => .ok (parse text)
  | .error _ => .error (.unreadable path)

/-- **Replaces the old paths in files.** Answers the paths of those that changed. -/
def update (d : Deprecations) (files : List Path) (t : FileTree) :
    Except Problem (List Path) × FileTree :=
  changeAll d.replaceIn files t

end Deprecations

end UaHeaders.Sweep
