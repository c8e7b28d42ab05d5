import UaHeaders.Proofs.Diff.Hunks

/-!
# Reading and applying patches

A patch is read without a look at how it was made: two lines with the names of the files, and then hunks,
each with a line that says where it stands and how many lines it covers, and with that many lines. It is
applied only if each hunk stands where it says in both texts, and the lines that it keeps and removes are
the ones that stand there.

## Main definitions

* `UaHeaders.Diff.patchLines` — the lines of a patch, notes on missing line ends taken into account.
* `UaHeaders.Diff.readHeader?`, `UaHeaders.Diff.readBody?`, `UaHeaders.Diff.readHunks?` — hunks.
* `UaHeaders.Diff.readPatch?` — the replacements that a patch tells.
* `UaHeaders.Diff.applyAll?` — replacements made in a list of lines.
* `UaHeaders.Diff.applyPatch?` — a patch applied to a text.

## Main results

* `UaHeaders.Diff.applyAll?_eq_some_iff` — replacements are made exactly if they lead from the list to
  another.
-/

set_option autoImplicit false

namespace UaHeaders.Diff

/-! ## Lines -/

/-- The note behind a line that has no end. -/
def noEndNote : String := "\\ No newline at end of file\n"

/-- Lines without the notes between them. The line before a note loses the end that it was given. -/
def heedNotes : List (List Char) → List (List Char)
  | l :: k :: rest => if k = noEndNote.toList then l.dropLast :: heedNotes rest else l :: heedNotes (k :: rest)
  | ls => ls

/-- **The lines of a patch.** -/
def patchLines (cs : List Char) : List (List Char) := heedNotes (Text.terminatedChars cs)

/-! ## Places -/

/-- **Where lines stand**: the number of lines before them, and how many they are. -/
structure Place where
  before : Nat
  count : Nat
  deriving DecidableEq

/-- The place that a first line and a number of lines mean. Lines are counted from one; where there are no
lines, the line before them is named. -/
def place? (first count : Nat) : Option Place :=
  if count = 0 then some ⟨first, 0⟩ else if first = 0 then none else some ⟨first - 1, count⟩

/-- A number at the beginning of a text, and what follows it. -/
def readNumber? (cs : List Char) : Option (Nat × List Char) :=
  if (cs.takeWhile Char.isDigit).isEmpty then none
  else some (Nat.ofDigitChars 10 (cs.takeWhile Char.isDigit) 0, cs.dropWhile Char.isDigit)

/-- A place at the beginning of a text, and what follows it. One line is meant if no number of lines is
there. -/
def readPlace? (cs : List Char) : Option (Place × List Char) := do
  let (first, rest) ← readNumber? cs
  match rest with
  | ',' :: rest => do
    let (count, rest) ← readNumber? rest
    let place ← place? first count
    some (place, rest)
  | _ => do
    let place ← place? first 1
    some (place, rest)

/-- **The first line of a hunk**: its place in the old and in the new text. -/
def readHeader? (line : List Char) : Option (Place × Place) := do
  let rest ← line.dropPrefix? "@@ -".toList
  let (old, rest) ← readPlace? rest
  let rest ← rest.dropPrefix? " +".toList
  let (new, rest) ← readPlace? rest
  if rest = " @@\n".toList then some (old, new) else none

/-! ## Hunks -/

/-- **The lines of a hunk** with a number of old and of new lines, and what follows them. The sign of a
line says whether it is kept, removed or added. -/
def readBody? : Nat → Nat → List (List Char) →
    Option (List (List Char) × List (List Char) × List (List Char))
  | 0, 0, lines => some ([], [], lines)
  | old + 1, new + 1, (' ' :: l) :: lines =>
    (readBody? old new lines).map fun (olds, news, rest) => (l :: olds, l :: news, rest)
  | old + 1, new, ('-' :: l) :: lines =>
    (readBody? old new lines).map fun (olds, news, rest) => (l :: olds, news, rest)
  | old, new + 1, ('+' :: l) :: lines =>
    (readBody? old new lines).map fun (olds, news, rest) => (olds, l :: news, rest)
  | _, _, _ => none

/-- What follows the lines of a hunk is no longer than what they begin. -/
lemma length_readBody?_le {old new : Nat} {lines olds news rest : List (List Char)}
    (h : readBody? old new lines = some (olds, news, rest)) : rest.length ≤ lines.length := by
  fun_induction readBody? old new lines generalizing olds news rest with
  | case1 lines =>
    cases h
    exact le_rfl
  | case2 old new l lines ih =>
    obtain ⟨_, hbody, heq⟩ := Option.map_eq_some_iff.1 h
    cases heq
    exact (ih hbody).trans (Nat.le_succ _)
  | case3 old new l lines ih =>
    obtain ⟨_, hbody, heq⟩ := Option.map_eq_some_iff.1 h
    cases heq
    exact (ih hbody).trans (Nat.le_succ _)
  | case4 old new l lines ih =>
    obtain ⟨_, hbody, heq⟩ := Option.map_eq_some_iff.1 h
    cases heq
    exact (ih hbody).trans (Nat.le_succ _)
  | case5 => cases h

/-- **The replacements that hunks tell**, one hunk behind the other. -/
def readHunks? : List (List Char) → Option (List (Replacement (List Char)))
  | [] => some []
  | line :: lines =>
    match readHeader? line with
    | none => none
    | some (old, new) =>
      match _read : readBody? old.count new.count lines with
      | none => none
      | some (olds, news, rest) => (readHunks? rest).map (⟨old.before, new.before, olds, news⟩ :: ·)
termination_by lines => lines.length
decreasing_by
  have hle := length_readBody?_le _read
  simp
  omega

/-- **The replacements that a patch tells**, behind the names of the two files. -/
def readPatch? (cs : List Char) : Option (List (Replacement (List Char))) :=
  match patchLines cs with
  | oldName :: newName :: lines =>
    if "--- ".toList <+: oldName ∧ "+++ ".toList <+: newName then readHunks? lines else none
  | _ => none

/-! ## Applying -/

section Apply

variable {α : Type} [DecidableEq α]

/-- **Replacements made in the lines of a text**, of which some were passed before and some were made. A
replacement is not made unless it stands where it says in both texts, with its old lines there. -/
def applyAll? (passed made : Nat) : List (Replacement α) → List α → Option (List α)
  | [], lines => some lines
  | r :: rs, lines =>
    let between := lines.take (r.oldStart - passed)
    let behind := lines.drop (r.oldStart - passed)
    if r.oldStart = passed + between.length ∧ r.newStart = made + between.length ∧ r.old <+: behind then
      (applyAll? (r.oldStart + r.old.length) (r.newStart + r.new.length) rs
        (behind.drop r.old.length)).map fun rest => between ++ (r.new ++ rest)
    else none

/-- **Replacements are made exactly if they lead from the list to another**, and then the other is what
they make of it.

**Proof sketch.** Induction on the replacements. The lines between the last place and the next one are
passed, and the old lines stand behind them, in both directions. -/
theorem applyAll?_eq_some_iff {passed made : Nat} {rs : List (Replacement α)} {old new : List α} :
    applyAll? passed made rs old = some new ↔ Replaces passed made rs old new := by
  induction rs generalizing passed made old new with
  | nil =>
    constructor
    · intro h
      obtain rfl : old = new := by simpa [applyAll?] using h
      exact .none
    · intro h
      rw [applyAll?, h.eq_of_nil]
  | cons r rs ih =>
    constructor
    · intro h
      simp only [applyAll?] at h
      split_ifs at h with hplace
      obtain ⟨hold, hnew, tail, htail⟩ := hplace
      obtain ⟨rest, hrest, rfl⟩ := Option.map_eq_some_iff.1 h
      rw [← htail, List.drop_left, ih] at hrest
      have hlines : old.take (r.oldStart - passed) ++ (r.old ++ tail) = old := by
        rw [htail, List.take_append_drop]
      generalize old.take (r.oldStart - passed) = between at hlines hold hnew ⊢
      subst hlines
      exact .step hold hnew hrest
    · intro h
      cases h with
      | @step _ _ between old new _ _ hold hnew hrest =>
        have hgap : r.oldStart - passed = between.length := by omega
        simp only [applyAll?, hgap, List.take_left, List.drop_left]
        rw [if_pos ⟨hold, hnew, List.prefix_append _ _⟩, ih.2 hrest]
        rfl

end Apply

/-- **A patch applied to a text**, line by line. -/
def applyPatch? (patch old : String) : Option String := do
  let rs ← readPatch? patch.toList
  let lines ← applyAll? 0 0 rs (Text.terminatedChars old.toList)
  some (String.ofList lines.flatten)

example : applyPatch? "--- a\n+++ b\n@@ -2 +2,2 @@\n-x\n+y\n+z\n" "w\nx\n" = some "w\ny\nz\n" := by
  decide +kernel

-- another line stands there, or the hunk has more lines than it says
example : applyPatch? "--- a\n+++ b\n@@ -2 +2,2 @@\n-x\n+y\n+z\n" "w\nv\n" = none ∧
    applyPatch? "--- a\n+++ b\n@@ -2 +2 @@\n-x\n+y\n+z\n" "w\nx\n" = none := by
  decide +kernel

end UaHeaders.Diff
