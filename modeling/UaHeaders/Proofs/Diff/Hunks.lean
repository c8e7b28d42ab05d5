import UaHeaders.Diff.Unified
import UaHeaders.Proofs.Diff.Script

/-!
# Hunks and the lines that they leave out

A hunk says what stands in the place of some lines, and behind how many lines of both texts that is. The
lines between hunks are the same in both texts, so that the hunks tell all of the difference. This is kept
when blocks are cut at long runs of kept lines, when those runs are cut down to their context, and when
hunks that change nothing are left out.

## Main definitions

* `UaHeaders.Diff.Replacement` — lines in the place of others.
* `UaHeaders.Diff.Replaces` — replacements, one behind the other, with the two lists between which they
  stand.

## Main results

* `UaHeaders.Diff.replaces_hunks` — the hunks of blocks tell all of the difference.
* `UaHeaders.Diff.replaces_hunks_blocksBetween` — so do those between two contents.
* `UaHeaders.Diff.hunks_blocksBetween_self` — between a content and itself there are none.
-/

set_option autoImplicit false

namespace UaHeaders.Diff

/-! ## Replacements -/

/-- **Lines in the place of others**: old ones that stand behind `oldStart` lines, and new ones that stand
behind `newStart` lines. -/
structure Replacement (α : Type) where
  oldStart : Nat
  newStart : Nat
  old : List α
  new : List α
  deriving DecidableEq

/-- A replacement of what the lines are seen as. -/
def Replacement.map {α β : Type} (f : α → β) (r : Replacement α) : Replacement β :=
  ⟨r.oldStart, r.newStart, r.old.map f, r.new.map f⟩

/-- **Replacements lead from one list to another**, behind a number of old and a number of new lines: what
stands between them is the same in both lists, and each stands where it says. -/
inductive Replaces {α : Type} : Nat → Nat → List (Replacement α) → List α → List α → Prop
  | none {passed made : Nat} {rest : List α} : Replaces passed made [] rest rest
  | step {passed made : Nat} {between old new : List α} {r : Replacement α}
      {rs : List (Replacement α)} :
      r.oldStart = passed + between.length → r.newStart = made + between.length →
      Replaces (r.oldStart + r.old.length) (r.newStart + r.new.length) rs old new →
      Replaces passed made (r :: rs) (between ++ (r.old ++ old)) (between ++ (r.new ++ new))

section Replaces

variable {α : Type} {passed made : Nat} {rs : List (Replacement α)} {old new : List α}

/-- Lines that are the same in both lists may stand in front. -/
lemma Replaces.behind (same : List α)
    (h : Replaces (passed + same.length) (made + same.length) rs old new) :
    Replaces passed made rs (same ++ old) (same ++ new) := by
  cases h with
  | none => exact .none
  | @step _ _ between old new r rs hold hnew hrest =>
    rw [← List.append_assoc same, ← List.append_assoc same]
    refine .step ?_ ?_ hrest
    · rw [List.length_append]
      omega
    · rw [List.length_append]
      omega

/-- A replacement may stand at the beginning. -/
lemma Replaces.start {r : Replacement α}
    (h : Replaces (r.oldStart + r.old.length) (r.newStart + r.new.length) rs old new) :
    Replaces r.oldStart r.newStart (r :: rs) (r.old ++ old) (r.new ++ new) :=
  @Replaces.step α _ _ [] old new r rs rfl rfl h

/-- Replacements lead the same way whatever the lines are seen as. -/
lemma Replaces.map {β : Type} (f : α → β) (h : Replaces passed made rs old new) :
    Replaces passed made (rs.map (Replacement.map f)) (old.map f) (new.map f) := by
  induction h with
  | none => exact .none
  | @step passed made between old new r rs hold hnew _ ih =>
    simp only [List.map_append, List.map_cons]
    refine .step ?_ ?_ ?_
    · rw [List.length_map]
      exact hold
    · rw [List.length_map]
      exact hnew
    · simpa [Replacement.map] using ih

/-- What replacements replace is in the lists between which they lead. -/
lemma Replaces.subset (h : Replaces passed made rs old new) :
    ∀ r ∈ rs, r.old ⊆ old ∧ r.new ⊆ new := by
  induction h with
  | none => simp
  | @step passed made between old new r rs _ _ _ ih =>
    rw [List.forall_mem_cons]
    refine ⟨⟨by simp, by simp⟩, fun r' hr' => ⟨?_, ?_⟩⟩
    · exact fun l hl => by simp [(ih r' hr').1 hl]
    · exact fun l hl => by simp [(ih r' hr').2 hl]

/-- Without replacements both lists are the same. -/
lemma Replaces.eq_of_nil (h : Replaces passed made [] old new) : old = new := by
  cases h with
  | none => rfl

end Replaces

/-! ## Cutting -/

namespace Hunk

variable {h : Hunk} {b : Block String}

/-- **What a hunk replaces.** -/
def replacement (h : Hunk) : Replacement String := ⟨h.oldStart, h.newStart, h.old, h.new⟩

/-- A hunk with one more block covers its old lines too. -/
@[simp] lemma old_snoc : (h.snoc b).old = h.old ++ b.old := by
  simp [old, snoc]

/-- A hunk with one more block covers its new lines too. -/
@[simp] lemma new_snoc : (h.snoc b).new = h.new ++ b.new := by
  simp [new, snoc]

/-- A hunk with one more block stands where it stood. -/
@[simp] lemma oldStart_snoc : (h.snoc b).oldStart = h.oldStart := rfl

/-- A hunk with one more block stands where it stood. -/
@[simp] lemma newStart_snoc : (h.snoc b).newStart = h.newStart := rfl

/-- A hunk without change covers the same lines of both texts. -/
lemma old_eq_new (hsame : h.hasChange = false) : h.old = h.new := by
  have hblocks : ∀ b ∈ h.blocks, b.old = b.new := by
    intro b hb
    rw [hasChange, List.any_eq_false] at hsame
    cases b with
    | same ls => rfl
    | change removed added => simpa using hsame _ hb
  exact List.flatMap_congr hblocks

end Hunk

/-- **Hunks without change may be left out.**

**Proof sketch.** Induction on the hunks. One without change puts the lines where they were, so they
count among those that are passed (`Replaces.behind`). -/
lemma Replaces.filter {hs : List Hunk} {passed made : Nat} {old new : List String}
    (h : Replaces passed made (hs.map Hunk.replacement) old new) :
    Replaces passed made ((hs.filter Hunk.hasChange).map Hunk.replacement) old new := by
  induction hs generalizing passed made old new with
  | nil => exact h
  | cons hunk hs ih =>
    cases h with
    | @step _ _ between old new _ _ hold hnew hrest =>
      rw [List.filter_cons]
      split_ifs with hchange
      · exact .step hold hnew (ih hrest)
      · have hsame : hunk.old = hunk.new := Hunk.old_eq_new (by simpa using hchange)
        have hbehind := ih hrest
        simp only [Hunk.replacement] at hold hnew hbehind ⊢
        rw [hsame] at hbehind ⊢
        rw [← List.append_assoc, ← List.append_assoc]
        apply Replaces.behind
        rwa [List.length_append, ← Nat.add_assoc, ← Nat.add_assoc, ← hold, ← hnew]

/-- The first block loses lines that are the same in both texts. -/
lemma trimFirst_spec (blocks : List (Block String)) : ∃ same : List String,
    same.length = (trimFirst blocks).1 ∧
      blocks.flatMap Block.old = same ++ (trimFirst blocks).2.flatMap Block.old ∧
      blocks.flatMap Block.new = same ++ (trimFirst blocks).2.flatMap Block.new := by
  unfold trimFirst
  split
  · next ls rest =>
    refine ⟨ls.take (ls.length - contextSize), by simp, ?_, ?_⟩
    · simp [Block.old, ← List.append_assoc]
    · simp [Block.new, ← List.append_assoc]
  · exact ⟨[], rfl, rfl, rfl⟩

/-- The last block loses lines that are the same in both texts. -/
lemma trimLast_spec (blocks : List (Block String)) : ∃ same : List String,
    blocks.flatMap Block.old = (trimLast blocks).flatMap Block.old ++ same ∧
      blocks.flatMap Block.new = (trimLast blocks).flatMap Block.new ++ same := by
  fun_induction trimLast blocks with
  | case1 => exact ⟨[], rfl, rfl⟩
  | case2 ls =>
    refine ⟨ls.drop contextSize, ?_, ?_⟩
    · simp [Block.old]
    · simp [Block.new]
  | case3 b rest _ ih =>
    obtain ⟨same, hold, hnew⟩ := ih
    exact ⟨same, by simp [hold], by simp [hnew]⟩

/-- A long run is the context behind one hunk, lines that are left out, and the context before the next. -/
lemma exists_left_out {ls : List String} (h : ls.length > 2 * contextSize) : ∃ between : List String,
    ls = ls.take contextSize ++ (between ++ ls.drop (ls.length - contextSize)) ∧
      (ls.take contextSize).length + between.length = ls.length - contextSize := by
  refine ⟨(ls.drop contextSize).take (ls.length - contextSize - contextSize), ?_, ?_⟩
  · have hdrop : ls.drop (ls.length - contextSize) =
        (ls.drop contextSize).drop (ls.length - contextSize - contextSize) := by
      rw [List.drop_drop]
      congr 1
      omega
    rw [hdrop, List.take_append_drop, List.take_append_drop]
  · simp only [List.length_take, List.length_drop]
    omega

/-- **Cutting blocks into hunks** leaves out lines that are the same in both texts: those of a long run
between its context on both sides, and those behind the last block.

**Proof sketch.** Along the cutting. At a long run the lines that neither hunk takes as context are
passed, and the next hunk starts behind them in both texts; every other block stays in the hunk. -/
lemma replaces_cutHunks (current : Hunk) (blocks : List (Block String)) (rest : List String) :
    Replaces current.oldStart current.newStart ((cutHunks current blocks).map Hunk.replacement)
      (current.old ++ (blocks.flatMap Block.old ++ rest))
      (current.new ++ (blocks.flatMap Block.new ++ rest)) := by
  fun_induction cutHunks current blocks with
  | case1 current => exact Replaces.start (r := current.replacement) .none
  | case2 current ls blocks hlong finished skipped next ih =>
    obtain ⟨between, hrun, hlength⟩ := exists_left_out hlong
    have hold : current.old ++ ((.same ls :: blocks).flatMap Block.old ++ rest) =
        finished.old ++ (between ++ (next.old ++ (blocks.flatMap Block.old ++ rest))) := by
      conv_lhs => rw [List.flatMap_cons, Block.old, hrun]
      simp [finished, next, Hunk.old, Hunk.snoc, Block.old, skipped]
    have hnew : current.new ++ ((.same ls :: blocks).flatMap Block.new ++ rest) =
        finished.new ++ (between ++ (next.new ++ (blocks.flatMap Block.new ++ rest))) := by
      conv_lhs => rw [List.flatMap_cons, Block.new, hrun]
      simp [finished, next, Hunk.new, Hunk.snoc, Block.new, skipped]
    have holdStart : finished.oldStart + finished.old.length + between.length = next.oldStart := by
      simp only [finished, next, Hunk.old_snoc, Hunk.oldStart_snoc, Block.old, List.length_append]
      omega
    have hnewStart : finished.newStart + finished.new.length + between.length = next.newStart := by
      simp only [finished, next, Hunk.new_snoc, Hunk.newStart_snoc, Block.new, List.length_append]
      omega
    rw [hold, hnew, List.map_cons]
    refine Replaces.start (r := finished.replacement) (Replaces.behind between ?_)
    rw [← holdStart, ← hnewStart] at ih
    exact ih
  | case3 current ls blocks hshort ih =>
    simpa [Block.old, Block.new] using ih
  | case4 current removed added blocks ih =>
    simpa [Block.old, Block.new] using ih

/-! ## All hunks -/

/-- **The hunks of blocks tell all of the difference** between the two lists of the blocks. -/
theorem replaces_hunks (blocks : List (Block String)) :
    Replaces 0 0 ((hunks blocks).map Hunk.replacement) (blocks.flatMap Block.old)
      (blocks.flatMap Block.new) := by
  obtain ⟨before, hlength, hold, hnew⟩ := trimFirst_spec blocks
  obtain ⟨rest, hold', hnew'⟩ := trimLast_spec (trimFirst blocks).2
  rw [hold, hnew, hold', hnew']
  apply Replaces.filter
  apply Replaces.behind
  rw [hlength, Nat.zero_add]
  exact replaces_cutHunks ⟨(trimFirst blocks).1, (trimFirst blocks).1, []⟩
    (trimLast (trimFirst blocks).2) rest

/-- **The hunks between two contents** tell all of the difference. -/
theorem replaces_hunks_blocksBetween (old new : String) :
    Replaces 0 0 ((hunks (blocksBetween old new)).map Hunk.replacement) (Text.terminatedLines old)
      (Text.terminatedLines new) := by
  have hleads := (leads_compare (Text.terminatedLines old) (Text.terminatedLines new)).settle
  have hhunks := replaces_hunks (blocksBetween old new)
  rwa [blocksBetween, flatMap_blocks_old, flatMap_blocks_new, hleads.old, hleads.new] at hhunks

/-- **Between a content and itself there are no hunks.** -/
lemma hunks_blocksBetween_self (s : String) : hunks (blocksBetween s s) = [] := by
  rw [blocksBetween, settle_compare_self]
  rcases Text.terminatedLines s with _ | ⟨l, ls⟩
  · rfl
  · have hcontext : contextSize = 3 := rfl
    have hblocks : blocks (nonempty .keep (l :: ls)) = [.same (l :: ls)] := rfl
    have hshort : ¬ (((l :: ls).drop ((l :: ls).length - contextSize)).take contextSize).length >
        2 * contextSize := by
      simp
      omega
    rw [hblocks]
    simp only [hunks, trimFirst, trimLast, cutHunks, if_neg hshort]
    rfl

end UaHeaders.Diff
