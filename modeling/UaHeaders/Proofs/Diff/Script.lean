import Mathlib.Tactic
import UaHeaders.Diff.Compare

/-!
# Where scripts lead

An edit script leads from the lines that it keeps and removes to the lines that it keeps and adds. The
script that comes of a comparison leads from the one list to the other, wherever the lists are cut, and
settling it moves additions over lines that they begin or end with, so that it leads the same way after
as before.

## Main definitions

* `UaHeaders.Diff.Leads` — a script with the two lists between which it stands.

## Main results

* `UaHeaders.Diff.leads_compare` — a comparison leads from the old list to the new one.
* `UaHeaders.Diff.Leads.settle` — a settled script leads the same way.
* `UaHeaders.Diff.settle_compare_self` — a list that is compared with itself is kept.
-/

set_option autoImplicit false

namespace UaHeaders.Diff

/-! ## Scripts and the lists between which they stand -/

/-- **A script leads from one list to another**: the one is what it keeps and removes, the other what it
keeps and adds. -/
structure Leads {α : Type} (script : List (Segment α)) (old new : List α) : Prop where
  old : script.flatMap Segment.old = old
  new : script.flatMap Segment.new = new

section Leads

variable {α : Type} {script script' : List (Segment α)} {old new old' new' ls : List α}

/-- Scripts one after the other lead from one list after the other. -/
lemma Leads.append (h : Leads script old new) (h' : Leads script' old' new') :
    Leads (script ++ script') (old ++ old') (new ++ new') := by
  constructor
  · rw [List.flatMap_append, h.old, h'.old]
  · rw [List.flatMap_append, h.new, h'.new]

/-- A script goes on with a segment. -/
lemma Leads.cons (s : Segment α) (h : Leads script old new) :
    Leads (s :: script) (s.old ++ old) (s.new ++ new) := by
  constructor
  · rw [List.flatMap_cons, h.old]
  · rw [List.flatMap_cons, h.new]

/-- The empty script leads nowhere. -/
lemma leads_nil : Leads ([] : List (Segment α)) [] [] := ⟨rfl, rfl⟩

/-- Lines that are kept stay. -/
lemma leads_keep (ls : List α) : Leads (nonempty .keep ls) ls ls := by
  rcases ls with _ | ⟨l, ls⟩
  · exact leads_nil
  · exact ⟨by simp [nonempty, Segment.old], by simp [nonempty, Segment.new]⟩

/-- Lines that are removed are not there any more. -/
lemma leads_remove (ls : List α) : Leads (nonempty .remove ls) ls [] := by
  rcases ls with _ | ⟨l, ls⟩
  · exact leads_nil
  · exact ⟨by simp [nonempty, Segment.old], by simp [nonempty, Segment.new]⟩

/-- Lines that are added were not there before. -/
lemma leads_add (ls : List α) : Leads (nonempty .add ls) [] ls := by
  rcases ls with _ | ⟨l, ls⟩
  · exact leads_nil
  · exact ⟨by simp [nonempty, Segment.old], by simp [nonempty, Segment.new]⟩

/-- Everything may be removed, and then all added. -/
lemma leads_replace (old new : List α) : Leads [.remove old, .add new] old new :=
  ⟨by simp [Segment.old], by simp [Segment.new]⟩

end Leads

variable {α : Type} [DecidableEq α] {script : List (Segment α)} {old new : List α}

/-! ## Common beginnings and ends -/

/-- Lists begin alike as far as they are said to. -/
lemma take_commonStart (as bs : List α) :
    as.take (commonStart as bs) = bs.take (commonStart as bs) := by
  fun_induction commonStart as bs with
  | case1 a as bs ih => rw [List.take_succ_cons, List.take_succ_cons, ih]
  | case2 a as b bs hne => rfl
  | case3 as bs hnone => rfl

/-- Lists end alike as far as they are said to. -/
lemma drop_commonEnd (as bs : List α) :
    as.drop (as.length - commonEnd as bs) = bs.drop (bs.length - commonEnd as bs) := by
  have h := take_commonStart as.reverse bs.reverse
  rw [List.take_reverse, List.take_reverse] at h
  exact List.reverse_injective h

/-- A list begins with the whole of itself. -/
lemma commonStart_self (as : List α) : commonStart as as = as.length := by
  induction as with
  | nil => rfl
  | cons a as ih => rw [commonStart, if_pos rfl, ih, List.length_cons]

/-! ## Comparing -/

/-- **A comparison leads from the old list to the new one.**

**Proof sketch.** What both lists begin and end with is kept. What lies between is removed and added, or
cut into two shorter parts that are compared by themselves; where the cut is does not matter. -/
theorem leads_compare (old new : List α) : Leads (compare old new) old new := by
  induction hn : old.length + new.length using Nat.strong_induction_on generalizing old new with
  | _ n ih =>
    subst hn
    unfold compare
    extract_lets start old' new' ending oldCore newCore middle
    have hstart : old.take start = new.take start := take_commonStart old new
    have hending : old'.drop (old'.length - ending) = new'.drop (new'.length - ending) :=
      drop_commonEnd old' new'
    have hold : oldCore.length ≤ old.length := by simp [oldCore, old']; omega
    have hnew : newCore.length ≤ new.length := by simp [newCore, new']; omega
    have hmiddle : Leads middle oldCore newCore := by
      simp only [middle]
      split_ifs with hempty
      · have hlead := (leads_remove oldCore).append (leads_add newCore)
        rwa [List.append_nil, List.nil_append] at hlead
      · split
        · next x y _ =>
          split_ifs with hcut
          · have hbefore := ih _ (by simp; omega) (oldCore.take x) (newCore.take y) rfl
            have hbehind := ih _ (by simp; omega) (oldCore.drop x) (newCore.drop y) rfl
            have hlead := hbefore.append hbehind
            rwa [List.take_append_drop, List.take_append_drop] at hlead
          · exact leads_replace oldCore newCore
        · exact leads_replace oldCore newCore
    have hlead := ((leads_keep (old.take start)).append hmiddle).append
      (leads_keep (old'.drop (old'.length - ending)))
    have holdEq : old.take start ++ oldCore ++ old'.drop (old'.length - ending) = old := by
      rw [List.append_assoc, List.take_append_drop, List.take_append_drop]
    have hnewEq : old.take start ++ newCore ++ old'.drop (old'.length - ending) = new := by
      rw [hstart, hending, List.append_assoc, List.take_append_drop, List.take_append_drop]
    rwa [holdEq, hnewEq] at hlead

/-- A list that is compared with itself is kept. -/
lemma compare_self (ls : List α) : compare ls ls = nonempty .keep ls := by
  rw [compare]
  simp [commonStart_self, commonEnd, nonempty]

/-! ## Settling -/

namespace Zipper

section Views

variable {view : Segment α → List α} (hview : ∀ ls, view (.keep ls) = ls)

include hview

omit [DecidableEq α] in
/-- Kept lines in front of segments are seen in front of them. -/
lemma flatMap_consKeep (ls : List α) (rest : List (Segment α)) :
    (consKeep ls rest).flatMap view = ls ++ rest.flatMap view := by
  unfold consKeep
  split
  · simp [hview]
  · simp [hview]

omit [DecidableEq α] in
/-- Kept lines behind segments are seen behind them. -/
lemma flatMap_reverse_snocKeep (ls : List α) (rest : List (Segment α)) :
    (snocKeep ls rest).reverse.flatMap view = rest.reverse.flatMap view ++ ls := by
  unfold snocKeep
  split
  · simp [hview]
  · simp [hview]

omit [DecidableEq α] in
/-- Kept lines are seen, and none if there are none. -/
lemma flatMap_keepNonempty (ls : List α) (rest : List (Segment α)) :
    (keepNonempty ls rest).flatMap view = ls ++ rest.flatMap view := by
  unfold keepNonempty
  split_ifs with hempty
  · simp [List.isEmpty_iff.1 hempty]
  · simp [hview]

omit [DecidableEq α] in
/-- The same in reverse order. -/
lemma flatMap_reverse_keepNonempty (ls : List α) (rest : List (Segment α)) :
    (keepNonempty ls rest).reverse.flatMap view = rest.reverse.flatMap view ++ ls := by
  unfold keepNonempty
  split_ifs with hempty
  · simp [List.isEmpty_iff.1 hempty]
  · simp [hview]

end Views

omit [DecidableEq α] in
/-- Where the script around an addition leads. -/
lemma leads_script_iff {z : Zipper α} :
    Leads z.script old new ↔
      z.before.reverse.flatMap Segment.old ++ z.after.flatMap Segment.old = old ∧
        z.before.reverse.flatMap Segment.new ++ (z.added ++ z.after.flatMap Segment.new) = new := by
  have hadd : ∀ ls : List α, (Segment.add ls).old = [] ∧ (Segment.add ls).new = ls :=
    fun _ => ⟨rfl, rfl⟩
  constructor
  · rintro ⟨hold, hnew⟩
    simp only [script, List.flatMap_append, List.flatMap_cons, hadd, List.nil_append] at hold hnew
    exact ⟨hold, hnew⟩
  · rintro ⟨hold, hnew⟩
    constructor
    · simpa only [script, List.flatMap_append, List.flatMap_cons, hadd, List.nil_append] using hold
    · simpa only [script, List.flatMap_append, List.flatMap_cons, hadd] using hnew

/-- **An addition that goes up leads the same way**: it passes lines that end as it ends.

**Proof sketch.** Induction on the bound. Nothing changes for the old lines. Where the lines that are
kept and those that are added have an end in common (`drop_commonEnd`), it is written in front of the
rest of both instead of behind, and that comes to the same. -/
lemma leads_up (bound : Nat) {z : Zipper α} (h : Leads z.script old new) :
    Leads (up bound z).script old new := by
  induction bound generalizing z with
  | zero => exact h
  | succ bound ih =>
    obtain ⟨before, added, after⟩ := z
    rcases before with _ | ⟨kept | removed | more, before⟩
    · exact h
    · simp only [up]
      split_ifs with hn
      · exact h
      · apply ih
        rw [leads_script_iff] at h ⊢
        obtain ⟨hold, hnew⟩ := h
        have hend := drop_commonEnd kept added
        generalize commonEnd kept added = n at hend hn ⊢
        -- `kept` and `added` end with the same lines, which now stand in front of what they were behind
        have hkept := List.take_append_drop (kept.length - n) kept
        have hadded := List.take_append_drop (added.length - n) added
        rw [flatMap_reverse_keepNonempty fun _ => rfl, flatMap_reverse_keepNonempty fun _ => rfl,
          flatMap_consKeep fun _ => rfl, flatMap_consKeep fun _ => rfl]
        constructor
        · rw [← hold, List.append_assoc, ← List.append_assoc (kept.take _), hkept]
          simp [Segment.old]
        · calc
            before.reverse.flatMap Segment.new ++ kept.take (kept.length - n) ++
                (added.drop (added.length - n) ++ added.take (added.length - n) ++
                  (kept.drop (kept.length - n) ++ after.flatMap Segment.new))
              = before.reverse.flatMap Segment.new ++
                  (kept.take (kept.length - n) ++ kept.drop (kept.length - n) ++
                    (added.take (added.length - n) ++ added.drop (added.length - n) ++
                      after.flatMap Segment.new)) := by simp only [hend, List.append_assoc]
            _ = new := by
              rw [hkept, hadded, ← hnew]
              simp [Segment.new]
    · apply ih
      rw [leads_script_iff] at h ⊢
      simpa [Segment.old, Segment.new] using h
    · apply ih
      rw [leads_script_iff] at h ⊢
      simpa [Segment.old, Segment.new] using h

/-- **An addition that goes down leads the same way**: it passes lines that begin as it begins.

**Proof sketch.** As for `leads_up`, with the lines that both begin with (`take_commonStart`). -/
lemma leads_down (bound : Nat) {z : Zipper α} (h : Leads z.script old new) :
    Leads (down bound z).script old new := by
  induction bound generalizing z with
  | zero => exact h
  | succ bound ih =>
    obtain ⟨before, added, after⟩ := z
    rcases after with _ | ⟨kept | removed | more, after⟩
    · exact h
    · simp only [down]
      split_ifs with hn
      · exact h
      · apply ih
        rw [leads_script_iff] at h ⊢
        obtain ⟨hold, hnew⟩ := h
        have hstart := take_commonStart kept added
        generalize commonStart kept added = n at hstart hn ⊢
        have hkept := List.take_append_drop n kept
        have hadded := List.take_append_drop n added
        rw [flatMap_reverse_snocKeep fun _ => rfl, flatMap_reverse_snocKeep fun _ => rfl,
          flatMap_keepNonempty fun _ => rfl, flatMap_keepNonempty fun _ => rfl]
        constructor
        · rw [← hold, List.append_assoc, ← List.append_assoc (kept.take _), hkept]
          simp [Segment.old]
        · calc
            before.reverse.flatMap Segment.new ++ kept.take n ++
                (added.drop n ++ added.take n ++ (kept.drop n ++ after.flatMap Segment.new))
              = before.reverse.flatMap Segment.new ++
                  (added.take n ++ added.drop n ++
                    (kept.take n ++ kept.drop n ++ after.flatMap Segment.new)) := by
                simp only [hstart, List.append_assoc]
            _ = new := by
              rw [hkept, hadded, ← hnew]
              simp [Segment.new]
    · apply ih
      rw [leads_script_iff] at h ⊢
      simpa [Segment.old, Segment.new] using h
    · apply ih
      rw [leads_script_iff] at h ⊢
      simpa [Segment.old, Segment.new] using h

end Zipper

/-- Settling from a segment on leads the same way.

**Proof sketch.** Induction on the bound. A segment that is kept or removed is stepped over, and an
addition goes up (`Zipper.leads_up`) and down (`Zipper.leads_down`) before it is. -/
lemma leads_settleFrom (bound : Nat) {before rest : List (Segment α)}
    (h : Leads (before.reverse ++ rest) old new) : Leads (settleFrom bound before rest) old new := by
  induction bound generalizing before rest with
  | zero => exact h
  | succ bound ih =>
    rcases rest with _ | ⟨kept | removed | added, after⟩
    · rw [settleFrom]
      rwa [List.append_nil] at h
    · rw [settleFrom]
      · apply ih
        simpa using h
      · simp
    · rw [settleFrom]
      · apply ih
        simpa using h
      · simp
    · rw [settleFrom]
      apply ih
      have hsettled : Leads (Zipper.mk before added after).settle.script old new :=
        Zipper.leads_down _ (Zipper.leads_up _ h)
      simpa [Zipper.script] using hsettled

/-- **A settled script leads the same way.** -/
lemma Leads.settle (h : Leads script old new) : Leads (Diff.settle script) old new :=
  leads_settleFrom _ h

/-- **A list that is compared with itself is kept**, and that is settled. -/
lemma settle_compare_self (ls : List α) : settle (compare ls ls) = nonempty .keep ls := by
  rw [compare_self]
  rcases ls with _ | ⟨l, ls⟩
  · rfl
  · rfl

end UaHeaders.Diff
