import Mathlib.Tactic
import UaHeaders.Registry.Schema

/-!
# Lists without repetitions

A list without its repetitions has the same members, each of them at the place of its first occurrence. A
member that was seen before changes nothing, so what a list adds behind another one depends only on which
members are seen.

## Main results

* `UaHeaders.mem_distinct`, `UaHeaders.nodup_distinct` — the members, and that none is repeated.
* `UaHeaders.pairwise_distinct` — they stand in the order of their first occurrences.
* `UaHeaders.distinct_append` — a list behind another one.
* `UaHeaders.distinct_repeated` — members that are repeated later on.
-/

set_option autoImplicit false

namespace UaHeaders

variable {α : Type} [DecidableEq α] {x : α} {seen seen' xs ys : List α}

/-- What is in a list is in it without its repetitions, but for what was seen. -/
lemma mem_distinct : x ∈ distinct seen xs ↔ x ∈ xs ∧ x ∉ seen := by
  induction xs generalizing seen with
  | nil => simp [distinct]
  | cons y ys ih =>
    rw [distinct]
    split_ifs with hy
    · rw [ih, List.mem_cons]
      refine ⟨fun h => ⟨.inr h.1, h.2⟩, fun ⟨h, hx⟩ => ⟨h.resolve_left ?_, hx⟩⟩
      rintro rfl
      exact hx hy
    · rw [List.mem_cons, List.mem_cons, ih, List.mem_cons, not_or]
      by_cases hxy : x = y
      · subst hxy
        simp [hy]
      · simp [hxy]

/-- Nothing is repeated. -/
lemma nodup_distinct (seen xs : List α) : (distinct seen xs).Nodup := by
  induction xs generalizing seen with
  | nil => exact List.nodup_nil
  | cons y ys ih =>
    rw [distinct]
    split_ifs with hy
    · exact ih seen
    · rw [List.nodup_cons]
      refine ⟨fun hmem => ?_, ih _⟩
      exact (mem_distinct.1 hmem).2 List.mem_cons_self

/-- What is left without repetitions stands in the same order. -/
lemma distinct_sublist (seen xs : List α) : (distinct seen xs).Sublist xs := by
  induction xs generalizing seen with
  | nil => exact .slnil
  | cons x xs ih =>
    rw [distinct]
    split_ifs
    · exact (ih seen).cons x
    · exact (ih _).cons_cons x

/-- **What stands first in a list stands first among its distinct members.**

**Proof sketch.** Induction on the list. The head stands in front of all others, and what is distinct
behind it differs from it, so every place there is one further than without it. -/
lemma pairwise_distinct (seen xs : List α) :
    (distinct seen xs).Pairwise fun x y => xs.idxOf x < xs.idxOf y := by
  induction xs generalizing seen with
  | nil => exact .nil
  | cons x xs ih =>
    rw [distinct]
    -- a member that is not the first keeps its distance to the others
    have hlater : ∀ seen, x ∈ seen → (distinct seen xs).Pairwise fun y z =>
        (x :: xs).idxOf y < (x :: xs).idxOf z := by
      intro seen hx
      refine (ih seen).imp_of_mem fun {y z} hy hz hlt => ?_
      have hyx : x ≠ y := by
        rintro rfl
        exact (mem_distinct.1 hy).2 hx
      have hzx : x ≠ z := by
        rintro rfl
        exact (mem_distinct.1 hz).2 hx
      rw [List.idxOf_cons_ne _ hyx, List.idxOf_cons_ne _ hzx]
      exact Nat.succ_lt_succ hlt
    split_ifs with hx
    · exact hlater seen hx
    · refine List.pairwise_cons.2 ⟨fun y hy => ?_, hlater _ List.mem_cons_self⟩
      have hyx : x ≠ y := by
        rintro rfl
        exact (mem_distinct.1 hy).2 List.mem_cons_self
      rw [List.idxOf_cons_self, List.idxOf_cons_ne _ hyx]
      exact Nat.succ_pos _

/-! ## What was seen -/

/-- It only matters which members were seen. -/
lemma distinct_congr (h : ∀ x, x ∈ seen ↔ x ∈ seen') : distinct seen xs = distinct seen' xs := by
  induction xs generalizing seen seen' with
  | nil => rfl
  | cons x xs ih =>
    have hcons : ∀ y, y ∈ x :: seen ↔ y ∈ x :: seen' := fun y => by
      rw [List.mem_cons, List.mem_cons, h]
    simp only [distinct, h x, ih h, ih hcons]

/-- Nothing is left of what was seen. -/
lemma distinct_eq_nil (h : ∀ x ∈ xs, x ∈ seen) : distinct seen xs = [] := by
  rw [List.eq_nil_iff_forall_not_mem]
  exact fun x hx => (mem_distinct.1 hx).2 (h x (mem_distinct.1 hx).1)

/-- A list without repetitions is left as it is. -/
lemma distinct_eq_self (h : xs.Nodup) (hseen : ∀ x ∈ xs, x ∉ seen) : distinct seen xs = xs := by
  refine (distinct_sublist seen xs).eq_of_length_le ?_
  exact (h.subperm fun x hx => mem_distinct.2 ⟨hx, hseen x hx⟩).length_le

/-- **A list behind another one** adds the members that are not in the first. -/
lemma distinct_append (seen xs ys : List α) :
    distinct seen (xs ++ ys) = distinct seen xs ++ distinct (seen ++ xs) ys := by
  induction xs generalizing seen with
  | nil => rw [List.nil_append, List.append_nil, distinct, List.nil_append]
  | cons x xs ih =>
    rw [List.cons_append, distinct, distinct]
    split_ifs with hx
    · have hsame : distinct (seen ++ xs) ys = distinct (seen ++ x :: xs) ys := by
        refine distinct_congr fun y => ?_
        by_cases hy : y = x
        · simp [hy, hx]
        · simp [hy]
      rw [ih, hsame]
    · have hsame : distinct (x :: seen ++ xs) ys = distinct (seen ++ x :: xs) ys := by
        refine distinct_congr fun y => ?_
        simp only [List.cons_append, List.mem_append, List.mem_cons]
        exact or_left_comm
      rw [ih, hsame, List.cons_append]

/-- **Members that are repeated later on** change nothing. -/
lemma distinct_repeated (h : ∀ y ∈ ys, y ∈ xs) (zs : List α) :
    distinct seen (xs ++ (ys ++ zs)) = distinct seen (xs ++ zs) := by
  have hys : ∀ y ∈ ys, y ∈ seen ++ xs := fun y hy => List.mem_append_right _ (h y hy)
  have hsame : distinct (seen ++ xs ++ ys) zs = distinct (seen ++ xs) zs := by
    refine distinct_congr fun y => ?_
    rw [List.mem_append]
    exact ⟨fun hy => hy.elim id (hys y), .inl⟩
  rw [distinct_append, distinct_append, distinct_append seen xs zs, distinct_eq_nil hys,
    List.nil_append, hsame]

end UaHeaders
