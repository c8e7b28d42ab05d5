import Mathlib.Data.List.Forall2
import Mathlib.Data.List.Perm.Subperm

/-!
# Lists that match

Two lists match if their members are related one by one, in the order in which they stand. A traversal
that succeeds leaves a list that matches the one it went through. Lists that are cut at a mark match if
they are equal and the mark is nowhere else.

## Main results

* `UaHeaders.append_cons_inj`, `UaHeaders.append_cons_inj_of_right` — lists that are cut at a mark.
* `UaHeaders.forall₂_comp` — lists that match a third one match each other.
* `UaHeaders.exists_of_forall₂`, `UaHeaders.exists_forall₂` — every member has a partner.
* `UaHeaders.exists_of_bind_eq_ok` — two steps that succeed.
* `UaHeaders.forall₂_of_mapM`, `UaHeaders.exists_mapM` — traversals that succeed.
* `UaHeaders.forM_eq_ok_iff` — checks that succeed.
* `UaHeaders.takeWhile_append_of_stops` — a list that is cut where a test fails.
* `UaHeaders.map_subperm_map` — images of some members of a list.
* `UaHeaders.filter_eq_eraseIdx` — a list without the member at one place.
* `UaHeaders.idxOf_lt_of_filter` — members of which one stands in front of the other.
-/

set_option autoImplicit false

namespace UaHeaders

/-- Lists that are cut at the first mark are equal piece by piece. -/
lemma append_cons_inj {α : Type} {a : α} {xs ys us vs : List α} (hx : a ∉ xs) (hy : a ∉ ys)
    (h : xs ++ a :: us = ys ++ a :: vs) : xs = ys ∧ us = vs := by
  induction xs generalizing ys with
  | nil =>
    rcases ys with _ | ⟨y, ys⟩
    · exact ⟨rfl, by simpa using h⟩
    · obtain rfl : a = y := by simpa using congrArg List.head? h
      simp at hy
  | cons x xs ih =>
    rw [List.mem_cons, not_or] at hx
    rcases ys with _ | ⟨y, ys⟩
    · exact absurd (by simpa [eq_comm] using congrArg List.head? h) hx.1
    · rw [List.mem_cons, not_or] at hy
      rw [List.cons_append, List.cons_append, List.cons.injEq] at h
      obtain ⟨rfl, rfl⟩ := ih hx.2 hy.2 h.2
      exact ⟨by rw [h.1], rfl⟩

/-- Lists that are cut at the last mark are equal piece by piece. -/
lemma append_cons_inj_of_right {α : Type} {a : α} {xs ys us vs : List α} (hu : a ∉ us) (hv : a ∉ vs)
    (h : xs ++ a :: us = ys ++ a :: vs) : xs = ys ∧ us = vs := by
  have hreverse : us.reverse ++ a :: xs.reverse = vs.reverse ++ a :: ys.reverse := by
    simpa using congrArg List.reverse h
  obtain ⟨hus, hxs⟩ := append_cons_inj (by simpa using hu) (by simpa using hv) hreverse
  exact ⟨List.reverse_injective hxs, List.reverse_injective hus⟩

/-- What is between the marks of a list is in the list. -/
lemma mem_of_mem_splitOn {α : Type} [BEq α] [LawfulBEq α] {a x : α} {xs part : List α}
    (hpart : part ∈ xs.splitOn a) (hx : x ∈ part) : x ∈ xs := by
  have hmem : ∀ parts : List (List α), part ∈ parts → x ∈ [a].intercalate parts := by
    intro parts hparts
    induction parts with
    | nil => simp at hparts
    | cons first rest ih =>
      rcases rest with _ | ⟨second, rest⟩
      · simpa [show part = first by simpa using hparts] using hx
      · rw [List.intercalate_cons_of_ne_nil (by simp), List.mem_append, List.mem_append]
        rcases List.mem_cons.1 hparts with rfl | hparts
        · exact .inl (.inl hx)
        · exact .inr (ih hparts)
  have hjoined : [a].intercalate (xs.splitOn a) = xs := List.intercalate_splitOn a
  rw [← hjoined]
  exact hmem _ hpart

/-- The mark itself is in no part between the marks. -/
lemma notMem_of_mem_splitOn {α : Type} [BEq α] [LawfulBEq α] {a : α} {xs part : List α}
    (hpart : part ∈ xs.splitOn a) : a ∉ part := by
  induction xs generalizing part with
  | nil => simp_all
  | cons x xs ih =>
    rw [List.splitOn_cons_eq_if_modifyHead] at hpart
    split_ifs at hpart with hx
    · rcases List.mem_cons.1 hpart with rfl | hpart
      · simp
      · exact ih hpart
    · obtain ⟨first, rest, hparts⟩ := List.exists_cons_of_ne_nil (List.splitOn_ne_nil a xs)
      rw [hparts, List.modifyHead_cons, List.mem_cons] at hpart
      rcases hpart with rfl | hpart
      · rw [List.mem_cons, not_or]
        exact ⟨fun h => hx (by simp [h]), ih (by simp [hparts])⟩
      · exact ih (by simp [hparts, hpart])

/-- Related lists that share a middle one are related member by member. -/
lemma forall₂_comp {α β γ : Type} {R : α → β → Prop} {S : β → γ → Prop} {T : α → γ → Prop}
    {xs : List α} {ys : List β} {zs : List γ} (h : List.Forall₂ R xs ys)
    (h' : List.Forall₂ S ys zs) (hT : ∀ x y z, R x y → S y z → T x z) : List.Forall₂ T xs zs := by
  induction h generalizing zs with
  | nil =>
    cases h'
    exact .nil
  | cons hr _ ih =>
    cases h' with
    | cons hs hrest => exact .cons (hT _ _ _ hr hs) (ih hrest)

/-- A member on the right has a partner on the left. -/
lemma exists_of_forall₂ {α β : Type} {R : α → β → Prop} {xs : List α} {ys : List β}
    (h : List.Forall₂ R xs ys) {y : β} (hy : y ∈ ys) : ∃ x ∈ xs, R x y := by
  induction h with
  | nil => simp at hy
  | cons hr _ ih =>
    rcases List.mem_cons.1 hy with rfl | hy
    · exact ⟨_, List.mem_cons_self, hr⟩
    · obtain ⟨x, hx, hr'⟩ := ih hy
      exact ⟨x, List.mem_cons_of_mem _ hx, hr'⟩

/-- A list matches another if each of its members has a partner. -/
lemma exists_forall₂ {α β : Type} {R : α → β → Prop} {xs : List α} (h : ∀ x ∈ xs, ∃ y, R x y) :
    ∃ ys, List.Forall₂ R xs ys := by
  induction xs with
  | nil => exact ⟨[], .nil⟩
  | cons x xs ih =>
    obtain ⟨⟨y, hy⟩, hrest⟩ := List.forall_mem_cons.1 h
    obtain ⟨ys, hys⟩ := ih hrest
    exact ⟨y :: ys, .cons hy hys⟩

/-- What succeeds in two steps succeeds in each. -/
lemma exists_of_bind_eq_ok {α β ε : Type} {x : Except ε α} {f : α → Except ε β} {b : β}
    (h : x.bind f = .ok b) : ∃ a, x = .ok a ∧ f a = .ok b := by
  rcases x with error | a
  · simp [Except.bind] at h
  · exact ⟨a, rfl, h⟩

/-- What succeeds for all members of a list succeeds for each. -/
lemma forall₂_of_mapM {α β ε : Type} {f : α → Except ε β} {xs : List α} {ys : List β}
    (h : xs.mapM f = .ok ys) : List.Forall₂ (fun x y => f x = .ok y) xs ys := by
  induction xs generalizing ys with
  | nil =>
    obtain rfl : [] = ys := by simpa [pure, Except.pure] using h
    exact .nil
  | cons x xs ih =>
    rw [List.mapM_cons] at h
    rcases hx : f x with cause | y
    · simp [hx, bind, Except.bind] at h
    rcases hxs : xs.mapM f with cause | ys'
    · simp [hx, hxs, bind, Except.bind] at h
    obtain rfl : y :: ys' = ys := by simpa [hx, hxs, bind, Except.bind, pure, Except.pure] using h
    exact .cons hx (ih hxs)

/-- What succeeds for each member of a list succeeds for all. -/
lemma exists_mapM {α β ε : Type} {f : α → Except ε β} {xs : List α}
    (h : ∀ x ∈ xs, ∃ y, f x = .ok y) : ∃ ys, xs.mapM f = .ok ys := by
  induction xs with
  | nil => exact ⟨[], rfl⟩
  | cons x xs ih =>
    obtain ⟨⟨y, hy⟩, hrest⟩ := List.forall_mem_cons.1 h
    obtain ⟨ys, hys⟩ := ih hrest
    exact ⟨y :: ys, by rw [List.mapM_cons, hy, hys]; rfl⟩

/-- A check of all members of a list succeeds if it succeeds for each. -/
lemma forM_eq_ok_iff {α ε : Type} {f : α → Except ε Unit} {xs : List α} :
    xs.forM f = .ok () ↔ ∀ x ∈ xs, f x = .ok () := by
  induction xs with
  | nil => simp [pure, Except.pure]
  | cons x xs ih =>
    rw [List.forM, List.forall_mem_cons, ← ih]
    rcases f x with error | _
    · simp [bind, Except.bind]
    · simp [bind, Except.bind]

/-- A list is cut where a test that its first part passes fails. -/
lemma takeWhile_append_of_stops {α : Type} {p : α → Bool} {xs ys : List α}
    (h : ∀ x ∈ xs, p x = true) (hstop : ∀ y ∈ ys.head?, p y = false) :
    (xs ++ ys).takeWhile p = xs ∧ (xs ++ ys).dropWhile p = ys := by
  rw [List.takeWhile_append_of_pos h, List.dropWhile_append_of_pos h]
  rcases ys with _ | ⟨y, ys⟩
  · simp
  · simp [hstop y rfl]

/-- The images of some members are among the images of all. -/
lemma map_subperm_map {α β : Type} {xs ys : List α} (h : xs.Subperm ys) (f : α → β) :
    (xs.map f).Subperm (ys.map f) := by
  obtain ⟨same, hperm, hsub⟩ := h
  exact ⟨same.map f, hperm.map f, hsub.map f⟩

/-- A test that fails at one place leaves out the member there. -/
lemma filter_eq_eraseIdx {α : Type} {p : α → Bool} {xs : List α} {k : Nat}
    (h : ∀ i x, xs[i]? = some x → (p x = true ↔ i ≠ k)) : xs.filter p = xs.eraseIdx k := by
  induction xs generalizing k with
  | nil => rfl
  | cons x xs ih =>
    have hx := h 0 x rfl
    rcases k with _ | k
    · have hall : xs.filter p = xs := by
        rw [List.filter_eq_self]
        intro y hy
        obtain ⟨i, hi⟩ := List.getElem?_of_mem hy
        exact (h (i + 1) y hi).2 (by omega)
      rw [List.filter_cons_of_neg (by simpa using hx), hall, List.eraseIdx_cons_zero]
    · rw [List.filter_cons_of_pos (hx.2 (by omega)), List.eraseIdx_cons_succ, ih]
      intro i y hy
      have hy' := h (i + 1) y hy
      rw [hy']
      omega

/-- A member that passes a test stands in front of another one if it does so among those that pass.

**Proof sketch.** Induction on the list. If its head is one of the two, it is the first of them;
otherwise both stand one place further, with or without the head. -/
lemma idxOf_lt_of_filter {α : Type} [DecidableEq α] {p : α → Bool} {xs : List α} {a b : α} (ha : p a = true)
    (hb : p b = true) (h : (xs.filter p).idxOf a < (xs.filter p).idxOf b) : xs.idxOf a < xs.idxOf b := by
  induction xs with
  | nil => simp at h
  | cons x xs ih =>
    by_cases hxb : x = b
    · subst hxb
      rw [List.filter_cons_of_pos hb, List.idxOf_cons_self] at h
      exact absurd h (Nat.not_lt_zero _)
    by_cases hxa : x = a
    · subst hxa
      rw [List.idxOf_cons_self, List.idxOf_cons_ne _ hxb]
      exact Nat.succ_pos _
    rw [List.idxOf_cons_ne _ hxa, List.idxOf_cons_ne _ hxb]
    refine Nat.succ_lt_succ (ih ?_)
    rw [List.filter_cons] at h
    split_ifs at h
    · rwa [List.idxOf_cons_ne _ hxa, List.idxOf_cons_ne _ hxb, Nat.succ_lt_succ_iff] at h
    · exact h

end UaHeaders
