import UaHeaders.Proofs.Files.Operations

/-!
# Making directories

A directory is made with all that are missing above it, one after another, and what was made stays
when a later one cannot be made. Whether or not all of them were made, no file is touched, no directory
goes away, and each new directory stands where one of the paths above leads.

## Main definitions

* `UaHeaders.FileTree.Grown` — a tree with more directories and the same files.
* `UaHeaders.FileTree.NewDirsAlong` — the new directories of a tree stand at given paths.
* `UaHeaders.FileTree.GrownAlong` — growth by such directories.

## Main results

* `UaHeaders.FileTree.grownAlong_makeDirs` — making directories lets a tree grow along the paths above.
-/

set_option autoImplicit false

namespace UaHeaders.FileTree

variable {t u v : FileTree} {l : Location} {p : Path} {ps qs : List Path}

/-! ## Growth -/

/-- **A tree with more directories and the same files.** -/
structure Grown (t u : FileTree) : Prop where
  within : t.Within u
  file? : ∀ l, u.file? l = t.file? l

namespace Grown

/-- A tree has grown from itself. -/
lemma refl (t : FileTree) : t.Grown t := ⟨.refl t, fun _ => rfl⟩

/-- Growth goes on from tree to tree. -/
lemma trans (h : t.Grown u) (h' : u.Grown v) : t.Grown v :=
  ⟨h.within.trans h'.within, fun l => (h'.file? l).trans (h.file? l)⟩

/-- Where something stands, something stands after growth. -/
lemma entry?_ne_none (h : t.Grown u) (hl : t.entry? l ≠ none) : u.entry? l ≠ none := by
  intro hu
  obtain ⟨hf, hd⟩ := entry?_eq_none_iff.1 hu
  exact hl (entry?_eq_none_iff.2 ⟨by rw [← h.file?, hf], fun ht => hd (h.within.dirAt l ht)⟩)

/-- A path at which something stands is still one after growth. -/
lemma pathExists (h : t.Grown u) (hp : t.pathExists p = true) : u.pathExists p = true := by
  obtain ⟨l, hl, he⟩ := pathExists_iff.1 hp
  exact pathExists_iff.2 ⟨l, locate_mono h.within hl, h.entry?_ne_none he⟩

end Grown

/-- **The new directories of a tree**: each stands where one of the paths leads, and nothing stood there
before. -/
def NewDirsAlong (t u : FileTree) (ps : List Path) : Prop :=
  ∀ l, u.DirAt l → ¬ t.DirAt l →
    ∃ p ∈ ps, t.pathExists (directoryName p) = false ∧ u.locate (directoryName p) = .ok l

/-- New directories stay where they are in a tree with the same directories. -/
lemma NewDirsAlong.sameDirs (h : t.NewDirsAlong u ps) (hs : u.SameDirs v) : t.NewDirsAlong v ps := by
  intro l hl hl'
  obtain ⟨p, hp, hx, hloc⟩ := h l ((hs.dirAt l).1 hl) hl'
  exact ⟨p, hp, hx, locate_mono hs.within hloc⟩

/-- **Growth along paths**: each new directory stands where one of the paths leads. -/
structure GrownAlong (t u : FileTree) (ps : List Path) : Prop extends Grown t u where
  along : t.NewDirsAlong u ps

namespace GrownAlong

/-- A tree has grown from itself along any paths. -/
lemma refl (t : FileTree) (ps : List Path) : t.GrownAlong t ps :=
  ⟨.refl t, fun _ h h' => absurd h h'⟩

/-- Growth along some of the paths is growth along all. -/
lemma mono (h : t.GrownAlong u ps) (hs : ∀ p ∈ ps, p ∈ qs) : t.GrownAlong u qs := by
  refine ⟨h.toGrown, fun l hl hl' => ?_⟩
  obtain ⟨p, hp, hrest⟩ := h.along l hl hl'
  exact ⟨p, hs p hp, hrest⟩

/-- Growth along paths goes on from tree to tree. -/
lemma trans (h : t.GrownAlong u ps) (h' : u.GrownAlong v ps) : t.GrownAlong v ps := by
  refine ⟨h.toGrown.trans h'.toGrown, fun l hl hl' => ?_⟩
  by_cases hu : u.DirAt l
  · obtain ⟨p, hp, hx, hloc⟩ := h.along l hu hl'
    exact ⟨p, hp, hx, locate_mono h'.within hloc⟩
  · obtain ⟨p, hp, hx, hloc⟩ := h'.along l hl hu
    refine ⟨p, hp, ?_, hloc⟩
    by_contra hex
    rw [h.toGrown.pathExists (by simpa using hex)] at hx
    exact absurd hx (by simp)

/-- Making one directory is growth along its path. -/
lemma of_makeDir (h : t.makeDir p = .ok u) : t.GrownAlong u [p] := by
  obtain ⟨l, hl, he, rfl⟩ := makeDir_eq_ok_iff.1 h
  have hne : l ≠ [] := ne_nil_of_not_dirAt (not_dirAt_of_entry?_none he)
  have hw : t.Within (t.put l .directory) :=
    ⟨rfl, fun m hm => (dirAt_put_directory hne).2 (.inr hm)⟩
  refine ⟨⟨hw, fun m => file?_put_directory he⟩, fun m hm hm' => ⟨p, by simp, ?_, ?_⟩⟩
  · by_contra hx
    obtain ⟨l', hl', he'⟩ := pathExists_iff.1 (by simpa using hx)
    obtain rfl : l = l' := by simpa [hl] using hl'
    exact he' he
  · obtain rfl : m = l := by simpa [dirAt_put_directory hne, hm'] using hm
    exact locate_mono hw hl

end GrownAlong

/-! ## Making directories -/

/-- Making one directory is growth along any paths that begin with its path. -/
lemma GrownAlong.of_makeDir_cons (h : t.makeDir p = .ok u) : t.GrownAlong u (p :: ps) :=
  (GrownAlong.of_makeDir h).mono (by simp)

/-- Growth along paths is growth along them with one more. -/
lemma GrownAlong.cons (h : t.GrownAlong u ps) : t.GrownAlong u (p :: ps) :=
  h.mono fun _ hq => List.mem_cons_of_mem _ hq

/-- Making a chain of directories is growth along its paths.

**Proof sketch.** Induction along the chain. The tree stays, or one directory is made in it, or those
further up are made first and then perhaps this one. -/
lemma grownAlong_makeChain (t : FileTree) (ps : List Path) :
    t.GrownAlong (t.makeChain ps).2 ps := by
  fun_induction makeChain t ps with
  | case1 | case2 | case8 | case9 => exact .refl t _
  | case3 p above _ made hmake => exact .of_makeDir_cons hmake
  | case4 p above _ _ cause w hchain ih | case6 p above _ _ w hchain _ _ _ ih
  | case7 p above _ _ w hchain _ _ _ ih =>
    rw [hchain] at ih
    exact ih.cons
  | case5 p above _ _ w hchain made hmake ih =>
    rw [hchain] at ih
    exact ih.cons.trans (.of_makeDir_cons hmake)

/-- **Making directories lets a tree grow along the path and those above it.** -/
lemma grownAlong_makeDirs (t : FileTree) (p : Path) : t.GrownAlong (t.makeDirs p).2 p.ancestors :=
  grownAlong_makeChain t p.ancestors

end UaHeaders.FileTree
