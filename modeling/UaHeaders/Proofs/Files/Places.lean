import UaHeaders.Proofs.Files.Entries

/-!
# The place that a path means

There are no links in a file tree, so where a path leads is decided by its text and the working
directory alone. The tree only decides whether the path leads anywhere: every directory on its way has
to be there. A path that leads somewhere in one tree therefore leads to the same place in every tree
that has more directories.

## Main definitions

* `UaHeaders.Location.along` — one component further, without a look at a tree.
* `UaHeaders.Path.place` — the location that a path means.
* `UaHeaders.FileTree.Reaches` — all directories on the way of a path are there.

## Main results

* `UaHeaders.FileTree.locate_eq_ok_iff` — a path is located at its place, if it is reached.
* `UaHeaders.FileTree.Reaches.mono` — more directories keep a path reached.
-/

set_option autoImplicit false

namespace UaHeaders

/-! ## Places -/

/-- One component further from a location, without a look at any tree. -/
def Location.along (l : Location) (component : String) : Location :=
  if component = "" ∨ component = "." then l
  else if component = ".." then l.dropLast
  else l ++ [component]

/-- Along a name one gets deeper. -/
lemma Location.along_of_name {name : String} (h : name ≠ "" ∧ name ≠ "." ∧ name ≠ "..")
    (l : Location) : l.along name = l ++ [name] := by
  rw [along, if_neg (by simp [h.1, h.2.1]), if_neg h.2.2]

namespace Path

/-- **The location that a path means**, from the working directory `w`. -/
def place (w : Location) (p : Path) : Location :=
  p.segments.foldl Location.along (if p.isAbsolute then [] else w)

/-- **A path that the system accepts**: a text that is not empty or too long and has no NUL. -/
structure Usable (p : Path) : Prop where
  nonempty : p.text.isEmpty = false
  noNul : p.text.toList.contains '\x00' = false
  short : p.text.utf8ByteSize ≤ 4095

end Path

namespace FileTree

variable {t u : FileTree} {l m : Location} {p : Path} {c : String} {cs : List String}

/-! ## Steps -/

/-- A step succeeds from a directory along a component that is not too long. -/
lemma step_eq_ok_iff :
    t.step l c = .ok m ↔ t.DirAt l ∧ c.utf8ByteSize ≤ 255 ∧ m = Location.along l c := by
  unfold step DirAt Location.along
  rcases t.entry? l with _ | _ | ⟨mode, content⟩
  · simp
  · by_cases h₁ : c = "" ∨ c = "."
    · have hsize : c.utf8ByteSize ≤ 255 := by rcases h₁ with rfl | rfl <;> decide
      simp only [if_pos h₁, Except.ok.injEq, hsize, true_and]
      exact eq_comm
    · by_cases h₂ : c = ".."
      · have hsize : c.utf8ByteSize ≤ 255 := by subst h₂; decide
        simp only [if_neg h₁, if_pos h₂, Except.ok.injEq, hsize, true_and]
        exact eq_comm
      · by_cases h₃ : 255 < c.utf8ByteSize
        · have hsize : ¬ c.utf8ByteSize ≤ 255 := by omega
          simp [h₁, h₂, h₃, hsize]
        · have hsize : c.utf8ByteSize ≤ 255 := by omega
          simp only [if_neg h₁, if_neg h₂, if_neg h₃, Except.ok.injEq, hsize, true_and]
          exact eq_comm
  · simp

/-- A step finds nothing when nothing stands where it starts. -/
lemma step_eq_notFound_iff : t.step l c = .error .notFound ↔ t.entry? l = none := by
  unfold step
  rcases t.entry? l with _ | _ | ⟨mode, content⟩
  · simp
  · split_ifs <;> simp
  · simp

/-- Steps that succeed lead where the components say. -/
lemma eq_foldl_of_foldlM_step (h : cs.foldlM t.step l = .ok m) : m = cs.foldl Location.along l := by
  induction cs generalizing l with
  | nil => simpa [pure, Except.pure, eq_comm] using h
  | cons c cs ih =>
    rw [List.foldlM_cons] at h
    rcases hs : t.step l c with cause | l'
    · simp [hs, bind, Except.bind] at h
    · rw [hs] at h
      rw [List.foldl_cons, ← (step_eq_ok_iff.1 hs).2.2]
      exact ih h

/-- Steps that succeed go on to succeed when there are more directories. -/
lemma foldlM_step_mono (hw : t.Within u) (h : cs.foldlM t.step l = .ok m) :
    cs.foldlM u.step l = .ok m := by
  induction cs generalizing l with
  | nil => exact h
  | cons c cs ih =>
    rw [List.foldlM_cons] at h ⊢
    rcases hs : t.step l c with cause | l'
    · simp [hs, bind, Except.bind] at h
    · rw [hs] at h
      obtain ⟨hd, hc, hl⟩ := step_eq_ok_iff.1 hs
      rw [step_eq_ok_iff.2 ⟨hw.dirAt l hd, hc, hl⟩]
      exact ih h

/-! ## Paths -/

/-- Paths start at the same location when the working directory is the same. -/
lemma start_congr (hw : u.workdir = t.workdir) (p : Path) : u.start p = t.start p := by
  simp only [start, hw]

/-- A path is located when it is usable and its steps succeed. -/
lemma locate_eq_ok_iff_foldlM :
    t.locate p = .ok l ↔ p.Usable ∧ p.segments.foldlM t.step (t.start p) = .ok l := by
  unfold locate
  by_cases h₁ : p.text.isEmpty
  · simp only [h₁, ↓reduceIte, reduceCtorEq, false_iff, not_and]
    exact fun hu => absurd hu.nonempty (by simp [h₁])
  by_cases h₂ : p.text.toList.contains '\x00'
  · simp only [h₁, h₂, ↓reduceIte, reduceCtorEq, false_iff, not_and]
    exact fun hu => absurd hu.noNul (by simpa using h₂)
  by_cases h₃ : p.text.utf8ByteSize > 4095
  · simp only [h₁, h₂, h₃, ↓reduceIte, reduceCtorEq, false_iff, not_and]
    exact fun hu => absurd hu.short (by omega)
  have hu : p.Usable := ⟨by simpa using h₁, by simpa using h₂, by omega⟩
  simp only [h₁, h₂, h₃, ↓reduceIte, hu, true_and, Bool.false_eq_true]

/-- A usable path is walked along. -/
lemma locate_of_usable (h : p.Usable) : t.locate p = p.segments.foldlM t.step (t.start p) := by
  have hnul := h.noNul
  simp only [locate, h.nonempty, hnul, Nat.not_lt.2 h.short, Bool.false_eq_true, if_false]

/-- **A path that is located is located at its place.** -/
lemma eq_place_of_locate (h : t.locate p = .ok l) : l = p.place t.workdir := by
  have hf := (locate_eq_ok_iff_foldlM.1 h).2
  simpa only [Path.place, start] using eq_foldl_of_foldlM_step hf

/-- **All directories on the way of a path are there.** -/
def Reaches (t : FileTree) (p : Path) : Prop := t.locate p = .ok (p.place t.workdir)

instance (t : FileTree) (p : Path) : Decidable (t.Reaches p) := inferInstanceAs (Decidable (_ = _))

/-- A path is located when it is reached, and then at its place. -/
lemma locate_eq_ok_iff : t.locate p = .ok l ↔ t.Reaches p ∧ l = p.place t.workdir := by
  constructor
  · intro h
    have hl := eq_place_of_locate h
    exact ⟨by rw [Reaches, ← hl, h], hl⟩
  · rintro ⟨h, rfl⟩
    exact h

/-- A located path is reached. -/
lemma Reaches.of_locate (h : t.locate p = .ok l) : t.Reaches p := (locate_eq_ok_iff.1 h).1

/-- **A reached path stays reached** when there are more directories. -/
lemma Reaches.mono (h : t.Reaches p) (hw : t.Within u) : u.Reaches p := by
  obtain ⟨hu, hf⟩ := locate_eq_ok_iff_foldlM.1 h
  rw [Reaches, hw.workdir, locate_eq_ok_iff_foldlM, start_congr hw.workdir]
  exact ⟨hu, foldlM_step_mono hw hf⟩

/-- The same directories reach the same paths. -/
lemma SameDirs.reaches_iff (h : t.SameDirs u) : u.Reaches p ↔ t.Reaches p :=
  ⟨fun hu => hu.mono h.symm.within, fun ht => ht.mono h.within⟩

/-- A located path stays located, at the same place, when there are more directories. -/
lemma locate_mono (hw : t.Within u) (h : t.locate p = .ok l) : u.locate p = .ok l := by
  obtain ⟨hr, rfl⟩ := locate_eq_ok_iff.1 h
  have := hr.mono hw
  rwa [Reaches, hw.workdir] at this

/-- A path that is not reached is not located. -/
lemma exists_locate_eq_error (h : ¬ t.Reaches p) : ∃ cause, t.locate p = .error cause := by
  rcases hl : t.locate p with cause | l
  · exact ⟨cause, rfl⟩
  · exact absurd (Reaches.of_locate hl) h

/-- A usable path has segments; they are walked from its start. -/
lemma Reaches.usable (h : t.Reaches p) : p.Usable := (locate_eq_ok_iff_foldlM.1 h).1

/-! ## Paths with a separator at the end -/

/-- A path with a separator at its end has an empty segment there. -/
lemma segments_of_endsWithSeparator (h : p.endsWithSeparator = true) :
    ∃ cs, p.segments = cs ++ [""] := by
  have hlast : p.text.toList.getLast? = some '/' := by simpa [Path.endsWithSeparator] using h
  obtain ⟨ys, hys⟩ := List.getLast?_eq_some_iff.1 hlast
  refine ⟨(ys.splitOn '/').map String.ofList, ?_⟩
  rw [Path.segments, hys, List.splitOn_append_cons_self, List.map_append]
  rfl

/-- **A path with a separator at its end leads to no file.** -/
lemma endsWithSeparator_of_file? {f : Nat × ByteArray} (h : t.locate p = .ok l)
    (hf : t.file? l = some f) : p.endsWithSeparator = false := by
  by_contra hsep
  obtain ⟨cs, hcs⟩ := segments_of_endsWithSeparator (by simpa using hsep)
  have hwalk := (locate_eq_ok_iff_foldlM.1 h).2
  simp only [hcs, List.foldlM_append, List.foldlM_cons, List.foldlM_nil, bind_pure] at hwalk
  -- the last step stays where it is, and asks for a directory there
  rcases hm : cs.foldlM t.step (t.start p) with cause | m
  · simp [hm, bind, Except.bind] at hwalk
  · rw [hm] at hwalk
    have hstep : t.step m "" = .ok l := hwalk
    obtain ⟨hd, -, rfl⟩ := step_eq_ok_iff.1 hstep
    exact not_dirAt_of_file? hf (by simpa [Location.along] using hd)

end FileTree

end UaHeaders
