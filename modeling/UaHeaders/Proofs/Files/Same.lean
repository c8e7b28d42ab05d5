import UaHeaders.Header.Transaction
import UaHeaders.Proofs.Files.Operations

/-!
# Trees that hold the same

Two trees hold the same when every location has the same entry in both and paths start at the same
place. No operation tells such trees apart. This is how it is said that a tree is what it was before.

## Main definitions

* `UaHeaders.FileTree.Same` — two trees hold the same.
* `UaHeaders.FileTree.Holds` — a target holds a text, or nothing is there.

## Main results

* `UaHeaders.FileTree.same_iff` — trees hold the same when their entries are the same.
* `UaHeaders.FileTree.Same.readText` — they are read alike, failures included.
* `UaHeaders.FileTree.SameDirs.stagingDir` — they have the same directories to stage in.
-/

set_option autoImplicit false

namespace UaHeaders.FileTree

variable {t u v : FileTree} {l : Location} {p target : Path}

/-! ## The same entries -/

/-- **Both trees hold the same**: the same directories, and the same files with the same permission bits,
and both start paths at the same place. -/
structure Same (t u : FileTree) : Prop extends SameDirs t u where
  file? : ∀ l, u.file? l = t.file? l

/-- **Trees hold the same** when every location has the same entry in both. -/
theorem same_iff : t.Same u ↔ u.workdir = t.workdir ∧ ∀ l, u.entry? l = t.entry? l := by
  constructor
  · intro h
    exact ⟨h.workdir, fun l => entry?_congr (h.file? l) (h.dirAt l)⟩
  · rintro ⟨hw, he⟩
    refine ⟨⟨hw, fun l => ?_⟩, fun l => ?_⟩
    · rw [DirAt, DirAt, he]
    · rw [FileTree.file?, FileTree.file?, he]

namespace Same

/-- The entry at a location is the same in both trees. -/
lemma entry? (h : t.Same u) (l : Location) : u.entry? l = t.entry? l := (same_iff.1 h).2 l

/-- A tree holds the same as itself. -/
lemma refl (t : FileTree) : t.Same t := ⟨.refl t, fun _ => rfl⟩

/-- Holding the same goes both ways. -/
lemma symm (h : t.Same u) : u.Same t := ⟨h.toSameDirs.symm, fun l => (h.file? l).symm⟩

/-- Holding the same goes on from tree to tree. -/
lemma trans (h : t.Same u) (h' : u.Same v) : t.Same v :=
  ⟨h.toSameDirs.trans h'.toSameDirs, fun l => (h'.file? l).trans (h.file? l)⟩

/-! ## Questions about trees that hold the same -/

/-- Paths lead to the same place, or fail alike. -/
lemma locate (h : t.Same u) (p : Path) : u.locate p = t.locate p := by
  have hstep : u.step = t.step := by
    funext l c
    simp only [step, h.entry?]
  simp only [FileTree.locate, start_congr h.workdir, hstep]

/-- The same stands at a path. -/
lemma lookup (h : t.Same u) (p : Path) : u.lookup p = t.lookup p := by
  simp only [FileTree.lookup, h.locate, h.entry?]

/-- Files are read alike. -/
lemma readText (h : t.Same u) (p : Path) : u.readText p = t.readText p := by
  simp only [FileTree.readText, read, h.lookup]

end Same

/-! ## The same directories -/

/-- Directories are found at the same paths. -/
lemma SameDirs.isDir (h : t.SameDirs u) (p : Path) : u.isDir p = t.isDir p := by
  rw [Bool.eq_iff_iff, isDir_iff, isDir_iff]
  constructor
  · rintro ⟨l, hl, hd⟩
    exact ⟨l, locate_mono h.symm.within hl, (h.dirAt l).1 hd⟩
  · rintro ⟨l, hl, hd⟩
    exact ⟨l, locate_mono h.within hl, (h.dirAt l).2 hd⟩

/-- Headers are staged in the same directories. -/
lemma SameDirs.stagingDir (h : t.SameDirs u) (target : Path) :
    u.stagingDir target = t.stagingDir target := by
  simp only [FileTree.stagingDir, h.isDir]

/-! ## What a target holds -/

/-- **What a target holds**: a text, or nothing is there. -/
def Holds (t : FileTree) (target : Path) : Option String → Prop
  | some text => t.readText target = .ok text
  | none => t.readText target = .error .notFound

/-- A target holds the text that is read there. -/
lemma Holds.eq_some_iff {held : Option String} {text : String} (h : t.Holds target held) :
    held = some text ↔ t.readText target = .ok text := by
  cases held with
  | some other =>
    rw [show t.readText target = .ok other from h]
    simp
  | none =>
    rw [show t.readText target = .error .notFound from h]
    simp

/-- Where nothing is found in a tree with the same directories and more files, nothing is found.

**Proof sketch.** Where the way ends in one tree because nothing is there, it ends in the other: steps
depend on directories only, and these are the same. -/
lemma SameDirs.locate_notFound (h : t.SameDirs u)
    (hmore : ∀ l, u.entry? l = none → t.entry? l = none)
    (hp : u.locate p = .error .notFound) : t.locate p = .error .notFound := by
  have hwalk : ∀ (cs : List String) (l : Location),
      cs.foldlM u.step l = .error .notFound → cs.foldlM t.step l = .error .notFound := by
    intro cs
    induction cs with
    | nil => simp [pure, Except.pure]
    | cons c cs ih =>
      intro l hl
      rw [List.foldlM_cons] at hl ⊢
      rcases hs : u.step l c with cause | l'
      · obtain rfl : cause = .notFound := by simpa [hs, bind, Except.bind] using hl
        rw [step_eq_notFound_iff.2 (hmore l (step_eq_notFound_iff.1 hs))]
        rfl
      · obtain ⟨hd, hc, rfl⟩ := step_eq_ok_iff.1 hs
        rw [step_eq_ok_iff.2 ⟨(h.dirAt l).1 hd, hc, rfl⟩]
        rw [hs] at hl
        exact ih _ hl
  unfold locate at hp ⊢
  split_ifs at hp ⊢ with h₁ h₂ h₃
  · rfl
  · simp at hp
  · simp at hp
  · rw [start_congr h.workdir] at hp
    exact hwalk _ _ hp

/-- **A target holds in a tree with less what it holds in one with more**, if the file at its place is the same.

**Proof sketch.** A text that is held is at the place, whose file is the same. If nothing is held, either
the way ends in both trees, or nothing stands at its end in either. -/
lemma SameDirs.holds_of_more {held : Option String} (h : t.SameDirs u)
    (hmore : ∀ l, u.file? l = none → t.file? l = none)
    (hfile : u.file? (target.place t.workdir) = t.file? (target.place t.workdir))
    (hheld : u.Holds target held) : t.Holds target held := by
  cases held with
  | some text =>
    rw [Holds, readText_eq_ok_iff] at hheld ⊢
    exact (h.read_eq_ok_iff hfile).1 hheld
  | none =>
    have hnone : ∀ l, u.entry? l = none → t.entry? l = none := by
      intro l hl
      rw [entry?_eq_none_iff] at hl ⊢
      exact ⟨hmore l hl.1, fun hd => hl.2 ((h.dirAt l).2 hd)⟩
    simp only [Holds, readText, read, lookup] at hheld ⊢
    rcases hl : u.locate target with cause | l
    · obtain rfl : cause = .notFound := by simpa [hl, bind, Except.bind] using hheld
      simp [h.locate_notFound hnone hl, bind, Except.bind]
    · rw [locate_mono h.symm.within hl]
      rw [hl] at hheld
      rcases he : u.entry? l with _ | _ | ⟨mode, content⟩
      · simp [hnone l he, bind, Except.bind]
      · simp [he, bind, Except.bind] at hheld
      · simp only [he, bind, Except.bind] at hheld
        split at hheld <;> simp at hheld

/-- **A target holds what it held** before files were added that do not stand at its place. -/
lemma SameDirs.holds {held : Option String} (h : t.SameDirs u) (added : Set Location)
    (hadded : ∀ l ∈ added, t.file? l = none) (hothers : ∀ l, l ∉ added → u.file? l = t.file? l)
    (htarget : target.place t.workdir ∉ added) (hheld : u.Holds target held) :
    t.Holds target held := by
  refine h.holds_of_more (fun l hl => ?_) (hothers _ htarget) hheld
  by_cases hmem : l ∈ added
  · exact hadded l hmem
  · rw [← hothers l hmem, hl]

end UaHeaders.FileTree
