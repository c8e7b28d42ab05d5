import UaHeaders.Proofs.Files.Same
import UaHeaders.Sweep.Change

/-!
# Sweeps that are made again

A sweep edits one file after the other. If editing a text twice is editing it once, the files that a sweep
has edited stay as they are while it goes on, whichever of its paths lead to the same file, and they stay
as they are in a second sweep. A file that could not be read the first time cannot be read the second
time.

## Main definitions

* `UaHeaders.Sweep.Edited` — the file at a path holds a text that an edit leaves as it is.

## Main results

* `UaHeaders.Sweep.changeFile_cases` — what the edit of one file may come to.
* `UaHeaders.Sweep.Edited.changeAll` — what has been edited stays edited.
* `UaHeaders.Sweep.changeAll_again` — a second sweep changes nothing and ends as the first one did.
-/

set_option autoImplicit false

namespace UaHeaders.Sweep

variable {edit : String → String} {t u : FileTree} {p q : Path} {paths : List Path}

/-! ## One file -/

/-- **What the edit of one file may come to**: the file cannot be read, its text stays as it is, or it is
written in place. -/
lemma changeFile_cases (edit : String → String) (p : Path) (t : FileTree) :
    changeFile edit p t = (.error (.unreadable p), t) ∨
      (∃ s, t.readText p = .ok s ∧ edit s = s ∧ changeFile edit p t = (.ok false, t)) ∨
      ∃ s l mode, t.locate p = .ok l ∧ t.file? l = some (mode, s.toUTF8) ∧
        changeFile edit p t = (.ok true, t.put l (.file mode (edit s).toUTF8)) := by
  unfold changeFile
  rcases hread : t.readText p with cause | s
  · exact .inl rfl
  · by_cases hsame : edit s = s
    · exact .inr (.inl ⟨s, rfl, hsame, by simp [hsame]⟩)
    · obtain ⟨l, mode, hl, hfile⟩ :=
        FileTree.read_eq_ok_iff.1 (FileTree.readText_eq_ok_iff.1 hread)
      refine .inr (.inr ⟨s, l, mode, hl, hfile, ?_⟩)
      simp [hsame, FileTree.write, FileTree.writeWithMode_of_file? hl hfile]

/-! ## One step of a sweep -/

/-- A sweep ends where a file cannot be edited. -/
lemma changeAll_cons_of_error {problem : Problem} (h : changeFile edit p t = (.error problem, u)) :
    changeAll edit (p :: paths) t = (.error problem, u) := by
  simp [changeAll, h]

/-- A sweep goes on behind a file that was edited. -/
lemma changeAll_cons_of_ok {changed : Bool} (h : changeFile edit p t = (.ok changed, u)) :
    changeAll edit (p :: paths) t =
      ((changeAll edit paths u).1.map fun rest => if changed then p :: rest else rest,
        (changeAll edit paths u).2) := by
  rcases hall : changeAll edit paths u with ⟨problem | rest, v⟩ <;>
    simp [changeAll, h, hall, Except.map]

/-! ## Files that stay as they are -/

/-- **The file at a path holds a text that an edit leaves as it is.** -/
def Edited (edit : String → String) (t : FileTree) (p : Path) : Prop :=
  ∃ s, t.readText p = .ok s ∧ edit s = s

/-- Editing such a file changes nothing. -/
lemma Edited.changeFile (h : Edited edit t p) : changeFile edit p t = (.ok false, t) := by
  obtain ⟨s, hread, hsame⟩ := h
  simp [Sweep.changeFile, hread, hsame]

section Idempotent

variable (hedit : ∀ s, edit (edit s) = edit s)

include hedit

/-- Writing an edited text keeps edited what was edited, and edits the file that it is written to.

**Proof sketch.** The file that was written holds an edited text, which further editing leaves as it is.
Every other file is as it was. -/
lemma edited_put {l : Location} {mode : Nat} {s : String} {old : ByteArray}
    (hfile : t.file? l = some (mode, old)) (h : t.locate q = .ok l ∨ Edited edit t q) :
    Edited edit (t.put l (.file mode (edit s).toUTF8)) q := by
  have hdirs : t.SameDirs (t.put l (.file mode (edit s).toUTF8)) :=
    .put_file (FileTree.not_dirAt_of_file? hfile) _ _
  have hread : ∀ {m : Location} {n : Nat} {text : String}, t.locate q = .ok m →
      (t.put l (.file mode (edit s).toUTF8)).file? m = some (n, text.toUTF8) →
      (t.put l (.file mode (edit s).toUTF8)).readText q = .ok text := fun hm hn =>
    FileTree.readText_eq_ok_iff.2
      (FileTree.read_eq_ok_iff.2 ⟨_, _, FileTree.locate_mono hdirs.within hm, hn⟩)
  have hput : ∀ m, (t.put l (.file mode (edit s).toUTF8)).file? m =
      if m = l then some (mode, (edit s).toUTF8) else t.file? m := fun _ =>
    FileTree.file?_put_file (FileTree.ne_nil_of_file? hfile)
  rcases h with hq | ⟨text, htext, hsame⟩
  · exact ⟨edit s, hread hq (by rw [hput, if_pos rfl]), hedit s⟩
  · obtain ⟨m, n, hm, hheld⟩ := FileTree.read_eq_ok_iff.1 (FileTree.readText_eq_ok_iff.1 htext)
    by_cases hml : m = l
    · exact ⟨edit s, hread hm (by rw [hput, if_pos hml]), hedit s⟩
    · exact ⟨text, hread hm (by rw [hput, if_neg hml, hheld]), hsame⟩

/-- What has been edited stays edited when a file is edited. -/
lemma Edited.changeFile_snd (h : Edited edit t q) (p : Path) :
    Edited edit (Sweep.changeFile edit p t).2 q := by
  rcases changeFile_cases edit p t with hrun | ⟨s, -, -, hrun⟩ | ⟨s, l, mode, -, hfile, hrun⟩
  · rwa [hrun]
  · rwa [hrun]
  · rw [hrun]
    exact edited_put hedit hfile (.inr h)

/-- A file that was edited is edited. -/
lemma edited_of_changeFile {changed : Bool} (h : changeFile edit p t = (.ok changed, u)) :
    Edited edit u p := by
  rcases changeFile_cases edit p t with hrun | ⟨s, hread, hsame, hrun⟩ | ⟨s, l, mode, hl, hfile, hrun⟩
  · rw [hrun] at h
    cases h
  · rw [hrun] at h
    cases h
    exact ⟨s, hread, hsame⟩
  · rw [hrun] at h
    cases h
    exact edited_put hedit hfile (.inl hl)

/-! ## All files -/

/-- **What has been edited stays edited** to the end of a sweep. -/
lemma Edited.changeAll (h : Edited edit t q) (paths : List Path) :
    Edited edit (Sweep.changeAll edit paths t).2 q := by
  induction paths generalizing t with
  | nil => exact h
  | cons p paths ih =>
    have hnext := h.changeFile_snd hedit p
    rcases hrun : Sweep.changeFile edit p t with ⟨problem | changed, u⟩
    · rw [changeAll_cons_of_error hrun]
      rwa [hrun] at hnext
    · rw [changeAll_cons_of_ok hrun]
      rw [hrun] at hnext
      exact ih hnext

/-- **A second sweep changes nothing** and ends as the first one did.

**Proof sketch.** Induction on the paths. A file that the first sweep could not change stops the second
one too; one that it changed is edited, and stays so whatever is changed behind. -/
theorem changeAll_again (paths : List Path) (t : FileTree) :
    changeAll edit paths (changeAll edit paths t).2 =
      ((changeAll edit paths t).1.map fun _ => [], (changeAll edit paths t).2) := by
  induction paths generalizing t with
  | nil => rfl
  | cons p paths ih =>
    rcases hrun : changeFile edit p t with ⟨problem | changed, u⟩
    · -- nothing was edited, so the first file is met as it was
      obtain rfl : u = t := by
        rcases changeFile_cases edit p t with h | ⟨_, _, _, h⟩ | ⟨_, _, _, _, _, h⟩
        · exact (congrArg Prod.snd (hrun.symm.trans h))
        · cases hrun.symm.trans h
        · cases hrun.symm.trans h
      rw [changeAll_cons_of_error hrun, changeAll_cons_of_error hrun]
      rfl
    · have hfirst : Edited edit (changeAll edit paths u).2 p :=
        (edited_of_changeFile hedit hrun).changeAll hedit paths
      rw [changeAll_cons_of_ok hrun, changeAll_cons_of_ok hfirst.changeFile, ih u]
      rcases (changeAll edit paths u).1 with problem | rest <;> rfl

end Idempotent

end UaHeaders.Sweep
