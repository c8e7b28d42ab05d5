import Mathlib.Tactic
import UaHeaders.Files.Tree

/-!
# What stands where in a file tree

A file tree is looked at in two ways: which file stands at a location, and whether a directory stands
there. Each change of a tree is described by what it does to these two views, so that no later proof
has to open the map behind a tree.

## Main definitions

* `UaHeaders.FileTree.file?` — the permission bits and the content of the file at a location.
* `UaHeaders.FileTree.DirAt` — a directory stands at a location.
* `UaHeaders.FileTree.Within` — the directories of one tree are directories of another.
* `UaHeaders.FileTree.SameDirs` — two trees have the same directories.

## Main results

* `UaHeaders.FileTree.file?_put_file`, `file?_put_directory`, `file?_drop` — the files after a change.
* `UaHeaders.FileTree.dirAt_put_file`, `dirAt_put_directory`, `dirAt_drop` — the directories after it.
-/

set_option autoImplicit false

namespace UaHeaders.FileTree

variable {t u v : FileTree} {l m : Location} {e : Entry} {mode : Nat} {content : ByteArray}

/-! ## Entries -/

/-- The root is a directory. -/
@[simp] lemma entry?_nil (t : FileTree) : t.entry? [] = some .directory := by
  simp [ entry?]

/-- A location with nothing or a file at it is not the root. -/
lemma ne_nil_of_entry?_ne (h : t.entry? l ≠ some .directory) : l ≠ [] := by
  rintro rfl
  exact h (entry?_nil t)

/-- What stands somewhere after an entry was put. -/
lemma entry?_put (hl : l ≠ []) :
    entry? (t.put l e) m = if m = l then some e else t.entry? m := by
  simp only [ entry?, put, Std.ExtTreeMap.getElem?_insert]
  by_cases hm : m = l
  · simp [hm, hl]
  · have hne : compare l m ≠ .eq := fun h => hm (Std.LawfulEqCmp.eq_of_compare h).symm
    simp [hm, hne]

/-- What stands somewhere after an entry was taken away. -/
lemma entry?_drop (hl : l ≠ []) :
    entry? (t.drop l) m = if m = l then none else t.entry? m := by
  simp only [ entry?, drop, Std.ExtTreeMap.getElem?_erase]
  by_cases hm : m = l
  · simp [hm, hl]
  · have hne : compare l m ≠ .eq := fun h => hm (Std.LawfulEqCmp.eq_of_compare h).symm
    simp [hm, hne]

/-- Putting an entry does not move the working directory. -/
@[simp] lemma workdir_put : (t.put l e).workdir = t.workdir := rfl

/-- Taking an entry away does not move the working directory. -/
@[simp] lemma workdir_drop : (t.drop l).workdir = t.workdir := rfl

/-! ## The two views -/

/-- **The permission bits and the content of the file** at a location, if a file stands there. -/
def file? (t : FileTree) (l : Location) : Option (Nat × ByteArray) :=
  match t.entry? l with
  | some (.file mode content) => some (mode, content)
  | _ => none

/-- **A directory stands at a location.** -/
def DirAt (t : FileTree) (l : Location) : Prop := t.entry? l = some .directory

instance (t : FileTree) (l : Location) : Decidable (t.DirAt l) :=
  match h : t.entry? l with
  | some .directory => isTrue h
  | some (.file ..) => isFalse (by simp [DirAt, h])
  | none => isFalse (by simp [DirAt, h])

/-- A file stands at a location when the tree has it as an entry there. -/
lemma file?_eq_some_iff :
    t.file? l = some (mode, content) ↔ t.entry? l = some (.file mode content) := by
  unfold file?
  split
  · next heq => simp [heq]
  · next h => exact ⟨by simp, fun heq => absurd heq (h mode content)⟩

/-- No file stands at a location when the tree has none as an entry there. -/
lemma file?_eq_none_iff :
    t.file? l = none ↔ ∀ mode content, t.entry? l ≠ some (.file mode content) := by
  unfold file?
  split
  · next mode content heq => simp [heq]
  · next h => exact ⟨fun _ => h, fun _ => rfl⟩

/-- No file stands where nothing stands. -/
lemma file?_of_entry?_none (h : t.entry? l = none) : t.file? l = none := by
  simp [file?, h]

/-- No file stands where a directory stands. -/
lemma DirAt.file? (h : t.DirAt l) : t.file? l = none := by
  unfold DirAt at h
  simp [FileTree.file?, h]

/-- No directory stands where a file stands. -/
lemma not_dirAt_of_file? {f : Nat × ByteArray} (h : t.file? l = some f) : ¬ t.DirAt l :=
  fun hd => by simp [hd.file?] at h

/-- No directory stands where nothing stands. -/
lemma not_dirAt_of_entry?_none (h : t.entry? l = none) : ¬ t.DirAt l := by
  simp [DirAt, h]

/-- Nothing stands where neither a file nor a directory stands. -/
lemma entry?_eq_none_iff : t.entry? l = none ↔ t.file? l = none ∧ ¬ t.DirAt l := by
  refine ⟨fun h => ⟨file?_of_entry?_none h, not_dirAt_of_entry?_none h⟩, fun ⟨hf, hd⟩ => ?_⟩
  rcases h : t.entry? l with _ | _ | ⟨mode, content⟩
  · rfl
  · exact absurd h hd
  · exact absurd h (file?_eq_none_iff.1 hf mode content)

/-- Two trees with the same files and directories have the same entries. -/
lemma entry?_congr (hf : u.file? l = t.file? l) (hd : u.DirAt l ↔ t.DirAt l) :
    u.entry? l = t.entry? l := by
  rcases h : t.entry? l with _ | _ | ⟨mode, content⟩
  · rw [entry?_eq_none_iff] at h ⊢
    rwa [hf, hd]
  · exact hd.2 h
  · rw [← file?_eq_some_iff] at h ⊢
    rw [hf, h]

/-- The root is a directory. -/
@[simp] lemma dirAt_nil (t : FileTree) : t.DirAt [] := entry?_nil t

/-- A location at which no directory stands is not the root. -/
lemma ne_nil_of_not_dirAt (h : ¬ t.DirAt l) : l ≠ [] := ne_nil_of_entry?_ne h

/-- A location at which a file stands is not the root. -/
lemma ne_nil_of_file? {f : Nat × ByteArray} (h : t.file? l = some f) : l ≠ [] :=
  ne_nil_of_not_dirAt (not_dirAt_of_file? h)

/-! ## Changes of a tree -/

/-- The files after a file was put. -/
lemma file?_put_file (hl : l ≠ []) :
    (t.put l (.file mode content)).file? m = if m = l then some (mode, content) else t.file? m := by
  unfold file?
  rw [entry?_put hl]
  by_cases hm : m = l <;> simp [hm]

/-- The files after a directory was put where no file stood. -/
lemma file?_put_directory (hl : t.entry? l = none) : (t.put l .directory).file? m = t.file? m := by
  have hne : l ≠ [] := ne_nil_of_not_dirAt (not_dirAt_of_entry?_none hl)
  unfold file?
  rw [entry?_put hne]
  by_cases hm : m = l <;> simp [hm, hl]

/-- The files after an entry was taken away. -/
lemma file?_drop (hl : l ≠ []) : (t.drop l).file? m = if m = l then none else t.file? m := by
  unfold file?
  rw [entry?_drop hl]
  by_cases hm : m = l <;> simp [hm]

/-- The files after a directory was taken away. -/
lemma file?_drop_directory (hl : l ≠ []) (hd : t.DirAt l) : (t.drop l).file? m = t.file? m := by
  rw [file?_drop hl]
  split
  · next hm => rw [hm, hd.file?]
  · rfl

/-- The directories after a file was put where no directory stood. -/
lemma dirAt_put_file (hl : ¬ t.DirAt l) : (t.put l (.file mode content)).DirAt m ↔ t.DirAt m := by
  unfold DirAt at hl ⊢
  rw [entry?_put (ne_nil_of_entry?_ne hl)]
  by_cases hm : m = l
  · subst hm
    simpa using hl
  · simp [hm]

/-- The directories after a directory was put. -/
lemma dirAt_put_directory (hl : l ≠ []) : (t.put l .directory).DirAt m ↔ m = l ∨ t.DirAt m := by
  unfold DirAt
  rw [entry?_put hl]
  by_cases hm : m = l <;> simp [hm]

/-- The directories after an entry was taken away. -/
lemma dirAt_drop (hl : l ≠ []) : (t.drop l).DirAt m ↔ m ≠ l ∧ t.DirAt m := by
  unfold DirAt
  rw [entry?_drop hl]
  by_cases hm : m = l <;> simp [hm]

/-- The directories after a file was taken away. -/
lemma dirAt_drop_file {f : Nat × ByteArray} (hf : t.file? l = some f) :
    (t.drop l).DirAt m ↔ t.DirAt m := by
  rw [dirAt_drop (ne_nil_of_file? hf)]
  refine ⟨fun h => h.2, fun h => ⟨?_, h⟩⟩
  rintro rfl
  exact not_dirAt_of_file? hf h

/-! ## Trees with more directories -/

/-- **The directories of `t` are directories of `u`**, and both start paths at the same place. -/
structure Within (t u : FileTree) : Prop where
  workdir : u.workdir = t.workdir
  dirAt : ∀ l, t.DirAt l → u.DirAt l

/-- **Both trees have the same directories**, and both start paths at the same place. -/
structure SameDirs (t u : FileTree) : Prop where
  workdir : u.workdir = t.workdir
  dirAt : ∀ l, u.DirAt l ↔ t.DirAt l

namespace Within

/-- A tree has its own directories. -/
lemma refl (t : FileTree) : t.Within t := ⟨rfl, fun _ h => h⟩

/-- Having more directories goes on from tree to tree. -/
lemma trans (h : t.Within u) (h' : u.Within v) : t.Within v :=
  ⟨h'.workdir.trans h.workdir, fun l hl => h'.dirAt l (h.dirAt l hl)⟩

end Within

namespace SameDirs

/-- A tree has its own directories. -/
lemma refl (t : FileTree) : t.SameDirs t := ⟨rfl, fun _ => Iff.rfl⟩

/-- Having the same directories goes both ways. -/
lemma symm (h : t.SameDirs u) : u.SameDirs t := ⟨h.workdir.symm, fun l => (h.dirAt l).symm⟩

/-- Having the same directories goes on from tree to tree. -/
lemma trans (h : t.SameDirs u) (h' : u.SameDirs v) : t.SameDirs v :=
  ⟨h'.workdir.trans h.workdir, fun l => (h'.dirAt l).trans (h.dirAt l)⟩

/-- A tree with the same directories has all of them. -/
lemma within (h : t.SameDirs u) : t.Within u := ⟨h.workdir, fun l => (h.dirAt l).2⟩

/-- Putting a file where no directory stands keeps the directories. -/
lemma put_file (hl : ¬ t.DirAt l) (mode : Nat) (content : ByteArray) :
    t.SameDirs (t.put l (.file mode content)) :=
  ⟨rfl, fun _ => dirAt_put_file hl⟩

/-- Taking a file away keeps the directories. -/
lemma drop_file {f : Nat × ByteArray} (hf : t.file? l = some f) : t.SameDirs (t.drop l) :=
  ⟨rfl, fun _ => dirAt_drop_file hf⟩

end SameDirs

end UaHeaders.FileTree
