import UaHeaders.Proofs.Files.Places

/-!
# What the operations on a file tree do

One statement for each operation: when it succeeds, and which tree it answers then. Nothing that comes
later opens an operation.

## Main results

* `UaHeaders.FileTree.pathExists_iff`, `isDir_iff`, `isFile_iff` — the questions about a path.
* `UaHeaders.FileTree.read_eq_ok_iff`, `writeWithMode_of_file?`, `setMode_of_file?` — one file.
* `UaHeaders.FileTree.removeFile_eq_ok_iff`, `rename_eq_ok_iff` — a file goes or moves.
* `UaHeaders.FileTree.makeDir_eq_ok_iff`, `removeDir_eq_ok_iff` — one directory.
* `UaHeaders.FileTree.createTemp_eq_ok` — a temporary file.
-/

set_option autoImplicit false

namespace UaHeaders

/-- Octets spell a text when they are the octets of that text. -/
lemma Text.decode?_eq_some_iff {octets : ByteArray} {s : String} :
    Text.decode? octets = some s ↔ octets = s.toUTF8 := by
  unfold Text.decode? String.fromUTF8?
  constructor
  · intro h
    split at h
    · obtain rfl : String.fromUTF8 octets _ = s := by simpa using h
      rfl
    · simp at h
  · rintro rfl
    simp [String.fromUTF8, s.isValidUTF8]

namespace FileTree

variable {t u : FileTree} {l : Location} {p q : Path} {content : ByteArray} {mode : Nat}

/-! ## Questions -/

/-- Something stands at a path that leads to a file or a directory. -/
lemma pathExists_iff : t.pathExists p = true ↔ ∃ l, t.locate p = .ok l ∧ t.entry? l ≠ none := by
  unfold pathExists lookup
  rcases t.locate p with cause | l
  · simp [bind, Except.bind, Except.isOk, Except.toBool]
  · rcases he : t.entry? l with _ | e <;>
      simp [bind, Except.bind, Except.isOk, Except.toBool, he]

/-- A path is a directory when it leads to one. -/
lemma isDir_iff : t.isDir p = true ↔ ∃ l, t.locate p = .ok l ∧ t.DirAt l := by
  unfold isDir lookup DirAt
  rcases t.locate p with cause | l
  · simp [bind, Except.bind]
  · rcases he : t.entry? l with _ | _ | ⟨mode, content⟩ <;> simp [bind, Except.bind, he]

/-- A path is a file when it leads to one. -/
lemma isFile_iff : t.isFile p = true ↔ ∃ l f, t.locate p = .ok l ∧ t.file? l = some f := by
  unfold isFile lookup file?
  rcases t.locate p with cause | l
  · simp [bind, Except.bind]
  · rcases he : t.entry? l with _ | _ | ⟨mode, content⟩ <;> simp [bind, Except.bind, he]

/-- Reading a path answers the content of the file it leads to. -/
lemma read_eq_ok_iff :
    t.read p = .ok content ↔ ∃ l mode, t.locate p = .ok l ∧ t.file? l = some (mode, content) := by
  unfold read lookup file?
  rcases t.locate p with cause | l
  · simp [bind, Except.bind]
  · rcases he : t.entry? l with _ | _ | ⟨mode, content⟩ <;> simp [bind, Except.bind, he]

/-- Trees with the same directories are read alike where they hold the same file. -/
lemma SameDirs.read_eq_ok_iff (h : t.SameDirs u)
    (hf : u.file? (p.place t.workdir) = t.file? (p.place t.workdir)) :
    u.read p = .ok content ↔ t.read p = .ok content := by
  rw [FileTree.read_eq_ok_iff, FileTree.read_eq_ok_iff]
  constructor
  · rintro ⟨l, mode, hl, hfile⟩
    have hl' := locate_mono h.symm.within hl
    rw [eq_place_of_locate hl', hf, ← eq_place_of_locate hl'] at hfile
    exact ⟨l, mode, hl', hfile⟩
  · rintro ⟨l, mode, hl, hfile⟩
    rw [eq_place_of_locate hl, ← hf, ← eq_place_of_locate hl] at hfile
    exact ⟨l, mode, locate_mono h.within hl, hfile⟩

/-- Reading a path as text answers a text when the file holds its octets. -/
lemma readText_eq_ok_iff {s : String} : t.readText p = .ok s ↔ t.read p = .ok s.toUTF8 := by
  unfold readText
  rcases t.read p with cause | octets
  · simp [bind, Except.bind]
  · rcases hd : Text.decode? octets with _ | text
    · simp only [bind, Except.bind, hd, reduceCtorEq, Except.ok.injEq, false_iff]
      intro h
      rw [Text.decode?_eq_some_iff.2 h] at hd
      simp at hd
    · obtain rfl := Text.decode?_eq_some_iff.1 hd
      simp only [bind, Except.bind, hd, Except.ok.injEq]
      refine ⟨fun h => by rw [h], fun h => ?_⟩
      rw [Text.decode?_eq_some_iff.2 h] at hd
      simpa using hd.symm

/-- The permission bits at a path that leads to a file. -/
lemma mode?_of_file? (hl : t.locate p = .ok l) (hf : t.file? l = some (mode, content)) :
    t.mode? p = .ok mode := by
  have he := file?_eq_some_iff.1 hf
  simp [mode?, lookup, hl, he, bind, Except.bind]

/-- A path at which nothing stands has no permission bits. -/
lemma mode?_of_not_exists (h : t.pathExists p = false) : ∃ cause, t.mode? p = .error cause := by
  have hx : ¬ ∃ l, t.locate p = .ok l ∧ t.entry? l ≠ none := by
    rw [← pathExists_iff]
    simp [h]
  unfold mode? lookup
  rcases hl : t.locate p with cause | l
  · exact ⟨cause, rfl⟩
  · have he : t.entry? l = none := by
      by_contra hne
      exact hx ⟨l, hl, hne⟩
    exact ⟨.notFound, by simp [bind, Except.bind, he]⟩

/-! ## Files -/

/-- Writing to a file replaces its content. -/
lemma writeWithMode_of_file? {new : Nat} {old : ByteArray} (hl : t.locate p = .ok l)
    (hf : t.file? l = some (mode, old)) :
    t.writeWithMode p new content = .ok (t.put l (.file mode content)) := by
  have he := file?_eq_some_iff.1 hf
  simp [writeWithMode, hl, he, bind, Except.bind]

/-- Changing the permission bits of a file keeps its content. -/
lemma setMode_of_file? {old : Nat} (hl : t.locate p = .ok l)
    (hf : t.file? l = some (old, content)) :
    t.setMode p mode = .ok (t.put l (.file mode content)) := by
  have he := file?_eq_some_iff.1 hf
  simp [setMode, hl, he, bind, Except.bind]

/-- **A file is removed** when the path leads to one. -/
lemma removeFile_eq_ok_iff :
    t.removeFile p = .ok u ↔ ∃ l f, t.locate p = .ok l ∧ t.file? l = some f ∧ u = t.drop l := by
  unfold removeFile file?
  rcases t.locate p with cause | l
  · simp [bind, Except.bind]
  · rcases he : t.entry? l with _ | _ | ⟨mode, content⟩ <;>
      simp [bind, Except.bind, he, eq_comm]

/-- **A file moves** when the one path leads to it, and the other to no directory and ends without a
separator. -/
lemma rename_eq_ok_iff :
    t.rename p q = .ok u ↔
      ∃ l m mode content, t.locate p = .ok l ∧ t.file? l = some (mode, content) ∧
        t.locate q = .ok m ∧ ¬ t.DirAt m ∧ q.endsWithSeparator = false ∧
        u = (t.drop l).put m (.file mode content) := by
  unfold rename file? DirAt
  rcases t.locate p with cause | l
  · simp [bind, Except.bind]
  rcases he : t.entry? l with _ | _ | ⟨mode, content⟩
  · simp [bind, Except.bind, he]
  · simp [bind, Except.bind, he]
  rcases t.locate q with cause | m
  · simp [bind, Except.bind, he]
  rcases hm : t.entry? m with _ | _ | ⟨mode', content'⟩
  · by_cases hsep : q.endsWithSeparator = true <;>
      simp [bind, Except.bind, he, hm, hsep, eq_comm]
  · simp [bind, Except.bind, he, hm]
  · by_cases hsep : q.endsWithSeparator = true <;>
      simp [bind, Except.bind, he, hm, hsep, eq_comm]

/-! ## Directories -/

/-- **A directory is made** where nothing stands. -/
lemma makeDir_eq_ok_iff :
    t.makeDir p = .ok u ↔
      ∃ l, t.locate (directoryName p) = .ok l ∧ t.entry? l = none ∧ u = t.put l .directory := by
  unfold makeDir
  rcases t.locate (directoryName p) with cause | l
  · simp [bind, Except.bind]
  · rcases he : t.entry? l with _ | e <;> simp [bind, Except.bind, he, eq_comm]

/-- A path that is removed as a directory has a name at its end. -/
def NamesEntry (p : Path) : Prop :=
  (directoryName p).segments.getLast? ≠ some "." ∧ (directoryName p).segments.getLast? ≠ some ".."

/-- **A directory is removed** when nothing lies below it and the path has a name at its end. -/
lemma removeDir_eq_ok_iff :
    t.removeDir p = .ok u ↔
      ∃ l, t.locate p = .ok l ∧ t.DirAt l ∧ NamesEntry p ∧ l ≠ [] ∧ t.below l = [] ∧
        u = t.drop l := by
  unfold removeDir DirAt NamesEntry
  rcases t.locate p with cause | l
  · simp [bind, Except.bind]
  rcases he : t.entry? l with _ | _ | ⟨mode, content⟩
  · simp [bind, Except.bind, he]
  · simp only [bind, Except.bind, he]
    split
    · next h => simp [h]
    · next h => simp [h]
    · next h₁ h₂ =>
      by_cases hl : l = [] ∨ (t.below l).length > 0
      · simp only [if_pos hl, reduceCtorEq, Except.ok.injEq, false_iff]
        rintro ⟨l', rfl, -, -, hne, hb, -⟩
        rcases hl with hl | hl
        · exact hne hl
        · simp [hb] at hl
      · simp only [if_neg hl, Except.ok.injEq]
        obtain ⟨hne, hlen⟩ := not_or.1 hl
        have hb : t.below l = [] := List.length_eq_zero_iff.1 (by omega)
        constructor
        · rintro rfl
          exact ⟨l, rfl, he, ⟨h₁, h₂⟩, hne, hb, rfl⟩
        · rintro ⟨l', rfl, -, -, -, -, rfl⟩
          rfl
  · simp [bind, Except.bind, he]

/-! ## Temporary files -/

/-- **A temporary file is made** where nothing stands, empty and under a temporary name. -/
lemma createTemp_eq_ok {dir : Path} {beginning ending : String}
    (h : t.createTemp dir beginning ending = .ok (p, u)) :
    (∃ n, p = t.tempPath dir (tempName beginning ending n)) ∧
      ∃ l, t.locate p = .ok l ∧ t.entry? l = none ∧
        u = t.put l (.file tempFileMode ByteArray.empty) := by
  simp only [createTemp] at h
  generalize hpath : (List.find? (fun p => !t.pathExists p) _).getD _ = path at h
  have hname : ∃ n, path = t.tempPath dir (tempName beginning ending n) := by
    rcases hfind : List.find? (fun p => !t.pathExists p) _ with _ | found
    · exact ⟨0, by rw [← hpath, hfind]; rfl⟩
    · obtain ⟨n, -, hn⟩ := List.mem_map.1 (List.mem_of_find?_eq_some hfind)
      exact ⟨n, by rw [← hpath, hfind, hn]; rfl⟩
  rcases hl : t.locate path with cause | l
  · simp [hl] at h
  · rcases he : t.entry? l with _ | e
    · simp only [hl, he, Except.ok.injEq, Prod.mk.injEq] at h
      obtain ⟨rfl, rfl⟩ := h
      exact ⟨hname, l, hl, he, rfl⟩
    · simp [hl, he] at h

end FileTree

end UaHeaders
