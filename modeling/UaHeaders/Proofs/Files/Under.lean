import UaHeaders.Proofs.Files.Making

/-!
# Directories that can be made

What is above a path that leads somewhere is a directory. And where a tree with more directories has a
directory, it can be made with all that are missing above it, as long as no file is in its way.

## Main definitions

* `UaHeaders.FileTree.Under` — a tree can grow to have the directories of another one.

## Main results

* `UaHeaders.FileTree.isDir_of_mem_ancestors` — what is above a reached path is a directory.
* `UaHeaders.FileTree.Under.exists_makeDirs` — the directories of the larger tree can be made.
-/

set_option autoImplicit false

namespace UaHeaders

namespace Path

variable {p : Path}

/-- A path without a parent has nothing above it. -/
lemma ancestors_of_parent?_none (h : p.parent? = none) : p.ancestors = [p] := by
  have hup : parentRev? p.text.toList.reverse = none := by simpa [parent?] using h
  rw [ancestors, ancestorsRev]
  split
  · rfl
  · next up hsome => simp [hup] at hsome

/-- The only trimmed paths without a parent are the empty one and the root.

**Proof sketch.** By the last character. The parent is missing only where the path is empty or ends with
a separator, and the root is the only trimmed path that does. -/
lemma eq_root_of_parent?_none (ht : p.Trimmed) (hne : p.text.isEmpty = false)
    (h : p.parent? = none) : p = ⟨"/"⟩ := by
  have hup : parentRev? p.text.toList.reverse = none := by simpa [parent?] using h
  unfold parentRev? at hup
  have htrim := ht
  unfold Trimmed at htrim
  rw [htrim] at hup
  split at hup
  · next hnil => simp [show p.text = "" by simpa using hnil] at hne
  · next rest hrest =>
    rcases rest with _ | ⟨c, cs⟩
    · rw [← ofRev_reverse p, hrest]
      rfl
    · -- a separator behind something would have been trimmed
      have hlength := length_trimEnd_le (c :: cs)
      rw [hrest, trimEnd.eq_2 _ (by simp)] at htrim
      rw [htrim] at hlength
      simp at hlength
  · simp at hup

end Path

namespace FileTree

variable {s t u v : FileTree} {l m : Location} {p q dir : Path} {cs : List String}

/-! ## What is above a reached path -/

/-- The parent of a reached path is a directory, if it is not empty. -/
lemma isDir_of_parent? (ht : p.Trimmed) (hr : t.Reaches p) (hq : p.parent? = some q)
    (hne : q.text.isEmpty = false) : t.isDir q = true := by
  obtain ⟨c, hon⟩ := Path.onward_of_parent? ht hq
  obtain ⟨husable, hwalks⟩ := reaches_iff_walks.1 hr
  obtain ⟨hwalksq, hd, -⟩ := (Onward.walks_iff hon).1 hwalks
  exact isDir_iff.2 ⟨_, reaches_iff_walks.2 ⟨hon.usable husable hne, hwalksq⟩, hd⟩

/-- **What is above a reached path is a directory.**

**Proof sketch.** Induction on the length of the path. Its parent is a directory (`isDir_of_parent?`), or
empty with nothing above it, and what else is above is above the parent. -/
lemma isDir_of_mem_ancestors (ht : p.Trimmed) (hr : t.Reaches p) (hdir : dir ∈ p.ancestors.tail)
    (hne : dir.text.isEmpty = false) : t.isDir dir = true := by
  induction hn : p.text.toList.length using Nat.strong_induction_on generalizing p with
  | _ n ih =>
    rcases hq : p.parent? with _ | q
    · simp [Path.ancestors_of_parent?_none hq] at hdir
    rw [Path.ancestors_of_parent? hq, List.tail_cons] at hdir
    rcases Bool.eq_false_or_eq_true q.text.isEmpty with hempty | hnonempty
    · -- nothing is above the empty path
      obtain rfl : q = ⟨""⟩ := by
        cases q
        simpa using hempty
      have hnone : Path.parent? ⟨""⟩ = none := by
        simp [Path.parent?, Path.parentRev?, Path.trimEnd]
      rw [Path.ancestors_of_parent?_none hnone, List.mem_singleton] at hdir
      simp [hdir] at hne
    · have hdirq := isDir_of_parent? ht hr hq hnonempty
      rcases List.mem_cons.1 (show dir ∈ q :: q.ancestors.tail from hdir) with rfl | hdir
      · exact hdirq
      · obtain ⟨l, hl, -⟩ := isDir_iff.1 hdirq
        exact ih _ (hn ▸ length_parent?_lt hq) (Path.trimmed_of_parent? hq) (.of_locate hl) hdir rfl

/-- A directory of a tree whose way is not there in another one has a parent that is a directory too, and once
the other tree has that, the way is there.

**Proof sketch.** The path is not the root, so it has a parent, and the way to it is that to the parent
and one step further. The parent is not empty, for then the path would be reached from the working
directory, which is there. -/
lemma exists_parent?_of_notFound (hwork : s.DirAt s.workdir) (ht : p.Trimmed)
    (hd : v.isDir p = true) (hl : s.locate p = .error .notFound) :
    ∃ q, p.parent? = some q ∧ q.text.isEmpty = false ∧ v.isDir q = true ∧
      ∀ u, s.Within u → u.isDir q = true → u.Reaches p := by
  obtain ⟨l, hlv, -⟩ := isDir_iff.1 hd
  have husable := (Reaches.of_locate hlv).usable
  rcases hq : p.parent? with _ | q
  · -- the root is always there
    obtain rfl := Path.eq_root_of_parent?_none ht husable.nonempty hq
    obtain ⟨m, hm, -⟩ := isDir_iff.1 s.isDir_root
    simp [hl] at hm
  obtain ⟨c, hon⟩ := Path.onward_of_parent? ht hq
  obtain ⟨-, hwalks⟩ := reaches_iff_walks.1 (Reaches.of_locate hlv)
  obtain ⟨-, -, hsize⟩ := (Onward.walks_iff hon).1 hwalks
  rcases Bool.eq_false_or_eq_true q.text.isEmpty with hempty | hne
  · -- a path of one component is reached from the working directory
    have hwalksq := walks_of_isEmpty hempty hwork
    have hplace : q.place s.workdir = s.workdir := Path.place_stay (.inl hempty) _
    have hreach := reaches_iff_walks.2
      ⟨husable, (Onward.walks_iff hon).2 ⟨hwalksq, by rwa [hplace], hsize⟩⟩
    rw [Reaches, hl] at hreach
    simp at hreach
  · refine ⟨q, rfl, hne, isDir_of_parent? ht (.of_locate hlv) hq hne, fun u hu hdir => ?_⟩
    obtain ⟨m, hm, hdm⟩ := isDir_iff.1 hdir
    obtain ⟨hreach, rfl⟩ := locate_eq_ok_iff.1 hm
    exact reaches_iff_walks.2 ⟨husable, (Onward.walks_iff hon).2
      ⟨(reaches_iff_walks.1 hreach).2, hdm, hsize⟩⟩

/-! ## Growing to a tree -/

/-- **The tree `s` can grow to have the directories of `v`**: it has some of them, and no file stands where
the others go. -/
structure Under (s v : FileTree) : Prop where
  within : s.Within v
  clear : ∀ l, v.DirAt l → s.file? l = none

namespace Under

/-- A way that leads somewhere in the larger tree leads there too, or something on it is missing. -/
lemma walk (h : s.Under v) (hv : cs.foldlM v.step l = .ok m) :
    cs.foldlM s.step l = .ok m ∨ cs.foldlM s.step l = .error .notFound := by
  induction cs generalizing l with
  | nil => exact .inl hv
  | cons c cs ih =>
    rw [List.foldlM_cons] at hv ⊢
    rcases hstep : v.step l c with cause | next
    · simp [hstep, bind, Except.bind] at hv
    rw [hstep] at hv
    obtain ⟨hd, hsize, hnext⟩ := step_eq_ok_iff.1 hstep
    by_cases hds : s.DirAt l
    · rw [step_eq_ok_iff.2 ⟨hds, hsize, hnext⟩]
      exact ih hv
    · have hnone : s.entry? l = none := entry?_eq_none_iff.2 ⟨h.clear l hd, hds⟩
      exact .inr (by simp [step, hnone, bind, Except.bind])

/-- A path that leads somewhere in the larger tree leads there too, or something on its way is missing. -/
lemma locate (h : s.Under v) (hl : v.locate p = .ok l) :
    s.locate p = .ok l ∨ s.locate p = .error .notFound := by
  obtain ⟨husable, hwalk⟩ := locate_eq_ok_iff_foldlM.1 hl
  rw [start_congr h.within.workdir] at hwalk
  rw [locate_of_usable husable]
  exact h.walk hwalk

/-- One more directory of the larger tree. -/
lemma makeDir (h : s.Under v) (hmake : s.makeDir p = .ok u) (ht : p.Trimmed)
    (hd : v.isDir p = true) : u.Under v ∧ u.isDir p = true := by
  obtain ⟨l, hl, hfree, rfl⟩ := makeDir_eq_ok_iff.1 hmake
  rw [ht.directoryName] at hl
  obtain ⟨m, hm, hdm⟩ := isDir_iff.1 hd
  obtain rfl : l = m := by simpa [locate_mono h.within hl] using hm
  have hne : l ≠ [] := ne_nil_of_not_dirAt (not_dirAt_of_entry?_none hfree)
  have hgrown : s.Within (s.put l .directory) :=
    ⟨rfl, fun k hk => (dirAt_put_directory hne).2 (.inr hk)⟩
  refine ⟨⟨⟨h.within.workdir, fun k hk => ?_⟩, fun k hk => ?_⟩, ?_⟩
  · rcases (dirAt_put_directory hne).1 hk with rfl | hk
    · exact hdm
    · exact h.within.dirAt k hk
  · rw [file?_put_directory hfree, h.clear k hk]
  · exact isDir_iff.2 ⟨l, locate_mono hgrown hl, (dirAt_put_directory hne).2 (.inl rfl)⟩

/-- A directory of the larger tree that is reached is there, or it can be made. -/
lemma makeDir_of_locate (h : s.Under v) (ht : p.Trimmed) (hd : v.isDir p = true)
    (hl : s.locate p = .ok l) : s.isDir p = true ∨ ∃ u, s.makeDir p = .ok u := by
  obtain ⟨m, hm, hdm⟩ := isDir_iff.1 hd
  obtain rfl : l = m := by simpa [locate_mono h.within hl] using hm
  by_cases hds : s.DirAt l
  · exact .inl (isDir_iff.2 ⟨l, hl, hds⟩)
  · have hnone : s.entry? l = none := entry?_eq_none_iff.2 ⟨h.clear l hdm, hds⟩
    exact .inr ⟨_, makeDir_eq_ok_iff.2 ⟨l, by rwa [ht.directoryName], hnone, rfl⟩⟩

/-- **The directories of the larger tree can be made.**

**Proof sketch.** Induction on the length of the path. If its way is there, so is the directory, or nothing
stands in its place. If something is missing on its way, the parent is made first, and then it is reached. -/
lemma exists_makeDirs (h : s.Under v) (hwork : s.DirAt s.workdir) (ht : p.Trimmed)
    (hd : v.isDir p = true) :
    ∃ u, s.makeDirs p = (.ok (), u) ∧ u.Under v ∧ u.isDir p = true := by
  induction hn : p.text.toList.length using Nat.strong_induction_on generalizing p with
  | _ n ih =>
    obtain ⟨l, hlv, -⟩ := isDir_iff.1 hd
    have hne := (Reaches.of_locate hlv).usable.nonempty
    by_cases hdir : s.isDir p = true
    · exact ⟨s, makeDirs_of_isDir ht hne hdir, h, hdir⟩
    rcases h.locate hlv with hl | hl
    · -- nothing stands in the place of the directory
      obtain ⟨u, hmake⟩ := (h.makeDir_of_locate ht hd hl).resolve_left hdir
      refine ⟨u, ?_, h.makeDir hmake ht hd⟩
      simp [makeDirs, Path.ancestors, makeChain, hne, hmake]
    · obtain ⟨q, hq, hneq, hdq, hreach⟩ := exists_parent?_of_notFound hwork ht hd hl
      obtain ⟨u, hmakeq, hu, hdu⟩ := ih _ (hn ▸ length_parent?_lt hq) (Path.trimmed_of_parent? hq) hdq rfl
      have hnot : s.makeDir p = .error .notFound := by
        simp [FileTree.makeDir, ht.directoryName, hl, bind, Except.bind]
      have hgrown := grownAlong_makeDirs s q
      rw [hmakeq] at hgrown
      have hchain : s.makeChain q.ancestors = (.ok (), u) := hmakeq
      rw [makeDirs, Path.ancestors_of_parent? hq, makeChain]
      simp only [hne, Bool.false_eq_true, if_false, hnot, hchain]
      rcases hu.makeDir_of_locate ht hd (hreach u hgrown.within hdu) with hdp | ⟨w, hmake⟩
      · have hexists : ∃ cause, u.makeDir p = .error cause := by
          obtain ⟨m, hm, hdm⟩ := isDir_iff.1 hdp
          have hentry : u.entry? m = some .directory := hdm
          exact ⟨.alreadyExists, by
            simp [FileTree.makeDir, ht.directoryName, hm, hentry, bind, Except.bind]⟩
        obtain ⟨cause, hcause⟩ := hexists
        exact ⟨u, by simp [hcause, hdp], hu, hdp⟩
      · exact ⟨w, by simp [hmake], hu.makeDir hmake ht hd⟩

end Under

end FileTree

end UaHeaders
