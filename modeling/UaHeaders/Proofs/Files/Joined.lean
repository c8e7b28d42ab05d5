import UaHeaders.Proofs.Files.Parents
import UaHeaders.Proofs.Files.TempNames

/-!
# Continued paths

A path that is continued by another one leads where the second leads from where the first leads. The
path of a temporary file is made so: the path of the working directory, continued by the directory of the
file, continued by its name. In a tree in which the working directory is where its path leads, the
temporary file therefore lies in that directory.

A path may be longer than the way it leads: a row of separators leads where one does.

## Main definitions

* `UaHeaders.FileTree.Grounded` — the working directory is where its path leads.
* `UaHeaders.Path.spread` — a path with a row of separators.

## Main results

* `UaHeaders.Path.foldlM_join` — walking along a continued path.
* `UaHeaders.FileTree.place_tempPath_eq` — the place of a temporary file.
* `UaHeaders.FileTree.locate_tempPath` — when its path leads there.
* `UaHeaders.FileTree.locate_spread` — where a path with a row of separators leads.
-/

set_option autoImplicit false

namespace UaHeaders

namespace Path

variable {p rest : Path} {w : Location}

/-- The segments of a text on both sides of a separator. -/
lemma segments_of_toList {before after : List Char} (h : p.text.toList = before ++ '/' :: after) :
    p.segments = segments ⟨String.ofList before⟩ ++ segments ⟨String.ofList after⟩ := by
  simp only [segments, h, String.toList_ofList]
  rw [List.splitOn_append_cons_self, List.map_append]

/-- A text without a separator is its one segment. -/
lemma segments_of_noSeparator {name : String} (h : '/' ∉ name.toList) : segments ⟨name⟩ = [name] := by
  simp [segments, List.splitOn_eq_singleton h]

/-- **Walking along a continued path** is walking along both, as long as an empty component stays.

**Proof sketch.** If the first path ends with a separator, its last component is empty, and the walk
stays there for one step. Otherwise the components are put behind one another. -/
lemma foldlM_join {β : Type} {m : Type → Type} [Monad m] [LawfulMonad m] {f : β → String → m β}
    (h₀ : ∀ l c, (f l "" >>= fun l' => f l' c) = f l c) (hp : p.text.isEmpty = false)
    (hrest : rest.isAbsolute = false) (l : β) :
    (p.join rest).segments.foldlM f l =
      p.segments.foldlM f l >>= fun l' => rest.segments.foldlM f l' := by
  have hself : rest = ⟨String.ofList rest.text.toList⟩ := by simp
  by_cases hend : p.text.toList.getLast? = some '/'
  · obtain ⟨before, hbefore⟩ := List.getLast?_eq_some_iff.1 hend
    have hjoin : (p.join rest).text.toList = before ++ '/' :: rest.text.toList := by
      simp [join, hrest, hbefore]
    have hempty : segments ⟨String.ofList []⟩ = [""] := segments_of_noSeparator (by simp)
    rw [segments_of_toList hjoin, segments_of_toList hbefore, ← hself, hempty, List.foldlM_append,
      List.foldlM_append, bind_assoc]
    -- the empty segment between both stays where it is
    congr 1
    funext l'
    rcases hcs : rest.segments with _ | ⟨c, cs⟩
    · simp [segments] at hcs
    · simp only [List.foldlM_cons, List.foldlM_nil, bind_pure]
      rw [← bind_assoc, h₀]
  · have hjoin : (p.join rest).text.toList = p.text.toList ++ '/' :: rest.text.toList := by
      simp [join, hrest, hp, hend]
    rw [segments_of_toList hjoin, ← hself, String.ofList_toList, List.foldlM_append]

/-- A path keeps its start when it is continued. -/
lemma isAbsolute_join (hp : p.text.isEmpty = false) (hrest : rest.isAbsolute = false) :
    (p.join rest).isAbsolute = p.isAbsolute := by
  have hne : p.text.toList ≠ [] := by simpa using hp
  have hhead : ∀ cs, (p.text.toList ++ cs).head? = p.text.toList.head? :=
    fun cs => List.head?_append_of_ne_nil _ hne
  unfold join
  simp only [hrest, Bool.false_eq_true, if_false]
  split_ifs <;> simp [isAbsolute, hhead]

/-- A path that is continued by something is not empty. -/
lemma isEmpty_join (h : rest.text.isEmpty = false) : (p.join rest).text.isEmpty = false := by
  unfold join
  split_ifs <;> simp_all

/-- The characters of a continued path are those of both, and separators. -/
lemma notMem_join {c : Char} (hc : c ≠ '/') (hp : c ∉ p.text.toList) (hrest : c ∉ rest.text.toList) :
    c ∉ (p.join rest).text.toList := by
  unfold join
  split_ifs <;> simp [hc, hp, hrest]

/-- A continued path has no NUL if neither path has one. -/
lemma noNul_join (hp : '\x00' ∉ p.text.toList) (hrest : '\x00' ∉ rest.text.toList) :
    '\x00' ∉ (p.join rest).text.toList :=
  notMem_join (by decide) hp hrest

/-- **The place of a continued path** is the place of what continues it, from the place of the first. -/
lemma place_join (hp : p.text.isEmpty = false) (hrest : rest.isAbsolute = false) (w : Location) :
    (p.join rest).place w = rest.place (p.place w) := by
  have hwalk := foldlM_join (m := Id) (f := fun l c => Location.along l c)
    (fun l c => along_stay l "" c (.inl rfl)) hp hrest (if p.isAbsolute then [] else w)
  have hfold := congrArg Id.run hwalk
  simp only [List.idRun_foldlM, Id.run_bind] at hfold
  unfold Path.place
  rw [isAbsolute_join hp hrest, hrest]
  exact hfold

/-! ## Rows of separators -/

/-- A row of separators at the end is trimmed. -/
lemma trimEnd_row {cs : List Char} (k : Nat) (hcs : cs ≠ []) :
    trimEnd (List.replicate k '/' ++ cs) = trimEnd cs := by
  induction k with
  | zero => rfl
  | succ k ih =>
    rw [List.replicate_succ, List.cons_append, trimEnd.eq_2 _ (by simp [hcs]), ih]

/-- **A path with a row of separators** in it. -/
def spread (start : String) (k : Nat) (rest : String) : Path :=
  ⟨start ++ String.ofList (List.replicate k '/') ++ rest⟩

/-- A separator takes one octet. -/
lemma size_spread (start : String) (k : Nat) (last : String) :
    (spread start k last).text.utf8ByteSize = start.utf8ByteSize + k + last.utf8ByteSize := by
  have hrow : (String.ofList (List.replicate k '/')).utf8ByteSize = k := by
    induction k with
    | zero => rfl
    | succ k ih =>
      rw [List.replicate_succ, String.ofList_cons, String.utf8ByteSize_append, ih,
        String.utf8ByteSize_singleton]
      exact Nat.add_comm 1 k
  rw [spread, String.utf8ByteSize_append, String.utf8ByteSize_append, hrow]

/-- **Walking along a row of separators** is walking along one, whatever way there is of stepping along
components, as long as an empty one and a dot stay.

**Proof sketch.** The row is split at its last separator. What stands before is trimmed, which leaves the
way as it is (`foldlM_trimEnd`), and all rows are the same then. -/
lemma foldlM_spread {start last : String} {β : Type} {m : Type → Type} [Monad m] [LawfulMonad m]
    {f : β → String → m β} (h₀ : ∀ l c, (f l "" >>= fun l' => f l' c) = f l c)
    (h₁ : ∀ l c, (f l "." >>= fun l' => f l' c) = f l c) (hstart : start ≠ "") (k : Nat) (l : β) :
    (spread start (k + 1) last).segments.foldlM f l = (spread start 1 last).segments.foldlM f l := by
  have hsplit : ∀ k, (spread start (k + 1) last).segments =
      (ofRev (List.replicate k '/' ++ start.toList.reverse)).segments ++ segments ⟨last⟩ := by
    intro k
    have htext : (spread start (k + 1) last).text.toList =
        (start.toList ++ List.replicate k '/') ++ '/' :: last.toList := by
      simp [spread, List.replicate_succ']
    rw [segments_of_toList htext]
    simp [ofRev]
  obtain ⟨c, cs, hcs⟩ : ∃ c cs, segments ⟨last⟩ = c :: cs := by
    rcases hcs : segments ⟨last⟩ with _ | ⟨c, cs⟩
    · simp [segments] at hcs
    · exact ⟨c, cs, rfl⟩
  -- what stands before the last separator is trimmed, and the row goes with it
  have hrow : ∀ k, (spread start (k + 1) last).segments.foldlM f l =
      ((ofRev (trimEnd start.toList.reverse)).segments.foldlM f l >>= fun l' => f l' c) >>=
        fun l' => cs.foldlM f l' := by
    intro k
    rw [hsplit, hcs, List.foldlM_append, ← trimEnd_row k (by simpa using hstart),
      foldlM_trimEnd h₀ h₁, bind_assoc]
    simp only [List.foldlM_cons]
  rw [hrow k, ← hrow 0]

end Path

namespace FileTree

variable {t u : FileTree} {l w : Location} {p dir rest : Path} {name : String}

/-- **The working directory is where its path leads**, as in every tree that a system makes. The path may be
too long for the system. -/
structure Grounded (t : FileTree) : Prop where
  walks : t.Walks t.workdirPath
  place : t.workdirPath.place t.workdir = t.workdir
  noNul : '\x00' ∉ t.workdirPath.text.toList
  dirAt : t.DirAt t.workdir

instance (t : FileTree) : Decidable t.Grounded :=
  decidable_of_iff (t.Walks t.workdirPath ∧ t.workdirPath.place t.workdir = t.workdir ∧
      '\x00' ∉ t.workdirPath.text.toList ∧ t.DirAt t.workdir)
    ⟨fun ⟨hwalks, hplace, hnul, hdir⟩ => ⟨hwalks, hplace, hnul, hdir⟩,
      fun h => ⟨h.walks, h.place, h.noNul, h.dirAt⟩⟩

/-- More directories keep the working directory where its path leads. -/
lemma Grounded.mono (h : t.Grounded) (hw : t.Within u) : u.Grounded := by
  have hpath : u.workdirPath = t.workdirPath := by rw [workdirPath, workdirPath, hw.workdir]
  refine ⟨?_, ?_, ?_, ?_⟩
  · rw [Walks, hpath, hw.workdir, start_congr hw.workdir]
    exact foldlM_step_mono hw h.walks
  · rw [hpath, hw.workdir, h.place]
  · rw [hpath]
    exact h.noNul
  · rw [hw.workdir]
    exact hw.dirAt _ h.dirAt

/-- The path of the working directory starts at the root. -/
lemma isAbsolute_workdirPath (t : FileTree) : t.workdirPath.isAbsolute = true := by
  simp [workdirPath, Path.isAbsolute]

/-- The path of the working directory is not empty. -/
lemma workdirPath_nonempty (t : FileTree) : t.workdirPath.text.isEmpty = false := by
  simp [workdirPath]

/-- A plain name is no path from the root. -/
lemma PlainName.isAbsolute (h : PlainName name) : Path.isAbsolute ⟨name⟩ = false := by
  rw [Path.isAbsolute, beq_eq_false_iff_ne]
  intro hhead
  exact h.noSeparator (List.mem_of_head? hhead)

/-- The path of a temporary file in a directory given from the root. -/
lemma tempPath_of_isAbsolute (hne : dir.text.isEmpty = false) (habs : dir.isAbsolute = true)
    (hname : PlainName name) : t.tempPath dir name = dir.join ⟨name⟩ := by
  have hjoin : (dir.join ⟨name⟩).isAbsolute = true := by
    rw [Path.isAbsolute_join hne hname.isAbsolute, habs]
  rw [tempPath, Path.join, if_pos hjoin]

/-- **A temporary file lies in its directory.** -/
lemma place_tempPath_eq (hg : t.Grounded) (hne : dir.text.isEmpty = false) (hname : PlainName name) :
    (t.tempPath dir name).place t.workdir = dir.place t.workdir ++ [name] := by
  have hlast : ∀ w, Path.place w ⟨name⟩ = w ++ [name] := by
    intro w
    rw [Path.place, hname.isAbsolute, Path.segments_of_noSeparator hname.noSeparator]
    exact hname.along w
  have hjoin : ∀ w, (dir.join ⟨name⟩).place w = dir.place w ++ [name] := by
    intro w
    rw [Path.place_join hne hname.isAbsolute, hlast]
  rcases habs : dir.isAbsolute
  · have hrel : (dir.join ⟨name⟩).isAbsolute = false := by
      rw [Path.isAbsolute_join hne hname.isAbsolute, habs]
    rw [tempPath, Path.place_join t.workdirPath_nonempty hrel, hg.place, hjoin]
  · rw [tempPath_of_isAbsolute hne habs hname, hjoin]

/-- Walking along a continued path, from where the first path leads. -/
lemma foldlM_step_join (hne : p.text.isEmpty = false) (hrest : rest.isAbsolute = false)
    (h : p.segments.foldlM t.step (t.start p) = .ok l) :
    (p.join rest).segments.foldlM t.step (t.start (p.join rest)) = rest.segments.foldlM t.step l := by
  have hstart : t.start (p.join rest) = t.start p := by
    rw [start, start, Path.isAbsolute_join hne hrest]
  rw [hstart, Path.foldlM_join (fun l c => step_stay t l "" c (.inl rfl)) hne hrest, h]
  rfl

/-- **A name that a temporary file can have**: it is plain, not too long and without NUL. -/
structure FittingName (name : String) : Prop extends PlainName name where
  short : name.utf8ByteSize ≤ 255
  noNul : '\x00' ∉ name.toList

/-- **The path of a temporary file leads into its directory**, if it is not too long.

**Proof sketch.** If the directory is absolute, the way is along it and then along the name. Otherwise
the way to the working directory comes first, which leads there because the tree is grounded. -/
lemma locate_tempPath (hg : t.Grounded) (hl : t.locate dir = .ok l) (hd : t.DirAt l)
    (hname : FittingName name) (hshort : (t.tempPath dir name).text.utf8ByteSize ≤ 4095) :
    t.locate (t.tempPath dir name) = .ok (l ++ [name]) := by
  obtain ⟨hdir, hwalk⟩ := locate_eq_ok_iff_foldlM.1 hl
  have hwork : t.workdirPath.segments.foldlM t.step (t.start t.workdirPath) = .ok t.workdir := by
    rw [hg.walks, hg.place]
  have hlast : Path.segments ⟨name⟩ = [name] := Path.segments_of_noSeparator hname.noSeparator
  have hstep : t.step l name = .ok (l ++ [name]) :=
    step_eq_ok_iff.2 ⟨hd, hname.short, (hname.toPlainName.along l).symm⟩
  -- along the directory, and then along the name
  have hjoin : (dir.join ⟨name⟩).segments.foldlM t.step (t.start (dir.join ⟨name⟩)) =
      .ok (l ++ [name]) := by
    rw [foldlM_step_join hdir.nonempty hname.toPlainName.isAbsolute hwalk, hlast]
    simpa using hstep
  rw [locate_eq_ok_iff_foldlM]
  refine ⟨⟨?_, ?_, hshort⟩, ?_⟩
  · have hne : (⟨name⟩ : Path).text.isEmpty = false := by
      simpa using fun h : name = "" => absurd hname.long (by simp [h])
    exact Path.isEmpty_join (Path.isEmpty_join hne)
  · have hnul : '\x00' ∉ (dir.join ⟨name⟩).text.toList :=
      Path.noNul_join (by simpa using hdir.noNul) hname.noNul
    simpa [tempPath] using Path.noNul_join hg.noNul hnul
  · rcases habs : dir.isAbsolute
    · have hrel : (dir.join ⟨name⟩).isAbsolute = false := by
        rw [Path.isAbsolute_join hdir.nonempty hname.toPlainName.isAbsolute, habs]
      rw [tempPath, foldlM_step_join t.workdirPath_nonempty hrel hwork, ← hjoin]
      simp [start, hrel]
    · rw [tempPath_of_isAbsolute hdir.nonempty habs hname.toPlainName, hjoin]

/-- **A row of separators leads where one does**, if the path is not too long.

**Proof sketch.** Both paths start at the same place, hold a null if one does, and are short enough if
the longer one is. The way along them is the same by `Path.foldlM_spread`. -/
lemma locate_spread {start last : String} {k : Nat} (hstart : start ≠ "")
    (hk : (Path.spread start (k + 1) last).text.utf8ByteSize ≤ 4095) :
    t.locate (Path.spread start (k + 1) last) = t.locate (Path.spread start 1 last) := by
  have hone : (Path.spread start 1 last).text.utf8ByteSize ≤
      (Path.spread start (k + 1) last).text.utf8ByteSize := by
    rw [Path.size_spread, Path.size_spread]
    omega
  have hstarts : t.start (Path.spread start (k + 1) last) = t.start (Path.spread start 1 last) := by
    have hne : start.toList ≠ [] := by simpa using hstart
    simp [FileTree.start, Path.isAbsolute, Path.spread, List.head?_append_of_ne_nil _ hne]
  have hnul : (Path.spread start (k + 1) last).text.toList.contains '\x00' =
      (Path.spread start 1 last).text.toList.contains '\x00' := by
    simp [Path.spread, List.mem_replicate]
  have hwalk : ∀ l, (Path.spread start (k + 1) last).segments.foldlM t.step l =
      (Path.spread start 1 last).segments.foldlM t.step l :=
    Path.foldlM_spread (fun l c => step_stay t l "" c (.inl rfl))
      (fun l c => step_stay t l "." c (.inr rfl)) hstart k
  have hempty : ∀ k, (Path.spread start k last).text.isEmpty = false := by
    intro k
    simp [Path.spread, hstart]
  simp only [locate, hempty, hnul, hstarts, hwalk, Nat.not_lt.2 hk, Nat.not_lt.2 (hone.trans hk)]

end FileTree

end UaHeaders
