import UaHeaders.Proofs.Run.Limits

/-!
# Headers below one output root

All headers of a run lie below one output root: in it, or in a directory in it. So the paths above two headers
are the same but for the directory that a header lies in, and a header is found where its components lead from
where the root leads.

## Main definitions

* `UaHeaders.Target.folder?` — the directory in the output root in which a header lies, if there is one.
* `UaHeaders.RunConfig.rootDir`, `UaHeaders.RunConfig.headerDir` — the directories of a header.
* `UaHeaders.RunConfig.homeDir` — the directory of a header, by a path that is not empty.

## Main results

* `UaHeaders.RunConfig.ancestors_targetPath` — the paths above a header.
* `UaHeaders.RunConfig.place_targetPath_eq` — the place of a header.
* `UaHeaders.RunConfig.walk_targetPath` — walking to a header.
* `UaHeaders.RunConfig.mem_ancestors_cases` — what is above one header is above the others, or is its own
  directory.
-/

set_option autoImplicit false

namespace UaHeaders

open FileTree Transaction

variable {t : FileTree} {w : Location} {config : RunConfig} {target other : Target} {dir : Path}
  {folder : String}

/-! ## Directories of headers -/

/-- **The directory in the output root in which a header lies**, if it does not lie in the root itself. -/
def Target.folder? : Target → Option String
  | attributes => some "services"
  | typeRegistry | nodeIds => some "ua"
  | typeConverter => none

/-- The name of such a directory is short, and neither its first nor its last character is a dot. -/
lemma Target.folder_plain (h : target.folder? = some folder) :
    '/' ∉ folder.toList ∧ folder.toList.head? ≠ some '.' ∧ folder.toList.getLast? ≠ some '.' ∧
      folder ≠ "" ∧ folder.utf8ByteSize ≤ 255 := by
  cases target <;> cases h <;> decide

namespace RunConfig

/-- The reversed characters before the place of a header in its path: the output root, and a separator if
there is something to separate. -/
def beforeRev (config : RunConfig) : List Char :=
  if config.outputRoot.text.isEmpty || config.outputRoot.text.toList.getLast? == some '/' then
    config.outputRoot.text.toList.reverse
  else '/' :: config.outputRoot.text.toList.reverse

/-- **The output root** as the paths above headers have it, without what is trimmed. -/
def rootDir (config : RunConfig) : Path := .ofRev (Path.trimEnd config.beforeRev)

/-- **The directory in which a header lies.** -/
def headerDir (config : RunConfig) (target : Target) : Path :=
  match target.folder? with
  | some folder => .ofRev (folder.toList.reverse ++ config.beforeRev)
  | none => config.rootDir

/-- Before the place of a header stands nothing or a separator. -/
lemma beforeRev_cases (config : RunConfig) :
    config.beforeRev = [] ∨ ∃ cs, config.beforeRev = '/' :: cs := by
  unfold beforeRev
  split_ifs with h
  · rw [Bool.or_eq_true, beq_iff_eq, ← List.head?_reverse] at h
    rcases h with hempty | hlast
    · exact .inl (by simpa using hempty)
    · exact .inr (List.head?_eq_some_iff.1 hlast)
  · exact .inr ⟨_, rfl⟩

/-- The reversed characters of the path of a header. -/
lemma reverse_targetPath (config : RunConfig) (target : Target) :
    (config.targetPath target).text.toList.reverse =
      target.relativePath.text.toList.reverse ++ config.beforeRev := by
  have hrel : target.relativePath.isAbsolute = false := by cases target <;> decide
  rw [targetPath, Path.join, if_neg (by simp [hrel]), beforeRev]
  split_ifs <;> simp

/-- **A header lies in its directory.**

**Proof sketch.** Three of the headers have a folder of their own, behind which their name begins
(`Path.parentRev?_append`); the other one stands in the output root itself. -/
lemma parent?_targetPath (config : RunConfig) (target : Target) :
    (config.targetPath target).parent? = some (config.headerDir target) := by
  have htrim := trimmed_targetPath config target
  unfold Path.Trimmed at htrim
  have hfolder : ∀ (name : List Char) (folder : String),
      target.relativePath.text.toList.reverse = name ++ '/' :: folder.toList.reverse →
      target.folder? = some folder → name ≠ [] → '/' ∉ name →
      Path.trimEnd ('/' :: (folder.toList.reverse ++ config.beforeRev)) =
        folder.toList.reverse ++ config.beforeRev →
      (config.targetPath target).parent? = some (config.headerDir target) := by
    intro name folder hrel hsome hne hsep htrim'
    rw [reverse_targetPath, hrel, List.append_assoc, List.cons_append] at htrim
    rw [Path.parent?, reverse_targetPath, hrel, List.append_assoc, List.cons_append,
      Path.parentRev?_append htrim hne hsep (.inr ⟨_, rfl⟩), htrim', headerDir, hsome]
    rfl
  cases target with
  | typeConverter =>
    rw [reverse_targetPath] at htrim
    rw [Path.parent?, reverse_targetPath, Path.parentRev?_append htrim (by decide) (by decide)
      config.beforeRev_cases]
    rfl
  | attributes =>
    exact hfolder "attribute_highlevel.hpp".toList.reverse "services" (by decide) rfl (by decide)
      (by decide) (by simp [Path.trimEnd])
  | typeRegistry =>
    exact hfolder "typeregistry.hpp".toList.reverse "ua" (by decide) rfl (by decide) (by decide)
      (by simp [Path.trimEnd])
  | nodeIds =>
    exact hfolder "nodeids.hpp".toList.reverse "ua" (by decide) rfl (by decide) (by decide)
      (by simp [Path.trimEnd])

/-- The name of the directory of a header is trimmed. -/
lemma trimEnd_folder (h : target.folder? = some folder) (before : List Char) :
    Path.trimEnd (folder.toList.reverse ++ before) = folder.toList.reverse ++ before := by
  cases target <;> cases h <;> simp [Path.trimEnd]

/-- The directory of a header ends in its name.

**Proof sketch.** The folder has no separator and is none of the dots, and in front of it stands one, or
nothing. -/
lemma fileName?_headerDir (h : target.folder? = some folder) :
    (config.headerDir target).fileName? = some folder := by
  obtain ⟨hsep, hhead, -, hne, -⟩ := Target.folder_plain h
  have hplain : ∀ c ∈ folder.toList.reverse, (c != '/') = true := by
    intro c hc
    rw [bne_iff_ne]
    rintro rfl
    exact hsep (List.mem_reverse.1 hc)
  have htake : (folder.toList.reverse ++ config.beforeRev).takeWhile (· != '/') =
      folder.toList.reverse := by
    rw [List.takeWhile_append_of_pos hplain]
    rcases config.beforeRev_cases with hnil | ⟨cs, hcs⟩ <;> simp [*]
  rw [Path.fileName?, headerDir, h, Path.reverse_toList_ofRev, trimEnd_folder h, htake,
    List.reverse_reverse, if_neg, String.ofList_toList]
  rintro (hnil | hone | htwo)
  · exact hne (by simpa using hnil)
  · simp [hone] at hhead
  · simp [htwo] at hhead

/-- The directory of a header lies in the output root, if it is not the root. -/
lemma parent?_headerDir (h : target.folder? = some folder) :
    (config.headerDir target).parent? = some config.rootDir := by
  obtain ⟨hsep, -, -, hne, -⟩ := Target.folder_plain h
  rw [Path.parent?, headerDir, h, Path.reverse_toList_ofRev,
    Path.parentRev?_append (trimEnd_folder h _) (by simpa using hne) (by simpa using hsep)
      config.beforeRev_cases]
  rfl

/-- The directory of a header is the output root, or it lies in it. -/
lemma headerDir_of_none (h : target.folder? = none) : config.headerDir target = config.rootDir := by
  rw [headerDir, h]

/-- The directory of a header is trimmed. -/
lemma trimmed_headerDir (config : RunConfig) (target : Target) : (config.headerDir target).Trimmed :=
  Path.trimmed_of_parent? (parent?_targetPath config target)

/-- A header is its directory, continued by its name. -/
lemma child_targetPath (config : RunConfig) (target : Target) :
    Path.Child (config.headerDir target) target.fileName (config.targetPath target) :=
  Path.child_of_parent? (trimmed_targetPath config target) (parent?_targetPath config target)
    (fileName?_targetPath config target)

/-- The directory of a header is the output root, continued by the name of the directory. -/
lemma child_headerDir (h : target.folder? = some folder) :
    Path.Child config.rootDir folder (config.headerDir target) :=
  Path.child_of_parent? (trimmed_headerDir config target) (parent?_headerDir h) (fileName?_headerDir h)

/-! ## Paths above headers -/

/-- **The paths above a header** are its directory and those above it. -/
lemma ancestors_targetPath (config : RunConfig) (target : Target) :
    (config.targetPath target).ancestors.tail = (config.headerDir target).ancestors := by
  rw [Path.ancestors_of_parent? (parent?_targetPath config target)]
  rfl

/-- The paths above the directory of a header are those above the output root. -/
lemma ancestors_headerDir (config : RunConfig) (target : Target) :
    (config.headerDir target).ancestors =
      if target.folder?.isSome then config.headerDir target :: config.rootDir.ancestors
      else config.rootDir.ancestors := by
  rcases h : target.folder? with _ | folder
  · rw [headerDir_of_none h]
    rfl
  · exact Path.ancestors_of_parent? (parent?_headerDir h)

/-- What is above the output root is above every header. -/
lemma mem_ancestors_of_root (h : dir ∈ config.rootDir.ancestors) (target : Target) :
    dir ∈ (config.targetPath target).ancestors.tail := by
  rw [ancestors_targetPath, ancestors_headerDir]
  split_ifs
  · exact List.mem_cons_of_mem _ h
  · exact h

/-- **What is above a header** is above the output root or the root itself, or it is the directory of the
header, with a name of its own. -/
lemma mem_ancestors_cases (h : dir ∈ (config.targetPath target).ancestors.tail) :
    dir ∈ config.rootDir.ancestors ∨
      ∃ folder, target.folder? = some folder ∧ dir = config.headerDir target := by
  rw [ancestors_targetPath, ancestors_headerDir] at h
  rcases hfolder : target.folder? with _ | folder
  · rw [hfolder] at h
    exact .inl h
  · rw [hfolder] at h
    rcases List.mem_cons.1 h with rfl | h
    · exact .inr ⟨folder, rfl, rfl⟩
    · exact .inl h

/-! ## Places of headers -/

/-- The components of a header below the output root. -/
def below (target : Target) : List String := target.folder?.toList ++ [target.fileName]

/-- The place of the directory of a header. -/
lemma place_headerDir (config : RunConfig) (target : Target) (w : Location) :
    (config.headerDir target).place w = config.rootDir.place w ++ target.folder?.toList := by
  rcases h : target.folder? with _ | folder
  · simp [headerDir_of_none h]
  · exact (child_headerDir h).place w

/-- **The place of a header.** -/
lemma place_targetPath_eq (config : RunConfig) (target : Target) (w : Location) :
    (config.targetPath target).place w = (config.headerDir target).place w ++ [target.fileName] :=
  (child_targetPath config target).place w

/-- Headers in one place are in one directory. -/
lemma headerDir_eq_of_place
    (h : (config.headerDir target).place w = (config.headerDir other).place w) :
    config.headerDir target = config.headerDir other := by
  rw [place_headerDir, place_headerDir] at h
  have hfolder : target.folder? = other.folder? := by
    have hlist := List.append_cancel_left h
    rcases htarget : target.folder? with _ | folder <;> rcases hother : other.folder? with _ | folder' <;>
      simp_all
  rw [headerDir, headerDir, hfolder]

/-- The walk to the output root. -/
def rootWalk (config : RunConfig) (t : FileTree) : Except Fault Location :=
  config.rootDir.segments.foldlM t.step (t.start config.rootDir)

/-- **Walking to a header** is walking to the output root and from there along the components below. -/
lemma walk_targetPath (config : RunConfig) (target : Target) (t : FileTree) :
    (config.targetPath target).segments.foldlM t.step (t.start (config.targetPath target)) =
      config.rootWalk t >>= fun l => (below target).foldlM t.step l := by
  rw [Onward.foldlM_step (child_targetPath config target).onward, below, rootWalk]
  rcases h : target.folder? with _ | folder
  · simp [headerDir_of_none h]
  · rw [Onward.foldlM_step (child_headerDir h).onward]
    simp [List.foldlM_cons]

/-! ## Where a header is staged that is there -/

/-- **The directory of a header, by a path that is not empty**: a header without a directory in its path lies in
the working directory. -/
def homeDir (config : RunConfig) (target : Target) : Path :=
  if (config.headerDir target).text.isEmpty then "." else config.headerDir target

/-- The path of the directory is not empty. -/
lemma homeDir_nonempty (config : RunConfig) (target : Target) :
    (config.homeDir target).text.isEmpty = false := by
  unfold homeDir
  split_ifs with h
  · decide
  · simpa using h

/-- The place of the directory of a header. -/
lemma place_homeDir (config : RunConfig) (target : Target) (w : Location) :
    (config.homeDir target).place w = (config.headerDir target).place w := by
  unfold homeDir
  split_ifs with h
  · rw [Path.place_stay (.inl h), Path.place_stay (.inr rfl)]
  · rfl

/-- **A header that is reached is staged in its own directory.** -/
lemma stagingDir_eq_homeDir (hr : t.Reaches (config.targetPath target)) :
    t.stagingDir (config.targetPath target) = config.homeDir target := by
  have hparent := parent?_targetPath config target
  unfold homeDir
  split_ifs with h
  · have htail : (config.targetPath target).ancestors.tail =
        config.headerDir target :: (config.headerDir target).ancestors.tail := by
      rw [ancestors_targetPath]
      rfl
    rw [stagingDir, htail, List.find?_cons_of_pos (by simp [h])]
    simp [h]
  · exact stagingDir_of_reaches hr hparent (by simpa using h)

end RunConfig

end UaHeaders
