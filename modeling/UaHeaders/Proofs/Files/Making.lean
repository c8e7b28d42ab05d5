import UaHeaders.Proofs.Files.Growth
import UaHeaders.Proofs.Files.Parents

/-!
# Which directories are made

When a directory is made with all that are missing above it, and each of the missing ones has a name,
the new directories are those that the missing paths lead to, and nothing else. Taking them away one by
one, the deepest first, leads back to the directories from before.

## Main definitions

* `UaHeaders.FileTree.WellFormed` — what stands in a tree stands in a directory.
* `UaHeaders.FileTree.missing` — the paths above which nothing is missing.
* `UaHeaders.FileTree.Raised` — a tree with directories at given paths on top of those of another.

## Main results

* `UaHeaders.FileTree.made_makeDirs` — making directories raises the missing ones.
* `UaHeaders.FileTree.sameDirs_makeDirs_error` — making directories with short names makes all or none.
-/

set_option autoImplicit false

namespace UaHeaders.FileTree

variable {t u v : FileTree} {l m : Location} {p q : Path} {ps qs : List Path} {name : String}

/-! ## Well-formed trees -/

/-- **What stands in a tree stands in a directory.** -/
def WellFormed (t : FileTree) : Prop :=
  ∀ l name, t.entry? (l ++ [name]) ≠ none → t.DirAt l

/-- A tree is well-formed when each of its entries lies in a directory. -/
lemma wellFormed_iff : t.WellFormed ↔ ∀ x ∈ t.entries.toList, t.DirAt x.1.dropLast := by
  constructor
  · rintro h ⟨l, e⟩ hmem
    rcases List.eq_nil_or_concat l with rfl | ⟨k, name, rfl⟩
    · exact dirAt_nil t
    · rw [List.concat_eq_append] at hmem ⊢
      rw [List.dropLast_concat]
      refine h k name ?_
      rw [ entry?, if_neg (by simp), Std.ExtTreeMap.mem_toList_iff_getElem?_eq_some.1 hmem]
      simp
  · intro h l name he
    obtain ⟨e, he⟩ := Option.ne_none_iff_exists'.1 he
    rw [ entry?, if_neg (by simp)] at he
    have := h _ (Std.ExtTreeMap.mem_toList_iff_getElem?_eq_some.2 he)
    rwa [List.dropLast_concat] at this

instance (t : FileTree) : Decidable t.WellFormed := decidable_of_iff _ wellFormed_iff.symm

/-- **What a directory lies in is a directory.** -/
def Closed (t : FileTree) : Prop := ∀ l name, t.DirAt (l ++ [name]) → t.DirAt l

/-- The directories of a well-formed tree lie in directories. -/
lemma WellFormed.closed (h : t.WellFormed) : t.Closed :=
  fun l name hd => h l name (by rw [show t.entry? (l ++ [name]) = _ from hd]; simp)

/-- What lies below a place lies in directories from there on. -/
lemma dirAt_above (hc : t.Closed) (hp : l <+: m) (hm : t.DirAt m) : t.DirAt l := by
  obtain ⟨rest, rfl⟩ := hp
  induction rest using List.reverseRecOn with
  | nil => simpa using hm
  | append_singleton rest c ih =>
    rw [← List.append_assoc] at hm
    exact ih (hc _ _ hm)

/-- Below a file of a well-formed tree and above it there are directories. -/
lemma WellFormed.dirAt_of_entry? (h : t.WellFormed) (hp : l <+: m) (hne : l ≠ m)
    (he : t.entry? m ≠ none) : t.DirAt l := by
  obtain ⟨rest, rfl⟩ := hp
  obtain ⟨rest, c, rfl⟩ : ∃ rest' c, rest = rest' ++ [c] := by
    rcases List.eq_nil_or_concat rest with rfl | ⟨rest', c, rfl⟩
    · simp at hne
    · exact ⟨rest', c, by simp⟩
  rw [← List.append_assoc] at he
  exact dirAt_above h.closed (List.prefix_append _ _) (h _ _ he)

/-- **Files stand in directories.** -/
def Housed (t : FileTree) : Prop := ∀ l name, t.file? (l ++ [name]) ≠ none → t.DirAt l

/-- The files of a well-formed tree stand in directories. -/
lemma WellFormed.housed (h : t.WellFormed) : t.Housed :=
  fun l name hf => h l name fun he => hf (file?_of_entry?_none he)

/-- A tree is well-formed when its directories and its files stand in directories. -/
lemma wellFormed_of_closed (hc : t.Closed) (hh : t.Housed) : t.WellFormed := by
  intro l name he
  by_cases hd : t.DirAt (l ++ [name])
  · exact hc l name hd
  · exact hh l name fun hf => he (entry?_eq_none_iff.2 ⟨hf, hd⟩)

/-- Where a path leads to no directory, it leads into one.

**Proof sketch.** Look at the last component of the path. If it stays, the way ends at a directory; if it
goes up, it ends at what a directory lies in, which is one. So it is a name, and the step is made from a
directory. -/
lemma dirAt_of_locate (hc : t.Closed) (hl : t.locate p = .ok (l ++ [name]))
    (hd : ¬ t.DirAt (l ++ [name])) : t.DirAt l := by
  have hwalk := (locate_eq_ok_iff_foldlM.1 hl).2
  rcases List.eq_nil_or_concat p.segments with hnil | ⟨cs, c, hcs⟩
  · simp [Path.segments] at hnil
  simp only [hcs, List.concat_eq_append, List.foldlM_append, List.foldlM_cons, List.foldlM_nil,
    bind_pure] at hwalk
  rcases hm : cs.foldlM t.step (t.start p) with cause | m
  · simp [hm, bind, Except.bind] at hwalk
  have hstep : t.step m c = .ok (l ++ [name]) := by rwa [hm] at hwalk
  obtain ⟨hdm, -, halong⟩ := step_eq_ok_iff.1 hstep
  unfold Location.along at halong
  split_ifs at halong with h₁ h₂
  · exact absurd (halong ▸ hdm) hd
  · -- what a directory lies in is one
    exfalso
    rcases List.eq_nil_or_concat m with rfl | ⟨k, d, rfl⟩
    · simp at halong
    · rw [List.concat_eq_append, List.dropLast_concat] at halong
      rw [List.concat_eq_append, ← halong] at hdm
      exact hd (hc _ _ hdm)
  · obtain ⟨rfl, -⟩ := List.append_inj' halong rfl
    exact hdm

/-- Nothing lies below a place when no entry does.

**Proof sketch.** What is below a place are the entries of the map at longer places that begin with it,
and a longer place is never the root. -/
lemma below_eq_nil_iff : t.below l = [] ↔ ∀ m, l <+: m → m ≠ l → t.entry? m = none := by
  unfold below
  rw [List.filter_eq_nil_iff]
  constructor
  · intro h m hp hne
    have hm : m ≠ [] := by
      rintro rfl
      exact hne (List.prefix_nil.1 hp).symm
    rw [ entry?, if_neg hm]
    by_contra hsome
    obtain ⟨e, he⟩ := Option.ne_none_iff_exists'.1 hsome
    refine h (m, e) (Std.ExtTreeMap.mem_toList_iff_getElem?_eq_some.2 he) ?_
    have hlen : l.length < m.length := by
      rcases Nat.lt_or_ge l.length m.length with hlt | hge
      · exact hlt
      · exact absurd (hp.eq_of_length (Nat.le_antisymm hp.length_le hge)).symm hne
    simp [List.isPrefixOf_iff_prefix.2 hp, hlen]
  · rintro h ⟨m, e⟩ hmem
    simp only [Bool.and_eq_true, List.isPrefixOf_iff_prefix, decide_eq_true_eq, not_and]
    intro hp hlen
    have hne : m ≠ l := by
      rintro rfl
      omega
    have hm : m ≠ [] := by
      rintro rfl
      simp at hlen
    have hnone := h m hp hne
    rw [ entry?, if_neg hm, Std.ExtTreeMap.mem_toList_iff_getElem?_eq_some.1 hmem] at hnone
    simp at hnone

/-! ## Raised directories -/

/-- **A tree `u` with directories at given paths on top of those of `t`**, each in a directory that was
there before it, the latest first. -/
def Raised (t : FileTree) : List Path → FileTree → Prop
  | [], u => t.SameDirs u
  | p :: ps, u => ∃ v, t.Raised ps v ∧ ¬ v.DirAt (p.place t.workdir) ∧
      v.DirAt (p.place t.workdir).dropLast ∧ u.workdir = t.workdir ∧
      (∀ m, u.DirAt m ↔ m = p.place t.workdir ∨ v.DirAt m) ∧ u.Reaches p ∧ NamesEntry p

namespace Raised

/-- Raised directories are seen in any tree with the same directories. -/
lemma sameDirs (h : t.Raised ps u) (hs : u.SameDirs v) : t.Raised ps v := by
  cases ps with
  | nil => exact h.trans hs
  | cons p ps =>
    obtain ⟨w, hw, hnew, hin, hwork, hdirs, hreach, hname⟩ := h
    refine ⟨w, hw, hnew, hin, hs.workdir.trans hwork, fun m => ?_, hs.reaches_iff.2 hreach, hname⟩
    rw [hs.dirAt, hdirs]

/-- Raising directories keeps those that were there. -/
lemma within (h : t.Raised ps u) : t.Within u := by
  induction ps generalizing u with
  | nil => exact SameDirs.within h
  | cons p ps ih =>
    obtain ⟨v, hv, -, -, hwork, hdirs, -⟩ := h
    exact ⟨hwork, fun m hm => (hdirs m).2 (.inr ((ih hv).dirAt m hm))⟩

/-- The raised directories are there. -/
lemma dirAt (h : t.Raised ps u) (hp : p ∈ ps) : u.DirAt (p.place t.workdir) := by
  induction ps generalizing u with
  | nil => simp at hp
  | cons q ps ih =>
    obtain ⟨v, hv, -, -, -, hdirs, -⟩ := h
    rcases List.mem_cons.1 hp with rfl | hp
    · exact (hdirs _).2 (.inl rfl)
    · exact (hdirs _).2 (.inr (ih hv hp))

/-- Directories lie in directories after some were raised. -/
lemma closed (h : t.Raised ps u) (hc : t.Closed) : u.Closed := by
  induction ps generalizing u with
  | nil => exact fun l name hd => (SameDirs.dirAt h l).2 (hc l name ((SameDirs.dirAt h _).1 hd))
  | cons p ps ih =>
    obtain ⟨v, hv, -, hin, -, hdirs, -⟩ := h
    intro l name hd
    rcases (hdirs _).1 hd with heq | hd
    · refine (hdirs l).2 (.inr ?_)
      rwa [← heq, List.dropLast_concat] at hin
    · exact (hdirs l).2 (.inr (ih hv l name hd))

/-- Directories may be raised on top of raised ones. -/
lemma append (h : t.Raised ps u) (h' : u.Raised qs v) : t.Raised (qs ++ ps) v := by
  induction qs generalizing v with
  | nil => exact h.sameDirs h'
  | cons q qs ih =>
    obtain ⟨w, hw, hnew, hin, hwork, hdirs, hreach, hname⟩ := h'
    have hwd := h.within.workdir
    rw [hwd] at hnew hin hwork
    refine ⟨w, ih hw, hnew, hin, hwork, fun m => ?_, hreach, hname⟩
    rw [hdirs, hwd]

end Raised

/-! ## Making what is missing -/

/-- **The paths at which nothing stands**, from a path upwards. -/
def missing (t : FileTree) (p : Path) : List Path :=
  p.ancestors.takeWhile fun dir => !dir.text.isEmpty && !t.pathExists dir

/-- **The missing directories have names**: from a path upwards, those that are no directory do not end
in `..`. -/
def GoesDown (t : FileTree) (p : Path) : Prop :=
  ∀ dir ∈ p.ancestors.takeWhile (fun dir => !dir.text.isEmpty && !t.isDir dir),
    dir.fileName? ≠ none

instance (t : FileTree) (p : Path) : Decidable (t.GoesDown p) :=
  inferInstanceAs (Decidable (∀ _ ∈ _, _))

/-- A list is longer up to where a weaker condition fails. -/
lemma mem_takeWhile_imp {α : Type} {f g : α → Bool} (h : ∀ a, f a = true → g a = true)
    {xs : List α} {a : α} (ha : a ∈ xs.takeWhile f) : a ∈ xs.takeWhile g := by
  induction xs with
  | nil => simp at ha
  | cons x xs ih =>
    rw [List.takeWhile_cons] at ha ⊢
    split at ha
    · next hx =>
      rw [if_pos (h x hx)]
      rcases List.mem_cons.1 ha with rfl | ha
      · simp
      · exact List.mem_cons_of_mem _ (ih ha)
    · simp at ha

/-- More directories leave less that is no directory. -/
lemma mem_takeWhile_of_within (hw : t.Within u) {dir : Path}
    (h : dir ∈ ps.takeWhile fun dir => !dir.text.isEmpty && !u.isDir dir) :
    dir ∈ ps.takeWhile fun dir => !dir.text.isEmpty && !t.isDir dir := by
  refine mem_takeWhile_imp (fun d hd => ?_) h
  simp only [Bool.and_eq_true, Bool.not_eq_true'] at hd ⊢
  refine ⟨hd.1, ?_⟩
  by_contra hex
  obtain ⟨l, hl, hdir⟩ := isDir_iff.1 (by simpa using hex)
  have := isDir_iff.2 ⟨l, locate_mono hw hl, hw.dirAt l hdir⟩
  rw [hd.2] at this
  exact absurd this (by simp)

/-- Missing directories that have names have them when there are more directories. -/
lemma GoesDown.mono (h : t.GoesDown p) (hw : t.Within u) : u.GoesDown p :=
  fun dir hdir => h dir (mem_takeWhile_of_within hw hdir)

/-- A directory that a path leads to is something that it leads to. -/
lemma pathExists_of_isDir (h : t.isDir p = true) : t.pathExists p = true := by
  obtain ⟨l, hl, hd⟩ := isDir_iff.1 h
  exact pathExists_iff.2 ⟨l, hl, by rw [show t.entry? l = _ from hd]; simp⟩

/-- A directory that is there is made without a change. -/
lemma makeDirs_of_isDir (ht : p.Trimmed) (hne : p.text.isEmpty = false) (hd : t.isDir p = true) :
    t.makeDirs p = (.ok (), t) := by
  obtain ⟨l, hl, hdir⟩ := isDir_iff.1 hd
  have he : t.entry? l = some .directory := hdir
  have hmake : t.makeDir p = .error .alreadyExists := by
    simp [makeDir, ht.directoryName, hl, he, bind, Except.bind]
  simp [makeDirs, Path.ancestors, makeChain, hne, hmake, hd]

/-- **Making a directory that is not there**: it is made in its parent, or the parent was missing and is
made first.

**Proof sketch.** By what the first attempt says. Only a missing parent leads on, and then the chain for
the parent runs before the second attempt. -/
lemma makeDirs_ok_cases (hq : p.parent? = some q) (hne : p.text.isEmpty = false)
    (hd : t.isDir p = false) (h : t.makeDirs p = (.ok (), u)) :
    t.makeDir p = .ok u ∨ t.makeDir p = .error .notFound ∧
      ∃ v, t.makeDirs q = (.ok (), v) ∧ (v.makeDir p = .ok u ∨ v = u ∧ v.isDir p = true) := by
  rw [makeDirs, Path.ancestors_of_parent? hq, makeChain] at h
  simp only [hne, Bool.false_eq_true, if_false] at h
  rcases hm : t.makeDir p with cause | made
  · by_cases hcause : cause = .notFound
    · subst hcause
      refine .inr ⟨rfl, ?_⟩
      rcases hc : t.makeDirs q with ⟨cause | done, v⟩
      · rw [makeDirs] at hc
        simp [hm, hc] at h
      · refine ⟨v, rfl, ?_⟩
        rw [makeDirs] at hc
        rcases hv : v.makeDir p with cause | made
        · simp only [hm, hc, hv] at h
          split at h
          · next hdir => exact .inr ⟨by simpa using h, hdir⟩
          · simp at h
        · simp only [hm, hc, hv, Prod.mk.injEq, true_and] at h
          exact .inl (by rw [h])
    · exfalso
      cases cause <;> simp_all
  · simp only [hm, Prod.mk.injEq, true_and] at h
    exact .inl (by rw [h])

/-- A path that is no directory is a child, and what is no directory from there upwards comes from its
parent upwards. -/
lemma exists_child (ht : p.Trimmed) (hdown : t.GoesDown p) (hne : p.text.isEmpty = false)
    (hd : t.isDir p = false) :
    ∃ name q, p.fileName? = some name ∧ p.parent? = some q ∧ Path.Child q name p ∧
      p.ancestors.takeWhile (fun dir => !dir.text.isEmpty && !t.isDir dir) =
        p :: q.ancestors.takeWhile fun dir => !dir.text.isEmpty && !t.isDir dir := by
  have hmem : p ∈ p.ancestors.takeWhile fun dir => !dir.text.isEmpty && !t.isDir dir := by
    rw [Path.ancestors, List.takeWhile_cons_of_pos (by simp [hne, hd])]
    simp
  obtain ⟨name, hname⟩ := Option.ne_none_iff_exists'.1 (hdown p hmem)
  obtain ⟨q, hq⟩ := Path.exists_parent? ht hname
  refine ⟨name, q, hname, hq, Path.child_of_parent? ht hq hname, ?_⟩
  rw [Path.ancestors_of_parent? hq, List.takeWhile_cons_of_pos (by simp [hne, hd])]

/-- The parent of a path is shorter. -/
lemma length_parent?_lt (hq : p.parent? = some q) :
    q.text.toList.length < p.text.toList.length := by
  obtain ⟨up, hup, rfl⟩ := Option.map_eq_some_iff.1 hq
  have hlt := Path.length_parentRev?_lt hup
  simpa [Path.ofRev] using hlt

/-- **What making directories leads to**: the missing ones are raised; a path that led nowhere led to no
place where a directory is; and no new directory lies deeper than the path. -/
structure Made (t u : FileTree) (p : Path) : Prop where
  raised : t.Raised (t.missing p) u
  fresh : p.text.isEmpty = false → t.pathExists p = false → ¬ t.DirAt (p.place t.workdir)
  shallow : ∀ m, u.DirAt m → t.DirAt m ∨ m.length ≤ (p.place t.workdir).length
  there : p.text.isEmpty = true ∨ u.isDir p = true

/-- Nothing is made where nothing is missing. -/
lemma Made.refl (h : p.text.isEmpty = true ∨ t.isDir p = true) : Made t t p := by
  have hex := h.imp_right pathExists_of_isDir
  have hmissing : t.missing p = [] := by
    rw [missing, Path.ancestors, List.takeWhile_cons_of_neg]
    rcases hex with h | h <;> simp [h]
  refine ⟨by rw [hmissing]; exact .refl t, fun h₀ h₁ => ?_, fun m hm => .inl hm, h⟩
  rcases hex with h | h
  · rw [h] at h₀
    exact absurd h₀ (by simp)
  · rw [h] at h₁
    exact absurd h₁ (by simp)

/-- Where no directory could be made because something was missing, nothing stood. -/
lemma pathExists_of_makeDir_notFound (ht : p.Trimmed) (h : t.makeDir p = .error .notFound) :
    t.pathExists p = false := by
  by_contra hex
  obtain ⟨l, hl, he⟩ := pathExists_iff.1 (by simpa using hex)
  obtain ⟨e, he⟩ := Option.ne_none_iff_exists'.1 he
  simp [makeDir, ht.directoryName, hl, he, bind, Except.bind] at h

/-- Where a directory could be made nothing stood, and the parent was there. -/
lemma pathExists_of_makeDir (hc : Path.Child q name p) (ht : p.Trimmed)
    (h : t.makeDir p = .ok u) :
    t.pathExists p = false ∧ (q.text.isEmpty = true ∨ t.pathExists q = true) := by
  obtain ⟨l, hl, hfree, -⟩ := makeDir_eq_ok_iff.1 h
  rw [ht.directoryName] at hl
  constructor
  · by_contra hex
    obtain ⟨l', hl', he⟩ := pathExists_iff.1 (by simpa using hex)
    obtain rfl : l = l' := by simpa [hl] using hl'
    exact he hfree
  · obtain ⟨husable, hwalks⟩ := reaches_iff_walks.1 (Reaches.of_locate hl)
    obtain ⟨hq, hdir, -⟩ := (Child.walks_iff hc).1 hwalks
    rcases Bool.eq_false_or_eq_true q.text.isEmpty with hempty | hempty
    · exact .inl hempty
    · refine .inr (pathExists_iff.2 ⟨_, reaches_iff_walks.2 ⟨hc.usable husable hempty, hq⟩, ?_⟩)
      rw [show t.entry? _ = _ from hdir]
      simp

/-- A child is reached when its parent is there, if only its name is not too long. -/
lemma reaches_of_parent (hc : Path.Child q name p) (hu : p.Usable)
    (hq : q.text.isEmpty = true ∨ t.pathExists q = true) (hd : t.DirAt (q.place t.workdir))
    (hn : name.utf8ByteSize ≤ 255) : t.Reaches p := by
  refine reaches_iff_walks.2 ⟨hu, (Child.walks_iff hc).2 ⟨?_, hd, hn⟩⟩
  rcases hq with hq | hq
  · refine walks_of_isEmpty hq ?_
    obtain rfl : q = ⟨""⟩ := by
      cases q
      simpa using hq
    simpa [Path.place, Path.segments, Path.isAbsolute, Location.along] using hd
  · obtain ⟨l, hl, -⟩ := pathExists_iff.1 hq
    exact (reaches_iff_walks.1 (Reaches.of_locate hl)).2

/-- A path whose place is a directory was there before the directory was made. -/
lemma Made.exists_of_dirAt (h : Made t u p) (hd : t.DirAt (p.place t.workdir)) :
    p.text.isEmpty = true ∨ t.pathExists p = true := by
  by_contra hp
  simp only [not_or, Bool.not_eq_true] at hp
  exact h.fresh hp.1 hp.2 hd

/-- A child was there before its parent was made, if something stood at its place. -/
lemma Made.pathExists_child (h : Made t u q) (hc : Path.Child q name p) (hu : p.Usable)
    (hn : name.utf8ByteSize ≤ 255) (hd : t.DirAt (q.place t.workdir))
    (he : t.entry? (p.place t.workdir) ≠ none) : t.pathExists p = true :=
  pathExists_iff.2 ⟨_, reaches_of_parent hc hu (h.exists_of_dirAt hd) hd hn, he⟩

/-- **A directory does not come to be there by making its parent**: what is made then lies less deep. -/
lemma Made.isDir_child (h : Made t u q) (hclosed : t.Closed) (hc : Path.Child q name p)
    (hp : t.pathExists p = false) : u.isDir p = false := by
  rw [← Bool.not_eq_true]
  intro hdir
  obtain ⟨l, hl, hd⟩ := isDir_iff.1 hdir
  obtain ⟨hreach, rfl⟩ := locate_eq_ok_iff.1 hl
  rw [h.raised.within.workdir] at hd
  obtain ⟨husable, hwalks⟩ := reaches_iff_walks.1 hreach
  obtain ⟨-, -, hsize⟩ := (Child.walks_iff hc).1 hwalks
  rcases h.shallow _ hd with hold | hle
  · have hparent : t.DirAt (q.place t.workdir) := hclosed _ name (by rwa [← hc.place])
    have hthere := h.pathExists_child hc husable hsize hparent
      (by rw [show t.entry? _ = _ from hold]; simp)
    simp [hp] at hthere
  · rw [hc.place, List.length_append] at hle
    simp at hle

/-- A path at which a directory is made leads nowhere before, and one step further than its parent.

**Proof sketch.** The directory is put where the path leads and nothing stood. So the directories are
those of before and this one, and the path reaches it, since its parent was there. -/
lemma Made.of_makeDir (hc : Path.Child q name p) (ht : p.Trimmed) (hv : t.Raised ps v)
    (hmake : v.makeDir p = .ok u) :
    t.Raised (p :: ps) u ∧ ¬ t.DirAt (p.place t.workdir) ∧
      (∀ m, u.DirAt m ↔ m = p.place t.workdir ∨ v.DirAt m) ∧ u.isDir p = true := by
  obtain ⟨l, hl, hfree, rfl⟩ := makeDir_eq_ok_iff.1 hmake
  rw [ht.directoryName] at hl
  obtain ⟨hreach, hplace⟩ := locate_eq_ok_iff.1 hl
  have hwork := hv.within.workdir
  rw [hwork] at hplace
  have hnot : ¬ v.DirAt l := not_dirAt_of_entry?_none hfree
  have hne : l ≠ [] := ne_nil_of_not_dirAt hnot
  have hdirs : ∀ m, (v.put l .directory).DirAt m ↔ m = p.place t.workdir ∨ v.DirAt m := by
    intro m
    rw [dirAt_put_directory hne, hplace]
  have hparent : v.DirAt (p.place t.workdir).dropLast := by
    have := ((Child.walks_iff hc).1 (reaches_iff_walks.1 hreach).2).2.1
    rwa [hc.place, List.dropLast_concat, ← hwork]
  have hreach' : (v.put l .directory).Reaches p :=
    hreach.mono ⟨rfl, fun m hm => (hdirs m).2 (.inr hm)⟩
  refine ⟨⟨v, hv, by rwa [← hplace], hparent, hwork, hdirs, hreach', ?_⟩, ?_, hdirs,
    isDir_iff.2 ⟨_, hreach', (hdirs _).2 (.inl (by rw [workdir_put, hwork]))⟩⟩
  · rw [NamesEntry, ht.directoryName, hc.last]
    obtain ⟨-, h₁, h₂⟩ := hc.plain
    simp [h₁, h₂]
  · intro hd
    exact hnot (hplace ▸ hv.within.dirAt _ hd)

/-- **Making directories raises the missing ones.**

**Proof sketch.** Induction on the length of the path. A directory that is there is not made. One that
is not there has a name; it is made in its parent, which is there then, or the parent is made first. It
cannot come to be there by making the parent: what is made then lies less deep. -/
lemma made_makeDirs (hc : t.Closed) (ht : p.Trimmed) (hdown : t.GoesDown p)
    (h : t.makeDirs p = (.ok (), u)) : Made t u p := by
  induction hn : p.text.toList.length using Nat.strong_induction_on generalizing p u with
  | _ n ih =>
    by_cases hempty : p.text.isEmpty = true
    · obtain rfl : t = u := by simpa [makeDirs, Path.ancestors, makeChain, hempty] using h
      exact .refl (.inl hempty)
    by_cases hdir : t.isDir p = true
    · obtain rfl : t = u := by simpa [makeDirs_of_isDir ht (by simpa using hempty) hdir] using h
      exact .refl (.inr hdir)
    rw [Bool.not_eq_true] at hempty hdir
    obtain ⟨name, q, hname, hq, hchild, hlist⟩ := exists_child ht hdown hempty hdir
    have hdownq : t.GoesDown q := fun d hd => hdown d (by simp [hlist, hd])
    rcases makeDirs_ok_cases hq hempty hdir h with hmake | ⟨hnot, v, hv, hmake | ⟨rfl, hdir'⟩⟩
    · -- the directory is made in its parent, which is there
      obtain ⟨hp, hqx⟩ := pathExists_of_makeDir hchild ht hmake
      have hmissing : t.missing p = [p] := by
        rw [missing, Path.ancestors_of_parent? hq, List.takeWhile_cons_of_pos (by simp [hempty, hp]),
          Path.ancestors, List.takeWhile_cons_of_neg]
        rcases hqx with hqx | hqx <;> simp [hqx]
      obtain ⟨hraised, hfresh, hdirs, hthere⟩ :=
        Made.of_makeDir hchild ht (v := t) (show t.Raised [] t from .refl t) hmake
      refine ⟨hmissing ▸ hraised, fun _ _ => hfresh, fun m hm => ?_, .inr hthere⟩
      exact ((hdirs m).1 hm).symm.imp_right fun heq => by rw [heq]
    all_goals
      have hp := pathExists_of_makeDir_notFound ht hnot
      have hmade := ih _ (hn ▸ length_parent?_lt hq) (Path.trimmed_of_parent? hq) hdownq hv rfl
    · -- the parent was missing, and the directory is made in it
      have hmissing : t.missing p = p :: t.missing q := by
        rw [missing, Path.ancestors_of_parent? hq,
          List.takeWhile_cons_of_pos (by simp [hempty, hp])]
        rfl
      obtain ⟨hraised, hfresh, hdirs, hthere⟩ := Made.of_makeDir hchild ht hmade.raised hmake
      refine ⟨hmissing ▸ hraised, fun _ _ => hfresh, fun m hm => ?_, .inr hthere⟩
      rcases (hdirs m).1 hm with heq | hm
      · exact .inr (by rw [heq])
      · refine (hmade.shallow m hm).imp_right fun hle => hle.trans ?_
        rw [hchild.place, List.length_append]
        omega
    · -- the directory cannot be there once its parent was made
      rw [hmade.isDir_child hc hchild hp] at hdir'
      simp at hdir'

/-! ## Stopping half way -/

/-- A path at which something is missing on the way is usable. -/
lemma usable_of_locate_notFound (hne : p.text.isEmpty = false)
    (h : t.locate p = .error .notFound) : p.Usable := by
  unfold locate at h
  simp only [hne, Bool.false_eq_true, if_false] at h
  split at h
  · simp at h
  · next hnul =>
    split at h
    · simp at h
    · next hlong => exact ⟨hne, by simpa using hnul, by omega⟩

/-- A path at which no directory could be made because something was missing is usable. -/
lemma usable_of_makeDir_notFound (ht : p.Trimmed) (hne : p.text.isEmpty = false)
    (h : t.makeDir p = .error .notFound) : p.Usable := by
  refine usable_of_locate_notFound (t := t) hne ?_
  unfold makeDir at h
  rw [ht.directoryName] at h
  rcases hl : t.locate p with cause | l
  · simpa [hl, bind, Except.bind] using h
  · rcases he : t.entry? l with _ | e <;> simp [hl, he, bind, Except.bind] at h

/-- **A directory with a short name can be made once its parent was made**: no file stands at its place, because
nothing stood in a place that was no directory.

**Proof sketch.** The parent is there, so the path leads on to its name, which is short. If a file stood
there, it stood there before the parent was made, and then the path was there. -/
lemma Made.exists_makeDir (h : Made t u q) (hwf : t.WellFormed) (hc : Path.Child q name p)
    (ht : p.Trimmed) (hu : p.Usable) (hn : name.utf8ByteSize ≤ 255) (hp : t.pathExists p = false)
    (hsame : ∀ m, u.file? m = t.file? m) (hq : u.isDir q = true) (hd : u.isDir p = false) :
    ∃ made, u.makeDir p = .ok made := by
  obtain ⟨l, hl, hdir⟩ := isDir_iff.1 hq
  obtain ⟨-, rfl⟩ := locate_eq_ok_iff.1 hl
  have hreach : u.Reaches p := reaches_of_parent hc hu (.inr (pathExists_of_isDir hq)) hdir hn
  rcases he : u.entry? (p.place u.workdir) with _ | _ | ⟨mode, content⟩
  · exact ⟨_, makeDir_eq_ok_iff.2 ⟨_, by rw [ht.directoryName]; exact hreach, he, rfl⟩⟩
  · rw [isDir_iff.2 ⟨_, hreach, he⟩] at hd
    simp at hd
  · exfalso
    have hfile := file?_eq_some_iff.2 he
    rw [h.raised.within.workdir, hsame] at hfile
    have hold : t.entry? (p.place t.workdir) ≠ none := by
      rw [file?_eq_some_iff.1 hfile]
      simp
    have hparent : t.DirAt (q.place t.workdir) := hwf _ name (by rwa [← hc.place])
    simp [h.pathExists_child hc hu hn hparent hold] at hp

/-- **Not making a directory that is not there**: nothing was made, the parent could not be made, or the
parent was made and the directory could not. -/
lemma makeDirs_error_cases {cause : Fault} (hq : p.parent? = some q)
    (hne : p.text.isEmpty = false) (h : t.makeDirs p = (.error cause, u)) :
    u = t ∨ t.makeDir p = .error .notFound ∧
      (t.makeDirs q = (.error cause, u) ∨
        t.makeDirs q = (.ok (), u) ∧ (∃ fault, u.makeDir p = .error fault) ∧ u.isDir p = false) := by
  rw [makeDirs, Path.ancestors_of_parent? hq, makeChain] at h
  simp only [hne, Bool.false_eq_true, if_false] at h
  rcases hm : t.makeDir p with fault | made
  · by_cases hfault : fault = .notFound
    · subst hfault
      refine .inr ⟨rfl, ?_⟩
      rcases hc : t.makeDirs q with ⟨fault | done, v⟩
      · rw [makeDirs] at hc
        exact .inl (by simpa [hm, hc] using h)
      · refine .inr ?_
        rw [makeDirs] at hc
        rcases hv : v.makeDir p with fault | made
        · simp only [hm, hc, hv] at h
          split at h
          · simp at h
          · next hdir =>
            obtain ⟨-, rfl⟩ : fault = cause ∧ v = u := by simpa using h
            exact ⟨rfl, ⟨fault, hv⟩, by simpa using hdir⟩
        · simp [hm, hc, hv] at h
    · refine .inl ?_
      have hstop : (if t.isDir p = true then ((.ok (), t) : Except Fault Unit × FileTree)
          else (.error fault, t)) = (.error cause, u) := by
        cases fault <;> simp_all
      split at hstop
      · simp at hstop
      · simpa using (Prod.mk.inj hstop).2.symm
  · simp [hm] at h

/-- **The missing directories have short names**: from a path upwards, those that are no directory. -/
def ShortNames (t : FileTree) (p : Path) : Prop :=
  ∀ dir ∈ p.ancestors.takeWhile (fun dir => !dir.text.isEmpty && !t.isDir dir),
    ∀ name, dir.fileName? = some name → name.utf8ByteSize ≤ 255

/-- Short names stay short when there are more directories. -/
lemma ShortNames.mono (h : t.ShortNames p) (hw : t.Within u) : u.ShortNames p :=
  fun dir hdir => h dir (mem_takeWhile_of_within hw hdir)

/-- **Making directories with short names makes all or none.**

**Proof sketch.** Induction on the length of the path. Once the parent of a path was made, a directory
with a short name can be made in it. -/
lemma sameDirs_makeDirs_error {cause : Fault} (hwf : t.WellFormed) (ht : p.Trimmed)
    (hdown : t.GoesDown p) (hshort : t.ShortNames p) (h : t.makeDirs p = (.error cause, u)) :
    t.SameDirs u := by
  induction hn : p.text.toList.length using Nat.strong_induction_on generalizing p u with
  | _ n ih =>
    by_cases hempty : p.text.isEmpty = true
    · simp [makeDirs, Path.ancestors, makeChain, hempty] at h
    by_cases hdir : t.isDir p = true
    · simp [makeDirs_of_isDir ht (by simpa using hempty) hdir] at h
    rw [Bool.not_eq_true] at hempty hdir
    obtain ⟨name, q, hname, hq, hchild, hlist⟩ := exists_child ht hdown hempty hdir
    have hdownq : t.GoesDown q := fun d hd => hdown d (by simp [hlist, hd])
    have hshortq : t.ShortNames q := fun d hd => hshort d (by simp [hlist, hd])
    have hsize : name.utf8ByteSize ≤ 255 := hshort p (by simp [hlist]) name hname
    rcases makeDirs_error_cases hq hempty h with rfl | ⟨hnot, hup | ⟨hup, ⟨fault, hfault⟩, hdir'⟩⟩
    · exact .refl _
    · exact ih _ (hn ▸ length_parent?_lt hq) (Path.trimmed_of_parent? hq) hdownq hshortq hup rfl
    have hmade := made_makeDirs hwf.closed (Path.trimmed_of_parent? hq) hdownq hup
    rcases hmade.there with hqempty | hqdir
    · obtain rfl : t = u := by simpa [makeDirs, Path.ancestors, makeChain, hqempty] using hup
      exact .refl _
    · -- the parent is there, so nothing is in the way of the directory
      exfalso
      have hgrown := grownAlong_makeDirs t q
      rw [hup] at hgrown
      obtain ⟨made, hmake⟩ := hmade.exists_makeDir hwf hchild ht
        (usable_of_makeDir_notFound ht hempty hnot) hsize (pathExists_of_makeDir_notFound ht hnot)
        hgrown.file? hqdir hdir'
      simp [hmake] at hfault

end UaHeaders.FileTree
