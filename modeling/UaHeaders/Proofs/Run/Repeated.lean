import UaHeaders.Proofs.Run.Reordered

/-!
# Staging headers more than once

A header that can be staged can be staged again, as long as there are names for the temporary files and none of
these files stands where a directory above the header is missing. Such a file would not only hide the header: it
would be an error to look behind it.

## Main results

* `UaHeaders.FileTree.locate_notFound_of_clear` — what is missing is missing while no file comes in its way.
* `UaHeaders.Transaction.StagesTo.known` — what is known of headers that were staged.
* `UaHeaders.exists_stageAll_of_mem` — the headers of a run, however often.
-/

set_option autoImplicit false

namespace UaHeaders

open FileTree Transaction FormatterCommand

variable {t u v : FileTree} {l : Location} {p dir temp : Path} {programs : Programs}
  {result : ByteArray → Except Fault Finished × ByteArray} {formatter : Option FormatterCommand}
  {tx tx' : Transaction} {config : RunConfig} {content : ByteArray} {held : Option String}
  {item : Path × String} {texts texts' : List (Path × String)}

namespace FileTree

/-! ## What is missing -/

/-- **What is missing stays missing** while no file comes to a free place on the way.

**Proof sketch.** Induction on the length of the path. Its parent is missing too, or it leads to a place at
which nothing stands, and then nothing does afterwards. -/
lemma locate_notFound_of_clear (hs : t.SameDirs u) (hwork : t.DirAt t.workdir) (ht : p.Trimmed)
    (hclear : ∀ dir ∈ p.ancestors.tail, ∀ l, t.locate dir = .ok l → t.entry? l = none →
      u.file? l = none)
    (hne : p.text.isEmpty = false) (h : t.locate p = .error .notFound) :
    u.locate p = .error .notFound := by
  induction hn : p.text.toList.length using Nat.strong_induction_on generalizing p with
  | _ n ih =>
    have husable := usable_of_locate_notFound hne h
    rcases hq : p.parent? with _ | q
    · -- the root is always there
      obtain rfl := Path.eq_root_of_parent?_none ht hne hq
      obtain ⟨l, hl, -⟩ := isDir_iff.1 t.isDir_root
      simp [hl] at h
    obtain ⟨c, hon⟩ := Path.onward_of_parent? ht hq
    rw [Onward.locate_eq_notFound_iff hon husable] at h ⊢
    rcases Bool.eq_false_or_eq_true q.text.isEmpty with hempty | hneq
    · -- the working directory is there
      rw [walks_of_isEmpty hempty hwork, Path.place_stay (.inl hempty)] at h
      simp [show t.entry? t.workdir = some .directory from hwork] at h
    have hmem : q ∈ p.ancestors.tail := by
      rw [Path.ancestors_of_parent? hq]
      exact List.mem_cons_self
    rw [← locate_of_usable (hon.usable husable hneq)] at h ⊢
    rcases h with hmissing | ⟨l, hl, hnone⟩
    · refine .inl (ih _ (hn ▸ length_parent?_lt hq) (Path.trimmed_of_parent? hq) (fun dir hdir => ?_)
        hneq hmissing rfl)
      refine hclear dir ?_
      rw [Path.ancestors_of_parent? hq]
      exact List.mem_cons_of_mem _ hdir
    · refine .inr ⟨l, locate_mono hs.within hl, entry?_eq_none_iff.2 ⟨hclear q hmem l hl hnone, ?_⟩⟩
      rw [hs.dirAt]
      exact not_dirAt_of_entry?_none hnone

/-- **What a target holds it holds** among files that stand neither at its place nor at a free place on its
way. -/
lemma Holds.of_clear (h : t.Holds p held) (hs : t.SameDirs u) (hwork : t.DirAt t.workdir)
    (ht : p.Trimmed) (hne : p.text.isEmpty = false)
    (hclear : ∀ dir ∈ p.ancestors.tail, ∀ l, t.locate dir = .ok l → t.entry? l = none →
      u.file? l = none)
    (hfile : u.file? (p.place t.workdir) = t.file? (p.place t.workdir)) : u.Holds p held := by
  obtain ⟨-, ⟨l, hl⟩ | hmissing⟩ := h.locate_cases hne
  · refine h.congr ((locate_mono hs.within hl).trans hl.symm) fun m hm => ?_
    rw [eq_place_of_locate hm]
    exact entry?_congr hfile (hs.dirAt _)
  · refine h.congr ?_ (by simp [hmissing])
    rw [locate_notFound_of_clear hs hwork ht hclear hne hmissing, hmissing]

end FileTree

namespace Transaction

/-! ## Headers that were staged -/

/-- **What is known of a header that was staged**: its text is accepted, and what it holds can be read. -/
structure Known (formatter : Option FormatterCommand)
    (result : ByteArray → Except Fault Finished × ByteArray) (t : FileTree) (item : Path × String) :
    Prop where
  accepted : Accepts formatter result item.2.toUTF8
  left : ∃ after : String, formatted formatter result item.2.toUTF8 = after.toUTF8
  held : ∃ held, t.Holds item.1 held

/-- What is known of headers that were staged. -/
lemma StagesTo.known (h : StagesTo formatter result t texts u) (hrun : OfRun config texts) :
    ∀ item ∈ texts, Known formatter result t item := by
  induction h with
  | nil => simp
  | @cons t v u item l texts hstage _ ih =>
    obtain ⟨temp, content, hv⟩ := hstage.tempAt
    have hback : ∀ other ∈ item :: texts, (∃ held, v.Holds other.1 held) → ∃ held, t.Holds other.1 held :=
      fun other hother ⟨held, hheld⟩ =>
        ⟨held, (Sparser.of_tempAt hv).holds (hrun.not_stagedAt hother t.workdir) hheld⟩
    refine List.forall_mem_cons.2 ⟨⟨hstage.accepted, hstage.left,
      hback item List.mem_cons_self hstage.held⟩, fun other hother => ?_⟩
    have hother' := ih (fun item hitem => hrun item (List.mem_cons_of_mem _ hitem)) other hother
    exact ⟨hother'.accepted, hother'.left, hback other (List.mem_cons_of_mem _ hother) hother'.held⟩

/-- **No temporary file comes to where a directory above the headers is missing.** -/
def Unhidden (t : FileTree) (texts : List (Path × String)) : Prop :=
  ∀ item ∈ texts, ∀ dir ∈ item.1.ancestors.tail, t.pathExists dir = false →
    ¬ StagedAt (dir.place t.workdir)

/-- One more temporary file makes no difference to that. -/
lemma Unhidden.tempAt (h : Unhidden t texts) (htemp : TempAt t u temp l content) : Unhidden u texts := by
  intro item hitem dir hdir hx
  rw [htemp.sameDirs.workdir]
  refine h item hitem dir hdir ?_
  rw [← Bool.not_eq_true] at hx ⊢
  intro hx'
  obtain ⟨m, hm, hthere⟩ := pathExists_iff.1 hx'
  refine hx (pathExists_iff.2 ⟨m, locate_mono htemp.sameDirs.within hm, ?_⟩)
  exact (htemp.entry?_ne_none_iff m).2 (.inr hthere)

/-- What is known of a header is known among temporary files.

**Proof sketch.** A temporary file stands nowhere above a target, unless where a path leads to something
already. So the way to the target is as it was, and so is what stands there. -/
lemma Known.tempAt (h : Known formatter result t item) (hrun : OfRun config texts)
    (hmem : item ∈ texts) (hwork : t.DirAt t.workdir) (hunhidden : Unhidden t texts)
    (htemp : TempAt t u temp l content) : Known formatter result u item := by
  obtain ⟨held, hheld⟩ := h.held
  obtain ⟨target, htarget⟩ := hrun item hmem
  refine ⟨h.accepted, h.left, held, ?_⟩
  have hnot := hrun.not_stagedAt hmem t.workdir
  have hclear : ∀ dir ∈ item.1.ancestors.tail, ∀ m, t.locate dir = .ok m → t.entry? m = none →
      u.file? m = none := by
    intro dir hdir m hm hnone
    have hx : t.pathExists dir = false := by
      rw [← Bool.not_eq_true, pathExists_iff]
      rintro ⟨m', hm', hthere⟩
      obtain rfl : m = m' := by simpa [hm] using hm'
      exact hthere hnone
    have hfree := hunhidden item hmem dir hdir hx
    rw [← eq_place_of_locate hm] at hfree
    rw [htemp.file?, if_neg, file?_of_entry?_none hnone]
    rintro rfl
    exact hfree htemp.named
  have hplace : u.file? (item.1.place t.workdir) = t.file? (item.1.place t.workdir) := by
    rw [htemp.file?, if_neg]
    rintro rfl
    exact hnot htemp.named
  rw [htarget] at hheld hclear hplace ⊢
  exact hheld.of_clear htemp.sameDirs hwork (trimmed_targetPath config target)
    (config.targetPath_nonempty target) hclear hplace

/-! ## Headers that are staged more than once -/

/-- **Headers are staged** where all is known of them, there is room for their temporary files and none of these
comes to where a directory is missing.

**Proof sketch.** Induction on what is to be staged, as where the headers are there: each stage takes up one
name beside each of the others at most. -/
lemma exists_stageAll_of_known (hf : ∀ command ∈ tx.formatter, command.Rewrites programs result)
    (hrun : OfRun config texts) (hwork : t.DirAt t.workdir) (hunhidden : Unhidden t texts)
    (hroom : ∀ item ∈ texts, t.RoomFor item.1 texts.length)
    (hknown : ∀ item ∈ texts, Known tx.formatter result t item) :
    ∃ tx' u, stageAll programs tx t texts = (.ok tx', u) := by
  induction texts generalizing tx t with
  | nil => exact ⟨tx, t, rfl⟩
  | cons item rest ih =>
    obtain ⟨hfirst, -⟩ := List.forall_mem_cons.1 hknown
    obtain ⟨path, made, hcreate⟩ := (hroom item List.mem_cons_self).exists_createTemp
    obtain ⟨above, l, hbeside, -, hfree⟩ :=
      firstFree_of_createTemp (by decide) (separator_notMem_tempEnding item.1) hcreate
    obtain ⟨tx', u, hstage⟩ := exists_stage_at hf ⟨above, hbeside, hfree⟩ hfirst.accepted hfirst.left
      fun temp content u htemp =>
        (hfirst.tempAt hrun List.mem_cons_self hwork hunhidden htemp).held
    obtain ⟨hformatter, l, hstages⟩ := stages_of_stage hf hstage
    obtain ⟨temp, content, htemp⟩ := hstages.tempAt
    rw [stageAll, hstage]
    refine ih (by rwa [hformatter]) (fun other hother => hrun other (List.mem_cons_of_mem _ hother)) ?_
      (fun other hother => hunhidden.tempAt htemp other (List.mem_cons_of_mem _ hother))
      (fun other hother => (hroom other (List.mem_cons_of_mem _ hother)).tempAt htemp)
      fun other hother => ?_
    · rw [htemp.sameDirs.workdir, htemp.sameDirs.dirAt]
      exact hwork
    · rw [hformatter]
      exact (hknown other (List.mem_cons_of_mem _ hother)).tempAt hrun (List.mem_cons_of_mem _ hother)
        hwork hunhidden htemp

end Transaction

/-- **Headers that were staged can be staged in any order and however often**, in a tree that is not larger than
there are temporary names, if none of the files comes to where a directory is missing. -/
lemma exists_stageAll_of_mem (hf : ∀ command ∈ tx.formatter, command.Rewrites programs result)
    (hrun : OfRun config texts) (hmem : ∀ item ∈ texts', item ∈ texts) (hg : t.Grounded)
    (hunhidden : Unhidden t texts') (hsize : t.entries.size + texts'.length ≤ 62 ^ 6)
    (h : stageAll programs tx t texts = (.ok tx', u)) :
    ∃ tx'' u', stageAll programs tx t texts' = (.ok tx'', u') := by
  have hrun' : OfRun config texts' := fun item hitem => hrun item (hmem item hitem)
  refine exists_stageAll_of_known hf hrun' hg.dirAt hunhidden (fun item hitem => ?_) fun item hitem =>
    (stagesTo_of_stageAll hf h).known hrun item (hmem item hitem)
  obtain ⟨target, htarget⟩ := hrun' item hitem
  have hcramped : ¬ t.Cramped item.1 := by
    intro hcramped
    obtain ⟨failure, hfailure⟩ : ∃ failure, (stageAll programs tx t texts).1 = .error failure :=
      exists_stageAll_error (fun command hc => (hf command hc).confined) (hmem item hitem) hcramped
    simp [h] at hfailure
  rw [htarget] at hcramped ⊢
  exact roomFor_of_not_cramped hg hcramped hsize

end UaHeaders
