import UaHeaders.Proofs.Files.FirstFree
import UaHeaders.Proofs.Files.Under
import UaHeaders.Proofs.Run.Root

/-!
# Staging in another order

Headers that can be staged one after another can be staged in any order. Temporary files then get other names,
but together they take the same places; what a target holds does not depend on which of them is whose.

## Main definitions

* `UaHeaders.Transaction.Sparser` — a tree has no more files than another one, but for temporary ones.
* `UaHeaders.Transaction.Resembles` — two trees differ in the contents of temporary files alone.
* `UaHeaders.Transaction.Stages` — a tree after one more header was staged at a given place.
* `UaHeaders.Transaction.StagesTo` — a tree after headers were staged in order.

## Main results

* `UaHeaders.RunConfig.holds_of_open` — the temporary file of one header does not hide the others.
* `UaHeaders.Transaction.Stages.swap` — two headers in either order.
* `UaHeaders.Transaction.StagesTo.perm` — headers in any order.
* `UaHeaders.exists_stageAll_of_subperm` — some of the headers, in any order, if all were staged.
-/

set_option autoImplicit false

namespace UaHeaders

open FileTree FormatterCommand

variable {t t' u v : FileTree} {l l' m : Location} {target temp : Path} {programs : Programs}
  {result : ByteArray → Except Fault Finished × ByteArray} {formatter : Option FormatterCommand}
  {tx tx' : Transaction} {text : String} {content : ByteArray} {config : RunConfig}
  {item other : Path × String} {texts texts' : List (Path × String)} {held held' : Option String}

namespace Transaction

/-! ## Trees that differ in temporary files -/

/-- **The tree `t` has no more files than `u`**, and at places without the name of a temporary file it has the
same. -/
structure Sparser (t u : FileTree) : Prop extends SameDirs t u where
  fewer : ∀ l, u.file? l = none → t.file? l = none
  file? : ∀ l, ¬ StagedAt l → u.file? l = t.file? l

namespace Sparser

/-- A tree has no more than itself. -/
lemma refl (t : FileTree) : Sparser t t := ⟨.refl t, fun _ h => h, fun _ _ => rfl⟩

/-- Having no more goes on from tree to tree. -/
lemma trans (h : Sparser t u) (h' : Sparser u v) : Sparser t v :=
  ⟨h.toSameDirs.trans h'.toSameDirs, fun l hl => h.fewer l (h'.fewer l hl),
    fun l hl => (h'.file? l hl).trans (h.file? l hl)⟩

/-- A tree without a temporary file has no more than one with it. -/
lemma of_tempAt (h : TempAt t u temp l content) : Sparser t u := by
  refine ⟨h.sameDirs, fun m hm => ?_, fun m hm => ?_⟩
  · rw [h.file?] at hm
    split_ifs at hm
    exact hm
  · rw [h.file?, if_neg]
    rintro rfl
    exact hm h.named

/-- A target holds in the tree with less what it holds in the one with more. -/
lemma holds (h : Sparser t u) (htarget : ¬ StagedAt (target.place t.workdir))
    (hheld : u.Holds target held) : t.Holds target held :=
  h.toSameDirs.holds_of_more h.fewer (h.file? _ htarget) hheld

end Sparser

/-- **Two trees differ in the contents of temporary files alone.** -/
def Resembles (t u : FileTree) : Prop := Sparser t u ∧ Sparser u t

namespace Resembles

/-- A tree resembles itself. -/
lemma refl (t : FileTree) : Resembles t t := ⟨.refl t, .refl t⟩

/-- Resembling goes both ways. -/
lemma symm (h : Resembles t u) : Resembles u t := ⟨h.2, h.1⟩

/-- Resembling goes on from tree to tree. -/
lemma trans (h : Resembles t u) (h' : Resembles u v) : Resembles t v :=
  ⟨h.1.trans h'.1, h'.2.trans h.2⟩

/-- The same places are taken. -/
lemma entry?_ne_none_iff (h : Resembles t u) (l : Location) :
    u.entry? l ≠ none ↔ t.entry? l ≠ none := by
  rw [not_iff_not, entry?_eq_none_iff, entry?_eq_none_iff, h.1.dirAt]
  exact and_congr_left fun _ => ⟨h.1.fewer l, h.2.fewer l⟩

end Resembles

/-! ## One more temporary file -/

/-- **A temporary file of a target would be made at a location**: at the first free place. -/
def Takes (t : FileTree) (target : Path) (l : Location) : Prop :=
  ∃ above, t.Beside (t.stagingDir target) stagedName (tempEnding target) above ∧
    FirstFree (fun k => t.entry? k ≠ none) above stagedName (tempEnding target) l

/-- **The tree `u` is `t` after a header was staged** in a temporary file at `l`: the formatter accepts its text
and leaves one, and what the target holds can be read. -/
structure Stages (formatter : Option FormatterCommand)
    (result : ByteArray → Except Fault Finished × ByteArray) (t : FileTree) (item : Path × String)
    (l : Location) (u : FileTree) : Prop where
  takes : Takes t item.1 l
  tempAt : ∃ temp content, TempAt t u temp l content
  held : ∃ held, u.Holds item.1 held
  accepted : Accepts formatter result item.2.toUTF8
  left : ∃ after : String, formatted formatter result item.2.toUTF8 = after.toUTF8

/-- A temporary file takes one place. -/
lemma Takes.unique (h : Takes t target l) (h' : Takes t target l') : l = l' := by
  obtain ⟨above, hbeside, hfirst⟩ := h
  obtain ⟨above', hbeside', hfirst'⟩ := h'
  have heq := Except.ok.inj (Eq.trans (Eq.symm hbeside) hbeside')
  obtain rfl := (List.append_inj' heq rfl).1
  exact hfirst.unique hfirst'

/-- Trees that resemble each other have the same place for the next temporary file. -/
lemma Takes.resembles (h : Takes t target l) (hs : Resembles t u) : Takes u target l := by
  obtain ⟨above, hbeside, hfirst⟩ := h
  rw [Takes, hs.1.toSameDirs.stagingDir]
  exact ⟨above, hbeside.sameDirs hs.1.toSameDirs, hfirst.congr hs.entry?_ne_none_iff⟩

/-- What is taken after one more temporary file was made. -/
lemma TempAt.entry?_ne_none_iff (h : TempAt t u temp l content) (m : Location) :
    u.entry? m ≠ none ↔ m = l ∨ t.entry? m ≠ none := by
  rw [Ne, entry?_eq_none_iff, Ne, entry?_eq_none_iff, h.sameDirs.dirAt, h.file?]
  by_cases hm : m = l <;> simp [hm]

/-- Trees that resemble each other resemble each other after a temporary file was made at the same place. -/
lemma Resembles.tempAt {w : FileTree} {temp' : Path} {content' : ByteArray} (hs : Resembles t t')
    (h : TempAt t u temp l content) (h' : TempAt t' w temp' l content') : Resembles u w := by
  have hsparser : ∀ {t t' u w : FileTree} {temp temp' : Path} {content content' : ByteArray},
      Sparser t t' → TempAt t u temp l content → TempAt t' w temp' l content' → Sparser u w := by
    intro t t' u w temp temp' content content' hs h h'
    refine ⟨(h.sameDirs.symm.trans hs.toSameDirs).trans h'.sameDirs, fun m hm => ?_, fun m hm => ?_⟩
    · rw [h'.file?] at hm
      rw [h.file?]
      split_ifs at hm ⊢
      exact hs.fewer m hm
    · have hne : m ≠ l := by
        rintro rfl
        exact hm h.named
      rw [h.file?, h'.file?, if_neg hne, if_neg hne, hs.file? m hm]
  exact ⟨hsparser hs.1 h h', hsparser hs.2 h' h⟩

/-- **What a stage that succeeds does.** -/
lemma stages_of_stage (hf : ∀ command ∈ tx.formatter, command.Rewrites programs result)
    (h : tx.stage programs t item.1 item.2 = (.ok tx', u)) :
    tx'.formatter = tx.formatter ∧ ∃ l, Stages tx.formatter result t item l u := by
  obtain ⟨temp, l, record, rfl, hadds, hbytes, haccepts⟩ := stage_views hf h
  obtain ⟨temp', made, record', hcreate, -, heq⟩ := stage_ok h
  obtain ⟨-, rfl⟩ : record = record' ∧ temp = temp' := by simpa using heq
  obtain ⟨above, m, hbeside, hm, hfirst⟩ :=
    firstFree_of_createTemp (by decide) (separator_notMem_tempEnding item.1) hcreate
  obtain rfl : l = m := by simpa [hadds.tempAt.locate] using hm
  exact ⟨rfl, l, ⟨above, hbeside, hfirst⟩, ⟨temp, _, hadds.tempAt⟩, ⟨_, hadds.holds⟩, haccepts, _,
    hbytes⟩

/-- **A stage succeeds** where a temporary file can be made, its text is accepted and the target can be read
then.

**Proof sketch.** The steps succeed in order: the first free name is taken, the formatter accepts the
text, and what it leaves is a text again. The target is read in the tree with the temporary file. -/
lemma exists_stage_at (hf : ∀ command ∈ tx.formatter, command.Rewrites programs result)
    (htakes : Takes t item.1 l) (haccepts : Accepts tx.formatter result item.2.toUTF8)
    (hleft : ∃ after : String, formatted tx.formatter result item.2.toUTF8 = after.toUTF8)
    (hheld : ∀ temp content u, TempAt t u temp l content → ∃ held, u.Holds item.1 held) :
    ∃ tx' u, tx.stage programs t item.1 item.2 = (.ok tx', u) := by
  obtain ⟨above, hbeside, hfirst⟩ := htakes
  obtain ⟨temp, made, hcreate, hl⟩ :=
    exists_createTemp_at (by decide) (separator_notMem_tempEnding item.1) hbeside hfirst
  obtain ⟨m, v, hwrite, htemp⟩ := exists_tempAt hcreate item.2.toUTF8
  obtain rfl : l = m := by simpa [hl] using htemp.locate
  have hok := (format_fst_eq_ok_iff hf htemp.located htemp.there).2 haccepts
  obtain ⟨hsame, hviews⟩ := format_views hf htemp.located htemp.there
  rw [stage_eq hcreate hwrite]
  rcases hformat : tx.format programs v temp with ⟨failure | ⟨⟩, u⟩ <;>
    rw [hformat] at hok hsame hviews
  · simp at hok
  have hafter := htemp.rewritten hsame hviews
  obtain ⟨after, hbytes⟩ := hleft
  obtain ⟨held, hholds⟩ := hheld _ _ _ hafter
  have hread : u.readText temp = .ok after := by
    rw [readText_eq_ok_iff, FileTree.read_eq_ok_iff]
    exact ⟨l, _, hafter.located, hbytes ▸ hafter.there⟩
  simp only [endStage, recordOf, hread, previousContent_eq_ok_iff.2 hholds, bind, Except.bind, pure,
    Except.pure]
  exact ⟨_, _, rfl⟩

/-- **A header that was staged can be staged in a tree that resembles the first**, with trees that resemble
each other. -/
lemma Stages.exists_stage (hf : ∀ command ∈ tx.formatter, command.Rewrites programs result)
    (h : Stages tx.formatter result t item l u) (hs : Resembles t t')
    (htarget : ¬ StagedAt (item.1.place t.workdir)) :
    ∃ tx' u', tx.stage programs t' item.1 item.2 = (.ok tx', u') ∧ tx'.formatter = tx.formatter ∧
      Stages tx.formatter result t' item l u' ∧ Resembles u u' := by
  obtain ⟨temp, content, htemp⟩ := h.tempAt
  obtain ⟨held, hheld⟩ := h.held
  have htakes := h.takes.resembles hs
  obtain ⟨tx', u', hstage⟩ := exists_stage_at hf htakes h.accepted h.left fun temp' content' w hw => by
    have hsparser := (hs.symm.tempAt hw htemp).1
    refine ⟨held, hsparser.holds ?_ hheld⟩
    rwa [(hs.1.toSameDirs.trans hw.sameDirs).workdir]
  obtain ⟨hformatter, m, hstages⟩ := stages_of_stage hf hstage
  obtain rfl := hstages.takes.unique htakes
  obtain ⟨temp', content', htemp'⟩ := hstages.tempAt
  exact ⟨tx', u', hstage, hformatter, hstages, hs.tempAt htemp htemp'⟩

end Transaction

open Transaction

/-! ## What targets hold among temporary files -/

/-- **What a target holds can be read**: the path is accepted, and it leads somewhere or something on its way is
missing. -/
lemma FileTree.Holds.locate_cases {p : Path} (h : t.Holds p held) (hne : p.text.isEmpty = false) :
    p.Usable ∧ ((∃ l, t.locate p = .ok l) ∨ t.locate p = .error .notFound) := by
  rcases hl : t.locate p with cause | l
  · have hcause : cause = .notFound := by
      cases held <;> simp only [Holds, FileTree.readText, FileTree.read, FileTree.lookup, hl, bind,
        Except.bind, Except.error.injEq, reduceCtorEq] at h
      exact h
    subst hcause
    exact ⟨usable_of_locate_notFound hne hl, .inr rfl⟩
  · exact ⟨(Reaches.of_locate hl).usable, .inl ⟨l, rfl⟩⟩

/-- What a target holds is told by where its path leads and what stands there. -/
lemma FileTree.Holds.congr {p : Path} (h : t.Holds p held) (hlocate : u.locate p = t.locate p)
    (hentry : ∀ l, t.locate p = .ok l → u.entry? l = t.entry? l) : u.Holds p held := by
  have hlookup : u.lookup p = t.lookup p := by
    rw [FileTree.lookup, FileTree.lookup, hlocate]
    rcases hl : t.locate p with cause | l
    · rfl
    · simp only [bind, Except.bind, hentry l hl]
  cases held <;> simpa only [Holds, FileTree.readText, FileTree.read, hlookup] using h

namespace RunConfig

/-- **No file is in the way of the output root.** -/
def RootOpen (config : RunConfig) (t : FileTree) : Prop :=
  match config.rootWalk t with
  | .ok l => t.file? l = none
  | .error cause => cause = .notFound

/-- The path of a header is not empty. -/
lemma targetPath_nonempty (config : RunConfig) (target : Target) :
    (config.targetPath target).text.isEmpty = false := by
  obtain ⟨before, htext, -⟩ := targetPath_endsIn config target
  have hlong := target.plainName.long
  rw [← Bool.not_eq_true, String.isEmpty_iff, ← String.toList_eq_nil_iff, htext]
  intro hnil
  rw [(List.append_eq_nil_iff.1 hnil).2] at hlong
  simp at hlong

/-- The components of a header below the output root are plain, and none is the name of a temporary file. -/
lemma below_plain {target : Target} {c : String} (hc : c ∈ below target) :
    (c ≠ "" ∧ c ≠ "." ∧ c ≠ "..") ∧ c.toList.head? ≠ some '.' := by
  have hall : ∀ target, ∀ c ∈ below target,
      (c ≠ "" ∧ c ≠ "." ∧ c ≠ "..") ∧ c.toList.head? ≠ some '.' := by
    intro target
    cases target <;> decide
  exact hall target c hc

/-- **Where what a header holds can be read**, no file is in the way of the output root. -/
lemma rootOpen_of_holds {target : Target} (h : t.Holds (config.targetPath target) held) :
    config.RootOpen t := by
  obtain ⟨husable, hlocate⟩ := h.locate_cases (config.targetPath_nonempty target)
  rw [locate_of_usable husable, walk_targetPath] at hlocate
  unfold RootOpen
  rcases hroot : config.rootWalk t with cause | l
  · simpa [hroot, bind, Except.bind] using hlocate
  · obtain ⟨c, cs, hcs⟩ : ∃ c cs, below target = c :: cs := by
      cases target <;> exact ⟨_, _, rfl⟩
    simp only
    by_contra hfile
    obtain ⟨⟨mode, content⟩, hfile⟩ := Option.ne_none_iff_exists'.1 hfile
    have hstep : t.step l c = .error .notDirectory := by
      simp [step, file?_eq_some_iff.1 hfile]
    simp [hroot, hcs, List.foldlM_cons, hstep, bind, Except.bind] at hlocate

/-- Below a place at which two trees have the same, headers are reached alike, for temporary files do not stand
there. -/
lemma foldlM_below_eq (hs : Sparser t u) {cs : List String}
    (hcs : ∀ c ∈ cs, (c ≠ "" ∧ c ≠ "." ∧ c ≠ "..") ∧ c.toList.head? ≠ some '.')
    (hl : u.entry? l = t.entry? l) : cs.foldlM u.step l = cs.foldlM t.step l := by
  induction cs generalizing l with
  | nil => rfl
  | cons c cs ih =>
    obtain ⟨⟨hplain, hhead⟩, hcs⟩ := List.forall_mem_cons.1 hcs
    have hstep : u.step l c = t.step l c := by simp only [step, hl]
    rw [List.foldlM_cons, List.foldlM_cons, hstep]
    rcases hnext : t.step l c with cause | next
    · rfl
    · obtain ⟨-, -, rfl⟩ := step_eq_ok_iff.1 hnext
      rw [Location.along_of_name hplain]
      refine ih hcs (entry?_congr (hs.file? _ ?_) (hs.dirAt _))
      rintro ⟨above, p, n, heq⟩
      obtain rfl := List.singleton_inj.1 (List.append_inj' heq rfl).2
      simp [toList_tempName, stagedName] at hhead

/-- **The temporary file of one header does not hide the others**: what a header held it holds among more
temporary files, if none of them is in the way of the output root.

**Proof sketch.** By whether the output root is reached. If it is missing, nothing is read in either
tree; if it is there, both trees have the same below it but for temporary files. -/
lemma holds_of_open {target : Target} (hs : Sparser t u) (hopen : config.RootOpen u)
    (h : t.Holds (config.targetPath target) held) : u.Holds (config.targetPath target) held := by
  obtain ⟨husable, hlocate⟩ := h.locate_cases (config.targetPath_nonempty target)
  have hnot := not_stagedAt_targetPath config target t.workdir
  unfold RootOpen at hopen
  rcases hroot : config.rootWalk u with cause | l <;> rw [hroot] at hopen
  · -- the root is missing, so nothing is read in either tree
    obtain rfl : cause = .notFound := hopen
    have hmissing : u.locate (config.targetPath target) = .error .notFound := by
      rw [locate_of_usable husable, walk_targetPath, hroot]
      rfl
    have hmissing' : t.locate (config.targetPath target) = .error .notFound := by
      refine hlocate.resolve_left ?_
      rintro ⟨l, hl⟩
      simp [locate_mono hs.toSameDirs.within hl] at hmissing
    exact h.congr (hmissing.trans hmissing'.symm) (by simp [hmissing'])
  · -- from the root on both trees have the same
    have hroot' : config.rootWalk t = .ok l := by
      have hmono := foldlM_step_mono hs.toSameDirs.symm.within hroot
      rwa [start_congr hs.workdir] at hmono
    have hentry : u.entry? l = t.entry? l :=
      entry?_congr (hopen.trans (hs.fewer l hopen).symm) (hs.dirAt l)
    have hsame : u.locate (config.targetPath target) = t.locate (config.targetPath target) := by
      rw [locate_of_usable husable, locate_of_usable husable, walk_targetPath, walk_targetPath, hroot,
        hroot']
      exact foldlM_below_eq hs (fun c hc => below_plain hc) hentry
    refine h.congr hsame fun m hm => entry?_congr (hs.file? m ?_) (hs.dirAt m)
    rwa [eq_place_of_locate hm]

end RunConfig

namespace Transaction

/-! ## Two headers in either order -/

/-- A temporary file can be made where it would be made. -/
lemma Takes.exists_tempAt (h : Takes t target l) : ∃ temp u, TempAt t u temp l ByteArray.empty := by
  obtain ⟨above, hbeside, n, rfl, hfree, -⟩ := h
  rw [not_not] at hfree
  have hnot := not_dirAt_of_entry?_none hfree
  exact ⟨_, t.put _ (.file tempFileMode ByteArray.empty),
    hbeside.locate (by decide) (separator_notMem_tempEnding target) n, ⟨above, target, n, rfl⟩, hfree,
    .put_file hnot _ _, fun m => file?_put_file (ne_nil_of_not_dirAt hnot)⟩

/-- Two temporary files at the same two places leave trees that resemble each other. -/
lemma resembles_of_tempAt {w : FileTree} {a b c d : Path} {w₁ w₂ w₃ w₄ : ByteArray} {k k' : Location}
    (hu : TempAt t u a l w₁) (hv : TempAt u v b l' w₂) (hu' : TempAt t t' c k w₃)
    (hv' : TempAt t' w d k' w₄) (hplaces : k = l' ∧ k' = l ∨ k = l ∧ k' = l') : Resembles v w := by
  have hdirs := (hu.sameDirs.trans hv.sameDirs).symm.trans (hu'.sameDirs.trans hv'.sameDirs)
  have hnone : ∀ m, w.file? m = none ↔ v.file? m = none := by
    intro m
    rw [hv'.file?, hu'.file?, hv.file?, hu.file?]
    rcases hplaces with ⟨rfl, rfl⟩ | ⟨rfl, rfl⟩ <;> split_ifs <;> simp
  have hfile : ∀ m, ¬ StagedAt m → w.file? m = v.file? m := by
    intro m hm
    have hne : ∀ {k : Location}, StagedAt k → m ≠ k := by
      rintro k hk rfl
      exact hm hk
    rw [hv'.file?, hu'.file?, hv.file?, hu.file?, if_neg (hne hv'.named), if_neg (hne hu'.named),
      if_neg (hne hv.named), if_neg (hne hu.named)]
  exact ⟨⟨hdirs, fun m => (hnone m).1, hfile⟩,
    ⟨hdirs.symm, fun m => (hnone m).2, fun m hm => (hfile m hm).symm⟩⟩

/-- **Two headers can be staged in either order.**

**Proof sketch.** Their temporary files take the same two places. What the second header holds is read with
fewer temporary files then; what the first holds is read with both, and none of them is in the way of the
output root, since the second header was read with both before. -/
lemma Stages.swap {first second : Target} (hitem : item.1 = config.targetPath first)
    (hother : other.1 = config.targetPath second) (h : Stages formatter result t item l u)
    (h' : Stages formatter result u other l' v) :
    ∃ m m' u' v', Stages formatter result t other m u' ∧ Stages formatter result u' item m' v' ∧
      Resembles v v' := by
  obtain ⟨temp, content, hu⟩ := h.tempAt
  obtain ⟨temp', content', hv⟩ := h'.tempAt
  obtain ⟨above, hbeside, hfirst⟩ := h.takes
  obtain ⟨above', hbeside', hfirst'⟩ := h'.takes
  obtain ⟨m, m', hm, hm', hplaces⟩ : ∃ m m',
      FirstFree (fun k => t.entry? k ≠ none) above' stagedName (tempEnding other.1) m ∧
        FirstFree (fun k => k = m ∨ t.entry? k ≠ none) above stagedName (tempEnding item.1) m' ∧
        (m = l' ∧ m' = l ∨ m = l ∧ m' = l') :=
    hfirst.swap (hfirst'.congr fun k => (hu.entry?_ne_none_iff k).symm)
  have htakes : Takes t other.1 m := by
    rw [hu.sameDirs.stagingDir] at hbeside'
    exact ⟨above', hbeside'.sameDirs hu.sameDirs.symm, hm⟩
  obtain ⟨path, u', hu'⟩ := htakes.exists_tempAt
  have htakes' : Takes u' item.1 m' := by
    rw [Takes, hu'.sameDirs.stagingDir]
    exact ⟨above, hbeside.sameDirs hu'.sameDirs, hm'.congr fun k => hu'.entry?_ne_none_iff k⟩
  obtain ⟨path', v', hv'⟩ := htakes'.exists_tempAt
  have hresembles := resembles_of_tempAt hu hv hu' hv' hplaces
  obtain ⟨held, hheld⟩ := h.held
  obtain ⟨held', hheld'⟩ := h'.held
  have hnot : ∀ (target : Target) (w : FileTree), ¬ StagedAt ((config.targetPath target).place w.workdir) :=
    fun target w => not_stagedAt_targetPath config target w.workdir
  rw [hitem] at hheld
  rw [hother] at hheld'
  have hopen := RunConfig.rootOpen_of_holds hheld'
  refine ⟨m, m', u', v', ⟨htakes, ⟨_, _, hu'⟩, ⟨held', ?_⟩, h'.accepted, h'.left⟩,
    ⟨htakes', ⟨_, _, hv'⟩, ⟨held, ?_⟩, h.accepted, h.left⟩, hresembles⟩
  · rw [hother]
    exact ((Sparser.of_tempAt hv').trans hresembles.2).holds (hnot _ _) hheld'
  · rw [hitem]
    exact hresembles.2.holds (hnot _ _) (RunConfig.holds_of_open (.of_tempAt hv) hopen hheld)

/-! ## Headers in any order -/

/-- **A tree after headers were staged in order.** -/
inductive StagesTo (formatter : Option FormatterCommand)
    (result : ByteArray → Except Fault Finished × ByteArray) :
    FileTree → List (Path × String) → FileTree → Prop where
  | nil (t : FileTree) : StagesTo formatter result t [] t
  | cons {t v u : FileTree} {item : Path × String} {l : Location} {texts : List (Path × String)}
      (stage : Stages formatter result t item l v) (rest : StagesTo formatter result v texts u) :
      StagesTo formatter result t (item :: texts) u

/-- The headers of a list are headers of a run. -/
def OfRun (config : RunConfig) (texts : List (Path × String)) : Prop :=
  ∀ item ∈ texts, ∃ target, item.1 = config.targetPath target

/-- Headers that all go to targets of a run stand at no places of temporary files. -/
lemma OfRun.not_stagedAt (h : OfRun config texts) (hitem : item ∈ texts) (w : Location) :
    ¬ StagedAt (item.1.place w) := by
  obtain ⟨target, htarget⟩ := h item hitem
  rw [htarget]
  exact not_stagedAt_targetPath config target w

/-- **What can be staged is staged**, also in a tree that resembles the first. -/
lemma StagesTo.exists_stageAll (hf : ∀ command ∈ tx.formatter, command.Rewrites programs result)
    (h : StagesTo tx.formatter result t texts u) (hrun : OfRun config texts) (hs : Resembles t t') :
    ∃ tx' u', stageAll programs tx t' texts = (.ok tx', u') ∧
      StagesTo tx.formatter result t' texts u' ∧ Resembles u u' := by
  induction texts generalizing tx t t' with
  | nil =>
    cases h
    exact ⟨tx, t', rfl, .nil t', hs⟩
  | cons item rest ih =>
    cases h with
    | cons hstage hrest =>
      obtain ⟨next, v', hok, hformatter, hstages, hv⟩ :=
        hstage.exists_stage hf hs (hrun.not_stagedAt List.mem_cons_self _)
      rw [← hformatter] at hf hrest
      obtain ⟨tx', u', hall, hto, hu⟩ :=
        ih hf hrest (fun item hitem => hrun item (List.mem_cons_of_mem _ hitem)) hv
      rw [hformatter] at hto
      exact ⟨tx', u', by rw [stageAll, hok]; exact hall, .cons hstages hto, hu⟩

/-- What was staged can be staged. -/
lemma stagesTo_of_stageAll (hf : ∀ command ∈ tx.formatter, command.Rewrites programs result)
    (h : stageAll programs tx t texts = (.ok tx', u)) : StagesTo tx.formatter result t texts u := by
  induction texts generalizing tx t with
  | nil =>
    obtain ⟨-, rfl⟩ : tx = tx' ∧ t = u := by simpa [stageAll] using h
    exact .nil t
  | cons item rest ih =>
    rcases hstage : tx.stage programs t item.1 item.2 with ⟨failure | next, v⟩
    · simp [stageAll, hstage] at h
    · rw [stageAll, hstage] at h
      obtain ⟨hformatter, l, hstages⟩ := stages_of_stage hf hstage
      rw [← hformatter] at hf
      have hrest := ih hf h
      rw [hformatter] at hrest
      exact .cons hstages hrest

/-- Headers that can be staged can be staged in a tree that resembles the first. -/
lemma StagesTo.resembles (h : StagesTo formatter result t texts u) (hrun : OfRun config texts)
    (hs : Resembles t t') : ∃ u', StagesTo formatter result t' texts u' ∧ Resembles u u' := by
  induction h generalizing t' with
  | nil => exact ⟨t', .nil t', hs⟩
  | @cons t v u item l texts hstage hrest ih =>
    obtain ⟨temp, content, hv⟩ := hstage.tempAt
    obtain ⟨held, hheld⟩ := hstage.held
    have htakes := hstage.takes.resembles hs
    obtain ⟨path, v', hv'⟩ := htakes.exists_tempAt
    have hnext := hs.tempAt hv hv'
    obtain ⟨u', hto, hu⟩ := ih (fun item hitem => hrun item (List.mem_cons_of_mem _ hitem)) hnext
    have hnot := hrun.not_stagedAt List.mem_cons_self v'.workdir
    exact ⟨u', .cons ⟨htakes, ⟨_, _, hv'⟩, ⟨held, hnext.2.holds hnot hheld⟩, hstage.accepted,
      hstage.left⟩ hto, hu⟩

/-- **Headers can be staged in any order.**

**Proof sketch.** Induction on the permutation; two neighbours can be swapped. -/
lemma StagesTo.perm (hperm : texts.Perm texts') (hrun : OfRun config texts)
    (h : StagesTo formatter result t texts u) :
    ∃ u', StagesTo formatter result t texts' u' ∧ Resembles u u' := by
  induction hperm generalizing t u with
  | nil => exact ⟨u, h, .refl u⟩
  | cons item _ ih =>
    cases h with
    | cons hstage hrest =>
      obtain ⟨u', hto, hu⟩ := ih (fun item hitem => hrun item (List.mem_cons_of_mem _ hitem)) hrest
      exact ⟨u', .cons hstage hto, hu⟩
  | swap item other texts =>
    cases h with
    | cons hother hrest =>
      cases hrest with
      | cons hitem hrest =>
        obtain ⟨second, hsecond⟩ := hrun item (by simp)
        obtain ⟨first, hfirst⟩ := hrun other (by simp)
        obtain ⟨m, m', v', w', hstage, hstage', hw⟩ := hother.swap hfirst hsecond hitem
        obtain ⟨u', hto, hu⟩ := hrest.resembles (fun item hitem => hrun item (by simp [hitem])) hw
        exact ⟨u', .cons hstage (.cons hstage' hto), hu⟩
  | trans hperm _ ih ih' =>
    obtain ⟨v, hv, huv⟩ := ih hrun h
    obtain ⟨u', hu', hvu⟩ := ih' (fun item hitem => hrun item (hperm.mem_iff.2 hitem)) hv
    exact ⟨u', hu', huv.trans hvu⟩

/-- Headers before others can be staged without them, with no more files then. -/
lemma StagesTo.of_append (h : StagesTo formatter result t (texts ++ texts') u) :
    ∃ v, StagesTo formatter result t texts v ∧ Sparser v u := by
  induction texts generalizing t with
  | nil =>
    refine ⟨t, .nil t, ?_⟩
    rw [List.nil_append] at h
    induction h with
    | nil => exact .refl _
    | cons hstage _ ih =>
      obtain ⟨temp, content, hv⟩ := hstage.tempAt
      exact (Sparser.of_tempAt hv).trans ih
  | cons item rest ih =>
    cases h with
    | cons hstage hrest =>
      obtain ⟨v, hv, hs⟩ := ih hrest
      exact ⟨v, .cons hstage hv, hs⟩

end Transaction

open Transaction

/-- **Some of the headers of a run can be staged in any order** if all of them were staged, and there are no
more temporary files then. -/
lemma exists_stageAll_of_subperm
    (hf : ∀ command ∈ tx.formatter, command.Rewrites programs result) (hrun : OfRun config texts)
    (hsub : texts'.Subperm texts) (h : stageAll programs tx t texts = (.ok tx', u)) :
    ∃ tx'' u', stageAll programs tx t texts' = (.ok tx'', u') ∧ Sparser u' u := by
  obtain ⟨same, hsame, hsublist⟩ := hsub
  obtain ⟨rest, hperm⟩ : ∃ rest, texts.Perm (texts' ++ rest) := by
    obtain ⟨rest, hrest⟩ := hsublist.exists_perm_append
    exact ⟨rest, hrest.trans (hsame.append_right rest)⟩
  obtain ⟨v, hv, huv⟩ := (stagesTo_of_stageAll hf h).perm hperm hrun
  obtain ⟨w, hw, hwv⟩ := hv.of_append
  have hrun' : OfRun config texts' :=
    fun item hitem => hrun item (hsublist.subset (hsame.mem_iff.2 hitem))
  obtain ⟨tx'', u', hall, -, hu⟩ := hw.exists_stageAll hf hrun' (.refl t)
  exact ⟨tx'', u', hall, hu.2.trans (hwv.trans huv.2)⟩

end UaHeaders
