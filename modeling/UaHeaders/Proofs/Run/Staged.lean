import UaHeaders.Proofs.Run.Formatting
import UaHeaders.Run.Generate

/-!
# A tree with staged headers

While headers are staged, the tree differs from the one at the start by their temporary files alone. A
record is unchanged when its target held the very content at the start.

## Main definitions

* `UaHeaders.Transaction.Ready` — a tree is another one with the temporary files of headers.
* `UaHeaders.Transaction.StagedFor` — a staged header belongs to a target and a text.

## Main results

* `UaHeaders.Transaction.Ready.add` — one more temporary file.
* `UaHeaders.Transaction.Ready.same_dropTemps` — taking all of them away leads back.
* `UaHeaders.Transaction.Ready.stage` — one more stage.
* `UaHeaders.ready_stageAll` — all stages of a run.
-/

set_option autoImplicit false

namespace UaHeaders

open FileTree Commit FormatterCommand

variable {t t' u : FileTree} {l : Location} {target : Path} {programs : Programs}
  {result : ByteArray → Except Fault Finished × ByteArray} {tx tx' : Transaction} {text : String}
  {headers : List StagedHeader} {header : StagedHeader} {texts : List (Path × String)}

namespace Transaction

/-- **The tree `u` is `t` with the temporary files of headers**, each at a place of its own where no file
was. -/
structure Ready (t u : FileTree) (headers : List StagedHeader) : Prop where
  sameDirs : t.SameDirs u
  reaches : ∀ header ∈ headers, t.Reaches header.temp
  file : ∀ header ∈ headers, u.file? (header.temp.place t.workdir) =
    some (tempFileMode, header.record.content.toUTF8)
  free : ∀ header ∈ headers, t.file? (header.temp.place t.workdir) = none
  named : ∀ header ∈ headers, StagedAt (header.temp.place t.workdir)
  nodup : (headers.map fun header => header.temp.place t.workdir).Nodup
  others : ∀ l, l ∉ tempPlaces t.workdir headers → u.file? l = t.file? l

/-- Nothing is staged at the start. -/
lemma Ready.nil (t : FileTree) : Ready t t [] :=
  ⟨.refl t, by simp, by simp, by simp, by simp, by simp, fun _ _ => rfl⟩

/-- The place of a temporary file is not the place of one that is made later. -/
lemma Ready.ne_of_entry?_none (hr : Ready t u headers) (hl : u.entry? l = none)
    (hheader : header ∈ headers) : header.temp.place t.workdir ≠ l := by
  intro heq
  have hthere := hr.file header hheader
  rw [heq, file?_of_entry?_none hl] at hthere
  simp at hthere

/-- **One more temporary file.**

**Proof sketch.** The place of the new temporary file was free, so it is none of those that were taken.
What was known at any other place is known still. -/
lemma Ready.add {temp : Path} {record : HeaderRecord} (hr : Ready t u headers)
    (h : TempAt u t' temp l record.content.toUTF8) : Ready t t' (headers ++ [⟨record, temp⟩]) := by
  obtain ⟨hreach, hplace⟩ := locate_eq_ok_iff.1 (locate_mono hr.sameDirs.symm.within h.locate)
  have hne : ∀ header ∈ headers, header.temp.place t.workdir ≠ l :=
    fun header hheader => hr.ne_of_entry?_none h.free hheader
  have hnotin : l ∉ tempPlaces t.workdir headers :=
    fun ⟨header, hheader, heq⟩ => hne header hheader heq.symm
  refine ⟨hr.sameDirs.trans h.sameDirs,
    List.forall_mem_append.2 ⟨hr.reaches, List.forall_mem_singleton.2 hreach⟩,
    List.forall_mem_append.2 ⟨fun header hheader => ?_, List.forall_mem_singleton.2 ?_⟩,
    List.forall_mem_append.2 ⟨hr.free, List.forall_mem_singleton.2 ?_⟩,
    List.forall_mem_append.2 ⟨hr.named, List.forall_mem_singleton.2 (hplace ▸ h.named)⟩, ?_, ?_⟩
  · rw [h.file?, if_neg (hne header hheader), hr.file header hheader]
  · rw [h.file?, if_pos hplace.symm]
  · rw [← hplace, ← hr.others l hnotin, file?_of_entry?_none h.free]
  · rw [List.map_append, List.map_cons, List.map_nil, ← List.concat_eq_append,
      List.nodup_concat]
    refine ⟨fun hmem => ?_, hr.nodup⟩
    obtain ⟨header, hheader, heq⟩ := List.mem_map.1 hmem
    exact hne header hheader (heq.trans hplace.symm)
  · intro m hm
    rw [h.file?, if_neg]
    · exact hr.others m fun ⟨header, hheader, heq⟩ => hm ⟨header, by simp [hheader], heq⟩
    · rintro rfl
      exact hm ⟨⟨record, temp⟩, by simp, hplace⟩

/-- A tree that holds the same is ready for the same headers. -/
lemma Ready.same (hr : Ready t u headers) (h : u.Same t') : Ready t t' headers :=
  ⟨hr.sameDirs.trans h.toSameDirs, hr.reaches,
    fun header hheader => (h.file? _).trans (hr.file header hheader), hr.free, hr.named, hr.nodup,
    fun l hl => (h.file? l).trans (hr.others l hl)⟩

/-- **Taking all temporary files away leads back** to the tree without them. -/
lemma Ready.same_dropTemps (hr : Ready t u headers) : t.Same (dropTemps u headers) := by
  have hwork := hr.sameDirs.workdir
  refine ⟨hr.sameDirs.trans (sameDirs_dropTemps u headers), fun l => ?_⟩
  by_cases hl : l ∈ tempPlaces t.workdir headers
  · obtain ⟨header, hheader, rfl⟩ := hl
    have hgone := file?_dropTemps_of_reaches hheader
      ((hr.reaches header hheader).mono hr.sameDirs.within)
    rw [hwork] at hgone
    rw [hgone, hr.free header hheader]
  · rw [file?_dropTemps_of_not_reaches, hr.others l hl]
    rintro header hheader rfl
    rw [hwork] at hl
    exact absurd ⟨header, hheader, rfl⟩ hl

/-- **What a target holds** among temporary files it held before them, unless one of them stands at its
place. -/
lemma Ready.holds {held : Option String} (hr : Ready t u headers)
    (htarget : target.place t.workdir ∉ tempPlaces t.workdir headers) (h : u.Holds target held) :
    t.Holds target held := by
  refine hr.sameDirs.holds (tempPlaces t.workdir headers) ?_ hr.others htarget h
  rintro l ⟨header, hheader, rfl⟩
  exact hr.free header hheader

/-- A target without the name of a temporary file stands at the place of none. -/
lemma Ready.notMem_tempPlaces (hr : Ready t u headers) (hl : ¬ StagedAt l) :
    l ∉ tempPlaces t.workdir headers := by
  rintro ⟨header, hheader, rfl⟩
  exact hl (hr.named header hheader)

/-- **A staged header belongs to a target and a text**: it holds the formatted text, and it is unchanged
when the target held that already. -/
structure StagedFor (formatter : Option FormatterCommand)
    (result : ByteArray → Except Fault Finished × ByteArray) (t : FileTree) (text : Path × String)
    (header : StagedHeader) : Prop where
  target : header.record.target = text.1
  content : formatted formatter result text.2.toUTF8 = header.record.content.toUTF8
  accepted : Accepts formatter result text.2.toUTF8
  unchanged : ¬ StagedAt (text.1.place t.workdir) →
    (header.record.unchanged = true ↔ t.read text.1 = .ok header.record.content.toUTF8)

/-- **One more stage** makes one more temporary file. -/
lemma Ready.stage (hf : ∀ command ∈ tx.formatter, command.Rewrites programs result)
    (hr : Ready t u tx.staged) (h : tx.stage programs u target text = (.ok tx', t')) :
    ∃ header, tx' = { tx with staged := tx.staged ++ [header] } ∧ Ready t t' tx'.staged ∧
      StagedFor tx.formatter result t (target, text) header := by
  obtain ⟨temp, l, record, rfl, hadds, hbytes, haccepts⟩ := stage_views hf h
  have hready := hr.add hadds.tempAt
  refine ⟨⟨record, temp⟩, rfl, hready, hadds.ofTarget, hbytes, haccepts, fun hnot => ?_⟩
  -- the target is read in the new tree, where it holds what it held at the start
  have hheld := hready.holds (hready.notMem_tempPlaces hnot) hadds.holds
  rw [HeaderRecord.unchanged, beq_iff_eq, hheld.eq_some_iff, readText_eq_ok_iff]

end Transaction

open Transaction

/-- **All stages of a run**: the tree has the temporary files of the headers, which belong to the given
targets and texts in order.

**Proof sketch.** Induction on what is to be staged; one more stage keeps the tree ready. -/
lemma ready_stageAll (hf : ∀ command ∈ tx.formatter, command.Rewrites programs result)
    (hr : Ready t u tx.staged) (h : stageAll programs tx u texts = (.ok tx', t')) :
    ∃ staged, tx' = { tx with staged := tx.staged ++ staged } ∧ Ready t t' tx'.staged ∧
      List.Forall₂ (StagedFor tx.formatter result t) texts staged := by
  induction texts generalizing tx u with
  | nil =>
    simp only [stageAll, Prod.mk.injEq, Except.ok.injEq] at h
    obtain ⟨rfl, rfl⟩ := h
    exact ⟨[], by simp, hr, .nil⟩
  | cons first rest ih =>
    obtain ⟨target, text⟩ := first
    rcases hs : tx.stage programs u target text with ⟨failure | next, v⟩
    · simp [stageAll, hs] at h
    · rw [stageAll, hs] at h
      obtain ⟨header, rfl, hready, hfor⟩ := hr.stage hf hs
      obtain ⟨staged, rfl, hready', hall⟩ :=
        @ih v { tx with staged := tx.staged ++ [header] } hf hready h
      exact ⟨header :: staged, by simp, hready', .cons hfor hall⟩

end UaHeaders
