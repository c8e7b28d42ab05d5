import UaHeaders.Proofs.Files.FreeNames
import UaHeaders.Proofs.Run.Staged

/-!
# Room for temporary files

A header is staged in a temporary file beside its target, and that can fail however good the header is:
the path of the temporary file may be too long though the one of the target is not, or no temporary name may
be free. Where there is room for the temporary files of all headers and the formatter accepts their texts,
every stage succeeds.

## Main definitions

* `UaHeaders.FileTree.FreeBeside` — a temporary name is free beside a target.
* `UaHeaders.FileTree.RoomFor` — so many temporary names are free beside a target.
* `UaHeaders.Transaction.Stageable` — a target is readable and its text is accepted.

## Main results

* `UaHeaders.FileTree.RoomFor.tempAt` — one more temporary file takes up at most one name.
* `UaHeaders.Transaction.exists_stage` — one stage succeeds.
* `UaHeaders.exists_stageAll` — all stages of a run succeed.
-/

set_option autoImplicit false

namespace UaHeaders

open FileTree Transaction FormatterCommand

variable {t u : FileTree} {l : Location} {target temp : Path} {programs : Programs}
  {result : ByteArray → Except Fault Finished × ByteArray} {tx : Transaction} {text : String}
  {content : ByteArray} {name : String} {texts : List (Path × String)} {k : Nat}

/-! ## Free names -/

namespace FileTree

/-- **A temporary name is free beside a target**: the path of the file leads somewhere, and nothing is
there. -/
def FreeBeside (t : FileTree) (target : Path) (name : String) : Prop :=
  (∃ n, name = tempName stagedName (tempEnding target) n) ∧
    ∃ l, t.locate (t.tempPath (t.stagingDir target) name) = .ok l ∧ t.entry? l = none

/-- **There is room for `k` temporary files beside a target**: so many of their names are free. -/
def RoomFor (t : FileTree) (target : Path) (k : Nat) : Prop :=
  ∃ names : Finset String, k ≤ names.card ∧ ∀ name ∈ names, t.FreeBeside target name

/-- A free name stays free when a temporary file is made at another place. -/
lemma FreeBeside.tempAt (h : t.FreeBeside target name) (htemp : TempAt t u temp l content)
    (hne : l.getLast? ≠ some name) : u.FreeBeside target name := by
  obtain ⟨⟨n, hname⟩, m, hm, hfree⟩ := h
  refine ⟨⟨n, hname⟩, m, ?_, ?_⟩
  · rw [htemp.sameDirs.stagingDir, Commit.tempPath_congr htemp.sameDirs.workdir]
    exact locate_mono htemp.sameDirs.within hm
  · obtain ⟨hfile, hdir⟩ := entry?_eq_none_iff.1 hfree
    refine entry?_eq_none_iff.2 ⟨?_, fun hd => hdir ((htemp.sameDirs.dirAt m).1 hd)⟩
    rw [htemp.file?, if_neg, hfile]
    rintro rfl
    obtain ⟨above, hplace⟩ := place_tempPath (plainName_staged target n) t (t.stagingDir target)
      t.workdir
    rw [← hname, ← eq_place_of_locate hm] at hplace
    exact hne (by rw [hplace, List.getLast?_concat])

/-- **One more temporary file takes up at most one name.** -/
lemma RoomFor.tempAt (h : t.RoomFor target (k + 1)) (htemp : TempAt t u temp l content) :
    u.RoomFor target k := by
  obtain ⟨names, hcard, hfree⟩ := h
  refine ⟨names.erase (l.getLastD ""), ?_, fun name hname => ?_⟩
  · have herase := names.pred_card_le_card_erase (a := l.getLastD "")
    omega
  · obtain ⟨hne, hmem⟩ := Finset.mem_erase.1 hname
    refine (hfree name hmem).tempAt htemp fun hlast => hne ?_
    rw [List.getLastD_eq_getLast?, hlast, Option.getD_some]

/-- **Where there is room, a temporary file is made.** -/
lemma RoomFor.exists_createTemp (h : t.RoomFor target (k + 1)) :
    ∃ temp u, t.createTemp (t.stagingDir target) stagedName (tempEnding target) = .ok (temp, u) := by
  obtain ⟨names, hcard, hfree⟩ := h
  obtain ⟨name, hname⟩ := Finset.card_pos.1 (Nat.lt_of_lt_of_le k.succ_pos hcard)
  obtain ⟨⟨n, rfl⟩, l, hl, hnone⟩ := hfree name hname
  exact FileTree.exists_createTemp (by decide) (separator_notMem_tempEnding target) hl hnone

end FileTree

namespace Transaction

/-! ## One stage -/

/-- **A text can be staged for a target**: the formatter accepts it and leaves a text, and the target holds a
text and is no temporary file. -/
structure Stageable (formatter : Option FormatterCommand)
    (result : ByteArray → Except Fault Finished × ByteArray) (t : FileTree) (target : Path)
    (text : String) : Prop where
  accepted : Accepts formatter result text.toUTF8
  left : ∃ after : String, formatted formatter result text.toUTF8 = after.toUTF8
  held : ∃ held : String, t.read target = .ok held.toUTF8
  apart : ¬ StagedAt (target.place t.workdir)

/-- What can be staged can be staged among temporary files. -/
lemma Stageable.tempAt {formatter : Option FormatterCommand}
    (h : Stageable formatter result t target text) (htemp : TempAt t u temp l content) :
    Stageable formatter result u target text := by
  obtain ⟨held, hheld⟩ := h.held
  have hne : target.place t.workdir ≠ l := by
    rintro rfl
    exact h.apart htemp.named
  refine ⟨h.accepted, h.left, ⟨held, ?_⟩, by rw [htemp.sameDirs.workdir]; exact h.apart⟩
  exact (htemp.sameDirs.read_eq_ok_iff (by rw [htemp.file?, if_neg hne])).2 hheld

/-- **A stage succeeds** where there is room and the text can be staged.

**Proof sketch.** The steps succeed in order: there is room for the temporary file
(`RoomFor.exists_createTemp`), the formatter accepts the text and leaves one, and the target is read. -/
lemma exists_stage (hf : ∀ command ∈ tx.formatter, command.Rewrites programs result)
    (hroom : t.RoomFor target (k + 1)) (h : Stageable tx.formatter result t target text) :
    ∃ tx' u, tx.stage programs t target text = (.ok tx', u) := by
  obtain ⟨temp, made, hcreate⟩ := hroom.exists_createTemp
  obtain ⟨l, v, hwrite, htemp⟩ := exists_tempAt hcreate text.toUTF8
  have hok := (format_fst_eq_ok_iff hf htemp.located htemp.there).2 h.accepted
  obtain ⟨hsame, hviews⟩ := format_views hf htemp.located htemp.there
  rw [stage_eq hcreate hwrite]
  rcases hformat : tx.format programs v temp with ⟨failure | ⟨⟩, u⟩ <;>
    rw [hformat] at hok hsame hviews
  · simp at hok
  -- the temporary file and the target are read in the tree that the formatter leaves
  have hleft := htemp.rewritten hsame hviews
  obtain ⟨after, hafter⟩ := h.left
  obtain ⟨held, hheld⟩ := (h.tempAt hleft).held
  have hread : u.readText temp = .ok after := by
    rw [readText_eq_ok_iff, FileTree.read_eq_ok_iff]
    exact ⟨l, _, hleft.located, hafter ▸ hleft.there⟩
  have hprevious : previousContent u target = .ok (some held) :=
    previousContent_eq_ok_iff.2 (readText_eq_ok_iff.2 hheld)
  simp only [endStage, recordOf, hread, hprevious, bind, Except.bind, pure, Except.pure]
  exact ⟨_, _, rfl⟩

end Transaction

/-! ## All stages -/

/-- **All stages of a run succeed** where there is room for their temporary files and the texts can be
staged.

**Proof sketch.** Induction on what is to be staged. Each stage takes up one name beside each of the other
targets at most, and there are as many as stages to come. -/
lemma exists_stageAll (hf : ∀ command ∈ tx.formatter, command.Rewrites programs result)
    (h : ∀ item ∈ texts, t.RoomFor item.1 texts.length ∧
      Stageable tx.formatter result t item.1 item.2) :
    ∃ tx' u, stageAll programs tx t texts = (.ok tx', u) := by
  induction texts generalizing tx t with
  | nil => exact ⟨tx, t, rfl⟩
  | cons first rest ih =>
    obtain ⟨target, text⟩ := first
    obtain ⟨hroom, hstageable⟩ := h _ List.mem_cons_self
    obtain ⟨tx', u, hstage⟩ := exists_stage hf hroom hstageable
    obtain ⟨temp, l, record, rfl, hadds⟩ :=
      stageAdds_of_ok (fun command hc => (hf command hc).confined) hstage
    rw [stageAll, hstage]
    refine @ih u { tx with staged := tx.staged ++ [⟨record, temp⟩] } hf fun item hitem => ?_
    obtain ⟨hroom', hstageable'⟩ := h item (List.mem_cons_of_mem _ hitem)
    exact ⟨hroom'.tempAt hadds.tempAt, hstageable'.tempAt hadds.tempAt⟩

end UaHeaders
