import UaHeaders.Proofs.Files.Joined
import UaHeaders.Proofs.Run.Staged

/-!
# Open transactions

Between its start and its end, a transaction has touched nothing but its own temporary files. Whatever
headers are staged, and whichever of the stages fail, the tree is the one from the start with one
temporary file for each record, beside the target of the record. So a transaction can be given up at any
time, and the tree is what it was.

## Main definitions

* `UaHeaders.FileTree.DeepestAbove` — the deepest directory above a target.
* `UaHeaders.Transaction.afterStages` — a transaction and a tree after some stages.
* `UaHeaders.Transaction.stagesAccepted` — the stages among them that succeed.
* `UaHeaders.Transaction.OpenOn` — what is known of an open transaction.

## Main results

* `UaHeaders.FileTree.deepestAbove_stagingDir` — headers are staged in the deepest directory above.
* `UaHeaders.Transaction.OpenOn.staged`, `UaHeaders.Transaction.OpenOn.failed` — one more stage.
* `UaHeaders.Transaction.open_afterStages` — the transaction is open after any stages.
-/

set_option autoImplicit false

namespace UaHeaders

/-! ## The directory in which a header is staged -/

namespace Path

variable {cs up : List Char}

/-- The paths above a path end with the empty one or with the root, if there are any.

**Proof sketch.** Along the paths above. The last of them has no parent, so it is empty or consists of
separators, and it is trimmed. -/
lemma exists_end_ancestorsRev (cs : List Char) :
    ancestorsRev cs = [] ∨ [] ∈ ancestorsRev cs ∨ ['/'] ∈ ancestorsRev cs := by
  fun_induction ancestorsRev cs with
  | case1 => exact .inl rfl
  | case2 cs up hup ih =>
    refine .inr ?_
    rcases ih with hnil | hmem | hmem
    · -- nothing is above `up`, so it is empty or the root
      have hnone : parentRev? up = none := by
        rcases hp : parentRev? up with _ | above
        · rfl
        · rw [ancestorsRev_of_parentRev? hp] at hnil
          simp at hnil
      have htrim := trimEnd_of_parentRev? hup
      unfold parentRev? at hnone
      rw [htrim] at hnone
      split at hnone
      · exact .inl (by simp)
      · next rest =>
        refine .inr ?_
        cases rest with
        | nil => simp
        | cons c rest =>
          have hlen := length_trimEnd_le (c :: rest)
          rw [trimEnd.eq_2 _ (by simp)] at htrim
          rw [htrim] at hlen
          simp at hlen
      · simp at hnone
    · exact .inl (List.mem_cons_of_mem _ hmem)
    · exact .inr (List.mem_cons_of_mem _ hmem)

end Path

namespace FileTree

variable {t : FileTree} {target dir : Path}

/-- **The deepest directory above a target**: a directory stands there, and it is the first of the paths
above the target, the nearest first, at which one does. The empty path is the working directory, in which
a target lies too that has nothing above it. -/
def DeepestAbove (t : FileTree) (target dir : Path) : Prop :=
  t.DirAt (dir.place t.workdir) ∧
    ((∃ missing above, target.ancestors.tail = missing ++ dir :: above ∧
        ∀ p ∈ missing, t.isDir p = false) ∨
      target.ancestors.tail = [] ∧ dir.text.isEmpty = true)

/-- Where no path above a target is a directory or empty, there is none. -/
lemma ancestors_tail_eq_nil
    (h : ∀ p ∈ target.ancestors.tail, (p.text.isEmpty || t.isDir p) = false) :
    target.ancestors.tail = [] := by
  rw [Path.ancestors, List.tail_cons] at h ⊢
  rcases Path.exists_end_ancestorsRev target.text.toList.reverse with hnil | hmem | hmem
  · rw [hnil, List.map_nil]
  · have hempty := h _ (List.mem_map_of_mem hmem)
    simp [Path.ofRev] at hempty
  · have hroot := h _ (List.mem_map_of_mem hmem)
    rw [show Path.ofRev ['/'] = ⟨"/"⟩ from rfl, isDir_root] at hroot
    simp at hroot

/-- **Headers are staged in the deepest directory above their targets.**

**Proof sketch.** By what the search through the paths above finds. If it finds none, there are none,
since the last one is empty or the root (`ancestors_tail_eq_nil`). If it finds an empty one, the dot in
its stead leads to the same place, and all before it are no directories. -/
lemma deepestAbove_stagingDir (hg : t.Grounded) (target : Path) :
    ∃ dir, t.DeepestAbove target dir ∧
      (t.stagingDir target).place t.workdir = dir.place t.workdir ∧
      (t.stagingDir target).text.isEmpty = false := by
  have hdot : (⟨"."⟩ : Path).place t.workdir = t.workdir := Path.place_stay (.inr rfl) _
  have hdotne : (⟨"."⟩ : Path).text.isEmpty = false := by decide
  rcases hfind : target.ancestors.tail.find? fun dir => dir.text.isEmpty || t.isDir dir
    with _ | dir
  · have hstaging : t.stagingDir target = ⟨"."⟩ := by rw [stagingDir, hfind]
    have hnil : target.ancestors.tail = [] :=
      ancestors_tail_eq_nil fun p hp => by simpa using List.find?_eq_none.1 hfind p hp
    have hempty : Path.place t.workdir ⟨""⟩ = t.workdir := Path.place_stay (.inl rfl) _
    rw [hstaging]
    refine ⟨⟨""⟩, ⟨?_, .inr ⟨hnil, rfl⟩⟩, by rw [hempty, hdot], hdotne⟩
    rw [hempty]
    exact hg.dirAt
  obtain ⟨hdir, missing, above, hsplit, hmissing⟩ := List.find?_eq_some_iff_append.1 hfind
  have habove : ∃ missing above, target.ancestors.tail = missing ++ dir :: above ∧
      ∀ p ∈ missing, t.isDir p = false := by
    refine ⟨missing, above, hsplit, fun p hp => ?_⟩
    have hneither := hmissing p hp
    rw [Bool.not_eq_true', Bool.or_eq_false_iff] at hneither
    exact hneither.2
  rcases hempty : dir.text.isEmpty
  · have hstaging : t.stagingDir target = dir := by simp [stagingDir, hfind, hempty]
    rw [hempty, Bool.false_or] at hdir
    obtain ⟨l, hl, hdirAt⟩ := isDir_iff.1 hdir
    rw [hstaging]
    refine ⟨dir, ⟨?_, .inl habove⟩, rfl, hempty⟩
    rw [← eq_place_of_locate hl]
    exact hdirAt
  · have hstaging : t.stagingDir target = ⟨"."⟩ := by simp [stagingDir, hfind, hempty]
    have hplace : dir.place t.workdir = t.workdir := Path.place_stay (.inl hempty) _
    rw [hstaging]
    refine ⟨dir, ⟨?_, .inl habove⟩, by rw [hplace, hdot], hdotne⟩
    rw [hplace]
    exact hg.dirAt

end FileTree

namespace Transaction

open FileTree FormatterCommand

variable {tx : Transaction} {programs : Programs} {t u v : FileTree} {target temp : Path}
  {l : Location} {text : String} {record : HeaderRecord} {header : StagedHeader}
  {calls : List (Path × String)}

/-! ## Open transactions -/

/-- **A temporary file lies beside its target**: in the deepest directory above it, under the name of a
staged file. -/
def LiesBeside (t : FileTree) (header : StagedHeader) : Prop :=
  ∃ dir n, t.DeepestAbove header.record.target dir ∧
    header.temp.place t.workdir =
      dir.place t.workdir ++ [tempName stagedName (tempEnding header.record.target) n]

/-- **What is known of an open transaction** that started in the tree `t`, when the tree is `u` and `calls`
are the stages that succeeded, each with its target and its text. -/
structure OpenOn (t : FileTree) (calls : List (Path × String)) (tx : Transaction) (u : FileTree) :
    Prop where
  /-- The tree is the one from the start with one temporary file for each header. -/
  ready : Ready t u tx.staged
  beside : t.Grounded → ∀ header ∈ tx.staged, LiesBeside t header
  /-- The records are those of the stages that succeeded, in order. -/
  records : List.Forall₂ (fun call record => record.target = call.1 ∧
    (tx.formatter = none → record.content = call.2)) calls tx.records
  /-- A record has what its target held when it was staged, which is what the target held at the start,
  unless the target is itself the place of a temporary file. -/
  previous : ∀ before header after, tx.staged = before ++ header :: after →
    (∃ v, Ready t v (before ++ [header]) ∧ v.Holds header.record.target header.record.previous) ∧
    (header.record.target.place t.workdir ∉ tempPlaces t.workdir (before ++ [header]) →
      t.Holds header.record.target header.record.previous)
  digest : ∀ record ∈ tx.records, record.digest = Digest.sha256Hex record.content
  unchanged : ∀ record ∈ tx.records,
    record.unchanged = true ↔ record.previous = some record.content

/-- A transaction starts open. -/
lemma OpenOn.start (formatter : Option FormatterCommand) (dryRun : Bool) (t : FileTree) :
    OpenOn t [] (start formatter dryRun) t where
  ready := .nil t
  beside := by simp [Transaction.start]
  records := .nil
  previous := by simp [Transaction.start]
  digest := by simp [Transaction.start, Transaction.records]
  unchanged := by simp [Transaction.start, Transaction.records]

/-- **A stage that fails** keeps a transaction open. -/
lemma OpenOn.failed (h : OpenOn t calls tx u) (hs : u.Same v) : OpenOn t calls tx v :=
  { h with ready := h.ready.same hs }

/-- A temporary file that a stage adds lies beside its target. -/
lemma StageAdds.liesBeside (hr : Ready t u tx.staged) (hg : t.Grounded)
    (h : StageAdds tx programs u target text temp l record v) : LiesBeside t ⟨record, temp⟩ := by
  obtain ⟨n, hname⟩ := h.name
  have hwork := hr.sameDirs.workdir
  rw [hr.sameDirs.stagingDir, Commit.tempPath_congr hwork] at hname
  obtain ⟨dir, hdeepest, hplace, hne⟩ := deepestAbove_stagingDir hg target
  refine ⟨dir, n, by rw [h.ofTarget]; exact hdeepest, ?_⟩
  rw [h.ofTarget, hname, place_tempPath_eq hg hne (plainName_staged target n), hplace]

/-- **A stage that succeeds** keeps a transaction open, with one more record.

**Proof sketch.** The new header stands behind the others. So a header with others behind it was staged
before, and the last one is new, and both held what they hold now. -/
lemma OpenOn.staged (h : OpenOn t calls tx u)
    (hadds : StageAdds tx programs u target text temp l record v) :
    OpenOn t (calls ++ [(target, text)])
      { tx with staged := tx.staged ++ [⟨record, temp⟩] } v := by
  have hready := h.ready.add hadds.tempAt
  have hrecords : Transaction.records { tx with staged := tx.staged ++ [⟨record, temp⟩] } =
      tx.records ++ [record] := by simp [Transaction.records]
  refine ⟨hready, fun hg => ?_, ?_, fun before header after hsplit => ?_, ?_, ?_⟩
  · exact List.forall_mem_append.2
      ⟨h.beside hg, List.forall_mem_singleton.2 (hadds.liesBeside h.ready hg)⟩
  · rw [hrecords]
    exact List.rel_append h.records (.cons ⟨hadds.ofTarget, hadds.unformatted⟩ .nil)
  · -- the header is the new one, or it was staged before
    rcases List.eq_nil_or_concat after with rfl | ⟨after, last, rfl⟩
    · obtain ⟨rfl, rfl⟩ : tx.staged = before ∧ ⟨record, temp⟩ = header := by
        simpa using List.append_inj' hsplit rfl
      have hheld : v.Holds record.target record.previous := by
        rw [hadds.ofTarget]
        exact hadds.holds
      exact ⟨⟨v, hready, hheld⟩, fun hnot => hready.holds hnot hheld⟩
    · refine h.previous before header after ?_
      rw [List.concat_eq_append, ← List.cons_append, ← List.append_assoc] at hsplit
      exact (List.append_inj' hsplit rfl).1
  · rw [hrecords]
    exact List.forall_mem_append.2 ⟨h.digest, List.forall_mem_singleton.2 rfl⟩
  · rw [hrecords]
    exact List.forall_mem_append.2 ⟨h.unchanged,
      List.forall_mem_singleton.2 (by rw [HeaderRecord.unchanged, beq_iff_eq])⟩

/-! ## Any stages -/

/-- **A transaction and a tree after some stages**, each of a target and a text, some of which may
fail. -/
def afterStages (programs : Programs) (s : Transaction × FileTree) (calls : List (Path × String)) :
    Transaction × FileTree :=
  calls.foldl (fun s call => withHeader programs s call.1 call.2) s

/-- **The stages that succeed** among some that are made one after another. -/
def stagesAccepted (programs : Programs) (s : Transaction × FileTree) :
    List (Path × String) → List (Path × String)
  | [] => []
  | call :: rest =>
    let later := stagesAccepted programs (withHeader programs s call.1 call.2) rest
    if (s.1.stage programs s.2 call.1 call.2).1.isOk then call :: later else later

/-- Stages keep a transaction open.

**Proof sketch.** Induction on the stages. Each adds a temporary file and a record, or it fails and leaves
the transaction and the tree as they were. -/
lemma OpenOn.afterStages {done : List (Path × String)}
    (hf : ∀ command ∈ tx.formatter, command.Confined programs) (h : OpenOn t done tx u)
    (calls : List (Path × String)) :
    OpenOn t (done ++ stagesAccepted programs (tx, u) calls)
        (afterStages programs (tx, u) calls).1 (afterStages programs (tx, u) calls).2 ∧
      (afterStages programs (tx, u) calls).1.dryRun = tx.dryRun := by
  induction calls generalizing tx u done with
  | nil => simpa [afterStages, stagesAccepted] using h
  | cons call rest ih =>
    obtain ⟨target, text⟩ := call
    simp only [afterStages, List.foldl_cons, stagesAccepted, withHeader]
    obtain ⟨failure, v, hstage, hsame⟩ | ⟨temp, l, record, v, hadds⟩ := stage_cases hf u target text
    · rw [hstage]
      exact ih hf (h.failed hsame)
    · rw [hadds.eq]
      have hnext := @ih { tx with staged := tx.staged ++ [⟨record, temp⟩] } v _ hf (h.staged hadds)
      rwa [List.append_assoc] at hnext

/-- **Open transactions.** Whatever headers are staged from a tree, and whichever of the stages fail, the
tree is the one from the start with one temporary file for each record, beside its target. Discarding the
transaction, which is also how one is dropped, leads back to the tree from the start, and so does the
attempt to commit a dry run, which fails. -/
theorem open_afterStages {formatter : Option FormatterCommand}
    (hf : ∀ command ∈ formatter, command.Confined programs) (dryRun : Bool) (t : FileTree)
    (calls : List (Path × String)) :
    let s := afterStages programs (start formatter dryRun, t) calls
    OpenOn t (stagesAccepted programs (start formatter dryRun, t) calls) s.1 s.2 ∧
      t.Same (s.1.discard s.2).2 ∧
      (dryRun = true → (s.1.commit s.2).1 = .error (.configuration .dryRunCommit) ∧
        t.Same (s.1.commit s.2).2) := by
  obtain ⟨hopen, hdry⟩ := (OpenOn.start formatter dryRun t).afterStages hf calls
  refine ⟨hopen, hopen.ready.same_dropTemps, fun hd => ?_⟩
  rw [commit, if_pos (hdry.trans hd)]
  exact ⟨rfl, hopen.ready.same_dropTemps⟩

/-- Programs that end with success and leave the tree as it is. -/
def idlePrograms : Programs := fun t _ _ => (.ok ⟨.ofCode 0, .empty, .empty⟩, t)

/-- They only rewrite the file that they are given, to what it was. -/
lemma confined_idlePrograms (command : FormatterCommand) : command.Confined idlePrograms := by
  intro t p l mode content hl hfile
  refine ⟨content, .refl t, fun m => ?_⟩
  split_ifs with hm
  · rw [hm, ← hfile]
    rfl
  · rfl

/-- A tree with a header in one of two directories. -/
def oneHeader : FileTree :=
  ((FileTree.empty.put ["a"] .directory).put ["b"] .directory).put ["a", "one.hpp"]
    (.file 0o644 "x\n".toUTF8)

/-- Stages of which the second has a directory as its target. -/
def threeStages : List (Path × String) :=
  [(⟨"a/one.hpp"⟩, "x\n"), (⟨"b"⟩, "y\n"), (⟨"c/two.hpp"⟩, "z\n")]

/-- **A dry run of which the second stage fails**: the other two have their records, and the attempt to
commit leads back. -/
theorem open_afterStages_refused :
    let s := afterStages idlePrograms (start (some .standard) true, oneHeader) threeStages
    stagesAccepted idlePrograms (start (some .standard) true, oneHeader) threeStages =
        [(⟨"a/one.hpp"⟩, "x\n"), (⟨"c/two.hpp"⟩, "z\n")] ∧
      OpenOn oneHeader [(⟨"a/one.hpp"⟩, "x\n"), (⟨"c/two.hpp"⟩, "z\n")] s.1 s.2 ∧
      (s.1.commit s.2).1 = .error (.configuration .dryRunCommit) ∧
      oneHeader.Same (s.1.commit s.2).2 := by
  have haccepted : stagesAccepted idlePrograms (start (some .standard) true, oneHeader) threeStages =
      [(⟨"a/one.hpp"⟩, "x\n"), (⟨"c/two.hpp"⟩, "z\n")] := by decide +kernel
  obtain ⟨hopen, -, hcommit⟩ :=
    open_afterStages (fun command _ => confined_idlePrograms command) true oneHeader threeStages
  rw [haccepted] at hopen
  exact ⟨haccepted, hopen, hcommit rfl⟩

end Transaction

end UaHeaders
