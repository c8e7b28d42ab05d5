import UaHeaders.Proofs.Run.Temporary

/-!
# Formatters that only rewrite a file

What a formatter does is not decided here. Statements about a run ask of it that it rewrites the file
that it is given and touches nothing else, and some that what it does depends on the content of that file.
Under this, formatting a temporary file changes that file alone, whether or not it succeeds.

## Main definitions

* `UaHeaders.FormatterCommand.Confined` — a formatter that rewrites the file that it is given, somehow.
* `UaHeaders.FormatterCommand.Rewrites` — one for which the content alone decides what is left.
* `UaHeaders.FormatterCommand.formatted` — the content of a file once it was formatted.
* `UaHeaders.FormatterCommand.Accepts` — a formatter ends with success on a content.

## Main results

* `UaHeaders.Transaction.stage_cases` — a stage adds one temporary file, or it fails and adds nothing.
* `UaHeaders.Transaction.format_views` — what formatting a temporary file does.
* `UaHeaders.Transaction.stage_views` — what staging a header does.
-/

set_option autoImplicit false

namespace UaHeaders

open FileTree Commit

variable {t t' u : FileTree} {l : Location} {p target temp : Path} {programs : Programs}
  {result : ByteArray → Except Fault Finished × ByteArray} {tx tx' : Transaction} {mode : Nat}
  {content : ByteArray} {text : String} {record : HeaderRecord}

namespace FormatterCommand

/-- **A formatter that only rewrites the content of the file that it is given**, in whatever way, and
whether or not it succeeds. -/
def Confined (command : FormatterCommand) (programs : Programs) : Prop :=
  ∀ (t : FileTree) (p : Path) (l : Location) (mode : Nat) (content : ByteArray),
    t.locate p = .ok l → t.file? l = some (mode, content) →
    ∃ left, t.SameDirs (programs t command.program (command.args ++ [p.text])).2 ∧
      ∀ m, (programs t command.program (command.args ++ [p.text])).2.file? m =
        if m = l then some (mode, left) else t.file? m

/-- **A formatter that only rewrites the file that it is given**: run on a file, it answers and leaves in
the file what depends on the content of the file alone, and it changes nothing else. -/
def Rewrites (command : FormatterCommand) (programs : Programs)
    (result : ByteArray → Except Fault Finished × ByteArray) : Prop :=
  ∀ (t : FileTree) (p : Path) (l : Location) (mode : Nat) (content : ByteArray),
    t.locate p = .ok l → t.file? l = some (mode, content) →
    (programs t command.program (command.args ++ [p.text])).1 = (result content).1 ∧
    t.SameDirs (programs t command.program (command.args ++ [p.text])).2 ∧
    ∀ m, (programs t command.program (command.args ++ [p.text])).2.file? m =
      if m = l then some (mode, (result content).2) else t.file? m

/-- What is left being decided by the content, the formatter is confined to the file. -/
lemma Rewrites.confined {command : FormatterCommand} (h : command.Rewrites programs result) :
    command.Confined programs := by
  intro t p l mode content hl hf
  obtain ⟨-, hsame, hviews⟩ := h t p l mode content hl hf
  exact ⟨(result content).2, hsame, hviews⟩

/-- **The content of a file once it was formatted**; without a formatter it stays. -/
def formatted (formatter : Option FormatterCommand)
    (result : ByteArray → Except Fault Finished × ByteArray) (content : ByteArray) : ByteArray :=
  match formatter with
  | none => content
  | some _ => (result content).2

/-- **A formatter ends with success** on a content; where there is none, any content will do. -/
def Accepts (formatter : Option FormatterCommand)
    (result : ByteArray → Except Fault Finished × ByteArray) (content : ByteArray) : Prop :=
  formatter = none ∨ ∃ finished, (result content).1 = .ok finished ∧ finished.status.success = true

end FormatterCommand

namespace Transaction

open FormatterCommand

/-! ## Formatters that are confined -/

/-- The tree after formatting is the one that the formatter leaves. -/
lemma format_snd (tx : Transaction) (programs : Programs) (t : FileTree) (temp : Path) :
    (tx.format programs t temp).2 =
      match tx.formatter with
      | none => t
      | some command => (programs t command.program (command.args ++ [temp.text])).2 := by
  unfold format
  rcases tx.formatter with _ | command
  · rfl
  · simp only [FormatterCommand.run]
    rcases programs t command.program (command.args ++ [temp.text]) with ⟨cause | finished, u⟩
    · rfl
    · simp only
      split_ifs <;> rfl

/-- Formatting changes the content of the temporary file at most. -/
lemma TempAt.format {v : FileTree} (hf : ∀ command ∈ tx.formatter, command.Confined programs)
    (h : TempAt t v temp l content) :
    ∃ left, TempAt t (tx.format programs v temp).2 temp l left ∧
      (tx.formatter = none → left = content) := by
  rw [format_snd]
  rcases hc : tx.formatter with _ | command
  · exact ⟨content, h, fun _ => rfl⟩
  · obtain ⟨left, hsame, hviews⟩ := hf command hc v temp l _ _ h.located h.there
    exact ⟨left, h.rewritten hsame hviews, by simp⟩

/-- The record of a temporary file and a target. -/
lemma recordOf_eq_ok {v : FileTree} (h : recordOf v target temp = .ok record) :
    record.target = target ∧ v.readText temp = .ok record.content ∧
      v.Holds target record.previous := by
  obtain ⟨htarget, hread, hprevious⟩ := recordOf_ok h
  exact ⟨htarget, hread, previousContent_eq_ok_iff.1 hprevious⟩

/-- **A stage that succeeds** makes one temporary file with the text that the formatter leaves, and notes
what the target holds. Before the formatter, the temporary file has the given text. -/
structure StageAdds (tx : Transaction) (programs : Programs) (t : FileTree) (target : Path)
    (text : String) (temp : Path) (l : Location) (record : HeaderRecord) (u : FileTree) : Prop where
  eq : tx.stage programs t target text =
    (.ok { tx with staged := tx.staged ++ [⟨record, temp⟩] }, u)
  name : ∃ n, temp = t.tempPath (t.stagingDir target) (tempName stagedName (tempEnding target) n)
  filled : ∃ v, TempAt t v temp l text.toUTF8 ∧ tx.format programs v temp = (.ok (), u)
  tempAt : TempAt t u temp l record.content.toUTF8
  holds : u.Holds target record.previous
  ofTarget : record.target = target
  unformatted : tx.formatter = none → record.content = text

/-- **A stage adds one temporary file, or it fails and adds nothing.**

**Proof sketch.** By the step at which the stage ends. A formatter that keeps to its file leaves the
temporary file at most, and that is cleared away when a later step fails. -/
lemma stage_cases (hf : ∀ command ∈ tx.formatter, command.Confined programs) (t : FileTree)
    (target : Path) (text : String) :
    (∃ failure u, tx.stage programs t target text = (.error failure, u) ∧ t.Same u) ∨
      ∃ temp l record u, StageAdds tx programs t target text temp l record u := by
  rcases hc : t.createTemp (t.stagingDir target) stagedName (tempEnding target)
    with cause | ⟨temp, made⟩
  · exact .inl ⟨_, t, stage_of_createTemp_error hc, .refl t⟩
  obtain ⟨l, v, hwrite, htemp⟩ := exists_tempAt hc text.toUTF8
  have heq : tx.stage programs t target text = tx.endStage target temp (tx.format programs v temp) :=
    stage_eq hc hwrite
  obtain ⟨left, hleft, hnone⟩ := htemp.format hf
  rcases hformat : tx.format programs v temp with ⟨failure | ⟨⟩, u⟩ <;>
    rw [hformat] at heq hleft
  · exact .inl ⟨failure, _, heq, hleft.same_removeIfFile⟩
  rcases hrecord : recordOf u target temp with failure | record <;>
    simp only [endStage, hrecord] at heq
  · exact .inl ⟨failure, _, heq, hleft.same_removeIfFile⟩
  obtain ⟨htarget, hread, hholds⟩ := recordOf_eq_ok hrecord
  have hbytes := hleft.content_eq hread
  refine .inr ⟨temp, l, record, u, heq, (createTemp_views hc).1, ⟨v, htemp, hformat⟩,
    hbytes ▸ hleft, hholds, htarget, fun hno => ?_⟩
  rw [hnone hno] at hbytes
  exact (String.toByteArray_inj.1 hbytes).symm

/-- What a stage that succeeds adds. -/
lemma stageAdds_of_ok (hf : ∀ command ∈ tx.formatter, command.Confined programs)
    (h : tx.stage programs t target text = (.ok tx', t')) :
    ∃ temp l record, tx' = { tx with staged := tx.staged ++ [⟨record, temp⟩] } ∧
      StageAdds tx programs t target text temp l record t' := by
  obtain ⟨failure, u, heq, -⟩ | ⟨temp, l, record, u, hadds⟩ := stage_cases hf t target text
  · simp [h] at heq
  · obtain ⟨rfl, rfl⟩ : tx' = _ ∧ t' = u := by simpa [h] using hadds.eq
    exact ⟨temp, l, record, rfl, hadds⟩

/-! ## Formatters that go by the content -/

/-- **Formatting a temporary file** changes that file alone. -/
lemma format_views (hf : ∀ command ∈ tx.formatter, command.Rewrites programs result)
    (hl : t.locate temp = .ok l) (hfile : t.file? l = some (mode, content)) :
    t.SameDirs (tx.format programs t temp).2 ∧
      ∀ m, (tx.format programs t temp).2.file? m =
        if m = l then some (mode, formatted tx.formatter result content) else t.file? m := by
  unfold format formatted
  rcases hc : tx.formatter with _ | command
  · refine ⟨.refl t, fun m => ?_⟩
    split_ifs with hm
    · rw [hm, hfile]
    · rfl
  · obtain ⟨-, hsame, hviews⟩ := hf command hc t temp l mode content hl hfile
    simp only [FormatterCommand.run]
    generalize programs t command.program (command.args ++ [temp.text]) = ran at hsame hviews
    rcases ran with ⟨cause | finished, u⟩
    · exact ⟨hsame, hviews⟩
    · simp only
      split_ifs <;> exact ⟨hsame, hviews⟩

/-- **Formatting a temporary file ends with success** when the formatter accepts its content. -/
lemma format_fst_eq_ok_iff (hf : ∀ command ∈ tx.formatter, command.Rewrites programs result)
    (hl : t.locate temp = .ok l) (hfile : t.file? l = some (mode, content)) :
    (tx.format programs t temp).1 = .ok () ↔ Accepts tx.formatter result content := by
  unfold format Accepts
  rcases hc : tx.formatter with _ | command
  · simp
  · obtain ⟨hfst, -⟩ := hf command hc t temp l mode content hl hfile
    simp only [FormatterCommand.run, reduceCtorEq, false_or, ← hfst]
    rcases programs t command.program (command.args ++ [temp.text]) with ⟨cause | finished, u⟩
    · simp
    · by_cases hs : finished.status.success = true <;> simp [hs]

/-- **What staging a header does** when it succeeds: a temporary file is new, with the formatted text, and
nothing else changes. -/
lemma stage_views (hf : ∀ command ∈ tx.formatter, command.Rewrites programs result)
    (h : tx.stage programs t target text = (.ok tx', t')) :
    ∃ temp l record, tx' = { tx with staged := tx.staged ++ [⟨record, temp⟩] } ∧
      StageAdds tx programs t target text temp l record t' ∧
      formatted tx.formatter result text.toUTF8 = record.content.toUTF8 ∧
      Accepts tx.formatter result text.toUTF8 := by
  obtain ⟨temp, l, record, rfl, hadds⟩ :=
    stageAdds_of_ok (fun command hc => (hf command hc).confined) h
  obtain ⟨v, htemp, hformat⟩ := hadds.filled
  obtain ⟨-, hviews⟩ := format_views hf htemp.located htemp.there
  have haccepts := format_fst_eq_ok_iff hf htemp.located htemp.there
  rw [hformat] at hviews haccepts
  refine ⟨temp, l, record, rfl, hadds, ?_, haccepts.1 rfl⟩
  simpa [hviews] using congrArg (Option.map Prod.snd) hadds.tempAt.there

end Transaction

end UaHeaders
