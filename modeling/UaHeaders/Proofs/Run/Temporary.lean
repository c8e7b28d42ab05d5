import UaHeaders.Proofs.Commit.Staging
import UaHeaders.Proofs.Files.Same

/-!
# One temporary file

While a header is staged, its temporary file is the only thing in the tree that is new: it is made,
filled, handed to the formatter and read. A stage that fails takes it away again, which leads back to the
tree from before.

## Main definitions

* `UaHeaders.Transaction.TempAt` — a tree is another one with one temporary file.

## Main results

* `UaHeaders.Transaction.TempAt.same_removeIfFile` — taking the temporary file away leads back.
* `UaHeaders.Transaction.stage_eq` — a stage, once the temporary file is made and filled.
-/

set_option autoImplicit false

namespace UaHeaders.Transaction

open FileTree Commit

variable {tx : Transaction} {programs : Programs} {t u v : FileTree} {l : Location}
  {target temp : Path} {content : ByteArray} {text : String}

/-- **The tree `u` is `t` with one temporary file**, which stands where nothing stood and has the name of
a staged file. -/
structure TempAt (t u : FileTree) (temp : Path) (l : Location) (content : ByteArray) : Prop where
  locate : t.locate temp = .ok l
  named : StagedAt l
  free : t.entry? l = none
  sameDirs : t.SameDirs u
  file? : ∀ m, u.file? m = if m = l then some (tempFileMode, content) else t.file? m

namespace TempAt

/-- The path of the temporary file leads to it. -/
lemma located (h : TempAt t u temp l content) : u.locate temp = .ok l :=
  locate_mono h.sameDirs.within h.locate

/-- The temporary file is there. -/
lemma there (h : TempAt t u temp l content) : u.file? l = some (tempFileMode, content) := by
  rw [h.file?, if_pos rfl]

/-- The temporary file with another content. -/
lemma rewritten {left : ByteArray} (h : TempAt t u temp l content) (hs : u.SameDirs v)
    (hv : ∀ m, v.file? m = if m = l then some (tempFileMode, left) else u.file? m) :
    TempAt t v temp l left := by
  refine ⟨h.locate, h.named, h.free, h.sameDirs.trans hs, fun m => ?_⟩
  rw [hv, h.file?]
  split_ifs <;> rfl

/-- **Taking the temporary file away leads back** to the tree from before. -/
lemma same_removeIfFile (h : TempAt t u temp l content) : t.Same (u.removeIfFile temp) := by
  refine ⟨h.sameDirs.trans (sameDirs_removeIfFile u temp), fun m => ?_⟩
  rw [file?_removeIfFile h.located, h.file?]
  split_ifs with hm
  · rw [hm, file?_of_entry?_none h.free]
  · rfl

/-- What is read of the temporary file is its content. -/
lemma content_eq (h : TempAt t u temp l content) (hr : u.readText temp = .ok text) :
    content = text.toUTF8 := by
  obtain ⟨m, mode, hm, hf⟩ := read_eq_ok_iff.1 (readText_eq_ok_iff.1 hr)
  obtain rfl : l = m := by simpa [h.located] using hm
  simpa using congrArg (Option.map Prod.snd) (h.there.symm.trans hf)

end TempAt

/-- **A temporary file that was made and filled** is all that is new. -/
lemma exists_tempAt {dir : Path}
    (hc : t.createTemp dir stagedName (tempEnding target) = .ok (temp, u)) (content : ByteArray) :
    ∃ l v, u.write temp content = .ok v ∧ TempAt t v temp l content := by
  obtain ⟨⟨n, hname⟩, l, hl, hfree, hsame, hu⟩ := createTemp_views hc
  have hlu := locate_mono hsame.within hl
  have hfu : u.file? l = some (tempFileMode, ByteArray.empty) := by rw [hu, if_pos rfl]
  refine ⟨l, u.put l (.file tempFileMode content), writeWithMode_of_file? hlu hfu, hl, ?_, hfree,
    hsame.trans (.put_file (not_dirAt_of_file? hfu) _ _), fun m => ?_⟩
  · rw [eq_place_of_locate hl, hname]
    exact stagedAt_tempPath t _ target n _
  · rw [file?_put_file (ne_nil_of_file? hfu), hu]
    split_ifs <;> rfl

/-- The end of a stage, once the formatter has been at the temporary file. -/
def endStage (tx : Transaction) (target temp : Path) :
    Except Failure Unit × FileTree → Except Failure Transaction × FileTree
  | (.error failure, t) => (.error failure, t.removeIfFile temp)
  | (.ok (), t) =>
    match recordOf t target temp with
    | .error failure => (.error failure, t.removeIfFile temp)
    | .ok record => (.ok { tx with staged := tx.staged ++ [⟨record, temp⟩] }, t)

/-- **A stage** whose temporary file is made and filled hands it to the formatter. -/
lemma stage_eq
    (hc : t.createTemp (t.stagingDir target) stagedName (tempEnding target) = .ok (temp, u))
    (hw : u.write temp text.toUTF8 = .ok v) :
    tx.stage programs t target text = tx.endStage target temp (tx.format programs v temp) := by
  simp only [stage, fill, hc, hw, endStage]
  rcases tx.format programs v temp with ⟨failure | ⟨⟩, w⟩
  · rfl
  · rcases hr : recordOf w target temp with failure | record <;> simp only [hr]

/-- A stage whose temporary file is not made changes nothing. -/
lemma stage_of_createTemp_error {cause : Fault}
    (hc : t.createTemp (t.stagingDir target) stagedName (tempEnding target) = .error cause) :
    tx.stage programs t target text = (.error (.io (t.stagingDir target) cause), t) := by
  simp only [stage, hc]

/-- What a target held when it was staged. -/
lemma previousContent_eq_ok_iff {previous : Option String} :
    previousContent t target = .ok previous ↔ t.Holds target previous := by
  unfold previousContent
  split
  · next held h => cases previous <;> simp [Holds, h]
  · next h => cases previous <;> simp [Holds, h]
  · next cause hother h =>
    have hcause : cause ≠ .notFound := fun heq => hother heq
    cases previous <;> simp [Holds, h, hcause]

end UaHeaders.Transaction
