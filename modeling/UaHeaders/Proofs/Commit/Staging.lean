import UaHeaders.Proofs.Commit.Undo
import UaHeaders.Proofs.Files.TempNames

/-!
# Staging

What staging a header does: it makes a temporary file where nothing stood, lets the formatter work on
it and notes what it holds then. The temporary files of one transaction therefore lie at different
places, as long as each is there while the later ones are made.

## Main definitions

* `UaHeaders.Transaction.Built` — a transaction that stages have made.

## Main results

* `UaHeaders.Transaction.stage_ok`, `recordOf_ok` — one stage that succeeds.
* `UaHeaders.Transaction.Built.standing` — the temporary files lie at different places.
* `UaHeaders.Transaction.Built.backupFree` — backups lie elsewhere.
* `UaHeaders.Transaction.file?_dropTemps_of_reaches` — clearing away temporary files.
-/

set_option autoImplicit false

namespace UaHeaders.Transaction

open FileTree Commit

variable {tx tx' : Transaction} {programs : Programs} {t t' u : FileTree} {target temp : Path}
  {content : String} {record : HeaderRecord} {l w : Location} {header : StagedHeader}
  {headers : List StagedHeader}

/-! ## One stage -/

/-- **Staging a header** makes a temporary file, fills it and notes it last. -/
lemma stage_ok (h : tx.stage programs t target content = (.ok tx', t')) :
    ∃ temp u record,
      t.createTemp (t.stagingDir target) stagedName (tempEnding target) = .ok (temp, u) ∧
      tx.fill programs u target temp content = (.ok record, t') ∧
      tx' = { tx with staged := tx.staged ++ [⟨record, temp⟩] } := by
  simp only [stage] at h
  rcases hc : t.createTemp (t.stagingDir target) stagedName (tempEnding target)
    with cause | ⟨temp, u⟩
  · simp [hc] at h
  · rcases hf : tx.fill programs u target temp content with ⟨failure | record, v⟩
    · simp [hc, hf] at h
    · simp only [hc, hf, Prod.mk.injEq, Except.ok.injEq] at h
      obtain ⟨rfl, rfl⟩ := h
      exact ⟨temp, u, record, rfl, hf, rfl⟩

/-- **The record of a header** has the text of its temporary file and the one of its target. -/
lemma recordOf_ok (h : recordOf t target temp = .ok record) :
    record.target = target ∧ t.readText temp = .ok record.content ∧
      previousContent t target = .ok record.previous := by
  unfold recordOf at h
  rcases hr : t.readText temp with cause | text
  · simp [hr] at h
  · rcases hp : previousContent t target with failure | previous
    · simp [hr, hp, bind, Except.bind] at h
    · simp only [hr, hp, bind, Except.bind, pure, Except.pure, Except.ok.injEq] at h
      subst h
      exact ⟨rfl, rfl, rfl⟩

/-! ## Many stages -/

/-- **A transaction that stages have made**, from the working directory `w`. Before each stage the tree
may be any in which the temporary files of the earlier stages are still there. -/
inductive Built (programs : Programs) (w : Location) : Transaction → Prop where
  | start (formatter : Option FormatterCommand) (dryRun : Bool) :
      Built programs w (start formatter dryRun)
  | stage {tx tx' : Transaction} {t t' : FileTree} {target : Path} {content : String}
      (built : Built programs w tx) (workdir : t.workdir = w) (present : Present t tx.staged)
      (stage : tx.stage programs t target content = (.ok tx', t')) : Built programs w tx'

/-- The transaction and the tree after one more stage; a stage that fails leaves the transaction as it
was. -/
def withHeader (programs : Programs) (s : Transaction × FileTree) (target : Path)
    (content : String) : Transaction × FileTree :=
  match s.1.stage programs s.2 target content with
  | (.ok tx, t) => (tx, t)
  | (.error _, t) => (s.1, t)

/-- One more stage makes one more transaction, whether or not it fails. -/
lemma Built.withHeader {s : Transaction × FileTree} (h : Built programs w s.1)
    (hw : s.2.workdir = w) (hp : Present s.2 s.1.staged) (target : Path) (content : String) :
    Built programs w (withHeader programs s target content).1 := by
  unfold Transaction.withHeader
  rcases hs : s.1.stage programs s.2 target content with ⟨failure | tx, t⟩
  · exact h
  · exact h.stage hw hp hs

/-- **The temporary files of a transaction lie at different places**, and each has the name of a staged
file.

**Proof sketch.** Induction on the stages. The place of a new temporary file is free, and those of the
earlier ones are not. -/
lemma Built.places (h : Built programs w tx) :
    (tx.staged.map fun header => header.temp.place w).Nodup ∧
      ∀ header ∈ tx.staged, StagedAt (header.temp.place w) := by
  induction h with
  | start formatter dryRun => simp [Transaction.start]
  | @stage tx tx' t t' target content built workdir present stage ih =>
    obtain ⟨hnodup, hnames⟩ := ih
    obtain ⟨temp, u, record, hc, -, rfl⟩ := stage_ok stage
    obtain ⟨⟨n, hname⟩, l, hl, hfree, -⟩ := createTemp_eq_ok hc
    subst workdir
    constructor
    · rw [List.map_append, List.map_cons, List.map_nil, ← List.concat_eq_append,
        List.nodup_concat]
      refine ⟨fun hmem => ?_, hnodup⟩
      obtain ⟨header, hheader, hplace⟩ := List.mem_map.1 hmem
      refine present.file header hheader ?_
      rw [hplace, ← eq_place_of_locate hl, file?_of_entry?_none hfree]
    · intro header hheader
      rcases List.mem_append.1 hheader with hold | hnew
      · exact hnames header hold
      · obtain rfl := List.mem_singleton.1 hnew
        have hat := stagedAt_tempPath t (t.stagingDir target) target n t.workdir
        rwa [← hname] at hat

/-- The temporary files of a transaction, where they are there, are there at different places. -/
lemma Built.standing (h : Built programs w tx) (hw : t.workdir = w) (hp : Present t tx.staged) :
    Standing t tx.staged := by
  subst hw
  exact ⟨hp, h.places.1⟩

/-- The places of the temporary files of headers. -/
def tempPlaces (w : Location) (headers : List StagedHeader) : Set Location :=
  { l | ∃ header ∈ headers, l = header.temp.place w }

/-- **Backups lie elsewhere** than the temporary files of a transaction. -/
lemma Built.backupFree (h : Built programs w tx) (t : FileTree) :
    BackupFree (tempPlaces w tx.staged) t := by
  rintro dir n ⟨header, hheader, hplace⟩
  refine (h.places.2 header hheader).not_backupAt ?_
  rw [← hplace]
  exact backupAt_tempPath t dir n t.workdir

/-! ## Clearing away temporary files -/

/-- The paths of the temporary files are cleared away one after another. -/
lemma dropTemps_eq (t : FileTree) (headers : List StagedHeader) :
    dropTemps t headers = (headers.map StagedHeader.temp).foldl removeIfFile t := by
  rw [dropTemps, List.foldl_map]

/-- Clearing away temporary files keeps the directories. -/
lemma sameDirs_dropTemps (t : FileTree) (headers : List StagedHeader) :
    t.SameDirs (dropTemps t headers) := by
  rw [dropTemps_eq]
  exact sameDirs_foldl_removeIfFile t _

/-- Clearing away makes no file. -/
lemma file?_dropTemps_of_none (h : t.file? l = none) : (dropTemps t headers).file? l = none := by
  rw [dropTemps_eq]
  exact file?_foldl_removeIfFile_of_none h

/-- A temporary file that is reached is cleared away. -/
lemma file?_dropTemps_of_reaches (hmem : header ∈ headers) (hr : t.Reaches header.temp) :
    (dropTemps t headers).file? (header.temp.place t.workdir) = none := by
  rw [dropTemps_eq]
  exact file?_foldl_removeIfFile_of_reaches (List.mem_map_of_mem hmem) hr

/-- A file stays that no reached path of a temporary file leads to. -/
lemma file?_dropTemps_of_not_reaches
    (h : ∀ header ∈ headers, l = header.temp.place t.workdir → ¬ t.Reaches header.temp) :
    (dropTemps t headers).file? l = t.file? l := by
  rw [dropTemps_eq]
  exact file?_foldl_removeIfFile_of_not_reaches (List.forall_mem_map.2 h)

end UaHeaders.Transaction
