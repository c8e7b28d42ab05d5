import UaHeaders.Proofs.Commit.Staging

/-!
# The files after a failed commit

A commit that fails puts every target back, so the files are those from before. The temporary files go
too, but one way is left in which one stays: rolling back may take away a directory that was there
before, and a temporary file behind the failing header whose path leads through that directory is out
of reach then.

## Main definitions

* `UaHeaders.Transaction.stop?` — the state and the header at which a commit fails.
* `UaHeaders.Transaction.behind` — the headers that a failed commit did not get to.

## Main results

* `UaHeaders.Transaction.commit_error_files` — the files after a failed commit, and when no temporary
  file stays.
-/

set_option autoImplicit false

namespace UaHeaders

open FileTree Commit

variable {tx : Transaction} {programs : Programs} {t t' : FileTree} {w l : Location}
  {s s₁ s₂ : Commit} {header : StagedHeader} {done rest headers : List StagedHeader}
  {failure : Failure}

/-! ## Where a commit stops -/

/-- The state in which a run gets to the first header that cannot replace its target, that header and
those behind it. -/
def Commit.stop? (s : Commit) :
    List StagedHeader → Option (Commit × StagedHeader × List StagedHeader)
  | [] => none
  | header :: rest =>
    if header.record.unchanged then
      stop? { s with tree := s.tree.removeIfFile header.temp } rest
    else
      match s.replace header.record.target header.temp with
      | (.ok (), s) => stop? s rest
      | (.error _, _) => some (s, header, rest)

/-- A run stops at a header that cannot replace its target once it got past those before. -/
lemma Commit.stop?_eq (hp : Passes s done s₁)
    (hr : s₁.replace header.record.target header.temp = (.error failure, s₂))
    (hc : header.record.unchanged = false) :
    s.stop? (done ++ header :: rest) = some (s₁, header, rest) := by
  induction hp with
  | nil s => simp [Commit.stop?, hc, hr]
  | unchanged hun _ ih => simpa [Commit.stop?, hun] using ih hr
  | replaced hch hrep _ ih => simpa [Commit.stop?, hch, hrep] using ih hr

namespace Transaction

/-- Where a commit stops; one that is not allowed does not start. -/
def stop? (tx : Transaction) (t : FileTree) :
    Option (Commit × StagedHeader × List StagedHeader) :=
  if tx.dryRun then none else (Commit.start t).stop? tx.staged

/-- **The headers that a failed commit did not get to.** -/
def behind (tx : Transaction) (t : FileTree) : List StagedHeader :=
  match tx.stop? t with
  | some (_, _, rest) => rest
  | none => tx.staged

/-- **How a commit fails**: it is not allowed, or it stops at a header, rolls back and clears away the
temporary files behind.

**Proof sketch.** A commit that is allowed fails where its run does, and the run stops at the header that
is found by `stop?`. -/
lemma commit_error_cases (h : tx.commit t = (.error failure, t')) :
    tx.stop? t = none ∧ t' = dropTemps t tx.staged ∨
      ∃ done header rest s₁ s₂ cause, tx.staged = done ++ header :: rest ∧
        Passes (.start t) done s₁ ∧
        s₁.replace header.record.target header.temp = (.error cause, s₂) ∧
        tx.stop? t = some (s₁, header, rest) ∧ t' = dropTemps s₂.rollBack rest := by
  unfold commit at h
  unfold stop?
  split at h
  · next hdry =>
    simp only [Prod.mk.injEq] at h
    exact .inl ⟨if_pos hdry, h.2.symm⟩
  · next hdry =>
    rcases hrun : (Commit.start t).run tx.staged with ⟨cause | done, u⟩
    · simp only [hrun, Prod.mk.injEq] at h
      obtain ⟨-, rfl⟩ := h
      obtain ⟨done, header, rest, s₁, s₂, hlist, hpass, hch, hrep, rfl⟩ := run_error hrun
      refine .inr ⟨done, header, rest, s₁, s₂, cause, hlist, hpass, hrep, ?_, rfl⟩
      rw [if_neg hdry, hlist]
      exact stop?_eq hpass hrep hch
    · simp [hrun] at h

end Transaction

/-! ## Failed commits -/

/-- **Once a failed commit has rolled back**, the files are those from before, but for the temporary files
of the headers up to the failing one, which are gone, and but for `X`. -/
lemma Commit.file?_rollBack {X : Set Location} (hs : Standing t (done ++ header :: rest))
    (hX : BackupFree X t) (hclear : Clear X t.workdir (done ++ header :: rest))
    (hp : Passes (.start t) done s₁)
    (hr : s₁.replace header.record.target header.temp = (.error failure, s₂)) (hl : l ∉ X) :
    s₂.rollBack.file? l = erasedAll t.workdir (done ++ [header]) t.file? l ∧
      s₂.rollBack.workdir = t.workdir := by
  have hsound := (Sound.start hs).passes hp hX hclear
  have hw : s₁.tree.workdir = t.workdir := (Standing.passes hp hs).2.workdir
  obtain ⟨hfile, hwork⟩ := hsound.undone (hw.symm ▸ hclear.of_append) hr hl
  rw [hw] at hfile hwork
  refine ⟨hfile.trans ?_, hwork⟩
  rw [erasedAll, erasedAll, List.foldl_append]
  rfl

/-- The places of the temporary files of headers make an invariant for any targets. -/
lemma Commit.file?_rollBack_of_notMem (hs : Standing t (done ++ header :: rest))
    (hX : BackupFree (Transaction.tempPlaces t.workdir (done ++ header :: rest)) t)
    (hp : Passes (.start t) done s₁)
    (hr : s₁.replace header.record.target header.temp = (.error failure, s₂))
    (hl : l ∉ Transaction.tempPlaces t.workdir (done ++ header :: rest)) :
    s₂.rollBack.file? l = t.file? l ∧ s₂.rollBack.workdir = t.workdir := by
  have hclear : Clear (Transaction.tempPlaces t.workdir (done ++ header :: rest)) t.workdir
      (done ++ header :: rest) := .of_forall fun other ho => ⟨other, ho, rfl⟩
  obtain ⟨hfile, hwork⟩ := file?_rollBack hs hX hclear hp hr hl
  refine ⟨hfile.trans (erasedAll_of_notMem fun other ho heq => hl ⟨other, ?_, heq⟩), hwork⟩
  rw [List.append_cons]
  exact List.mem_append_left _ ho

namespace Transaction

/-- **The files after a failed commit.** Every file but the temporary ones is as before, with its
permission bits and its content, and there is no other. Where no target took the place of a temporary
file that was still to come, no temporary file stays exactly when the paths of those behind the failure
still lead somewhere.

**Proof sketch.** A commit fails without a start, or at a header that cannot replace its target. Then
the invariant of a commit holds before that header, and rolling back erases what it erases. The first
part takes the invariant outside of the temporary files, the second takes it everywhere; what is left
then are the files behind, and each is taken away if its path is reached. -/
theorem commit_error_files (hb : Built programs w tx) (hw : t.workdir = w)
    (hp : Present t tx.staged) (h : tx.commit t = (.error failure, t')) :
    (∀ l, l ∉ tempPlaces w tx.staged → t'.file? l = t.file? l) ∧
      (Clear ∅ w tx.staged → ((∀ l ∈ tempPlaces w tx.staged, t'.file? l = none) ↔
        ∀ header ∈ tx.behind t, t'.Reaches header.temp)) := by
  have hstanding := hb.standing hw hp
  have hfree := hb.backupFree t
  subst hw
  unfold behind
  obtain ⟨hstop, rfl⟩ | ⟨done, header, rest, s₁, s₂, cause, hlist, hpass, hrep, hstop, rfl⟩ :=
    commit_error_cases h
  · have hsame := sameDirs_dropTemps t tx.staged
    rw [hstop]
    refine ⟨fun l hl => ?_, fun _ => iff_of_true ?_ ?_⟩
    · exact file?_dropTemps_of_not_reaches fun header hmem hl' => absurd ⟨header, hmem, hl'⟩ hl
    · rintro l ⟨header, hmem, rfl⟩
      exact file?_dropTemps_of_reaches hmem (hp.reaches header hmem)
    · exact fun header hmem => (hp.reaches header hmem).mono hsame.within
  · rw [hstop]
    rw [hlist] at hstanding hfree ⊢
    have hsame := sameDirs_dropTemps s₂.rollBack rest
    constructor
    · intro l hl
      obtain ⟨hfile, hwork⟩ := file?_rollBack_of_notMem hstanding hfree hpass hrep hl
      rw [file?_dropTemps_of_not_reaches, hfile]
      intro other ho heq
      rw [hwork] at heq
      exact absurd ⟨other, by simp [ho], heq⟩ hl
    · intro hclear
      have hundone := fun l => file?_rollBack hstanding (fun _ _ => by simp) hclear hpass hrep
        (Set.notMem_empty l)
      have hwork : s₂.rollBack.workdir = t.workdir := (hundone []).2
      have happart : ∀ other ∈ done ++ [header], ∀ later ∈ rest,
          later.temp.place t.workdir ≠ other.temp.place t.workdir := by
        have hnodup := hstanding.nodup
        rw [List.append_cons, List.map_append, List.nodup_append] at hnodup
        intro other ho later hlater
        exact (hnodup.2.2 _ (List.mem_map_of_mem ho) _ (List.mem_map_of_mem hlater)).symm
      have hinj : ∀ other ∈ rest, ∀ later ∈ rest,
          later.temp.place t.workdir = other.temp.place t.workdir → later = other := by
        intro other ho later hlater heq
        exact List.inj_on_of_nodup_map hstanding.nodup (by simp [hlater]) (by simp [ho]) heq
      constructor
      · -- a temporary file behind the failure that is out of reach stays
        intro hgone later hlater
        by_contra hreach
        rw [hsame.reaches_iff] at hreach
        refine hstanding.file later (by simp [hlater]) ?_
        rw [← hgone _ ⟨later, by simp [hlater], rfl⟩, file?_dropTemps_of_not_reaches,
          (hundone _).1, erasedAll_of_notMem fun other ho => happart other ho later hlater]
        intro other ho heq
        rw [hwork] at heq
        rwa [← hinj other ho later hlater heq]
      · rintro hreach l ⟨other, ho, rfl⟩
        rw [List.append_cons, List.mem_append] at ho
        rcases ho with ho | ho
        · refine file?_dropTemps_of_none ?_
          rw [(hundone _).1, erasedAll_of_mem ho]
        · rw [← hwork]
          exact file?_dropTemps_of_reaches ho (hsame.reaches_iff.1 (hreach other ho))

/-! ## A temporary file that stays -/

/-- No program can be started. -/
def noPrograms : Programs := fun t _ _ => (.error .notFound, t)

/-- Two empty directories. -/
def twoRooms : FileTree := (FileTree.empty.put ["a"] .directory).put ["b"] .directory

/-- A header is staged for `a`, by a detour through a directory that is not there. -/
def oneDetour : Transaction × FileTree :=
  withHeader noPrograms (start none false, twoRooms) "c/../a/one.hpp" "x\n"

/-- A second header is staged outside of the directories. -/
def noDetour : Transaction × FileTree := withHeader noPrograms oneDetour "two.hpp" "y\n"

/-- A third header is staged for `b`, by a detour through `a`. -/
def detours : Transaction × FileTree := withHeader noPrograms noDetour "a/../b/three.hpp" "z\n"

/-- Then a directory takes the place of the second target. -/
def blocked : FileTree := detours.2.put ["two.hpp"] .directory

/-- What is to be computed about the detours: their temporary files are there at each stage and when they
are committed, and the commit fails at the second header. -/
lemma detours_checked :
    Present oneDetour.2 oneDetour.1.staged ∧ Present noDetour.2 noDetour.1.staged ∧
      Present blocked detours.1.staged ∧
      (oneDetour.2.workdir = [] ∧ noDetour.2.workdir = [] ∧ blocked.workdir = []) ∧
      (detours.1.commit blocked).1 = .error (.io "two.hpp" .notDirectory) ∧
      ∃ header ∈ detours.1.staged,
        (detours.1.commit blocked).2.file? (header.temp.place []) ≠ none := by
  decide +kernel

/-- The stages of the detours make a transaction. -/
lemma built_detours : Built noPrograms [] detours.1 := by
  obtain ⟨h₁, h₂, -, ⟨hw₁, hw₂, -⟩, -⟩ := detours_checked
  have hone : Built noPrograms [] oneDetour.1 :=
    Built.withHeader (s := (start none false, twoRooms)) (.start none false) rfl (.nil twoRooms) _ _
  have htwo : Built noPrograms [] noDetour.1 := hone.withHeader hw₁ h₁ _ _
  exact htwo.withHeader hw₂ h₂ _ _

/-- The commit of the detours fails at the second header. -/
lemma commit_detours :
    detours.1.commit blocked =
      (.error (.io "two.hpp" .notDirectory), (detours.1.commit blocked).2) := by
  obtain ⟨-, -, -, -, h, -⟩ := detours_checked
  rw [← h]

/-- **The commit of the detours fails and leaves a temporary file**: rolling back takes `a` away, through
which the path of the third one leads. -/
theorem commit_detours_leaves :
    Built noPrograms [] detours.1 ∧ Present blocked detours.1.staged ∧
      Clear ∅ [] detours.1.staged ∧
      (detours.1.commit blocked).1 = .error (.io "two.hpp" .notDirectory) ∧
      ∃ header ∈ detours.1.staged,
        (detours.1.commit blocked).2.file? (header.temp.place []) ≠ none := by
  obtain ⟨-, -, hpresent, -, hfail, hstays⟩ := detours_checked
  refine ⟨built_detours, hpresent, ?_, hfail, hstays⟩
  decide +kernel

/-- Every file but the temporary ones is as before the commit of the detours. -/
theorem commit_error_files_detours :
    (∀ l, l ∉ tempPlaces [] detours.1.staged →
      (detours.1.commit blocked).2.file? l = blocked.file? l) ∧
      (Clear ∅ [] detours.1.staged →
        ((∀ l ∈ tempPlaces [] detours.1.staged, (detours.1.commit blocked).2.file? l = none) ↔
          ∀ header ∈ detours.1.behind blocked,
            (detours.1.commit blocked).2.Reaches header.temp)) := by
  obtain ⟨-, -, hpresent, ⟨-, -, hw⟩, -⟩ := detours_checked
  exact commit_error_files built_detours hw hpresent commit_detours

end Transaction

end UaHeaders
