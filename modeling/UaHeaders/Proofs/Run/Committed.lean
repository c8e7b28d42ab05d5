import UaHeaders.Proofs.Files.Parents
import UaHeaders.Proofs.Run.Staged

/-!
# A commit that succeeds

When a commit succeeds, every header that was not unchanged stands at its target, with the permission
bits that the target had, and nothing else is new but directories above such targets. The statement
compares the tree with the one before staging, so that temporary files and backups do not occur in it.

## Main definitions

* `UaHeaders.FileTree.modeAt` — the permission bits that a file written to a location gets.
* `UaHeaders.Transaction.Tidy` — the targets of headers are apart from their temporary files.
* `UaHeaders.Commit.Progress` — the invariant of a commit that succeeds.
* `UaHeaders.Transaction.Committed` — a tree after headers were committed.

## Main results

* `UaHeaders.Commit.Progress.unchanged`, `UaHeaders.Commit.Progress.replaced` — one header.
* `UaHeaders.Transaction.committed_of_commit` — a whole commit.
-/

set_option autoImplicit false

namespace UaHeaders

open FileTree Commit

variable {s s₁ s' : Commit} {t t' u : FileTree} {l m : Location} {w : Location}
  {header : StagedHeader} {all done rest headers : List StagedHeader} {tx : Transaction}

/-- **The permission bits that a file written to a location gets**: those of the file that is there, or
those of a new one. -/
def FileTree.modeAt (t : FileTree) (l : Location) : Nat :=
  match t.file? l with
  | some (mode, _) => mode
  | none => newFileMode

namespace Transaction

/-- A header is written to a location. -/
def Writes (w : Location) (headers : List StagedHeader) (l : Location) : Prop :=
  ∃ header ∈ headers, header.record.unchanged = false ∧ l = header.record.target.place w

/-- **The targets of headers are apart** from temporary files and backups by their names, and headers for
one place have one content. -/
structure Tidy (w : Location) (headers : List StagedHeader) : Prop where
  apart : ∀ header ∈ headers, ¬ StagedAt (header.record.target.place w) ∧
    ¬ BackupAt (header.record.target.place w)
  agree : ∀ header ∈ headers, ∀ other ∈ headers,
    header.record.target.place w = other.record.target.place w →
      header.record.content = other.record.content

end Transaction

open Transaction

namespace Commit

/-- The location of a backup that is noted. -/
def HasBackup (s : Commit) (w : Location) (l : Location) : Prop :=
  ∃ r ∈ s.replaced, ∃ b ∈ r.backup, l = b.place w

/-- **The invariant of a commit that succeeds**, with the headers `done` behind it and `rest` before it:
compared with the tree before staging, the new directories are above targets, the targets are written,
the temporary files behind are gone and those before wait, and backups stand where no file was. -/
structure Progress (t : FileTree) (all done rest : List StagedHeader) (s : Commit) : Prop where
  within : t.Within s.tree
  newDirs : ∀ l, s.tree.DirAt l → ¬ t.DirAt l →
    ∃ header ∈ done, header.record.unchanged = false ∧
      ∃ p ∈ header.record.target.ancestors.tail,
        t.pathExists (directoryName p) = false ∧ s.tree.locate (directoryName p) = .ok l
  written : ∀ header ∈ done, header.record.unchanged = false →
    s.tree.Reaches header.record.target ∧
      s.tree.file? (header.record.target.place t.workdir) =
        some (t.modeAt (header.record.target.place t.workdir), header.record.content.toUTF8)
  gone : ∀ header ∈ done, s.tree.file? (header.temp.place t.workdir) = none
  waiting : ∀ header ∈ rest, s.tree.Reaches header.temp ∧
    s.tree.file? (header.temp.place t.workdir) =
      some (tempFileMode, header.record.content.toUTF8)
  backups : ∀ r ∈ s.replaced, ∀ b ∈ r.backup, s.tree.Reaches b ∧
    BackupAt (b.place t.workdir) ∧ t.file? (b.place t.workdir) = none
  others : ∀ l, ¬ Writes t.workdir done l → l ∉ tempPlaces t.workdir all →
    ¬ s.HasBackup t.workdir l → s.tree.file? l = t.file? l

/-- The invariant holds when the headers are staged. -/
lemma Progress.start (h : Ready t u headers) : Progress t headers [] headers (.start u) := by
  have hw : u.workdir = t.workdir := h.sameDirs.workdir
  refine ⟨h.sameDirs.within, fun l hl hn => absurd ((h.sameDirs.dirAt l).1 hl) hn, by simp, by simp,
    fun header hh => ⟨(h.reaches header hh).mono h.sameDirs.within, h.file header hh⟩, ?_, ?_⟩
  · intro r hr
    simp [Commit.start] at hr
  · intro l _ hl _
    exact h.others l hl

/-- Places of headers that are apart from others by their names. -/
lemma ne_of_apart (ht : Tidy t.workdir all) (hh : header ∈ all) :
    (StagedAt l → header.record.target.place t.workdir ≠ l) ∧
      (BackupAt l → header.record.target.place t.workdir ≠ l) := by
  obtain ⟨hstaged, hbackup⟩ := ht.apart header hh
  constructor
  · rintro hl rfl
    exact hstaged hl
  · rintro hl rfl
    exact hbackup hl

/-- Headers to come have other temporary files than the next one. -/
lemma temp_ne_of_nodup (hready : Ready t u (done ++ header :: rest)) {other : StagedHeader}
    (ho : other ∈ rest) : other.temp.place t.workdir ≠ header.temp.place t.workdir := by
  have hnodup := hready.nodup
  rw [List.map_append, List.map_cons, List.nodup_append, List.nodup_cons] at hnodup
  intro heq
  exact hnodup.2.1.1 (heq ▸ List.mem_map_of_mem ho)

/-- **Clearing away an unchanged header** keeps the invariant.

**Proof sketch.** Only the temporary file of the header goes. It is none of the other files that the
invariant speaks of: their places differ, by their names or because staging took a new one each time. -/
lemma Progress.unchanged (h : Progress t (done ++ header :: rest) done (header :: rest) s)
    (hready : Ready t u (done ++ header :: rest)) (ht : Tidy t.workdir (done ++ header :: rest))
    (hun : header.record.unchanged = true) :
    Progress t (done ++ header :: rest) (done ++ [header]) rest
      { s with tree := s.tree.removeIfFile header.temp } := by
  obtain ⟨hreach, hfile⟩ := h.waiting header (by simp)
  have hsame := sameDirs_removeIfFile s.tree header.temp
  have hviews : ∀ m, (s.tree.removeIfFile header.temp).file? m =
      if m = header.temp.place t.workdir then none else s.tree.file? m := by
    intro m
    rw [file?_removeIfFile hreach, h.within.workdir]
  have hnamed := hready.named header (by simp)
  refine ⟨h.within.trans hsame.within, fun l hl hn => ?_, fun other ho hch => ?_,
    List.forall_mem_append.2 ⟨fun other ho => ?_, List.forall_mem_singleton.2 ?_⟩,
    fun other ho => ?_, fun r hr b hb => ?_, fun l hw hl hb => ?_⟩
  · obtain ⟨other, ho, hch, p, hp, hx, hloc⟩ := h.newDirs l ((hsame.dirAt l).1 hl) hn
    exact ⟨other, by simp [ho], hch, p, hp, hx, locate_mono hsame.within hloc⟩
  · rcases List.mem_append.1 ho with ho' | ho'
    · obtain ⟨hr, hf⟩ := h.written other ho' hch
      refine ⟨hr.mono hsame.within, ?_⟩
      rw [hviews, if_neg ((ne_of_apart ht (by simp [ho'])).1 hnamed), hf]
    · rw [List.mem_singleton.1 ho', hun] at hch
      simp at hch
  · rw [hviews, h.gone other ho, ite_self]
  · rw [hviews, if_pos rfl]
  · obtain ⟨hr, hf⟩ := h.waiting other (by simp [ho])
    refine ⟨hr.mono hsame.within, ?_⟩
    rw [hviews, if_neg (temp_ne_of_nodup hready ho), hf]
  · obtain ⟨hr', hat, hfree⟩ := h.backups r hr b hb
    exact ⟨hr'.mono hsame.within, hat, hfree⟩
  · rw [hviews, if_neg, h.others l (fun ⟨k, hk, hkw⟩ => hw ⟨k, by simp [hk], hkw⟩) hl hb]
    rintro rfl
    exact hl ⟨header, by simp, rfl⟩

/-- The permission bits at the place of a target are those from before staging. -/
lemma Progress.modeAt_eq (h : Progress t all done rest s) (hready : Ready t u all)
    (hs : ¬ StagedAt l) (hb : ¬ BackupAt l) : s.tree.modeAt l = t.modeAt l := by
  by_cases hw : Writes t.workdir done l
  · obtain ⟨k, hk, hch, rfl⟩ := hw
    rw [modeAt, (h.written k hk hch).2]
  · have hsame : s.tree.file? l = t.file? l := by
      refine h.others l hw ?_ ?_
      · rintro ⟨k, hk, rfl⟩
        exact hs (hready.named k hk)
      · rintro ⟨r, hr, b, hb', rfl⟩
        exact hb (h.backups r hr b hb').2.1
    rw [modeAt, modeAt, hsame]

/-- What was there before staging is there, as long as a commit makes progress.

**Proof sketch.** A directory stays. A file was written over or left as it was, or is none of those: the
places of temporary files and backups were free before. -/
lemma Progress.pathExists (h : Progress t all done rest s) (hready : Ready t u all) {p : Path}
    (hp : t.pathExists p = true) : s.tree.pathExists p = true := by
  obtain ⟨l, hl, he⟩ := pathExists_iff.1 hp
  refine pathExists_iff.2 ⟨l, locate_mono h.within hl, fun hnone => he ?_⟩
  obtain ⟨hf, hd⟩ := entry?_eq_none_iff.1 hnone
  refine entry?_eq_none_iff.2 ⟨?_, fun hdir => hd (h.within.dirAt l hdir)⟩
  by_contra hfile
  by_cases hw : Writes t.workdir done l
  · obtain ⟨k, hk, hch, rfl⟩ := hw
    rw [(h.written k hk hch).2] at hf
    simp at hf
  · rw [h.others l hw] at hf
    · exact hfile hf
    · rintro ⟨k, hk, rfl⟩
      exact hfile (hready.free k hk)
    · rintro ⟨r, hr, b, hb, rfl⟩
      exact hfile (h.backups r hr b hb).2.2

/-- A file that replaces another one has its permission bits. -/
lemma Held.mode_eq {mode : Nat} {τ : Location} {o : Option Path} {β? : Option Location}
    (h : Held t u l τ mode o β?) : mode = t.modeAt τ := by
  cases h with
  | nothing hfree hmode => rw [modeAt, hfree, hmode]
  | backup _ hfile => rw [modeAt, hfile]

/-- The location of a backup has the name of one. -/
lemma Held.backupAt {mode : Nat} {τ : Location} {o : Option Path} {β : Location}
    (h : Held t u l τ mode o (some β)) : BackupAt β := by
  cases h with
  | backup hname _ hloc =>
    obtain ⟨dir, n, hname⟩ := hname
    rw [eq_place_of_locate hloc, hname]
    exact backupAt_tempPath t dir n u.workdir

/-- **The next header is exchanged** when its target is replaced. -/
lemma Progress.exchanged (h : Progress t all done (header :: rest) s)
    (hr : s.replace header.record.target header.temp = (.ok (), s₁)) :
    s₁.tree.workdir = t.workdir ∧ s₁.tree.Reaches header.record.target ∧
      ∃ mode b β?, Exchanged s.tree s₁.tree header.record.target (header.temp.place t.workdir)
          (header.record.target.place t.workdir) mode header.record.content.toUTF8 β? ∧
        Held s.tree s₁.tree (header.temp.place t.workdir)
          (header.record.target.place t.workdir) mode b β? ∧
        s₁.replaced = ⟨header.record.target, b⟩ :: s.replaced := by
  obtain ⟨hreach, hfile⟩ := h.waiting header (by simp)
  have hl : s.tree.locate header.temp = .ok (header.temp.place t.workdir) := by
    rw [← h.within.workdir]
    exact hreach
  obtain ⟨τ, mode, b, β?, hex, hheld, hrep⟩ := replace_ok hl hfile hr
  obtain ⟨hreachτ, rfl⟩ := locate_eq_ok_iff.1 hex.locate
  have hwork : s₁.tree.workdir = t.workdir := hex.within.workdir.trans h.within.workdir
  rw [hwork] at hex hheld
  exact ⟨hwork, hreachτ, mode, b, β?, hex, hheld, hrep⟩

/-- **Where a backup is made, no file was before staging.** -/
lemma Progress.free (h : Progress t all done rest s) (hready : Ready t u all)
    (ht : Tidy t.workdir all) (hdone : ∀ k ∈ done, k ∈ all) (hat : BackupAt l)
    (hfree : s.tree.file? l = none) : t.file? l = none := by
  by_cases hold : s.HasBackup t.workdir l
  · obtain ⟨r, hr, b, hb, rfl⟩ := hold
    exact (h.backups r hr b hb).2.2
  · rw [← h.others l ?_ ?_ hold, hfree]
    · rintro ⟨k, hk, -, rfl⟩
      exact (ht.apart k (hdone k hk)).2 hat
    · rintro ⟨k, hk, rfl⟩
      exact (hready.named k hk).not_backupAt hat

/-- The backups that are noted after a replacement: the earlier ones, and that of the target. -/
lemma Progress.backups_of_held {τ : Location} {mode : Nat} {path : Path} {o : Option Path}
    {β? : Option Location} (h : Progress t all done rest s) (hready : Ready t u all)
    (ht : Tidy t.workdir all) (hdone : ∀ k ∈ done, k ∈ all) (hwithin : s.tree.Within s₁.tree)
    (hheld : Held s.tree s₁.tree m τ mode o β?) (hrep : s₁.replaced = ⟨path, o⟩ :: s.replaced) :
    ∀ r ∈ s₁.replaced, ∀ b ∈ r.backup, s₁.tree.Reaches b ∧
      BackupAt (b.place t.workdir) ∧ t.file? (b.place t.workdir) = none := by
  have hwork : s₁.tree.workdir = t.workdir := hwithin.workdir.trans h.within.workdir
  rw [hrep]
  refine List.forall_mem_cons.2 ⟨fun b hb => ?_, fun r hr b hb => ?_⟩
  · obtain rfl : o = some b := hb
    obtain ⟨rfl, hreach, hfree⟩ := hheld.of_some
    have hat := hheld.backupAt
    rw [hwork] at hat hfree
    exact ⟨hreach, hat, h.free hready ht hdone hat hfree⟩
  · obtain ⟨hreach, hat, hfree⟩ := h.backups r hr b hb
    exact ⟨hreach.mono hwithin, hat, hfree⟩

/-- **Replacing a target** keeps the invariant.

**Proof sketch.** The places of targets, of temporary files and of backups are told apart by their
names. So the replacement changes the file at the target, takes away one temporary file, and makes one
backup where nothing was. An earlier header for the same place had the same content and gave it the same
permission bits. -/
lemma Progress.replaced (h : Progress t (done ++ header :: rest) done (header :: rest) s)
    (hready : Ready t u (done ++ header :: rest)) (ht : Tidy t.workdir (done ++ header :: rest))
    (hch : header.record.unchanged = false)
    (hr : s.replace header.record.target header.temp = (.ok (), s₁)) :
    Progress t (done ++ header :: rest) (done ++ [header]) rest s₁ := by
  obtain ⟨hwork, hreachτ, mode, b, β?, hex, hheld, hrep⟩ := h.exchanged hr
  have hmem : header ∈ done ++ header :: rest := by simp
  obtain ⟨hnot_staged, hnot_backup⟩ := ht.apart header hmem
  have hmode : mode = t.modeAt (header.record.target.place t.workdir) := by
    rw [hheld.mode_eq, h.modeAt_eq hready hnot_staged hnot_backup]
  have hnamed := hready.named header hmem
  have hβ : ∀ m, ¬ BackupAt m → some m ≠ β? := by
    rintro m hm rfl
    exact hm hheld.backupAt
  -- a temporary file of another header stays where it is
  have htemps : ∀ other ∈ done ++ header :: rest,
      other.temp.place t.workdir ≠ header.temp.place t.workdir →
      s₁.tree.file? (other.temp.place t.workdir) = s.tree.file? (other.temp.place t.workdir) := by
    intro other ho hne
    have hat := hready.named other ho
    exact hex.file?_of_ne ((ne_of_apart ht hmem).1 hat).symm hne (hβ _ hat.not_backupAt)
  constructor
  case within => exact h.within.trans hex.within
  case newDirs =>
    intro l hl hn
    by_cases hs : s.tree.DirAt l
    · obtain ⟨other, ho, hch', p, hp, hx, hloc⟩ := h.newDirs l hs hn
      exact ⟨other, by simp [ho], hch', p, hp, hx, locate_mono hex.within hloc⟩
    · obtain ⟨p, hp, hx, hloc⟩ := hex.newDirs l hl hs
      refine ⟨header, by simp, hch, p, hp, ?_, hloc⟩
      by_contra hex'
      rw [h.pathExists hready (by simpa using hex')] at hx
      simp at hx
  case written =>
    refine List.forall_mem_append.2 ⟨fun other ho hch' => ?_, List.forall_mem_singleton.2 fun _ =>
      ⟨hreachτ, by rw [hex.file?, if_pos rfl, hmode]⟩⟩
    obtain ⟨hr', hf⟩ := h.written other ho hch'
    refine ⟨hr'.mono hex.within, ?_⟩
    by_cases heq : other.record.target.place t.workdir = header.record.target.place t.workdir
    · rw [heq, hex.file?, if_pos rfl, hmode, ht.agree header hmem other (by simp [ho]) heq.symm]
    · obtain ⟨-, hno⟩ := ht.apart other (by simp [ho])
      rw [hex.file?_of_ne heq ((ne_of_apart ht (by simp [ho])).1 hnamed) (hβ _ hno), hf]
  case gone =>
    have hgone : s₁.tree.file? (header.temp.place t.workdir) = none := by
      rw [hex.file?, if_neg hex.ne_temp.symm, if_pos rfl]
    refine List.forall_mem_append.2 ⟨fun other ho => ?_, List.forall_mem_singleton.2 hgone⟩
    by_cases heq : other.temp.place t.workdir = header.temp.place t.workdir
    · rw [heq, hgone]
    · rw [htemps other (by simp [ho]) heq, h.gone other ho]
  case waiting =>
    intro other ho
    obtain ⟨hr', hf⟩ := h.waiting other (by simp [ho])
    exact ⟨hr'.mono hex.within, by rw [htemps other (by simp [ho]) (temp_ne_of_nodup hready ho), hf]⟩
  case backups =>
    exact h.backups_of_held hready ht (fun k hk => List.mem_append_left _ hk) hex.within hheld hrep
  case others =>
    intro l hw hl hb
    have hτ : l ≠ header.record.target.place t.workdir := by
      rintro rfl
      exact hw ⟨header, by simp, hch, rfl⟩
    have htemp : l ≠ header.temp.place t.workdir := by
      rintro rfl
      exact hl ⟨header, hmem, rfl⟩
    have hbackup : some l ≠ β? := by
      rintro rfl
      cases hheld with
      | @backup b' _ _ _ _ hloc =>
        refine hb ⟨⟨header.record.target, some b'⟩, by simp [hrep], b', rfl, ?_⟩
        rw [eq_place_of_locate hloc, hwork]
    rw [hex.file?_of_ne hτ htemp hbackup]
    refine h.others l (fun ⟨k, hk, hkw⟩ => hw ⟨k, by simp [hk], hkw⟩) hl ?_
    rintro ⟨r, hr', hb'⟩
    exact hb ⟨r, by simp [hrep, hr'], hb'⟩

/-- **Getting past headers** keeps the invariant. -/
lemma Progress.passes (hp : Passes s headers s') (h : Progress t (done ++ headers) done headers s)
    (hready : Ready t u (done ++ headers)) (ht : Tidy t.workdir (done ++ headers)) :
    Progress t (done ++ headers) (done ++ headers) [] s' := by
  induction hp generalizing done with
  | nil s => simpa using h
  | unchanged hun _ ih =>
    have hnext := h.unchanged hready ht hun
    rw [List.append_cons] at hnext hready ht ⊢
    exact ih hnext hready ht
  | replaced hch hr _ ih =>
    have hnext := h.replaced hready ht hch hr
    rw [List.append_cons] at hnext hready ht ⊢
    exact ih hnext hready ht

/-! ## Closing -/

/-- The paths of the backups are cleared away one after another. -/
lemma close_eq (s : Commit) :
    s.close = (s.replaced.filterMap Replaced.backup).foldl removeIfFile s.tree := by
  rw [close, List.foldl_filterMap]
  congr
  funext t r
  cases r.backup <;> rfl

/-- Closing takes away the backups, which are reached, and nothing else. -/
lemma close_views (h : ∀ r ∈ s.replaced, ∀ b ∈ r.backup, s.tree.Reaches b) :
    s.tree.SameDirs s.close ∧
      (∀ l, s.HasBackup s.tree.workdir l → s.close.file? l = none) ∧
      ∀ l, ¬ s.HasBackup s.tree.workdir l → s.close.file? l = s.tree.file? l := by
  rw [close_eq]
  refine ⟨sameDirs_foldl_removeIfFile _ _, fun l hl => ?_, fun l hl => ?_⟩
  · obtain ⟨r, hr, b, hb, rfl⟩ := hl
    exact file?_foldl_removeIfFile_of_reaches (List.mem_filterMap.2 ⟨r, hr, hb⟩) (h r hr b hb)
  · refine file?_foldl_removeIfFile_of_not_reaches fun b hb heq => absurd ?_ hl
    obtain ⟨r, hr, hb⟩ := List.mem_filterMap.1 hb
    exact ⟨r, hr, b, hb, heq⟩

end Commit

namespace Transaction

/-! ## Whole commits -/

/-- **A tree after headers were committed**, compared with the one before staging. -/
structure Committed (t t' : FileTree) (headers : List StagedHeader) : Prop where
  within : t.Within t'
  newDirs : ∀ l, t'.DirAt l → ¬ t.DirAt l →
    ∃ header ∈ headers, header.record.unchanged = false ∧
      ∃ dir ∈ header.record.target.ancestors.tail,
        t.pathExists dir = false ∧ t'.locate dir = .ok l
  written : ∀ header ∈ headers, header.record.unchanged = false →
    t'.Reaches header.record.target ∧ t'.file? (header.record.target.place t.workdir) =
      some (t.modeAt (header.record.target.place t.workdir), header.record.content.toUTF8)
  others : ∀ l, ¬ Writes t.workdir headers l → t'.file? l = t.file? l

/-- A commit succeeds when it is allowed and gets past all headers; it closes then. -/
lemma commit_eq_ok {records : List HeaderRecord} (h : tx.commit u = (.ok records, t')) :
    records = tx.records ∧ ∃ s', Passes (.start u) tx.staged s' ∧ t' = s'.close := by
  unfold commit at h
  split at h
  · simp at h
  · rcases hrun : (Commit.start u).run tx.staged with ⟨cause | done, v⟩
    · simp [hrun] at h
    · simp only [hrun, Prod.mk.injEq, Except.ok.injEq] at h
      obtain ⟨rfl, rfl⟩ := h
      exact ⟨rfl, run_ok hrun⟩

/-- **A commit that succeeds** writes the headers that were not unchanged, and nothing else.

**Proof sketch.** The invariant holds at the start and is kept up to the last header. Closing takes away
the backups, which stand where no file was. -/
lemma committed_of_commit {records : List HeaderRecord} (hready : Ready t u tx.staged)
    (ht : Tidy t.workdir tx.staged) (h : tx.commit u = (.ok records, t')) :
    records = tx.records ∧ Committed t t' tx.staged := by
  obtain ⟨hrecords, s, hpass, rfl⟩ := commit_eq_ok h
  refine ⟨hrecords, ?_⟩
  have hprogress : Progress t ([] ++ tx.staged) ([] ++ tx.staged) [] s :=
    .passes hpass (.start hready) hready ht
  rw [List.nil_append] at hprogress
  have hwork := hprogress.within.workdir
  obtain ⟨hsame, hin, hout⟩ := close_views fun r hr b hb => (hprogress.backups r hr b hb).1
  rw [hwork] at hin hout
  have hbackup : ∀ l, ¬ BackupAt l → ¬ s.HasBackup t.workdir l := by
    rintro l hl ⟨r, hr, b, hb, rfl⟩
    exact hl (hprogress.backups r hr b hb).2.1
  refine ⟨hprogress.within.trans hsame.within, fun l hl hn => ?_, fun header hh hch => ?_,
    fun l hl => ?_⟩
  · obtain ⟨header, hh, hch, p, hp, hx, hloc⟩ := hprogress.newDirs l ((hsame.dirAt l).1 hl) hn
    rw [(Path.trimmed_of_mem_tail hp).directoryName] at hx hloc
    exact ⟨header, hh, hch, p, hp, hx, locate_mono hsame.within hloc⟩
  · obtain ⟨hreach, hfile⟩ := hprogress.written header hh hch
    refine ⟨hreach.mono hsame.within, ?_⟩
    rw [hout _ (hbackup _ (ht.apart header hh).2), hfile]
  · by_cases hb : s.HasBackup t.workdir l
    · obtain ⟨r, hr, b, hb', rfl⟩ := hb
      rw [hin _ ⟨r, hr, b, hb', rfl⟩, (hprogress.backups r hr b hb').2.2]
    · rw [hout l hb]
      by_cases htemp : l ∈ tempPlaces t.workdir tx.staged
      · obtain ⟨header, hh, rfl⟩ := htemp
        rw [hprogress.gone header hh, hready.free header hh]
      · exact hprogress.others l hl htemp hb

end Transaction

end UaHeaders
