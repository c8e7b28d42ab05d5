import UaHeaders.Proofs.Commit.Exchange

/-!
# Undoing a commit

A commit notes the targets it has replaced, the latest first. Putting them back one after another
undoes it: after each step the tree has the files that it had before the replacement, but for the
temporary file that was used up.

## Main definitions

* `UaHeaders.Commit.Passes` — a commit gets past some headers.
* `UaHeaders.Commit.Restorable` — a target can be put back.
* `UaHeaders.Commit.Undoes` — putting the targets back one after another leads to given files.
* `UaHeaders.Commit.Sound` — the invariant of a commit.

## Main results

* `UaHeaders.Commit.run_ok`, `UaHeaders.Commit.run_error` — how a commit ends.
* `UaHeaders.Commit.Sound.passes` — what the invariant says once some headers are passed.
* `UaHeaders.Commit.Sound.undone` — the files after a replacement failed and all is put back.

## Design

The invariant is kept outside a set `X` of locations. Two sets are of use later. With the places of all
temporary files, it holds for any targets; with the empty set it says more, and it needs that no
temporary file took the place of a target.
-/

set_option autoImplicit false

namespace UaHeaders.Commit

open FileTree

variable {s s' s₁ : Commit} {t u v : FileTree} {l m P τ β : Location} {target temp b : Path}
  {header : StagedHeader} {done rest headers : List StagedHeader} {r : Replaced}
  {rs : List Replaced} {failure : Failure} {X : Set Location}
  {G : Location → Option (Nat × ByteArray)} {w : Location}

/-! ## Getting past headers -/

/-- **A commit gets past headers**: those whose target has its content already are cleared away, the
others replace their targets. -/
inductive Passes : Commit → List StagedHeader → Commit → Prop where
  | nil (s : Commit) : Passes s [] s
  | unchanged {s s' : Commit} {header : StagedHeader} {rest : List StagedHeader}
      (unchanged : header.record.unchanged = true)
      (tail : Passes { s with tree := s.tree.removeIfFile header.temp } rest s') :
      Passes s (header :: rest) s'
  | replaced {s s₁ s' : Commit} {header : StagedHeader} {rest : List StagedHeader}
      (changed : header.record.unchanged = false)
      (replace : s.replace header.record.target header.temp = (.ok (), s₁))
      (tail : Passes s₁ rest s') : Passes s (header :: rest) s'

/-- **A commit succeeds** when it gets past all headers, and then it closes. -/
lemma run_ok (h : s.run headers = (.ok (), t)) :
    ∃ s', Passes s headers s' ∧ t = s'.close := by
  induction headers generalizing s with
  | nil => exact ⟨s, .nil s, by simpa [run, eq_comm] using h⟩
  | cons header rest ih =>
    unfold run at h
    split at h
    · next hun =>
      obtain ⟨s', hs', rfl⟩ := ih h
      exact ⟨s', .unchanged hun hs', rfl⟩
    · next hun =>
      rcases hr : s.replace header.record.target header.temp with ⟨failure | done, s₁⟩
      · simp [hr] at h
      · rw [hr] at h
        obtain ⟨s', hs', rfl⟩ := ih h
        exact ⟨s', .replaced (by simpa using hun) hr hs', rfl⟩

/-- **A commit fails** at a header that cannot replace its target; it gets past those before, rolls
back, and clears away those behind.

**Proof sketch.** Induction on the headers, by what happens to the first: it is passed over, it fails, or
it is replaced and the failure comes later. -/
lemma run_error (h : s.run headers = (.error failure, t)) :
    ∃ done header rest s₁ s₂, headers = done ++ header :: rest ∧ Passes s done s₁ ∧
      header.record.unchanged = false ∧
      s₁.replace header.record.target header.temp = (.error failure, s₂) ∧
      t = Transaction.dropTemps s₂.rollBack rest := by
  induction headers generalizing s with
  | nil => simp [run] at h
  | cons header rest ih =>
    unfold run at h
    split at h
    · next hun =>
      obtain ⟨done, bad, rest', s₁, s₂, rfl, hpass, hrest⟩ := ih h
      exact ⟨header :: done, bad, rest', s₁, s₂, rfl, .unchanged hun hpass, hrest⟩
    · next hun =>
      rw [Bool.not_eq_true] at hun
      rcases hr : s.replace header.record.target header.temp with ⟨cause | done, s₁⟩
      · simp only [hr, Prod.mk.injEq, Except.error.injEq] at h
        obtain ⟨rfl, rfl⟩ := h
        exact ⟨[], header, rest, s, s₁, rfl, .nil s, hun, hr, rfl⟩
      · rw [hr] at h
        obtain ⟨done, bad, rest', s₂, s₃, rfl, hpass, hrest⟩ := ih h
        exact ⟨header :: done, bad, rest', s₂, s₃, rfl, .replaced hun hr hpass, hrest⟩

/-! ## Putting targets back -/

/-- **A target can be put back**, but for locations in `X`: the path still leads there, to a file, and so
does the path of the backup if there is one. -/
structure Restorable (X : Set Location) (t : FileTree) (r : Replaced) : Prop where
  reaches : t.Reaches r.target
  file : r.target.place t.workdir ∈ X ∨ t.file? (r.target.place t.workdir) ≠ none
  backup : ∀ b, r.backup = some b → r.target.endsWithSeparator = false ∧ t.Reaches b ∧
    b.place t.workdir ∉ X ∧ t.file? (b.place t.workdir) ≠ none

/-- The files after a target was put back, but for locations in `X`. -/
def restored (t : FileTree) (r : Replaced) (l : Location) : Option (Nat × ByteArray) :=
  if l = r.target.place t.workdir then r.backup.bind fun b => t.file? (b.place t.workdir)
  else if some l = r.backup.map (Path.place t.workdir) then none
  else t.file? l

/-- Putting back a target that can be put back.

**Proof sketch.** By cases on the backup. With a backup, a directory may have come to the place of the
target; then nothing is moved, and the place is one that is left out. -/
lemma Restorable.file?_restore (h : Restorable X t r) (hl : l ∉ X) :
    (restore t r).file? l = restored t r l := by
  unfold restored
  rcases hb : r.backup with _ | b
  · simpa using file?_restore_none hb h.reaches
  obtain ⟨hsep, hreach, hX, hfile⟩ := h.backup b hb
  obtain ⟨⟨mode, content⟩, hf⟩ := Option.ne_none_iff_exists'.1 hfile
  by_cases hd : t.DirAt (r.target.place t.workdir)
  · -- a directory took the place of the target, which is in `X` then
    have hin : r.target.place t.workdir ∈ X := by
      rcases h.file with hin | hne
      · exact hin
      · exact absurd hd.file? hne
    have hne : l ≠ r.target.place t.workdir := fun heq => hl (heq ▸ hin)
    rw [file?_restore_blocked hb hreach h.reaches hd, if_neg hne]
    simp
  · rw [file?_restore_some hb hreach hf h.reaches hd hsep]
    simp [hf]

/-- **A target can be put back in a tree that is larger**, if the files at its place and at that of its backup
are the same, but for locations in `X`. -/
lemma Restorable.mono (h : Restorable X t r) (hw : t.Within u)
    (hτ : r.target.place t.workdir ∉ X →
      u.file? (r.target.place t.workdir) = t.file? (r.target.place t.workdir))
    (hβ : ∀ b, r.backup = some b → u.file? (b.place t.workdir) = t.file? (b.place t.workdir)) :
    Restorable X u r where
  reaches := h.reaches.mono hw
  file := by
    rw [hw.workdir]
    by_cases hX : r.target.place t.workdir ∈ X
    · exact .inl hX
    · rw [hτ hX]
      exact h.file
  backup := by
    intro b hb
    obtain ⟨hsep, hreach, hX, hfile⟩ := h.backup b hb
    rw [hw.workdir, hβ b hb]
    exact ⟨hsep, hreach.mono hw, hX, hfile⟩

/-- What a target is put back to depends on its backup and on the file that is there. -/
lemma restored_congr (hw : u.workdir = t.workdir)
    (hβ : ∀ b, r.backup = some b → u.file? (b.place t.workdir) = t.file? (b.place t.workdir))
    (hl : u.file? l = t.file? l) : restored u r l = restored t r l := by
  unfold restored
  rw [hw, hl]
  rcases hb : r.backup with _ | b
  · rfl
  · simp only [Option.bind_some, hβ b hb]

/-- Files without the one at `P`. -/
def erased (P : Location) (G : Location → Option (Nat × ByteArray)) (l : Location) :
    Option (Nat × ByteArray) :=
  if l = P then none else G l

/-- **Putting the targets back one after another** leads to the files `G`, but for locations in `X`. -/
def Undoes (X : Set Location) (G : Location → Option (Nat × ByteArray)) :
    List Replaced → FileTree → Prop
  | [], t => ∀ l, l ∉ X → t.file? l = G l
  | r :: rs, t => Restorable X t r ∧ Undoes X G rs (restore t r)

/-- Where the targets can be put back, they are. -/
lemma Undoes.file?_foldl (h : Undoes X G rs t) (hl : l ∉ X) :
    (rs.foldl restore t).file? l = G l := by
  induction rs generalizing t with
  | nil => exact h l hl
  | cons r rs ih => exact ih h.2

/-- The targets and the backups of what was noted are not at `P`. -/
def Avoids (w : Location) (P : Location) (rs : List Replaced) : Prop :=
  ∀ r ∈ rs, P ≠ r.target.place w ∧ ∀ b, r.backup = some b → P ≠ b.place w

/-- **A file that nothing noted is about may go**, or one in `X`, and directories may come: the targets
can be put back as before.

**Proof sketch.** Induction on what was noted. A target that can be put back in `t` can be put back in
`u`, since the paths still lead to the same places and these hold the same files; and then the two
trees differ again at `P` only, where nothing was put. -/
lemma Undoes.erase (h : Undoes X G rs t) (hw : t.Within u)
    (hu : ∀ m, m ∉ X → m ≠ P → u.file? m = t.file? m)
    (hP : P ∈ X ∨ u.file? P = none ∧ Avoids t.workdir P rs) :
    Undoes X (erased P G) rs u := by
  induction rs generalizing t u with
  | nil =>
    intro l hl
    unfold erased
    by_cases hlP : l = P
    · rcases hP with hP | ⟨hP, -⟩
      · exact absurd (hlP ▸ hP) hl
      · rw [if_pos hlP, hlP, hP]
    · rw [if_neg hlP, hu l hl hlP, h l hl]
  | cons r rs ih =>
    obtain ⟨hr, hrest⟩ := h
    have hτ : r.target.place t.workdir ∉ X →
        u.file? (r.target.place t.workdir) = t.file? (r.target.place t.workdir) := by
      intro hX
      refine hu _ hX ?_
      rcases hP with hP | ⟨-, hP⟩
      · rintro rfl
        exact hX hP
      · exact (hP r (by simp)).1.symm
    have hβ : ∀ b, r.backup = some b → u.file? (b.place t.workdir) = t.file? (b.place t.workdir) := by
      intro b hb
      have hX := (hr.backup b hb).2.2.1
      refine hu _ hX ?_
      rcases hP with hP | ⟨-, hP⟩
      · rintro rfl
        exact hX hP
      · exact ((hP r (by simp)).2 b hb).symm
    have hru := hr.mono hw hτ hβ
    have hwork := (sameDirs_restore t r).workdir
    refine ⟨hru, ih hrest ?_ (fun m hX hm => ?_) ?_⟩
    · exact ((sameDirs_restore t r).symm.within.trans hw).trans (sameDirs_restore u r).within
    · rw [hru.file?_restore hX, hr.file?_restore hX]
      exact restored_congr hw.workdir hβ (hu m hX hm)
    · rw [hwork]
      rcases hP with hP | ⟨hnone, hP⟩
      · exact .inl hP
      · obtain ⟨hτ, hβ⟩ := hP r (by simp)
        refine .inr ⟨?_, fun r' hr' => hP r' (by simp [hr'])⟩
        rw [file?_restore_of_ne (by rwa [hw.workdir]) (by rwa [hw.workdir]), hnone]

/-! ## The invariant of a commit -/

/-- **No target lies where a temporary file does that is still to come**, but for places in `X`. -/
def Clear (X : Set Location) (w : Location) : List StagedHeader → Prop
  | [] => True
  | header :: rest =>
    (∀ other ∈ header :: rest, other.temp.place w ∈ X ∨
      other.temp.place w ≠ header.record.target.place w) ∧ Clear X w rest

instance Clear.decidable (X : Set Location) [DecidablePred (· ∈ X)] (w : Location) :
    ∀ headers, Decidable (Clear X w headers)
  | [] => inferInstanceAs (Decidable True)
  | _ :: rest =>
    have := Clear.decidable X w rest
    inferInstanceAs (Decidable (_ ∧ _))

/-- Nothing is asked where all temporary files lie in `X`. -/
lemma Clear.of_forall (h : ∀ header ∈ headers, header.temp.place w ∈ X) : Clear X w headers := by
  induction headers with
  | nil => trivial
  | cons header rest ih =>
    exact ⟨fun other ho => .inl (h other ho), ih fun other ho => h other (by simp [ho])⟩

/-- What is asked of headers is asked of the one that comes after some. -/
lemma Clear.of_append (h : Clear X w (done ++ header :: rest)) :
    header.temp.place w ∈ X ∨ header.temp.place w ≠ header.record.target.place w := by
  induction done with
  | nil => exact h.1 header (by simp)
  | cons first done ih => exact ih h.2

/-- **The temporary files of headers are there.** -/
structure Present (t : FileTree) (headers : List StagedHeader) : Prop where
  reaches : ∀ header ∈ headers, t.Reaches header.temp
  file : ∀ header ∈ headers, t.file? (header.temp.place t.workdir) ≠ none

instance (t : FileTree) (headers : List StagedHeader) : Decidable (Present t headers) :=
  decidable_of_iff ((∀ header ∈ headers, t.Reaches header.temp) ∧
      ∀ header ∈ headers, t.file? (header.temp.place t.workdir) ≠ none)
    ⟨fun h => ⟨h.1, h.2⟩, fun h => ⟨h.reaches, h.file⟩⟩

/-- Nothing has to be there for no headers. -/
lemma Present.nil (t : FileTree) : Present t [] := ⟨by simp, by simp⟩

/-- **The temporary files of headers are there**, each at a place of its own. -/
structure Standing (t : FileTree) (headers : List StagedHeader) : Prop
    extends Present t headers where
  nodup : (headers.map fun header => header.temp.place t.workdir).Nodup

/-- **The invariant of a commit** with the headers `rest` to come: the temporary files of these are
there, what was noted leads back to the files `G`, and it is not about these temporary files. -/
structure Sound (X : Set Location) (G : Location → Option (Nat × ByteArray))
    (rest : List StagedHeader) (s : Commit) : Prop where
  standing : Standing s.tree rest
  undoes : Undoes X G s.replaced s.tree
  avoids : ∀ header ∈ rest, header.temp.place s.tree.workdir ∈ X ∨
    Avoids s.tree.workdir (header.temp.place s.tree.workdir) s.replaced

/-- Nothing is noted at first. -/
lemma Sound.start (h : Standing t headers) : Sound X t.file? headers (.start t) :=
  ⟨h, fun _ _ => rfl, fun _ _ => .inr fun _ hr => absurd hr (by simp [Commit.start])⟩

/-- The place of the next temporary file, with what stands there. -/
lemma Standing.head (h : Standing t (header :: rest)) :
    ∃ mode content, t.locate header.temp = .ok (header.temp.place t.workdir) ∧
      t.file? (header.temp.place t.workdir) = some (mode, content) := by
  obtain ⟨⟨mode, content⟩, hf⟩ := Option.ne_none_iff_exists'.1 (h.file header (by simp))
  exact ⟨mode, content, h.reaches header (by simp), hf⟩

/-- The other temporary files lie elsewhere. -/
lemma Standing.ne_head (h : Standing t (header :: rest)) {other : StagedHeader}
    (ho : other ∈ rest) : other.temp.place t.workdir ≠ header.temp.place t.workdir := by
  have hnodup := h.nodup
  simp only [List.map_cons, List.nodup_cons, List.mem_map, not_exists, not_and] at hnodup
  exact hnodup.1 other ho

/-- The other temporary files stay where directories stay and files do. -/
lemma Standing.tail (h : Standing t (header :: rest)) (hw : t.Within u)
    (hu : ∀ other ∈ rest, u.file? (other.temp.place t.workdir) ≠ none) : Standing u rest := by
  refine ⟨⟨fun other ho => (h.reaches other (by simp [ho])).mono hw, fun other ho => ?_⟩, ?_⟩
  · rw [hw.workdir]
    exact hu other ho
  · have hnodup := h.nodup
    rw [List.map_cons, List.nodup_cons] at hnodup
    rw [hw.workdir]
    exact hnodup.2

/-- Backups do not lie in `X`. -/
def BackupFree (X : Set Location) (t : FileTree) : Prop :=
  ∀ dir n, (t.tempPath dir (tempName backupName "" n)).place t.workdir ∉ X

/-- Where backups lie depends on the working directory only. -/
lemma BackupFree.congr (h : BackupFree X t) (hw : u.workdir = t.workdir) : BackupFree X u := by
  intro dir n
  rw [tempPath_congr hw, hw]
  exact h dir n

/-- Clearing away one temporary file leaves the others there. -/
lemma Standing.unchanged (h : Standing t (header :: rest)) :
    Standing (t.removeIfFile header.temp) rest := by
  obtain ⟨mode, content, hl, -⟩ := h.head
  refine h.tail (sameDirs_removeIfFile t header.temp).within fun other ho => ?_
  rw [file?_removeIfFile hl, if_neg (h.ne_head ho)]
  exact h.file other (by simp [ho])

/-- What stands under the name of a backup after a replacement stood nowhere before. -/
lemma Held.free {mode : Nat} {o : Option Path} {β? : Option Location}
    (h : Held t u l τ mode o β?) {β : Location} (hβ : β? = some β) : t.file? β = none := by
  subst hβ
  cases h with
  | backup _ _ _ hfree _ _ => exact hfree

/-- Replacing a target leaves the other temporary files there. -/
lemma Standing.replaced (h : Standing s.tree (header :: rest))
    (hr : s.replace header.record.target header.temp = (.ok (), s₁)) :
    Standing s₁.tree rest ∧ s.tree.Within s₁.tree := by
  obtain ⟨old, content, hl, hf⟩ := h.head
  obtain ⟨τ, mode, b, β?, hex, hheld, -⟩ := replace_ok hl hf hr
  refine ⟨h.tail hex.within fun other ho => ?_, hex.within⟩
  have hthere := h.file other (by simp [ho])
  rw [hex.file?]
  split_ifs with h₁ h₂ h₃
  · simp
  · exact absurd h₂ (h.ne_head ho)
  · exact absurd (hheld.free h₃.symm) hthere
  · exact hthere

/-- The temporary files of the headers to come are there after a commit got past others. -/
lemma Standing.passes (hp : Passes s done s') (h : Standing s.tree (done ++ rest)) :
    Standing s'.tree rest ∧ s.tree.Within s'.tree := by
  induction hp with
  | nil s => exact ⟨h, .refl _⟩
  | unchanged _ _ ih =>
    obtain ⟨hs, hw⟩ := ih h.unchanged
    exact ⟨hs, (sameDirs_removeIfFile _ _).within.trans hw⟩
  | replaced _ hr _ ih =>
    obtain ⟨hs, hw⟩ := h.replaced hr
    obtain ⟨hs', hw'⟩ := ih hs
    exact ⟨hs', hw.trans hw'⟩

/-- **Clearing away a header that has nothing to replace** keeps the invariant. -/
lemma Sound.unchanged (h : Sound X G (header :: rest) s) :
    Sound X (erased (header.temp.place s.tree.workdir) G) rest
      { s with tree := s.tree.removeIfFile header.temp } := by
  obtain ⟨mode, content, hl, hf⟩ := h.standing.head
  have hsame := sameDirs_removeIfFile s.tree header.temp
  have hfile : ∀ m, (s.tree.removeIfFile header.temp).file? m =
      if m = header.temp.place s.tree.workdir then none else s.tree.file? m :=
    fun m => file?_removeIfFile hl
  refine ⟨h.standing.unchanged,
    h.undoes.erase hsame.within (fun m _ hm => by rw [hfile, if_neg hm]) ?_, fun other ho => ?_⟩
  · refine (h.avoids header (by simp)).imp_right fun havoid => ⟨?_, havoid⟩
    rw [hfile, if_pos rfl]
  · simp only [hsame.workdir]
    exact h.avoids other (by simp [ho])

/-- **A target that was replaced can be put back**, and then it holds what it held.

**Proof sketch.** By what the target held. If it held nothing, taking back removes the new file. If a
backup was made, its place is none of the other two, and the file there is the old one. -/
lemma Exchanged.restorable {mode : Nat} {content : ByteArray} {o : Option Path}
    {β? : Option Location} (hex : Exchanged t u target l τ mode content β?)
    (hheld : Held t u l τ mode o β?) (hX : BackupFree X t) :
    Restorable X u ⟨target, o⟩ ∧ ∀ m, m ≠ l → restored u ⟨target, o⟩ m = t.file? m := by
  obtain ⟨hreach, hτ⟩ := locate_eq_ok_iff.1 hex.locate
  simp only [restored, ← hτ]
  cases hheld with
  | nothing hfree _ =>
    refine ⟨⟨hreach, .inr ?_, by simp⟩, fun m hm => ?_⟩
    · simp [← hτ, hex.file?]
    · simp only [Option.bind_none, Option.map_none, reduceCtorEq, if_false]
      split_ifs with h
      · rw [h, hfree]
      · simp [hex.file?, h, hm]
  | @backup b β old hname hfile hβ hfree hne_target hne_temp =>
    obtain ⟨hreachβ, rfl⟩ := locate_eq_ok_iff.1 hβ
    have hfileβ : u.file? (b.place u.workdir) = t.file? τ := hex.file?_backup hne_target hne_temp
    refine ⟨⟨hreach, .inr ?_, ?_⟩, fun m hm => ?_⟩
    · simp [← hτ, hex.file?]
    · simp only [Option.some.injEq, forall_eq']
      refine ⟨hex.plain, hreachβ, ?_, by simp [hfileβ, hfile]⟩
      obtain ⟨dir, n, hname⟩ := hname
      rw [hname, hex.within.workdir]
      exact hX dir n
    · simp only [Option.bind_some, Option.map_some, Option.some.injEq, hfileβ]
      split_ifs with h₁ h₂
      · rw [h₁]
      · rw [h₂, hfree]
      · simp [hex.file?, h₁, h₂, hm]

/-- **Replacing a target** keeps the invariant.

**Proof sketch.** Putting the target back gives the files from before, but for the temporary file that
went to the target. Nothing that was noted earlier is about that file, so what was noted still leads
back. -/
lemma Sound.replaced (h : Sound X G (header :: rest) s) (hX : BackupFree X s.tree)
    (hclear : ∀ other ∈ header :: rest, other.temp.place s.tree.workdir ∈ X ∨
      other.temp.place s.tree.workdir ≠ header.record.target.place s.tree.workdir)
    (hr : s.replace header.record.target header.temp = (.ok (), s₁)) :
    Sound X (erased (header.temp.place s.tree.workdir) G) rest s₁ := by
  obtain ⟨old, content, hl, hf⟩ := h.standing.head
  obtain ⟨τ, mode, b, β?, hex, hheld, hrep⟩ := replace_ok hl hf hr
  obtain ⟨hrestorable, hback⟩ := hex.restorable hheld hX
  obtain ⟨-, hτ⟩ := locate_eq_ok_iff.1 hex.locate
  rw [hex.within.workdir] at hτ
  have hb : ∀ b', b = some b' → s.tree.file? (b'.place s.tree.workdir) = none := by
    rintro b' rfl
    rw [← hex.within.workdir]
    exact hheld.of_some.2.2
  refine ⟨(h.standing.replaced hr).1, ?_, fun other ho => ?_⟩
  · rw [hrep]
    refine ⟨hrestorable, h.undoes.erase (hex.within.trans (sameDirs_restore _ _).within)
      (fun m hm hne => ?_) ?_⟩
    · rw [hrestorable.file?_restore hm, hback m hne]
    · by_cases hin : header.temp.place s.tree.workdir ∈ X
      · exact .inl hin
      · refine .inr ⟨?_, (h.avoids header (by simp)).resolve_left hin⟩
        rw [hrestorable.file?_restore hin, restored, hex.within.workdir, ← hτ,
          if_neg hex.ne_temp.symm]
        split_ifs
        · rfl
        · simp [hex.file?, hex.ne_temp.symm]
  · rw [hex.within.workdir]
    rcases h.avoids other (by simp [ho]) with hin | havoid
    · exact .inl hin
    refine (hclear other (by simp [ho])).imp_right fun hne r hr' => ?_
    rw [hrep, List.mem_cons] at hr'
    rcases hr' with rfl | hr'
    · refine ⟨hne, fun b' hb' heq => h.standing.file other (by simp [ho]) ?_⟩
      rw [heq, hb b' hb']
    · exact havoid r hr'

/-- The files without those at the places of temporary files. -/
def erasedAll (w : Location) (headers : List StagedHeader)
    (G : Location → Option (Nat × ByteArray)) : Location → Option (Nat × ByteArray) :=
  headers.foldl (fun G header => erased (header.temp.place w) G) G

/-- Files elsewhere stay. -/
lemma erasedAll_of_notMem (h : ∀ header ∈ headers, l ≠ header.temp.place w) :
    erasedAll w headers G l = G l := by
  induction headers generalizing G with
  | nil => rfl
  | cons header rest ih =>
    rw [erasedAll, List.foldl_cons]
    refine (ih fun other ho => h other (by simp [ho])).trans ?_
    rw [erased, if_neg (h header (by simp))]

/-- A file that is erased stays erased. -/
lemma erasedAll_of_none (h : G l = none) : erasedAll w headers G l = none := by
  induction headers generalizing G with
  | nil => exact h
  | cons header rest ih =>
    rw [erasedAll, List.foldl_cons]
    refine ih ?_
    rw [erased, h, ite_self]

/-- The temporary files are erased. -/
lemma erasedAll_of_mem (h : header ∈ headers) :
    erasedAll w headers G (header.temp.place w) = none := by
  induction headers generalizing G with
  | nil => simp at h
  | cons first rest ih =>
    rw [erasedAll, List.foldl_cons]
    rcases List.mem_cons.1 h with rfl | h
    · exact erasedAll_of_none (by rw [erased, if_pos rfl])
    · exact ih h

/-- **Getting past headers** keeps the invariant, and erases their temporary files. -/
lemma Sound.passes (hp : Passes s done s') (h : Sound X G (done ++ rest) s)
    (hX : BackupFree X s.tree) (hclear : Clear X s.tree.workdir (done ++ rest)) :
    Sound X (erasedAll s.tree.workdir done G) rest s' := by
  induction hp generalizing G with
  | nil s => exact h
  | @unchanged s s' header done hun hp ih =>
    have hw := (sameDirs_removeIfFile s.tree header.temp).workdir
    have hsound := ih h.unchanged (hX.congr hw) (by rw [hw]; exact hclear.2)
    rwa [hw] at hsound
  | @replaced s s₁ s' header done hch hr hp ih =>
    have hw := (h.standing.replaced hr).2.workdir
    have hsound := ih (h.replaced hX hclear.1 hr) (hX.congr hw) (by rw [hw]; exact hclear.2)
    rwa [hw] at hsound

/-! ## Rolling back -/

/-- Removing directories touches no file and does not move the working directory. -/
lemma foldl_removeIfEmpty (t : FileTree) (dirs : List Path) :
    (dirs.foldl removeIfEmpty t).workdir = t.workdir ∧
      ∀ l, (dirs.foldl removeIfEmpty t).file? l = t.file? l := by
  induction dirs generalizing t with
  | nil => exact ⟨rfl, fun _ => rfl⟩
  | cons dir dirs ih =>
    obtain ⟨hw, hf⟩ := ih (removeIfEmpty t dir)
    refine ⟨hw.trans ?_, fun l => (hf l).trans (file?_removeIfEmpty t dir l)⟩
    rcases removeIfEmpty_cases t dir with h | ⟨m, -, -, -, -, h⟩ <;> rw [h]
    rfl

/-- Putting targets back keeps the directories. -/
lemma sameDirs_foldl_restore (t : FileTree) (rs : List Replaced) :
    t.SameDirs (rs.foldl restore t) := by
  induction rs generalizing t with
  | nil => exact .refl t
  | cons r rs ih => exact (sameDirs_restore t r).trans (ih (restore t r))

/-- **After a replacement failed and all was put back** the files are as before the commit, but for the
temporary files of the headers so far, which are gone, and but for `X`. -/
lemma Sound.undone (h : Sound X G (header :: rest) s)
    (hclear : header.temp.place s.tree.workdir ∈ X ∨
      header.temp.place s.tree.workdir ≠ header.record.target.place s.tree.workdir)
    (hr : s.replace header.record.target header.temp = (.error failure, s')) (hl : l ∉ X) :
    s'.rollBack.file? l = erased (header.temp.place s.tree.workdir) G l ∧
      s'.rollBack.workdir = s.tree.workdir := by
  obtain ⟨old, content, hloc, hf⟩ := h.standing.head
  obtain ⟨v, hfold, hback⟩ := replace_error hloc hf hr
  have hrest : Undoes X (erased (header.temp.place s.tree.workdir) G) s.replaced v := by
    refine h.undoes.erase hback.within (fun m _ hm => hback.file?_of_ne m hm) ?_
    rcases hclear with hin | hne
    · exact .inl hin
    · exact (h.avoids header (by simp)).imp_right fun havoid => ⟨hback.file?_temp hne.symm, havoid⟩
  obtain ⟨hwork, hfiles⟩ :=
    foldl_removeIfEmpty (s'.replaced.foldl restore s'.tree) s'.created
  refine ⟨?_, ?_⟩
  · rw [rollBack, hfiles, hfold, hrest.file?_foldl hl]
  · rw [rollBack, hwork, hfold, (sameDirs_foldl_restore v _).workdir, hback.within.workdir]

end UaHeaders.Commit
