import UaHeaders.Proofs.Commit.FailedFiles
import UaHeaders.Proofs.Files.Making

/-!
# The directories after a failed commit

A commit notes the directories that were missing above a target once all of them are made. Where each
of them has a name, those noted are those made, and rolling back takes them away again. What is not
noted is a creation that stops half way, and what it made stays.

## Main definitions

* `UaHeaders.Transaction.HalfMade` — a commit stops while it makes directories, and has made some.

## Main results

* `UaHeaders.Transaction.commit_error_dirs` — a failed commit leaves the directories as they were,
  unless it stops half way through making some.
-/

set_option autoImplicit false

namespace UaHeaders

open FileTree Commit

variable {tx : Transaction} {programs : Programs} {t t' u : FileTree} {w l : Location}
  {s s' s₁ s₂ : Commit} {header : StagedHeader} {done rest : List StagedHeader} {ps : List Path}
  {target p : Path} {failure : Failure}

namespace Commit

/-! ## Taking directories away -/

/-- A directory below which nothing lies is taken away. -/
lemma removeIfEmpty_eq_drop (hr : t.Reaches p) (hd : t.DirAt (p.place t.workdir))
    (hn : NamesEntry p) (hne : p.place t.workdir ≠ []) (hb : t.below (p.place t.workdir) = []) :
    removeIfEmpty t p = t.drop (p.place t.workdir) := by
  unfold removeIfEmpty
  rw [removeDir_eq_ok_iff.2 ⟨_, hr, hd, hn, hne, hb, rfl⟩]

/-- A directory stays where none of the paths leads to it. -/
lemma dirAt_foldl_removeIfEmpty (hd : t.DirAt l) (h : ∀ p ∈ ps, l ≠ p.place t.workdir) :
    (ps.foldl removeIfEmpty t).DirAt l := by
  induction ps generalizing t with
  | nil => exact hd
  | cons p ps ih =>
    rw [List.foldl_cons]
    rcases removeIfEmpty_cases t p with heq | ⟨m, hm, -, hne, -, heq⟩ <;> rw [heq]
    · exact ih hd fun q hq => h q (by simp [hq])
    · refine ih ((dirAt_drop hne).2 ⟨?_, hd⟩) fun q hq => h q (by simp [hq])
      rw [eq_place_of_locate hm]
      exact h p (by simp)

/-- **Taking raised directories away** leads back to the directories from before, if all files lie in
these.

**Proof sketch.** Induction on the raised directories, the latest first. Nothing lies below the latest
one: no directory, since it was raised after all others and the directories before lie in directories,
and no file. So it is taken away. -/
lemma sameDirs_of_raised (h : t.Raised ps u) (hc : t.Closed)
    (hf : ∀ m l, u.file? m ≠ none → l <+: m → l ≠ m → t.DirAt l) :
    t.SameDirs (ps.foldl removeIfEmpty u) := by
  induction ps generalizing u with
  | nil => exact h
  | cons p ps ih =>
    obtain ⟨v, hv, hnew, -, hwork, hdirs, hreach, hname⟩ := h
    have hne : p.place t.workdir ≠ [] := ne_nil_of_not_dirAt hnew
    have hd : u.DirAt (p.place t.workdir) := (hdirs _).2 (.inl rfl)
    have hbelow : u.below (p.place t.workdir) = [] := by
      refine below_eq_nil_iff.2 fun m hp hm => entry?_eq_none_iff.2 ⟨?_, fun hdm => ?_⟩
      · by_contra hfile
        exact hnew (hv.within.dirAt _ (hf m _ hfile hp hm.symm))
      · rcases (hdirs m).1 hdm with heq | hdm
        · exact hm heq
        · exact hnew (dirAt_above (hv.closed hc) hp hdm)
    have hremove := removeIfEmpty_eq_drop hreach (by rwa [hwork]) hname (by rwa [hwork])
      (by rwa [hwork])
    rw [List.foldl_cons, hremove, hwork]
    refine ih (hv.sameDirs ⟨hwork.trans hv.within.workdir.symm, fun m => ?_⟩) fun m l hfile => ?_
    · rw [dirAt_drop hne, hdirs]
      constructor
      · rintro ⟨hm, heq | hdm⟩
        · exact absurd heq hm
        · exact hdm
      · intro hdm
        refine ⟨?_, .inr hdm⟩
        rintro rfl
        exact hnew hdm
    · rw [file?_drop_directory hne hd] at hfile
      exact hf m l hfile

/-! ## What a commit notes -/

/-- **The directories above a target have names** where they are missing. -/
def TargetGoesDown (t : FileTree) (target : Path) : Prop :=
  ∀ parent ∈ target.parent?, t.GoesDown parent

instance (t : FileTree) (target : Path) : Decidable (TargetGoesDown t target) :=
  inferInstanceAs (Decidable (∀ _ ∈ _, _))

/-- **What is noted when the directories above a target are made** are the directories that are made. -/
lemma raised_makeParent (h : t.Raised s.created s.tree) (hc : t.Closed)
    (hdown : TargetGoesDown t target) (hm : s.makeParent target = (.ok (), s')) :
    t.Raised s'.created s'.tree := by
  unfold makeParent at hm
  rcases hp : target.parent? with _ | parent
  · obtain rfl : s = s' := by simpa [hp] using hm
    exact h
  simp only [hp] at hm
  split at hm
  · obtain rfl : s = s' := by simpa using hm
    exact h
  rcases hmake : s.tree.makeDirs parent with ⟨cause | done, u⟩
  · simp [hmake] at hm
  · simp only [hmake, Prod.mk.injEq, true_and] at hm
    subst hm
    exact h.append (made_makeDirs (h.closed hc) (Path.trimmed_of_parent? hp)
      ((hdown parent hp).mono h.within) hmake).raised

/-- Nothing is noted when the directories above a target cannot be made. -/
lemma created_makeParent_error (hm : s.makeParent target = (.error failure, s')) :
    s'.created = s.created := by
  unfold makeParent at hm
  rcases hp : target.parent? with _ | parent
  · simp [hp] at hm
  simp only [hp] at hm
  split at hm
  · simp at hm
  rcases hmake : s.tree.makeDirs parent with ⟨cause | done, u⟩
  · simp only [hmake, Prod.mk.injEq] at hm
    rw [← hm.2]
  · simp [hmake] at hm

/-- **What a commit has noted** are the directories that it has made. -/
lemma raised_passes (hp : Passes s done s') (hs : Standing s.tree (done ++ rest))
    (hr : t.Raised s.created s.tree) (hc : t.Closed)
    (hdown : ∀ header ∈ done, TargetGoesDown t header.record.target) :
    t.Raised s'.created s'.tree := by
  induction hp with
  | nil s => exact hr
  | @unchanged s s' header done hun hp ih =>
    exact ih hs.unchanged (hr.sameDirs (sameDirs_removeIfFile s.tree header.temp))
      fun other ho => hdown other (by simp [ho])
  | @replaced s s₁ s' header done hch hrep hp ih =>
    obtain ⟨mode, content, hl, hf⟩ := hs.head
    obtain ⟨s₂, -, -, hmake, -, -, -⟩ := replace_eq_ok hrep
    obtain ⟨hsame, hcreated⟩ := replace_sameDirs header.record.target hl hf
    rw [hmake, hrep] at hsame hcreated
    refine ih (hs.replaced hrep).1 ?_ fun other ho => hdown other (by simp [ho])
    rw [hcreated]
    exact (raised_makeParent hr hc (hdown header (by simp)) hmake).sameDirs hsame

/-- Files stand in directories after a target was replaced. -/
lemma housed_of_exchanged {τ : Location} {mode : Nat} {content : ByteArray} {o : Option Path}
    {β? : Option Location} (hex : Exchanged t u target l τ mode content β?)
    (hheld : Held t u l τ mode o β?) (hh : t.Housed) (hc : u.Closed) : u.Housed := by
  intro k name hf
  have hd : ¬ u.DirAt (k ++ [name]) := fun hd => hf hd.file?
  rw [hex.file?] at hf
  split_ifs at hf with h₁ h₂ h₃
  · exact dirAt_of_locate hc (h₁ ▸ hex.locate) hd
  · exact absurd rfl hf
  · cases hheld with
    | nothing => simp at h₃
    | backup _ _ hloc =>
      obtain rfl : k ++ [name] = _ := Option.some.inj h₃
      exact dirAt_of_locate hc hloc hd
  · exact hex.within.dirAt k (hh k name hf)

/-- The tree stays well-formed while a commit gets past headers.

**Proof sketch.** Induction on the headers. A header without change loses its temporary file only. One
that is replaced stands in a directory, since those above it were made. -/
lemma wellFormed_passes (hp : Passes s done s') (hs : Standing s.tree (done ++ rest))
    (hr : t.Raised s.created s.tree) (hc : t.Closed) (hh : s.tree.Housed)
    (hdown : ∀ header ∈ done, TargetGoesDown t header.record.target) : s'.tree.WellFormed := by
  induction hp with
  | nil s => exact wellFormed_of_closed (hr.closed hc) hh
  | @unchanged s s' header done hun hp ih =>
    have hsame := sameDirs_removeIfFile s.tree header.temp
    refine ih hs.unchanged (hr.sameDirs hsame) (fun l name hf => ?_)
      fun other ho => hdown other (by simp [ho])
    exact hsame.within.dirAt l (hh l name fun hnone => hf (file?_removeIfFile_of_none hnone))
  | @replaced s s₁ s' header done hch hrep hp ih =>
    obtain ⟨mode, content, hl, hf⟩ := hs.head
    obtain ⟨τ, mode', b, β?, hex, hheld, -⟩ := replace_ok hl hf hrep
    have hraised : t.Raised s₁.created s₁.tree :=
      raised_passes (.replaced hch hrep (.nil s₁)) hs hr hc fun other ho =>
        hdown other (by simp [List.mem_singleton.1 ho])
    exact ih (hs.replaced hrep).1 hraised (housed_of_exchanged hex hheld hh (hraised.closed hc))
      fun other ho => hdown other (by simp [ho])

/-- Rolling back takes the noted directories away, if all files lie in directories from before. -/
lemma sameDirs_rollBack (h : t.Raised s.created s.tree) (hc : t.Closed)
    (hf : ∀ m l, s.rollBack.file? m ≠ none → l <+: m → l ≠ m → t.DirAt l) :
    t.SameDirs s.rollBack := by
  refine sameDirs_of_raised (h.sameDirs (sameDirs_foldl_restore s.tree s.replaced)) hc
    fun m l hm => hf m l ?_
  rwa [rollBack, (foldl_removeIfEmpty _ _).2]

end Commit

namespace Transaction

/-! ## Failed commits -/

/-- **A commit stops half way through making directories**: those above the target at which it stops
cannot all be made, and some are. -/
def HalfMade (tx : Transaction) (t : FileTree) : Prop :=
  ∃ s header rest, tx.stop? t = some (s, header, rest) ∧
    (s.makeParent header.record.target).1 ≠ .ok () ∧
    ∃ l, (s.makeParent header.record.target).2.tree.DirAt l ∧ ¬ s.tree.DirAt l

/-- **The directories after a failed commit** are those from before, unless the commit stops half way
through making some. This is for targets whose missing directories have names.

**Proof sketch.** Where the commit stops, the directories that it has noted are those that it has made,
and the files lie in directories from before. If the directories above the failing target are made, they
are noted too, and if none is made there is nothing to note; either way rolling back takes all away.
What is made in part is not noted, so it stays. -/
theorem commit_error_dirs (hb : Built programs w tx) (hw : t.workdir = w)
    (hp : Present t tx.staged) (hwf : t.WellFormed)
    (hdown : ∀ header ∈ tx.staged, TargetGoesDown t header.record.target)
    (h : tx.commit t = (.error failure, t')) :
    (∀ l, t'.DirAt l ↔ t.DirAt l) ↔ ¬ tx.HalfMade t := by
  have hstanding := hb.standing hw hp
  have hfree := hb.backupFree t
  subst hw
  obtain ⟨hstop, rfl⟩ | ⟨done, header, rest, s₁, s₂, cause, hlist, hpass, hrep, hstop, rfl⟩ :=
    commit_error_cases h
  · refine iff_of_true (sameDirs_dropTemps t tx.staged).dirAt ?_
    rintro ⟨s, header, rest, hsome, -⟩
    rw [hstop] at hsome
    simp at hsome
  rw [hlist] at hstanding hfree hdown
  have hraised : t.Raised s₁.created s₁.tree :=
    raised_passes hpass hstanding (.refl t) hwf.closed fun other ho => hdown other (by simp [ho])
  obtain ⟨mode, content, hl, hf⟩ := (Standing.passes hpass hstanding).1.head
  obtain ⟨hsame, hcreated⟩ := replace_sameDirs header.record.target hl hf
  rw [hrep] at hsame hcreated
  -- the files that are left lie in directories from before
  have hfiles : ∀ m l, s₂.rollBack.file? m ≠ none → l <+: m → l ≠ m → t.DirAt l := by
    intro m l hm hlm hne
    have hfile : t.file? m ≠ none := by
      by_cases hmem : m ∈ tempPlaces t.workdir (done ++ header :: rest)
      · obtain ⟨other, ho, rfl⟩ := hmem
        exact hp.file other (hlist ▸ ho)
      · rwa [(file?_rollBack_of_notMem hstanding hfree hpass hrep hmem).1] at hm
    exact hwf.dirAt_of_entry? hlm hne fun he => hfile (file?_of_entry?_none he)
  have hdrop := sameDirs_dropTemps s₂.rollBack rest
  have hback : t.Raised s₂.created s₂.tree →
      ∀ l, (dropTemps s₂.rollBack rest).DirAt l ↔ t.DirAt l :=
    fun hr => ((sameDirs_rollBack hr hwf.closed hfiles).trans hdrop).dirAt
  have hhalf : tx.HalfMade t ↔ (s₁.makeParent header.record.target).1 ≠ .ok () ∧
      ∃ l, (s₁.makeParent header.record.target).2.tree.DirAt l ∧ ¬ s₁.tree.DirAt l := by
    simp [HalfMade, hstop]
  rw [hhalf]
  have hgrown := (makeParent_spec s₁ header.record.target).1.within
  rcases hm : s₁.makeParent header.record.target with ⟨cause | ⟨⟩, v⟩ <;>
    simp only [hm] at hsame hcreated hgrown ⊢
  · rw [created_makeParent_error hm] at hcreated
    by_cases hnew : ∃ l, v.tree.DirAt l ∧ ¬ s₁.tree.DirAt l
    · -- what was made in part is at no place that was noted
      refine iff_of_false (fun hall => ?_) (by simpa using hnew)
      obtain ⟨l, hlv, hls⟩ := hnew
      refine hls (hraised.within.dirAt l ((hall l).1 ((hdrop.dirAt l).2 ?_)))
      have hrestored := sameDirs_foldl_restore s₂.tree s₂.replaced
      refine dirAt_foldl_removeIfEmpty ((hrestored.dirAt l).2 ((hsame.dirAt l).2 hlv)) ?_
      rintro p hmem rfl
      rw [hcreated] at hmem
      refine hls ?_
      rw [hrestored.workdir, hsame.workdir, hgrown.workdir, hraised.within.workdir]
      exact hraised.dirAt hmem
    · refine iff_of_true (hback ?_) (by simpa using hnew)
      rw [hcreated]
      refine hraised.sameDirs (SameDirs.trans ⟨hgrown.workdir, fun l => ⟨fun hl => ?_, ?_⟩⟩ hsame)
      · by_contra hnot
        exact hnew ⟨l, hl, hnot⟩
      · exact hgrown.dirAt l
  · refine iff_of_true (hback ?_) (by simp)
    rw [hcreated]
    exact (raised_makeParent hraised hwf.closed (hdown header (by simp)) hm).sameDirs hsame

/-- **A commit does not stop half way through making directories** if those that are missing have names
that are not too long for the system.

**Proof sketch.** A commit that stops half way stops at a header whose directories cannot all be made.
There the tree is well-formed and the missing names are short, and then making directories makes all of
them or none. -/
theorem not_halfMade_of_shortNames (hb : Built programs w tx) (hw : t.workdir = w)
    (hp : Present t tx.staged) (hwf : t.WellFormed)
    (hdown : ∀ header ∈ tx.staged, TargetGoesDown t header.record.target)
    (hshort : ∀ header ∈ tx.staged, ∀ parent ∈ header.record.target.parent?, t.ShortNames parent)
    (h : tx.commit t = (.error failure, t')) : ¬ tx.HalfMade t := by
  have hstanding := hb.standing hw hp
  rintro ⟨s, header, rest, hstop, hfail, l, hl, hnot⟩
  obtain ⟨hstop', -⟩ | ⟨done, header', rest', s₁, s₂, cause, hlist, hpass, hrep, hstop', -⟩ :=
    commit_error_cases h
  · simp [hstop'] at hstop
  obtain ⟨rfl, rfl, rfl⟩ : s₁ = s ∧ header' = header ∧ rest' = rest := by
    simpa [hstop'] using hstop
  rw [hlist] at hstanding hdown hshort
  have hdone : ∀ other ∈ done, TargetGoesDown t other.record.target :=
    fun other ho => hdown other (by simp [ho])
  have hraised : t.Raised s₁.created s₁.tree :=
    raised_passes hpass hstanding (show t.Raised [] t from .refl t) hwf.closed hdone
  have hwf₁ := wellFormed_passes hpass hstanding (show t.Raised [] t from .refl t) hwf.closed
    hwf.housed hdone
  unfold makeParent at hl hfail
  rcases hparent : header'.record.target.parent? with _ | parent
  · simp [hparent] at hfail
  simp only [hparent] at hl hfail
  split at hl
  · exact hnot hl
  next hne =>
  rcases hmake : s₁.tree.makeDirs parent with ⟨cause | done', u⟩
  · refine hnot (((sameDirs_makeDirs_error hwf₁ (Path.trimmed_of_parent? hparent)
      ((hdown header' (by simp) parent hparent).mono hraised.within)
      ((hshort header' (by simp) parent hparent).mono hraised.within) hmake).dirAt l).1 ?_)
    simpa [hmake] using hl
  · simp [hmake, hne] at hfail

/-! ## A directory that goes -/

/-- **Rolling back takes away a directory that was there**: the commit of the detours notes `c/../a` as
missing, which is another spelling of `a`. -/
theorem commit_detours_removes :
    Built noPrograms [] detours.1 ∧ Present blocked detours.1.staged ∧ blocked.WellFormed ∧
      (detours.1.commit blocked).1 = .error (.io "two.hpp" .notDirectory) ∧
      blocked.DirAt ["a"] ∧ ¬ (detours.1.commit blocked).2.DirAt ["a"] := by
  obtain ⟨-, -, hpresent, -, hfail, -⟩ := detours_checked
  exact ⟨built_detours, hpresent, by decide +kernel, hfail, by decide +kernel⟩

/-- A header is staged below two missing directories. -/
def twoLevels : Transaction × FileTree :=
  withHeader noPrograms (start none false, twoRooms) "p/q/one.hpp" "x\n"

/-- A second header is staged outside of them. -/
def straight : Transaction × FileTree := withHeader noPrograms twoLevels "two.hpp" "y\n"

/-- Then a directory takes the place of the second target. -/
def straightBlocked : FileTree := straight.2.put ["two.hpp"] .directory

/-- The directories made for the first header are removed when the second cannot replace its target. -/
theorem commit_error_dirs_straight :
    (∀ l, (straight.1.commit straightBlocked).2.DirAt l ↔ straightBlocked.DirAt l) ↔
      ¬ straight.1.HalfMade straightBlocked := by
  obtain ⟨h₁, hw₁, hw, hpresent, hwf, hdown, hfail⟩ :
      Present twoLevels.2 twoLevels.1.staged ∧ twoLevels.2.workdir = [] ∧
        straightBlocked.workdir = [] ∧ Present straightBlocked straight.1.staged ∧
        straightBlocked.WellFormed ∧
        (∀ header ∈ straight.1.staged, TargetGoesDown straightBlocked header.record.target) ∧
        (straight.1.commit straightBlocked).1 = .error (.io "two.hpp" .notDirectory) := by
    decide +kernel
  have hone : Built noPrograms [] twoLevels.1 :=
    Built.withHeader (s := (start none false, twoRooms)) (.start none false) rfl (.nil twoRooms) _ _
  have hbuilt : Built noPrograms [] straight.1 := hone.withHeader hw₁ h₁ _ _
  have hcommit : straight.1.commit straightBlocked =
      (.error (.io "two.hpp" .notDirectory), (straight.1.commit straightBlocked).2) := by
    rw [← hfail]
  exact commit_error_dirs hbuilt hw hpresent hwf hdown hcommit

end Transaction

end UaHeaders
