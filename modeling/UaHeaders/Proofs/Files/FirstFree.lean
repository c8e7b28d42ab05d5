import UaHeaders.Proofs.Files.FreeNames

/-!
# The first free name

A temporary file gets the first of its names that is free. Which places two temporary files take together
is therefore decided by what was taken before them, and not by which of them is made first.

## Main definitions

* `UaHeaders.FileTree.FirstFree` — the first free place among those of one kind of temporary files.
* `UaHeaders.FileTree.Beside` — the location in which the temporary files of a directory lie.

## Main results

* `UaHeaders.FileTree.FirstFree.swap` — two temporary files in either order.
* `UaHeaders.FileTree.firstFree_of_createTemp` — a temporary file is made at the first free place.
* `UaHeaders.FileTree.exists_createTemp_at` — and at that place it can be made.
-/

set_option autoImplicit false

namespace UaHeaders.FileTree

variable {t u : FileTree} {taken taken' : Location → Prop} {l l' above above' : Location} {dir p : Path}
  {beginning ending ending' : String} {n m : Nat}

/-! ## Names with different ends -/

/-- Temporary names with one beginning tell their end. -/
lemma ending_eq_of_tempName (h : tempName beginning ending n = tempName beginning ending' m) :
    ending = ending' := by
  have hlist := congrArg String.toList h
  rw [toList_tempName, toList_tempName] at hlist
  have hlength : (beginning.toList ++ nameOf 6 n).length = (beginning.toList ++ nameOf 6 m).length := by
    simp [length_nameOf]
  exact String.toList_inj.1 (List.append_inj hlist hlength).2

/-! ## First free places -/

/-- **The first free place** among those in the directory at `above` whose names have a given beginning and
end. -/
def FirstFree (taken : Location → Prop) (above : Location) (beginning ending : String) (l : Location) :
    Prop :=
  ∃ n, l = above ++ [tempName beginning ending n] ∧ ¬ taken l ∧
    ∀ m < n, taken (above ++ [tempName beginning ending m])

namespace FirstFree

/-- There is one first free place. -/
lemma unique (h : FirstFree taken above beginning ending l)
    (h' : FirstFree taken above beginning ending l') : l = l' := by
  obtain ⟨n, rfl, hfree, hbefore⟩ := h
  obtain ⟨m, rfl, hfree', hbefore'⟩ := h'
  rcases Nat.lt_trichotomy n m with hlt | rfl | hlt
  · exact absurd (hbefore' n hlt) hfree
  · rfl
  · exact absurd (hbefore m hlt) hfree'

/-- What is the first free place depends on what is taken only. -/
lemma congr (h : FirstFree taken above beginning ending l) (htaken : ∀ k, taken' k ↔ taken k) :
    FirstFree taken' above beginning ending l := by
  obtain ⟨n, rfl, hfree, hbefore⟩ := h
  exact ⟨n, rfl, fun hk => hfree ((htaken _).1 hk), fun m hm => (htaken _).2 (hbefore m hm)⟩

/-- A place with a name of another kind makes no difference. -/
lemma of_other (h : FirstFree taken above beginning ending l)
    (hother : ∀ n, above ++ [tempName beginning ending n] ≠ l') :
    FirstFree (fun k => k = l' ∨ taken k) above beginning ending l := by
  obtain ⟨n, rfl, hfree, hbefore⟩ := h
  exact ⟨n, rfl, fun hk => hk.elim (hother n) hfree, fun m hm => .inr (hbefore m hm)⟩

/-- **Two temporary files in either order** take the same two places.

**Proof sketch.** If they are of one kind, the places are the first two that are free. Else neither can
take the place of the other. -/
lemma swap (h : FirstFree taken above beginning ending l)
    (h' : FirstFree (fun k => k = l ∨ taken k) above' beginning ending' l') :
    ∃ m m', FirstFree taken above' beginning ending' m ∧
      FirstFree (fun k => k = m ∨ taken k) above beginning ending m' ∧
      (m = l' ∧ m' = l ∨ m = l ∧ m' = l') := by
  by_cases hkind : above = above' ∧ ending = ending'
  · obtain ⟨rfl, rfl⟩ := hkind
    exact ⟨l, l', h, h', .inr ⟨rfl, rfl⟩⟩
  have hapart : ∀ n m, above ++ [tempName beginning ending n] ≠
      above' ++ [tempName beginning ending' m] := by
    intro n m heq
    obtain ⟨habove, hname⟩ := List.append_inj' heq rfl
    exact hkind ⟨habove, ending_eq_of_tempName (List.singleton_inj.1 hname)⟩
  refine ⟨l', l, ?_, ?_, .inl ⟨rfl, rfl⟩⟩
  · obtain ⟨n, rfl, -⟩ := h
    obtain ⟨m, rfl, hfree, hbefore⟩ := h'
    refine ⟨m, rfl, fun hk => hfree (.inr hk), fun k hk => ?_⟩
    exact (hbefore k hk).resolve_left fun heq => hapart n k heq.symm
  · obtain ⟨m, rfl, -⟩ := h'
    exact h.of_other fun k => hapart k m

end FirstFree

/-! ## Where temporary files are made -/

/-- **The temporary files of a directory lie at `above`**, if the paths of those with a given beginning and
end lead anywhere. They do for all numbers or for none. -/
def Beside (t : FileTree) (dir : Path) (beginning ending : String) (above : Location) : Prop :=
  t.locate (t.tempPath dir (tempName beginning ending 0)) = .ok (above ++ [tempName beginning ending 0])

/-- Where the temporary files of a directory lie depends on the directories only. -/
lemma Beside.sameDirs (h : t.Beside dir beginning ending above) (hs : t.SameDirs u) :
    u.Beside dir beginning ending above := by
  have hpath : u.tempPath dir (tempName beginning ending 0) =
      t.tempPath dir (tempName beginning ending 0) := by
    rw [tempPath, tempPath, workdirPath, workdirPath, hs.workdir]
  rw [Beside, hpath]
  exact locate_mono hs.within h

section

variable (hb : '/' ∉ beginning.toList) (he : '/' ∉ ending.toList)
include hb he

/-- The path of each temporary file leads to its name there. -/
lemma Beside.locate (h : t.Beside dir beginning ending above) (n : Nat) :
    t.locate (t.tempPath dir (tempName beginning ending n)) =
      .ok (above ++ [tempName beginning ending n]) :=
  (alike_tempName hb he 0 n).locate h

/-- A path of a temporary file that leads somewhere tells where they lie. -/
lemma beside_of_locate (h : t.locate (t.tempPath dir (tempName beginning ending n)) = .ok l) :
    ∃ above, t.Beside dir beginning ending above ∧ l = above ++ [tempName beginning ending n] := by
  obtain ⟨above, hplace⟩ := place_tempPath (plainName_tempName hb he n) t dir t.workdir
  obtain rfl := (eq_place_of_locate h).trans hplace
  exact ⟨above, (alike_tempName hb he n 0).locate h, rfl⟩

/-- **A temporary file is made at the first free place.**

**Proof sketch.** Where the names lead is the same place but for the last component, so whether a path is
there is whether its name is taken. The search goes through the names in order; if it finds none, the
first name is tried, and that one is taken. -/
lemma firstFree_of_createTemp (h : t.createTemp dir beginning ending = .ok (p, u)) :
    ∃ above l, t.Beside dir beginning ending above ∧ t.locate p = .ok l ∧
      FirstFree (fun k => t.entry? k ≠ none) above beginning ending l := by
  obtain ⟨⟨n, rfl⟩, l, hl, hfree, -⟩ := createTemp_eq_ok h
  obtain ⟨above, hbeside, rfl⟩ := beside_of_locate hb he hl
  have hexists : ∀ m, t.pathExists (t.tempPath dir (tempName beginning ending m)) = true ↔
      t.entry? (above ++ [tempName beginning ending m]) ≠ none := by
    intro m
    rw [pathExists_iff, hbeside.locate hb he m]
    simp
  simp only [createTemp, List.find?_map] at h
  rcases hfind : List.find? _ (List.range (t.entries.size + 1)) with _ | m <;> rw [hfind] at h
  · -- the first name is taken if none is free
    rw [List.find?_eq_none] at hfind
    have htaken := hfind 0 (List.mem_range.2 (Nat.succ_pos _))
    simp only [Function.comp, Bool.not_eq_true, Bool.not_eq_false', hexists] at htaken
    simp only [Option.map_none, Option.getD_none, hbeside.locate hb he 0] at h
    rcases hentry : t.entry? (above ++ [tempName beginning ending 0]) with _ | e
    · exact absurd hentry htaken
    · simp [hentry] at h
  · obtain ⟨hnot, -, hbefore⟩ := List.find?_range_eq_some.1 hfind
    have hm : t.entry? (above ++ [tempName beginning ending m]) = none := by
      by_contra hne
      simp [(hexists m).2 hne] at hnot
    have hpath : t.tempPath dir (tempName beginning ending m) =
        t.tempPath dir (tempName beginning ending n) := by
      simp only [Option.map_some, Option.getD_some, hbeside.locate hb he m, hm, Except.ok.injEq,
        Prod.mk.injEq] at h
      exact h.1
    refine ⟨above, above ++ [tempName beginning ending n], hbeside, hl, m, ?_, by simpa using hfree,
      fun k hk => ?_⟩
    · have hlocate := hbeside.locate hb he m
      rw [hpath, hl] at hlocate
      exact Except.ok.inj hlocate
    · exact (hexists k).1 (by simpa using hbefore k hk)

/-- **A temporary file can be made at the first free place.** -/
lemma exists_createTemp_at (hbeside : t.Beside dir beginning ending above)
    (hfirst : FirstFree (fun k => t.entry? k ≠ none) above beginning ending l) :
    ∃ p u, t.createTemp dir beginning ending = .ok (p, u) ∧ t.locate p = .ok l := by
  obtain ⟨n, hl, hfree, -⟩ := id hfirst
  have hlocate := hbeside.locate hb he n
  rw [← hl] at hlocate
  obtain ⟨p, u, hcreate⟩ := exists_createTemp hb he hlocate (by simpa using hfree)
  obtain ⟨above', l', hbeside', hp, hfirst'⟩ := firstFree_of_createTemp hb he hcreate
  obtain rfl : above = above' := by
    have heq : above ++ [tempName beginning ending 0] = above' ++ [tempName beginning ending 0] :=
      Except.ok.inj (Eq.trans (Eq.symm hbeside) hbeside')
    exact (List.append_inj' heq rfl).1
  exact ⟨p, u, hcreate, hp.trans (by rw [hfirst'.unique hfirst])⟩

end

end UaHeaders.FileTree
