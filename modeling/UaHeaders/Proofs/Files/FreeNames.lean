import UaHeaders.Proofs.Files.Joined

/-!
# Free temporary names

The names that are tried for a temporary file are of one length and lie in one directory, so either all of
their paths lead there or none does. They are tried until one is free, and more are tried than there are
entries in the tree. So a temporary file is made whenever one of all its names is free.

## Main definitions

* `UaHeaders.FileTree.Alike` — two names that the system takes alike.

## Main results

* `UaHeaders.FileTree.nameOf_injOn`, `UaHeaders.FileTree.nameOf_mod` — numbers and names.
* `UaHeaders.FileTree.Alike.locate` — the names that are tried are located alike.
* `UaHeaders.FileTree.exists_free_lt` — a free name is among those that are tried.
* `UaHeaders.FileTree.exists_createTemp` — a temporary file is made where a name is free.
-/

set_option autoImplicit false

namespace UaHeaders.FileTree

variable {t : FileTree} {l above : Location} {dir : Path} {name other beginning ending : String}
  {n m length : Nat}

/-! ## Numbers and names -/

/-- Digits are told apart. -/
lemma nameDigits_inj (hn : n < 62) (hm : m < 62)
    (h : nameDigits.getD n '0' = nameDigits.getD m '0') : n = m := by
  have hlength : nameDigits.length = 62 := by decide
  have hnodup : nameDigits.Nodup := by decide +kernel
  have hget : ∀ k (hk : k < 62), nameDigits.getD k '0' = nameDigits.get ⟨k, hlength ▸ hk⟩ := by
    intro k hk
    rw [List.getD_eq_getElem?_getD, List.getElem?_eq_getElem (hlength ▸ hk), Option.getD_some,
      List.get_eq_getElem]
  rw [hget n hn, hget m hm] at h
  exact Fin.mk.inj (hnodup.injective_get h)

/-- **Small numbers have names of their own.** -/
lemma nameOf_injOn (hn : n < 62 ^ length) (hm : m < 62 ^ length)
    (h : nameOf length n = nameOf length m) : n = m := by
  induction length generalizing n m with
  | zero => omega
  | succ length ih =>
    obtain ⟨habove, hlast⟩ := List.append_inj' h rfl
    rw [Nat.pow_succ'] at hn hm
    have hdiv : n / 62 = m / 62 :=
      ih (Nat.div_lt_of_lt_mul hn) (Nat.div_lt_of_lt_mul hm) habove
    have hmod : n % 62 = m % 62 :=
      nameDigits_inj (Nat.mod_lt _ (by omega)) (Nat.mod_lt _ (by omega))
        (List.singleton_inj.1 hlast)
    rw [← Nat.div_add_mod n 62, ← Nat.div_add_mod m 62, hdiv, hmod]

/-- Every name is the one of a small number. -/
lemma nameOf_mod (length n : Nat) : nameOf length (n % 62 ^ length) = nameOf length n := by
  induction length generalizing n with
  | zero => rfl
  | succ length ih =>
    rw [nameOf, nameOf, Nat.pow_succ', Nat.mod_mul_right_div_self, ih,
      Nat.mod_mod_of_dvd _ (Nat.dvd_mul_right _ _)]

/-- Digits take one octet each, and none is NUL. -/
lemma nameDigits_plain (n : Nat) :
    (nameDigits.getD (n % 62) '0').utf8Size = 1 ∧ nameDigits.getD (n % 62) '0' ≠ '\x00' := by
  have hall : (nameDigits.all fun c => c.utf8Size = 1 ∧ c ≠ '\x00') = true := by decide +kernel
  rw [List.getD_eq_getElem?_getD]
  rcases h : nameDigits[n % 62]? with _ | c
  · decide
  · exact of_decide_eq_true (List.all_eq_true.1 hall c (List.mem_of_getElem? h))

/-- The digits of a name take one octet each. -/
lemma utf8ByteSize_nameOf (length n : Nat) :
    (String.ofList (nameOf length n)).utf8ByteSize = length := by
  induction length generalizing n with
  | zero => rfl
  | succ length ih =>
    rw [nameOf, String.ofList_append, String.utf8ByteSize_append, ih, ← String.singleton_eq_ofList,
      String.utf8ByteSize_singleton, (nameDigits_plain n).1]

/-- No digit of a name is NUL. -/
lemma nul_notMem_nameOf (length n : Nat) : '\x00' ∉ nameOf length n := by
  induction length generalizing n with
  | zero => simp [nameOf]
  | succ length ih =>
    simp only [nameOf, List.mem_append, List.mem_singleton, not_or]
    exact ⟨ih _, (nameDigits_plain n).2.symm⟩

/-- Temporary names of small numbers are told apart. -/
lemma tempName_injOn (hn : n < 62 ^ 6) (hm : m < 62 ^ 6)
    (h : tempName beginning ending n = tempName beginning ending m) : n = m := by
  have hdigits : String.ofList (nameOf 6 n) = String.ofList (nameOf 6 m) := by
    simpa [tempName] using h
  exact nameOf_injOn hn hm (String.ofList_inj.1 hdigits)

/-- Every temporary name is the one of a small number. -/
lemma tempName_mod (beginning ending : String) (n : Nat) :
    tempName beginning ending (n % 62 ^ 6) = tempName beginning ending n := by
  rw [tempName, tempName, nameOf_mod]

/-! ## Where the names of one directory lead -/

/-- What stands before a name in the path of a temporary file: nothing, or it ends with a separator. It is
the same for all names.

**Proof sketch.** Joining a relative path writes something in front that does not depend on it. That is
used twice: for the directory, and for the working directory unless the path is absolute already, which
is seen without the name. -/
lemma exists_before_tempPath (t : FileTree) (dir : Path) :
    ∃ before : List Char, (before = [] ∨ before.getLast? = some '/') ∧
      ∀ name, PlainName name → (t.tempPath dir name).text.toList = before ++ name.toList := by
  have hjoin : ∀ p : Path, ∃ before : List Char, (before = [] ∨ before.getLast? = some '/') ∧
      ∀ rest : Path, rest.isAbsolute = false →
        (p.join rest).text.toList = before ++ rest.text.toList := by
    intro p
    by_cases hend : p.text.isEmpty || p.text.toList.getLast? == some '/'
    · refine ⟨p.text.toList, by simpa using hend, fun rest hrest => ?_⟩
      simp only [Path.join, hrest, hend, Bool.false_eq_true, if_false, if_true, String.toList_append]
    · refine ⟨p.text.toList ++ ['/'], .inr (by simp), fun rest hrest => ?_⟩
      simp [Path.join, hrest, hend]
  obtain ⟨before, hbefore, hdir⟩ := hjoin dir
  -- whether the directory is given from the root is seen before the name
  have habs : ∀ name, PlainName name →
      (dir.join ⟨name⟩).isAbsolute = (before.head? == some '/') := by
    intro name hname
    have hrel := hname.isAbsolute
    rw [Path.isAbsolute] at hrel ⊢
    rw [hdir _ hname.isAbsolute]
    cases before with
    | nil => simpa using hrel
    | cons c cs => rfl
  rcases hhead : before.head? == some '/'
  · obtain ⟨root, hroot, hwork⟩ := hjoin t.workdirPath
    refine ⟨root ++ before, ?_, fun name hname => ?_⟩
    · rcases hbefore with rfl | hlast
      · simpa using hroot
      · exact .inr (by rw [List.getLast?_append, hlast, Option.some_or])
    · rw [tempPath, hwork _ ((habs name hname).trans hhead), hdir _ hname.isAbsolute,
        List.append_assoc]
  · refine ⟨before, hbefore, fun name hname => ?_⟩
    rw [tempPath, Path.join, if_pos ((habs name hname).trans hhead), hdir _ hname.isAbsolute]

/-- The path of a temporary file starts at the root. -/
lemma isAbsolute_tempPath (hname : PlainName name) : (t.tempPath dir name).isAbsolute = true := by
  have hne : (⟨name⟩ : Path).text.isEmpty = false := by
    simpa using fun h : name = "" => absurd hname.long (by simp [h])
  rcases habs : (dir.join ⟨name⟩).isAbsolute
  · rw [tempPath, Path.isAbsolute_join t.workdirPath_nonempty habs, isAbsolute_workdirPath]
  · rw [tempPath, Path.join, if_pos habs, habs]

/-- The segments of the path of a temporary file: all but the last are the same for all names. -/
lemma exists_segments_tempPath (t : FileTree) (dir : Path) :
    ∃ cs, ∀ name, PlainName name → (t.tempPath dir name).segments = cs ++ [name] := by
  obtain ⟨before, hbefore, htext⟩ := exists_before_tempPath t dir
  rcases hbefore with rfl | hlast
  · refine ⟨[], fun name hname => ?_⟩
    simp [Path.segments, htext name hname, List.splitOn_eq_singleton hname.noSeparator]
  · obtain ⟨start, rfl⟩ := List.getLast?_eq_some_iff.1 hlast
    refine ⟨(start.splitOn '/').map String.ofList, fun name hname => ?_⟩
    rw [Path.segments, htext name hname, List.append_assoc, List.singleton_append,
      List.splitOn_append_cons_self, List.map_append, List.splitOn_eq_singleton hname.noSeparator]
    simp

/-- **Two names that the system takes alike**: they are of one length, and if one has a NUL, so has the
other. -/
structure Alike (name other : String) : Prop where
  plain : PlainName name
  plain' : PlainName other
  size : other.utf8ByteSize = name.utf8ByteSize
  nul : '\x00' ∈ other.toList → '\x00' ∈ name.toList

/-- Names that are taken alike make paths that are accepted alike.

**Proof sketch.** The two paths differ in the name only. It is never empty, has as many octets as the
other, and holds no null that the other does not hold. -/
lemma Alike.usable (h : Alike name other) (hu : (t.tempPath dir name).Usable) :
    (t.tempPath dir other).Usable := by
  obtain ⟨before, -, htext⟩ := exists_before_tempPath t dir
  have hstring : ∀ name, PlainName name →
      (t.tempPath dir name).text = String.ofList before ++ name := by
    intro name hname
    rw [← String.toList_inj, htext name hname]
    simp
  obtain ⟨-, hn, hshort⟩ := hu
  refine ⟨?_, ?_, ?_⟩
  · have hlong := h.plain'.long
    rw [← Bool.not_eq_true, String.isEmpty_iff, ← String.toList_eq_nil_iff, htext other h.plain']
    intro hnil
    rw [(List.append_eq_nil_iff.1 hnil).2] at hlong
    simp at hlong
  · rw [htext name h.plain] at hn
    rw [htext other h.plain']
    simp only [List.contains_eq_mem, List.mem_append, decide_eq_false_iff_not, not_or] at hn ⊢
    exact ⟨hn.1, fun hmem => hn.2 (h.nul hmem)⟩
  · rw [hstring name h.plain, String.utf8ByteSize_append] at hshort
    rw [hstring other h.plain', String.utf8ByteSize_append, h.size]
    exact hshort

/-- **Names that are taken alike are located alike**: if the path of one leads into its directory, so does
that of the other.

**Proof sketch.** The walk along the directory is the same. Its last step is one along the name, which is
no dot and no two dots, so it depends on the length only. -/
lemma Alike.locate (h : Alike name other)
    (hl : t.locate (t.tempPath dir name) = .ok (above ++ [name])) :
    t.locate (t.tempPath dir other) = .ok (above ++ [other]) := by
  obtain ⟨cs, hcs⟩ := exists_segments_tempPath t dir
  obtain ⟨husable, hwalk⟩ := locate_eq_ok_iff_foldlM.1 hl
  have hstart : t.start (t.tempPath dir other) = t.start (t.tempPath dir name) := by
    rw [start, start, isAbsolute_tempPath h.plain, isAbsolute_tempPath h.plain']
  rw [locate_eq_ok_iff_foldlM, hstart, hcs other h.plain']
  rw [hcs name h.plain] at hwalk
  simp only [List.foldlM_append, List.foldlM_cons, List.foldlM_nil, bind_pure] at hwalk ⊢
  refine ⟨h.usable husable, ?_⟩
  rcases hm : cs.foldlM t.step (t.start (t.tempPath dir name)) with cause | m
  · simp [hm, bind, Except.bind] at hwalk
  · rw [hm] at hwalk
    have hstep : t.step m name = .ok (above ++ [name]) := hwalk
    obtain ⟨hd, hshort, hplace⟩ := step_eq_ok_iff.1 hstep
    rw [h.plain.along] at hplace
    obtain rfl := (List.append_inj' hplace rfl).1
    exact step_eq_ok_iff.2 ⟨hd, h.size ▸ hshort, (h.plain'.along above).symm⟩

/-- Temporary names with one beginning and one end are taken alike. -/
lemma alike_tempName (hb : '/' ∉ beginning.toList) (he : '/' ∉ ending.toList) (n m : Nat) :
    Alike (tempName beginning ending n) (tempName beginning ending m) where
  plain := plainName_tempName hb he n
  plain' := plainName_tempName hb he m
  size := by simp [tempName, utf8ByteSize_nameOf]
  nul := by simp [toList_tempName, nul_notMem_nameOf]

/-! ## The first free name -/

/-- The entries of a tree are no more than it has in number. -/
lemma card_le_size {places : Finset Location}
    (h : ∀ l ∈ places, l ≠ [] ∧ t.entry? l ≠ none) : places.card ≤ t.entries.size := by
  have hsub : places.toList ⊆ t.entries.keys := by
    intro l hl
    obtain ⟨hne, hentry⟩ := h l (Finset.mem_toList.1 hl)
    rw [ entry?, if_neg hne] at hentry
    rw [Std.ExtTreeMap.mem_keys, Std.ExtTreeMap.mem_iff_isSome_getElem?]
    exact Option.isSome_iff_ne_none.2 hentry
  rw [← Std.ExtTreeMap.length_keys, ← places.length_toList]
  exact (List.subperm_of_subset places.nodup_toList hsub).length_le

/-- **Taken names are no more than there are entries.** -/
lemma card_taken_le_size {numbers : Finset Nat} (hsmall : ∀ m ∈ numbers, m < 62 ^ 6)
    (h : ∀ m ∈ numbers, t.entry? (above ++ [tempName beginning ending m]) ≠ none) :
    numbers.card ≤ t.entries.size := by
  have hinj : Set.InjOn (fun m => above ++ [tempName beginning ending m]) numbers := by
    intro m hm k hk heq
    exact tempName_injOn (hsmall m hm) (hsmall k hk)
      (List.singleton_inj.1 (List.append_inj' heq rfl).2)
  rw [← Finset.card_image_of_injOn hinj]
  refine card_le_size fun l hl => ?_
  obtain ⟨m, hm, rfl⟩ := Finset.mem_image.1 hl
  exact ⟨by simp, h m hm⟩

/-- **A free name is among those that are tried.**

**Proof sketch.** Small numbers have names of their own, so if all that are tried were taken, there would be
more entries than there are. If more are tried than there are names, all names are tried. -/
lemma exists_free_lt (hfree : t.entry? (above ++ [tempName beginning ending n]) = none) :
    ∃ m < t.entries.size + 1, t.entry? (above ++ [tempName beginning ending m]) = none := by
  by_contra hall
  push Not at hall
  have hsmall : t.entries.size + 1 ≤ 62 ^ 6 := by
    by_contra hlarge
    refine hall (n % 62 ^ 6) ?_ ?_
    · exact (Nat.mod_lt n (by omega)).trans (by omega)
    · rw [tempName_mod, hfree]
  have hle : (Finset.range (t.entries.size + 1)).card ≤ t.entries.size :=
    card_taken_le_size (fun m hm => (Finset.mem_range.1 hm).trans_le hsmall)
      fun m hm => hall m (Finset.mem_range.1 hm)
  rw [Finset.card_range] at hle
  omega

/-- **Enough names are free** in a tree that is not larger than there are names. -/
lemma exists_free_numbers {k : Nat} (hsize : t.entries.size + k ≤ 62 ^ 6) (above : Location)
    (beginning ending : String) :
    ∃ numbers : Finset Nat, k ≤ numbers.card ∧ ∀ m ∈ numbers, m < 62 ^ 6 ∧
      t.entry? (above ++ [tempName beginning ending m]) = none := by
  let names := Finset.range (62 ^ 6)
  let free := names.filter fun m => t.entry? (above ++ [tempName beginning ending m]) = none
  have htaken : ∀ m ∈ names \ free, m < 62 ^ 6 ∧
      t.entry? (above ++ [tempName beginning ending m]) ≠ none := by
    intro m hm
    obtain ⟨hm, hnot⟩ := Finset.mem_sdiff.1 hm
    exact ⟨Finset.mem_range.1 hm, fun hnone => hnot (Finset.mem_filter.2 ⟨hm, hnone⟩)⟩
  have hle := card_taken_le_size (fun m hm => (htaken m hm).1) fun m hm => (htaken m hm).2
  have hcard : (names \ free).card + free.card = 62 ^ 6 := by
    rw [Finset.card_sdiff_add_card_eq_card (Finset.filter_subset _ _), Finset.card_range]
  refine ⟨free, by omega, fun m hm => ?_⟩
  obtain ⟨hm, hfree⟩ := Finset.mem_filter.1 hm
  exact ⟨Finset.mem_range.1 hm, hfree⟩

/-- **A temporary file is made where one of its names is free.**

**Proof sketch.** There are more names than entries, so one of the names that are tried is free
(`exists_free_lt`), and all are reached as the first one is (`Alike.locate`). The search finds it or one
before it. -/
lemma exists_createTemp (hb : '/' ∉ beginning.toList) (he : '/' ∉ ending.toList)
    (hl : t.locate (t.tempPath dir (tempName beginning ending n)) = .ok l)
    (hfree : t.entry? l = none) : ∃ p u, t.createTemp dir beginning ending = .ok (p, u) := by
  obtain ⟨above, hplace⟩ := place_tempPath (plainName_tempName hb he n) t dir t.workdir
  obtain rfl := (eq_place_of_locate hl).trans hplace
  have hlocate : ∀ m, t.locate (t.tempPath dir (tempName beginning ending m)) =
      .ok (above ++ [tempName beginning ending m]) :=
    fun m => (alike_tempName hb he n m).locate hl
  have hexists : ∀ m, t.pathExists (t.tempPath dir (tempName beginning ending m)) = false ↔
      t.entry? (above ++ [tempName beginning ending m]) = none := by
    intro m
    rw [← Bool.not_eq_true, pathExists_iff, hlocate]
    simp
  obtain ⟨m, hm, hnone⟩ := exists_free_lt hfree
  simp only [createTemp]
  rcases hfind : List.find? (fun p => !t.pathExists p) _ with _ | p
  · rw [List.find?_eq_none] at hfind
    have htaken := hfind _ (List.mem_map_of_mem (List.mem_range.2 hm))
    simp [(hexists m).2 hnone] at htaken
  · obtain ⟨k, -, rfl⟩ := List.mem_map.1 (List.mem_of_find?_eq_some hfind)
    have hnot : t.pathExists (t.tempPath dir (tempName beginning ending k)) = false := by
      simpa using List.find?_some hfind
    simp only [Option.getD_some, hlocate, (hexists k).1 hnot]
    exact ⟨_, _, rfl⟩

end UaHeaders.FileTree
