import UaHeaders.Header.Transaction
import UaHeaders.Proofs.Files.Places

/-!
# Where temporary files lie

The path of a temporary file ends in its name, so its place ends in that name too. The names of staged
files and of backups are never the same, whatever their digits are: a backup has a hyphen where the
name of a staged file ends or has a dot.

## Main definitions

* `UaHeaders.Path.EndsIn` — the last component of a path is a given name.
* `UaHeaders.FileTree.PlainName` — a text that is one component and neither `.` nor `..`.
* `UaHeaders.Transaction.StagedAt`, `BackupAt` — locations with the names of such files.

## Main results

* `UaHeaders.FileTree.place_of_endsIn` — the place of a path ends in its last component.
* `UaHeaders.Transaction.stagedName_ne_backupName` — staged files and backups have different names.
-/

set_option autoImplicit false

namespace UaHeaders

/-! ## The end of a path -/

namespace Path

variable {p rest : Path} {name : String}

/-- **The last component of `p` is `name`**: nothing stands before it, or a separator does. -/
def EndsIn (p : Path) (name : String) : Prop :=
  ∃ before, p.text.toList = before ++ name.toList ∧
    (before = [] ∨ before.getLast? = some '/')

/-- A name ends in itself. -/
lemma EndsIn.of_name (name : String) : EndsIn ⟨name⟩ name := ⟨[], rfl, .inl rfl⟩

/-- A path that is continued ends as what continues it. -/
lemma EndsIn.join (h : rest.EndsIn name) (p : Path) : (p.join rest).EndsIn name := by
  obtain ⟨before, htext, hbefore⟩ := h
  -- what stands before the name in the continued path ends with a separator, if it ends
  have hlast : ∀ cs : List Char, cs = [] ∨ cs.getLast? = some '/' →
      cs ++ before = [] ∨ (cs ++ before).getLast? = some '/' := by
    intro cs hcs
    rcases hbefore with rfl | hb
    · simpa using hcs
    · exact .inr (by rw [List.getLast?_append, hb, Option.some_or])
  unfold Path.join
  split_ifs with h₁ h₂
  · exact ⟨before, htext, hbefore⟩
  · refine ⟨p.text.toList ++ before, by simp [htext], hlast _ ?_⟩
    rw [Bool.or_eq_true, beq_iff_eq] at h₂
    exact h₂.imp_left fun hempty => by simpa using hempty
  · exact ⟨p.text.toList ++ ['/'] ++ before, by simp [htext], hlast _ (.inr (by simp))⟩

/-- **The segments of a path end in its last component.** -/
lemma EndsIn.segments (h : p.EndsIn name) (hname : '/' ∉ name.toList) :
    ∃ cs, p.segments = cs ++ [name] := by
  obtain ⟨before, htext, rfl | hlast⟩ := h
  · exact ⟨[], by simp [Path.segments, htext, List.splitOn_eq_singleton hname]⟩
  · obtain ⟨ys, rfl⟩ := List.getLast?_eq_some_iff.1 hlast
    refine ⟨(ys.splitOn '/').map String.ofList, ?_⟩
    rw [Path.segments, htext, List.append_assoc, List.singleton_append,
      List.splitOn_append_cons_self, List.map_append, List.splitOn_eq_singleton hname]
    simp

end Path

/-! ## Temporary names -/

namespace FileTree

variable {name ending : String} {dir target : Path} {w : Location}

/-- **A text that is one component**, and too long for `.` or `..`. -/
structure PlainName (name : String) : Prop where
  noSeparator : '/' ∉ name.toList
  long : 2 < name.toList.length

/-- A plain name is not empty, and leads neither nowhere nor back. -/
lemma PlainName.plain (h : PlainName name) : name ≠ "" ∧ name ≠ "." ∧ name ≠ ".." := by
  refine ⟨?_, ?_, ?_⟩ <;>
  · rintro rfl
    exact absurd h.long (by decide)

/-- Along a plain name one gets deeper. -/
lemma PlainName.along (h : PlainName name) (l : Location) :
    Location.along l name = l ++ [name] :=
  Location.along_of_name h.plain l

/-- **The place of a path ends in its last component**, if that is a plain name. -/
lemma place_of_endsIn {p : Path} (h : p.EndsIn name) (hname : PlainName name) (w : Location) :
    ∃ l, p.place w = l ++ [name] := by
  obtain ⟨cs, hcs⟩ := h.segments hname.noSeparator
  refine ⟨cs.foldl Location.along (if p.isAbsolute then [] else w), ?_⟩
  rw [Path.place, hcs, List.foldl_append]
  exact hname.along _

/-- The place of a temporary file ends in its name. -/
lemma place_tempPath (h : PlainName name) (t : FileTree) (dir : Path) (w : Location) :
    ∃ l, (t.tempPath dir name).place w = l ++ [name] :=
  place_of_endsIn (((Path.EndsIn.of_name name).join dir).join t.workdirPath) h w

/-- Digits of names are no separators. -/
lemma separator_notMem_nameOf (length n : Nat) : '/' ∉ nameOf length n := by
  induction length generalizing n with
  | zero => simp [nameOf]
  | succ length ih =>
    simp only [nameOf, List.mem_append, List.mem_singleton, not_or]
    refine ⟨ih _, ?_⟩
    rw [List.getD_eq_getElem?_getD]
    rcases h : nameDigits[n % 62]? with _ | c
    · simp
    · have hmem := List.mem_of_getElem? h
      rintro rfl
      exact absurd hmem (by decide)

/-- A name has as many digits as asked for. -/
lemma length_nameOf (length n : Nat) : (nameOf length n).length = length := by
  induction length generalizing n with
  | zero => rfl
  | succ length ih => simp [nameOf, ih]

/-- The characters of a temporary name. -/
lemma toList_tempName (beginning ending : String) (n : Nat) :
    (tempName beginning ending n).toList = beginning.toList ++ nameOf 6 n ++ ending.toList := by
  simp [tempName]

/-- Temporary names are plain. -/
lemma plainName_tempName {beginning : String} (hb : '/' ∉ beginning.toList)
    (he : '/' ∉ ending.toList) (n : Nat) : PlainName (tempName beginning ending n) := by
  constructor
  · simp [toList_tempName, hb, he, separator_notMem_nameOf]
  · simp [toList_tempName, length_nameOf]
    omega

/-- The name of a backup is plain. -/
lemma plainName_backup (n : Nat) : PlainName (tempName backupName "" n) :=
  plainName_tempName (by decide) (by decide) n

end FileTree

namespace Transaction

open FileTree

/-- The end of a temporary name is empty or begins with a dot, and has no separator. -/
lemma tempEnding_cases (target : Path) :
    (tempEnding target).toList = [] ∨
      ∃ extension, (tempEnding target).toList = '.' :: extension ∧ '/' ∉ extension := by
  unfold tempEnding
  rcases h : target.extension? with _ | extension
  · exact .inl rfl
  refine .inr ⟨extension.toList, by simp, ?_⟩
  unfold Path.extension? at h
  rcases hn : target.fileName? with _ | name
  · simp [hn] at h
  have hname : '/' ∉ name.toList := by
    unfold Path.fileName? at hn
    simp only [Option.ite_none_left_eq_some, Option.some.injEq] at hn
    obtain ⟨-, rfl⟩ := hn
    intro hmem
    simp only [String.toList_ofList, List.mem_reverse] at hmem
    simpa using List.all_eq_true.1 List.all_takeWhile _ hmem
  simp only [hn] at h
  split at h
  · simp at h
  · simp at h
  · obtain rfl : String.ofList (name.toList.reverse.takeWhile (· != '.')).reverse = extension := by
      simpa using h
    intro hmem
    simp only [String.toList_ofList, List.mem_reverse] at hmem
    exact hname (by simpa using List.takeWhile_subset _ hmem)

/-- The end of a temporary name has no separator. -/
lemma separator_notMem_tempEnding (target : Path) : '/' ∉ (tempEnding target).toList := by
  rcases tempEnding_cases target with h | ⟨extension, h, hsep⟩
  · simp [h]
  · simp [h, hsep]

/-- The name of a staged file is plain. -/
lemma plainName_staged (target : Path) (n : Nat) :
    PlainName (tempName stagedName (tempEnding target) n) :=
  plainName_tempName (by decide) (separator_notMem_tempEnding target) n

/-- **A staged file and a backup have different names**: they differ in what follows the first
seventeen characters. -/
lemma stagedName_ne_backupName (target : Path) (n k : Nat) :
    tempName stagedName (tempEnding target) n ≠ tempName backupName "" k := by
  intro heq
  have hat : (stagedName.toList ++ nameOf 6 n ++ (tempEnding target).toList)[17]? = some '-' := by
    rw [← toList_tempName, heq, toList_tempName, List.append_assoc]
    rw [List.getElem?_append_left (by decide)]
    decide
  have hlen : (stagedName.toList ++ nameOf 6 n).length = 17 := by
    rw [List.length_append, length_nameOf]
    decide
  rw [List.getElem?_append_right (by omega), hlen] at hat
  rcases tempEnding_cases target with h | ⟨extension, h, -⟩ <;> simp [h] at hat

/-- **A location with the name of a staged file.** -/
def StagedAt (l : Location) : Prop :=
  ∃ above target n, l = above ++ [tempName stagedName (tempEnding target) n]

/-- **A location with the name of a backup.** -/
def BackupAt (l : Location) : Prop := ∃ above n, l = above ++ [tempName backupName "" n]

/-- The path of a staged file leads to such a location. -/
lemma stagedAt_tempPath (t : FileTree) (dir target : Path) (n : Nat) (w : Location) :
    StagedAt ((t.tempPath dir (tempName stagedName (tempEnding target) n)).place w) := by
  obtain ⟨above, h⟩ := place_tempPath (plainName_staged target n) t dir w
  exact ⟨above, target, n, h⟩

/-- The path of a backup leads to such a location. -/
lemma backupAt_tempPath (t : FileTree) (dir : Path) (n : Nat) (w : Location) :
    BackupAt ((t.tempPath dir (tempName backupName "" n)).place w) := by
  obtain ⟨above, h⟩ := place_tempPath (plainName_backup n) t dir w
  exact ⟨above, n, h⟩

/-- A location with the name of a staged file has not the name of a backup. -/
lemma StagedAt.not_backupAt {l : Location} (h : StagedAt l) : ¬ BackupAt l := by
  obtain ⟨above, target, n, rfl⟩ := h
  rintro ⟨above', k, heq⟩
  exact stagedName_ne_backupName target n k (by simpa using (List.append_inj' heq rfl).2)

end Transaction

end UaHeaders
