import Mathlib.Data.List.Sort
import UaHeaders.Proofs.Lists
import UaHeaders.Proofs.Registry.Meaning
import UaHeaders.Proofs.Text.OctetOrder

/-!
# What a registry plan depends on

A plan is told by the names that are left in its schema files: those of all files without guard
together, and those of each guarded file. It does not show in which lines the names stood, how often,
or in which of the files without guard.

## Main definitions

* `UaHeaders.SchemaFile.Keeps`, `UaHeaders.Offered` — the names that are left in a file, and in the
  files without guard.
* `UaHeaders.RegistryPlan.Groups` — the plan that schema files ask for.
* `UaHeaders.Alike` — files in which the same names are left.
* `UaHeaders.Rearranged` — the same lines, laid out otherwise in the files.

## Main results

* `UaHeaders.ascends_ascending` — names are put in the order of their octets.
* `UaHeaders.RegistryPlan.Groups.unique` — there is one plan that alike files ask for.
* `UaHeaders.Rearranged.alike` — files that are rearranged stay alike.
* `UaHeaders.build_depends` — what a plan is, and what does not change it.

## Design

`Groups` does not say how the names of a block are found, only which they are and in which order. A
block that ascends strictly is fixed by its members, so that two plans are compared by names alone.
-/

set_option autoImplicit false

namespace UaHeaders

open Text

variable {exclusions : Exclusions} {file file' : SchemaFile} {files files' files'' : List SchemaFile}
  {name : String} {names : List String} {block block' : RegistryBlock} {plan plan' : RegistryPlan}

/-! ## Ascending names -/

/-- Names that come one after the other in the order of their octets. -/
def Ascends (names : List String) : Prop := names.Pairwise fun a b => octets a < octets b

/-- **Names are put in the order of their octets.** -/
lemma ascends_ascending (names : List String) : Ascends (ascending names) := by
  have hsorted : (ascending names).Pairwise (· ≤ ·) :=
    (List.pairwise_mergeSort' (· ≤ ·) names).sublist (distinct_sublist [] _)
  refine (hsorted.and (nodup_ascending names)).imp fun h => ?_
  exact octets_lt_iff.2 (lt_of_le_of_ne h.1 h.2)

/-- **Ascending names are told by which they are.** -/
lemma Ascends.eq_of_mem_iff {names' : List String} (h : Ascends names) (h' : Ascends names')
    (hmem : ∀ name, name ∈ names ↔ name ∈ names') : names = names' :=
  (h.imp octets_lt_iff.1).eq_of_mem_iff (h'.imp octets_lt_iff.1) hmem

/-! ## Names that are left -/

/-- Whether a name of a file is left, because it is not excluded. -/
def SchemaFile.Keeps (exclusions : Exclusions) (file : SchemaFile) (name : String) : Prop :=
  name ∈ file.identifiers ∧ exclusions.contains name = false

/-- **Whether a name is left in a file without guard.** -/
def Offered (exclusions : Exclusions) (files : List SchemaFile) (name : String) : Prop :=
  ∃ file ∈ files, file.guard = none ∧ file.Keeps exclusions name

/-- A name is left in the first file or in one after it. -/
lemma offered_cons :
    Offered exclusions (file :: files) name ↔
      file.guard = none ∧ file.Keeps exclusions name ∨ Offered exclusions files name := by
  simp [Offered]

/-- Excluding once more leaves the names that are left. -/
lemma keeps_apply : (exclusions.apply file).Keeps exclusions name ↔ file.Keeps exclusions name := by
  rw [SchemaFile.Keeps, SchemaFile.Keeps, Exclusions.apply, Exclusions.mem_retain]
  exact ⟨fun h => h.1, fun h => ⟨h, h.2⟩⟩

/-! ## Plans -/

/-- **A block that lists names**: those that have the property, in the order of their octets. -/
structure RegistryBlock.Lists (block : RegistryBlock) (guard : Option String)
    (property : String → Prop) : Prop where
  guard_eq : block.guard = guard
  mem_iff : ∀ name, name ∈ block.identifiers ↔ property name
  ascends : Ascends block.identifiers

namespace RegistryBlock.Lists

variable {guard guard' : Option String} {property property' : String → Prop}

/-- What a block lists may be said otherwise. -/
lemma congr (h : block.Lists guard property) (hguard : guard = guard')
    (hsame : ∀ name, property name ↔ property' name) : block.Lists guard' property' :=
  ⟨h.guard_eq.trans hguard, fun name => (h.mem_iff name).trans (hsame name), h.ascends⟩

/-- **A block is told by what it lists.** -/
lemma unique (h : block.Lists guard property) (h' : block'.Lists guard property) :
    block = block' := by
  have hnames : block.identifiers = block'.identifiers :=
    h.ascends.eq_of_mem_iff h'.ascends fun name => (h.mem_iff name).trans (h'.mem_iff name).symm
  have hguard : block.guard = block'.guard := h.guard_eq.trans h'.guard_eq.symm
  rcases block with ⟨_, _⟩
  rcases block' with ⟨_, _⟩
  rw [RegistryBlock.mk.injEq]
  exact ⟨hguard, hnames⟩

end RegistryBlock.Lists

/-- **The plan that schema files ask for**: a block of the names that are left in the files without
guard, if there are any, and then one for each guarded file, even if no name is left in it. -/
def RegistryPlan.Groups (plan : RegistryPlan) (files : List SchemaFile) (exclusions : Exclusions) :
    Prop :=
  ∃ (first : Option RegistryBlock) (rest : List RegistryBlock),
    plan.blocks = first.toList ++ rest ∧
    (first.isSome = true ↔ ∃ name, Offered exclusions files name) ∧
    (∀ block ∈ first, block.Lists none (Offered exclusions files)) ∧
    List.Forall₂ (fun file block => block.Lists file.guard (file.Keeps exclusions))
      (files.filter fun file => file.isGuarded) rest

/-- The block of the files without guard lists their names, if there are any.

**Proof sketch.** The names of the files without guard are gathered first. If there are none, there is no
block. -/
lemma exists_unguardedBlock (files : List SchemaFile) (exclusions : Exclusions) :
    ∃ first : Option RegistryBlock,
      RegistryPlan.unguardedBlock files exclusions = first.toList ∧
      (first.isSome = true ↔ ∃ name, Offered exclusions files name) ∧
      ∀ block ∈ first, block.Lists none (Offered exclusions files) := by
  have hmem : ∀ name, name ∈ ((files.filter fun file => !file.isGuarded).flatMap fun file =>
      exclusions.retain file.identifiers) ↔ Offered exclusions files name := by
    intro name
    rw [mem_unguarded]
    exact ⟨fun ⟨⟨file, hfile, hguard, hname⟩, hex⟩ => ⟨file, hfile, hguard, hname, hex⟩,
      fun ⟨file, hfile, hguard, hname, hex⟩ => ⟨⟨file, hfile, hguard, hname⟩, hex⟩⟩
  unfold RegistryPlan.unguardedBlock
  generalize (files.filter fun file => !file.isGuarded).flatMap
    (fun file => exclusions.retain file.identifiers) = names at hmem
  rcases names with _ | ⟨first, rest⟩
  · refine ⟨none, rfl, ?_, by simp⟩
    simp [← hmem]
  · refine ⟨some ⟨none, ascending (first :: rest)⟩, rfl, ?_, ?_⟩
    · exact iff_of_true rfl ⟨first, (hmem first).1 List.mem_cons_self⟩
    · rintro block ⟨⟩
      exact ⟨rfl, fun name => by rw [mem_ascending, hmem], ascends_ascending _⟩

/-- **The plan for schema files is the one that they ask for.** -/
lemma groups_build (files : List SchemaFile) (exclusions : Exclusions) :
    (RegistryPlan.build files exclusions).Groups files exclusions := by
  obtain ⟨first, hfirst, hsome, hlists⟩ := exists_unguardedBlock files exclusions
  refine ⟨first, RegistryPlan.guardedBlocks files exclusions, ?_, hsome, hlists, ?_⟩
  · rw [RegistryPlan.build, hfirst]
  · rw [RegistryPlan.guardedBlocks, List.forall₂_map_right_iff, List.forall₂_same]
    intro file _
    exact ⟨rfl, fun name => by rw [mem_ascending, Exclusions.mem_retain]; rfl, ascends_ascending _⟩

/-! ## Files that are alike -/

/-- **Files in which the same names are left**: in those without guard together, and in the guarded ones
one by one. -/
structure Alike (exclusions : Exclusions) (files files' : List SchemaFile) : Prop where
  offered_iff : ∀ name, Offered exclusions files name ↔ Offered exclusions files' name
  guarded : List.Forall₂ (fun file file' : SchemaFile => file.guard = file'.guard ∧
      ∀ name, file.Keeps exclusions name ↔ file'.Keeps exclusions name)
    (files.filter fun file => file.isGuarded) (files'.filter fun file => file.isGuarded)

namespace Alike

/-- Files are like themselves. -/
lemma refl (exclusions : Exclusions) (files : List SchemaFile) : Alike exclusions files files :=
  ⟨fun _ => Iff.rfl, List.forall₂_same.2 fun _ _ => ⟨rfl, fun _ => Iff.rfl⟩⟩

/-- To be alike goes both ways. -/
lemma symm (h : Alike exclusions files files') : Alike exclusions files' files := by
  refine ⟨fun name => (h.offered_iff name).symm, (h.guarded.imp fun file file' h => ?_).flip⟩
  exact ⟨h.1.symm, fun name => (h.2 name).symm⟩

/-- Files that are like the same files are alike. -/
lemma trans (h : Alike exclusions files files') (h' : Alike exclusions files' files'') :
    Alike exclusions files files'' := by
  refine ⟨fun name => (h.offered_iff name).trans (h'.offered_iff name),
    forall₂_comp h.guarded h'.guarded fun _ _ _ h h' => ?_⟩
  exact ⟨h.1.trans h'.1, fun name => (h.2 name).trans (h'.2 name)⟩

/-- Files stay alike with a file before them. -/
lemma cons (h : Alike exclusions files files') (hguard : file.guard = file'.guard)
    (hkeeps : ∀ name, file.Keeps exclusions name ↔ file'.Keeps exclusions name) :
    Alike exclusions (file :: files) (file' :: files') := by
  refine ⟨fun name => ?_, ?_⟩
  · rw [offered_cons, offered_cons, h.offered_iff, hguard, hkeeps]
  · rw [List.filter_cons, List.filter_cons, SchemaFile.isGuarded, SchemaFile.isGuarded, hguard]
    split_ifs
    · exact .cons ⟨hguard, hkeeps⟩ h.guarded
    · exact h.guarded

/-- A file without guard does not count among the guarded ones. -/
lemma filter_cons_unguarded (h : file.guard = none) (files : List SchemaFile) :
    (file :: files).filter (fun file => file.isGuarded) =
      files.filter fun file => file.isGuarded := by
  rw [List.filter_cons_of_neg]
  simp [SchemaFile.isGuarded, h]

/-- Files stay alike if only files without guard change, and their names are left in others of them. -/
lemma of_filter_eq
    (hoffered : ∀ name, Offered exclusions files name ↔ Offered exclusions files' name)
    (hguarded : files.filter (fun file => file.isGuarded) =
      files'.filter fun file => file.isGuarded) : Alike exclusions files files' := by
  refine ⟨hoffered, ?_⟩
  rw [hguarded, List.forall₂_same]
  exact fun _ _ => ⟨rfl, fun _ => Iff.rfl⟩

/-- A file without guard may stand behind the next file. -/
lemma swap (h : file.guard = none) (other : SchemaFile) (files : List SchemaFile) :
    Alike exclusions (file :: other :: files) (other :: file :: files) := by
  refine of_filter_eq (fun name => ?_) ?_
  · simp only [offered_cons]
    exact or_left_comm
  · rw [filter_cons_unguarded h, List.filter_cons, List.filter_cons, filter_cons_unguarded h]

/-- A file without guard may be split. -/
lemma split {left right : SchemaFile} (hfile : file.guard = none) (hleft : left.guard = none)
    (hright : right.guard = none) (files : List SchemaFile)
    (hkeeps : ∀ name, file.Keeps exclusions name ↔
      left.Keeps exclusions name ∨ right.Keeps exclusions name) :
    Alike exclusions (file :: files) (left :: right :: files) := by
  refine of_filter_eq (fun name => ?_) ?_
  · rw [offered_cons, offered_cons, offered_cons, hkeeps]
    simp only [hfile, hleft, hright, true_and, or_assoc]
  · rw [filter_cons_unguarded hfile, filter_cons_unguarded hleft, filter_cons_unguarded hright]

/-- Files are like themselves without the excluded names. -/
lemma map_apply (exclusions : Exclusions) (files : List SchemaFile) :
    Alike exclusions (files.map exclusions.apply) files := by
  induction files with
  | nil => exact refl _ _
  | cons file files ih => exact ih.cons rfl fun _ => keeps_apply

end Alike

namespace RegistryPlan.Groups

/-- A block that lists the names of a guarded file is guarded. -/
lemma isSome_of_lists {rest : List RegistryBlock}
    (h : List.Forall₂ (fun file block => block.Lists file.guard (file.Keeps exclusions))
      (files.filter fun file => file.isGuarded) rest) : ∀ block ∈ rest, block.guard.isSome := by
  intro block hblock
  obtain ⟨file, hfile, hlists⟩ := exists_of_forall₂ h hblock
  rw [hlists.guard_eq]
  exact (List.mem_filter.1 hfile).2

/-- The guarded blocks of a plan list the names of the guarded files. -/
lemma forall₂_guarded (h : plan.Groups files exclusions) :
    List.Forall₂ (fun file block => block.Lists file.guard (file.Keeps exclusions))
      (files.filter fun file => file.isGuarded)
      (plan.blocks.filter fun block => block.guard.isSome) := by
  obtain ⟨first, rest, hblocks, -, hfirst, hrest⟩ := h
  have hnone : first.toList.filter (fun block => block.guard.isSome) = [] := by
    rw [List.filter_eq_nil_iff]
    intro block hblock
    simp [(hfirst block (Option.mem_toList.1 hblock)).guard_eq]
  have hsome : rest.filter (fun block => block.guard.isSome) = rest := by
    rw [List.filter_eq_self]
    exact isSome_of_lists hrest
  rw [hblocks, List.filter_append, hnone, hsome, List.nil_append]
  exact hrest

/-- The other block of a plan lists the names that are left in the other files. -/
lemma offered_iff (h : plan.Groups files exclusions) (name : String) :
    Offered exclusions files name ↔
      ∃ block ∈ plan.blocks, block.guard = none ∧ name ∈ block.identifiers := by
  obtain ⟨first, rest, hblocks, hsome, hfirst, hrest⟩ := h
  rw [hblocks]
  constructor
  · intro hname
    obtain ⟨block, rfl⟩ := Option.isSome_iff_exists.1 (hsome.2 ⟨name, hname⟩)
    have hlists := hfirst block rfl
    exact ⟨block, List.mem_append_left _ (by simp), hlists.guard_eq, (hlists.mem_iff name).2 hname⟩
  · rintro ⟨block, hblock, hguard, hname⟩
    rcases List.mem_append.1 hblock with hblock | hblock
    · exact ((hfirst block (Option.mem_toList.1 hblock)).mem_iff name).1 hname
    · have hguarded := isSome_of_lists hrest block hblock
      simp [hguard] at hguarded

/-- **Files that ask for the same plan are alike.** -/
lemma alike (h : plan.Groups files exclusions) (h' : plan.Groups files' exclusions) :
    Alike exclusions files files' := by
  refine ⟨fun name => (h.offered_iff name).trans (h'.offered_iff name).symm,
    forall₂_comp h.forall₂_guarded h'.forall₂_guarded.flip fun file block file' hlists hlists' => ?_⟩
  exact ⟨hlists.guard_eq.symm.trans hlists'.guard_eq,
    fun name => (hlists.mem_iff name).symm.trans (hlists'.mem_iff name)⟩

/-- **Alike files ask for one plan.**

**Proof sketch.** The first block depends on the names that are offered, and these are the same. The
others stand for the guarded files in order, and alike files have the same guards and keep the same
names. -/
lemma unique (h : plan.Groups files exclusions) (h' : plan'.Groups files' exclusions)
    (halike : Alike exclusions files files') : plan = plan' := by
  obtain ⟨first, rest, hblocks, hsome, hfirst, hrest⟩ := h
  obtain ⟨first', rest', hblocks', hsome', hfirst', hrest'⟩ := h'
  have hthere : first.isSome = first'.isSome := by
    rw [Bool.eq_iff_iff, hsome, hsome']
    exact exists_congr halike.offered_iff
  have hfirsts : first = first' := by
    rcases first with _ | block <;> rcases first' with _ | block'
    · rfl
    · simp at hthere
    · simp at hthere
    · rw [((hfirst block rfl).congr rfl halike.offered_iff).unique (hfirst' block' rfl)]
  have hsame : List.Forall₂ (fun file block => block.Lists file.guard (file.Keeps exclusions))
      (files'.filter fun file => file.isGuarded) rest :=
    forall₂_comp halike.symm.guarded hrest fun _ _ _ hfile hlists =>
      hlists.congr hfile.1.symm fun name => (hfile.2 name).symm
  have hrests : List.Forall₂ Eq rest rest' :=
    forall₂_comp hsame.flip hrest' fun _ _ _ hlists hlists' => hlists.unique hlists'
  rw [List.forall₂_eq_eq_eq] at hrests
  rw [RegistryPlan.mk.injEq, hblocks, hblocks', hfirsts, hrests]

end RegistryPlan.Groups

/-- **Plans are equal exactly for alike files.** -/
lemma build_eq_build_iff :
    RegistryPlan.build files exclusions = RegistryPlan.build files' exclusions ↔
      Alike exclusions files files' := by
  refine ⟨fun h => ?_, (groups_build _ _).unique (groups_build _ _)⟩
  exact (groups_build files exclusions).alike (h ▸ groups_build files' exclusions)

/-! ## Files that are rearranged -/

/-- The schema files with the given texts. -/
def parsedFiles (given : List (SchemaSource × String)) : List SchemaFile :=
  given.map fun source => SchemaFile.parse source.1 source.2

/-- **The same lines, laid out otherwise**: in another order or again within a file, and among the files
without guard as one likes. Guarded files keep their lines and their order. -/
inductive Rearranged :
    List (SchemaSource × String) → List (SchemaSource × String) → Prop
  /-- Nothing is changed. -/
  | same (given : List (SchemaSource × String)) : Rearranged given given
  /-- What was changed is changed back. -/
  | back {given given' : List (SchemaSource × String)} :
      Rearranged given given' → Rearranged given' given
  /-- More is changed. -/
  | further {given given' given'' : List (SchemaSource × String)} :
      Rearranged given given' → Rearranged given' given'' → Rearranged given given''
  /-- A first file is left alone. -/
  | behind (first : SchemaSource × String) {given given' : List (SchemaSource × String)} :
      Rearranged given given' → Rearranged (first :: given) (first :: given')
  /-- The lines of a file are put in another order, or some of them are repeated. -/
  | relined (source : SchemaSource) {content content' : String}
      (rest : List (SchemaSource × String)) :
      (∀ line, line ∈ lines content ↔ line ∈ lines content') →
      Rearranged ((source, content) :: rest) ((source, content') :: rest)
  /-- A file without guard is moved behind another file. -/
  | moved {source : SchemaSource} (content : String) (other : SchemaSource × String)
      (rest : List (SchemaSource × String)) :
      source.guard = none →
      Rearranged ((source, content) :: other :: rest) (other :: (source, content) :: rest)
  /-- A file without guard is split into two. -/
  | split {whole left right : SchemaSource} {content leftContent rightContent : String}
      (rest : List (SchemaSource × String)) :
      whole.guard = none → left.guard = none → right.guard = none →
      (∀ line, line ∈ lines content ↔ line ∈ lines leftContent ∨ line ∈ lines rightContent) →
      Rearranged ((whole, content) :: rest) ((left, leftContent) :: (right, rightContent) :: rest)

/-- The names that are left in a text. -/
lemma keeps_parse {source : SchemaSource} {content : String} :
    (SchemaFile.parse source content).Keeps exclusions name ↔
      (name ≠ "" ∧ exclusions.contains name = false) ∧ ∃ line ∈ lines content, trim line = name := by
  rw [SchemaFile.Keeps, SchemaFile.mem_identifiers, and_right_comm]

/-- **Files that are rearranged stay alike.**

The induction is on the changes; only the last three look into the files. -/
lemma Rearranged.alike {given given' : List (SchemaSource × String)} (h : Rearranged given given') :
    Alike exclusions (parsedFiles given) (parsedFiles given') := by
  induction h with
  | same => exact Alike.refl _ _
  | back _ ih => exact ih.symm
  | further _ _ ih ih' => exact ih.trans ih'
  | behind first _ ih => exact ih.cons rfl fun _ => Iff.rfl
  | relined source rest hlines =>
    refine (Alike.refl exclusions (parsedFiles rest)).cons rfl fun name => ?_
    simp only [keeps_parse, hlines]
  | moved content other rest hguard => exact Alike.swap hguard _ _
  | split rest hwhole hleft hright hlines =>
    refine Alike.split hwhole hleft hright _ fun name => ?_
    simp only [keeps_parse, hlines, or_and_right, exists_or]
    exact and_or_left

/-! ## What a plan depends on -/

/-- **What a registry plan depends on.** The plan for schema files is the one that they ask for: a block of
the names that are left in the files without guard, if there are any, and then one block for each guarded
file, each in the order of octets. Two lists of files have the same plan exactly if they are alike. So the
plan, and the text of the header, is the same if the excluded names are left out before, and if the lines
are laid out otherwise.

**Proof sketch.** A block that ascends strictly is told by its names, so that there is one plan only that
files ask for, and files that ask for the same plan are alike. Files are alike without the excluded names,
and each way of rearranging them keeps them alike. -/
theorem build_depends (exclusions : Exclusions) :
    (∀ files plan, plan = RegistryPlan.build files exclusions ↔ plan.Groups files exclusions) ∧
    (∀ files files', RegistryPlan.build files exclusions = RegistryPlan.build files' exclusions ↔
      Alike exclusions files files') ∧
    (∀ files target macroName,
      RegistryPlan.build (files.map exclusions.apply) exclusions =
        RegistryPlan.build files exclusions ∧
      registryHeader target macroName (files.map exclusions.apply) exclusions =
        registryHeader target macroName files exclusions) ∧
    ∀ given given', Rearranged given given' → ∀ target macroName,
      RegistryPlan.build (parsedFiles given) exclusions =
        RegistryPlan.build (parsedFiles given') exclusions ∧
      registryHeader target macroName (parsedFiles given) exclusions =
        registryHeader target macroName (parsedFiles given') exclusions := by
  have hheader : ∀ {files files' : List SchemaFile}, Alike exclusions files files' →
      ∀ target macroName,
        RegistryPlan.build files exclusions = RegistryPlan.build files' exclusions ∧
        registryHeader target macroName files exclusions =
          registryHeader target macroName files' exclusions := by
    intro files files' halike target macroName
    have hplan := build_eq_build_iff.2 halike
    exact ⟨hplan, by rw [registryHeader, registryHeader, hplan]⟩
  refine ⟨fun files plan => ⟨?_, fun h => ?_⟩, fun _ _ => build_eq_build_iff, fun files => ?_,
    fun given given' h => hheader h.alike⟩
  · rintro rfl
    exact groups_build files exclusions
  · exact h.unique (groups_build files exclusions) (Alike.refl exclusions files)
  · exact hheader (Alike.map_apply exclusions files)

/-- A guarded file between two without guard. -/
def scattered : List (SchemaSource × String) :=
  [({ file := "base.txt" }, "Range\n Argument\nRange\n"),
    ({ file := "extra.txt", guard := some "UA_ENABLE_EXTRA" }, "Range\n"),
    ({ file := "more.txt" }, "Argument\nEUInformation")]

/-- The same lines, with those of the files without guard in one file at the end. -/
def gathered : List (SchemaSource × String) :=
  [({ file := "extra.txt", guard := some "UA_ENABLE_EXTRA" }, "Range\nRange\n"),
    ({ file := "all.txt" }, "EUInformation\nArgument\n Argument\nRange\n")]

/-- The lines are laid out otherwise: a file is moved, two are merged, and one is relined. -/
lemma rearranged_scattered : Rearranged scattered gathered := by
  have hbase : lines "Range\n Argument\nRange\n" = ["Range", " Argument", "Range"] := by decide
  have hmore : lines "Argument\nEUInformation" = ["Argument", "EUInformation"] := by decide
  have hall : lines "EUInformation\nArgument\n Argument\nRange\n" =
      ["EUInformation", "Argument", " Argument", "Range"] := by decide
  have hextra : lines "Range\n" = ["Range"] ∧ lines "Range\nRange\n" = ["Range", "Range"] := by
    decide
  refine .further (.moved _ _ _ rfl) (.further (.behind _ (.back (.split _ ?_ ?_ ?_ ?_)))
    (.relined _ _ ?_))
  · rfl
  · rfl
  · rfl
  · intro line
    rw [hall, hbase, hmore]
    simp only [List.mem_cons, List.not_mem_nil, or_false]
    constructor
    · rintro (h | h | h | h) <;> simp [h]
    · rintro ((h | h | h) | (h | h)) <;> simp [h]
  · intro line
    rw [hextra.1, hextra.2]
    simp

/-- **Files that are moved, merged and relined** give the same plan, without a name that both list. -/
theorem build_depends_gathered :
    Rearranged scattered gathered ∧
    (∃ file ∈ parsedFiles scattered, "Argument" ∈ file.identifiers) ∧
    RegistryPlan.build (parsedFiles scattered) ⟨["Argument"]⟩ =
      RegistryPlan.build (parsedFiles gathered) ⟨["Argument"]⟩ :=
  ⟨rearranged_scattered, by decide +kernel,
    ((build_depends ⟨["Argument"]⟩).2.2.2 scattered gathered rearranged_scattered .typeRegistry
      typeRegistryMacro).1⟩

end UaHeaders
