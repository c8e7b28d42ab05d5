import UaHeaders.Header.Target
import UaHeaders.Proofs.Registry.Blocks

/-!
# What a registry header means

Read by the preprocessor, a registry header registers each name as often as the schema files say: once
for the files without guard together, and once for every file whose guard is defined.

## Main definitions

* `UaHeaders.Target.registryMacro?` — the macro of a registry header.
* `UaHeaders.registrations` — how often a name is to be registered.
* `UaHeaders.registryHeader` — the text of a registry header.

## Main results

* `UaHeaders.plain_frame` — the frame of a registry header has no conditionals and calls no macro.
* `UaHeaders.fit_of_mem_build` — every block of a plan can be written.
* `UaHeaders.registryHeader_meaning` — what a registry header means.

## Design

The names of a schema file need not be identifiers; any trimmed line is a name. The meaning holds for
all of them, since a line that registers a name gives the name away.
-/

set_option autoImplicit false

namespace UaHeaders

open Text Preprocessor

variable {target : Target} {macroName name : String} {files : List SchemaFile}
  {exclusions : Exclusions} {defined : String → Bool} {block : RegistryBlock} {part : String}
  {ls : List String}

/-! ## The frame -/

/-- The macro of a registry header. -/
def Target.registryMacro? : Target → Option String
  | typeRegistry => some typeRegistryMacro
  | typeConverter => some typeConverterMacro
  | attributes => none
  | nodeIds => none

/-- The macro of a registry header is one of the two. -/
lemma isRegistryMacro_of_target (h : target.registryMacro? = some macroName) :
    IsRegistryMacro macroName := by
  cases target with
  | attributes => simp [Target.registryMacro?] at h
  | nodeIds => simp [Target.registryMacro?] at h
  | typeRegistry => exact .inl (by simpa [Target.registryMacro?, eq_comm] using h)
  | typeConverter => exact .inr (by simpa [Target.registryMacro?, eq_comm] using h)

/-- Whether a line calls the macro of a registry header. -/
def callsMacro (line : String) : Bool :=
  hasPrefix typeRegistryMacro line || hasPrefix typeConverterMacro line

/-- A line that registers a name calls its macro. -/
lemma callsMacro_registrationLine (h : IsRegistryMacro macroName) (name : String) :
    callsMacro (registrationLine macroName name) = true := by
  have hcall : hasPrefix macroName (registrationLine macroName name) = true := by
    rw [hasPrefix, List.isPrefixOf_iff_prefix]
    simp [registrationLine]
  rcases h with rfl | rfl
  · rw [callsMacro, hcall, Bool.true_or]
  · rw [callsMacro, hcall, Bool.or_true]

/-- **A section without conditionals** and without calls of the macros. -/
structure Plain (part : String) : Prop where
  paragraph : Paragraph part
  noDirective : ∀ l ∈ lines part, directive? l = none
  noCall : ∀ l ∈ lines part, callsMacro l = false

/-- Lines that are plain make a plain section. -/
lemma plain_joinLines (h : ∀ l ∈ ls, OneLine l ∧ directive? l = none ∧ callsMacro l = false)
    (hne : ls ≠ []) (hhead : ls.head? ≠ some "") (hlast : ls.getLast? ≠ some "") :
    Plain (joinLines ls) := by
  have hone : ∀ l ∈ ls, OneLine l := fun l hl => (h l hl).1
  refine ⟨paragraph_joinLines hone hne hhead hlast, ?_, ?_⟩
  · rw [lines_joinLines hone hlast]
    exact fun l hl => (h l hl).2.1
  · rw [lines_joinLines hone hlast]
    exact fun l hl => (h l hl).2.2

/-- A plain line is a plain section. -/
lemma plain_line (h : OneLine part ∧ directive? part = none ∧ callsMacro part = false)
    (hne : part ≠ "") : Plain part := by
  have hjoined : joinLines [part] = part := String.intercalate_singleton
  rw [← hjoined]
  exact plain_joinLines (by simpa using h) (by simp) (by simpa using hne) (by simpa using hne)

/-- The banner is plain. -/
lemma plain_banner : Plain banner := by
  obtain ⟨hpar, hcomment⟩ := paragraph_banner
  have hhead : ∀ l ∈ lines banner, l.toList.head? = some '/' := by
    intro l hl
    obtain ⟨cs, hcs⟩ := hcomment l hl
    rw [hcs, List.head?_cons]
  refine ⟨hpar, fun l hl => directive?_of_head (hhead l hl) (by decide), fun l hl => ?_⟩
  rw [callsMacro, hasPrefix_eq_false (show _ = some 'U' by decide) (hhead l hl) (by decide),
    hasPrefix_eq_false (show _ = some 'U' by decide) (hhead l hl) (by decide), Bool.or_false]

/-- A fenced frame is plain, if its include lines are.

**Proof sketch.** The frame is written out. Apart from the include lines its sections are fixed texts,
and each is one line or the banner. -/
lemma plain_fenced {includes : List String} (hne : includes ≠ [])
    (h : ∀ file ∈ includes, OneLine ("#include " ++ file) ∧
      directive? ("#include " ++ file) = none ∧ callsMacro ("#include " ++ file) = false)
    {s : Skeleton} (hs : s = { scope := "opcua", includes := includes, fenced := true }) :
    ∀ part ∈ s.top ++ s.bottom, Plain part := by
  have hlines : ∀ l ∈ includes.map fun file => "#include " ++ file,
      OneLine l ∧ directive? l = none ∧ callsMacro l = false := by
    simpa using h
  have hinclude : Plain (joinLines (includes.map fun file => "#include " ++ file)) :=
    plain_joinLines hlines (by simpa using hne) (by simp) (by simp)
  have hempty : includes.isEmpty = false := by simpa using hne
  have hopening : Plain ("namespace " ++ "opcua" ++ " \x7b") := plain_line (by decide) (by decide)
  have hclosing : Plain ("\x7d  // namespace " ++ "opcua") := plain_line (by decide) (by decide)
  have hparts : s.top ++ s.bottom =
      [banner, "#pragma once", joinLines (includes.map fun file => "#include " ++ file),
        "namespace " ++ "opcua" ++ " \x7b", "// clang-format off", "// clang-format on",
        "\x7d  // namespace " ++ "opcua"] := by
    rw [hs, Skeleton.top, Skeleton.bottom, Skeleton.includeSection, hempty]
    rfl
  rw [hparts]
  simp only [List.forall_mem_cons]
  exact ⟨plain_banner, plain_line (by decide) (by decide), hinclude, hopening,
    plain_line (by decide) (by decide), plain_line (by decide) (by decide), hclosing, by simp⟩

/-- **The frame of a registry header is plain.** -/
lemma plain_frame (h : target.registryMacro? = some macroName) :
    ∀ part ∈ target.skeleton.top ++ target.skeleton.bottom, Plain part := by
  cases target with
  | attributes => simp [Target.registryMacro?] at h
  | nodeIds => simp [Target.registryMacro?] at h
  | typeRegistry => exact plain_fenced (by decide) (by decide) rfl
  | typeConverter => exact plain_fenced (by decide) (by decide) rfl

/-- No line of a plain frame calls a macro. -/
lemma callsMacro_of_mem_frame {parts : List String} (h : ∀ part ∈ parts, Plain part) :
    ∀ l ∈ spaced (parts.map lines), callsMacro l = false := by
  refine forall_mem_spaced (by decide) ?_
  rw [List.forall_mem_map]
  exact fun part hpart => (h part hpart).noCall

/-- No name is registered in a plain frame. -/
lemma count_frame {parts : List String} (h : ∀ part ∈ parts, Plain part)
    (hreg : IsRegistryMacro macroName) (name : String) :
    (spaced (parts.map lines)).count (registrationLine macroName name) = 0 := by
  rw [List.count_eq_zero]
  intro hmem
  have hno := callsMacro_of_mem_frame h _ hmem
  rw [callsMacro_registrationLine hreg name] at hno
  simp at hno

/-- A plain frame is read as it stands. -/
lemma reads_frame {parts : List String} (h : ∀ part ∈ parts, Plain part) :
    List.Forall₂ (Reads defined) (parts.map lines) (parts.map lines) := by
  rw [List.forall₂_same, List.forall_mem_map]
  exact fun part hpart => reads_of_forall (h part hpart).noDirective

/-! ## Blocks of a plan -/

/-- **How often a name is to be registered**: once for the files without guard together, and once for each
file whose guard is defined; never if it is excluded or its index is not defined. -/
def registrations (defined : String → Bool) (exclusions : Exclusions) (files : List SchemaFile)
    (name : String) : Nat :=
  if exclusions.contains name ∨ defined (symbolOf name) = false then 0
  else
    (if ∃ file ∈ files, file.guard = none ∧ name ∈ file.identifiers then 1 else 0) +
      files.countP fun file => file.guard.any defined && file.identifiers.contains name

/-- The names in the block of the files without guard. -/
lemma mem_unguarded (files : List SchemaFile) (exclusions : Exclusions) (name : String) :
    name ∈ ((files.filter fun file => !file.isGuarded).flatMap fun file =>
        exclusions.retain file.identifiers) ↔
      (∃ file ∈ files, file.guard = none ∧ name ∈ file.identifiers) ∧
        exclusions.contains name = false := by
  simp only [List.mem_flatMap, List.mem_filter, SchemaFile.isGuarded, Exclusions.mem_retain,
    Bool.not_eq_true', Option.isSome_eq_false_iff, Option.isNone_iff_eq_none]
  constructor
  · rintro ⟨file, ⟨hfile, hguard⟩, hname, hex⟩
    exact ⟨⟨file, hfile, hguard, hname⟩, hex⟩
  · rintro ⟨⟨file, hfile, hguard, hname⟩, hex⟩
    exact ⟨file, ⟨hfile, hguard⟩, hname, hex⟩

/-- The block of the files without guard registers a name of them.

**Proof sketch.** There is one block at most, without guard and without a name twice. It registers the
name if the name is in it and its symbol is defined. -/
lemma countP_unguardedBlock (name : String) :
    (RegistryPlan.unguardedBlock files exclusions).countP (RegistryBlock.registers defined name) =
      if exclusions.contains name ∨ defined (symbolOf name) = false then 0
      else if ∃ file ∈ files, file.guard = none ∧ name ∈ file.identifiers then 1 else 0 := by
  have hmem := mem_unguarded files exclusions name
  unfold RegistryPlan.unguardedBlock
  generalize (files.filter fun file => !file.isGuarded).flatMap
    (fun file => exclusions.retain file.identifiers) = names at hmem
  have hregisters : RegistryBlock.registers defined name ⟨none, ascending names⟩ = true ↔
      defined (symbolOf name) = true ∧ name ∈ names := by
    simp [RegistryBlock.registers, RegistryBlock.holds, mem_ascending]
  have hcount : (if names.isEmpty then [] else [RegistryBlock.mk none (ascending names)]).countP
      (RegistryBlock.registers defined name) =
        if defined (symbolOf name) = true ∧ name ∈ names then 1 else 0 := by
    rcases names with _ | ⟨first, rest⟩
    · simp
    · simp only [List.isEmpty_cons, Bool.false_eq_true, if_false, List.countP_singleton,
        hregisters]
  simp only [hcount, hmem]
  rcases exclusions.contains name <;> rcases defined (symbolOf name) <;> simp

/-- The block of a guarded file registers its names when the guard is defined.

**Proof sketch.** The blocks stand for the guarded files one to one. Each registers the name if its guard
and the symbol are defined, and the name is listed and not excluded. -/
lemma countP_guardedBlocks (name : String) :
    (RegistryPlan.guardedBlocks files exclusions).countP (RegistryBlock.registers defined name) =
      if exclusions.contains name ∨ defined (symbolOf name) = false then 0
      else files.countP fun file => file.guard.any defined && file.identifiers.contains name := by
  have hregisters : ∀ file : SchemaFile,
      (file.guard.all defined && defined (symbolOf name) &&
        (ascending (exclusions.retain file.identifiers)).contains name && file.isGuarded) =
      (!exclusions.contains name && defined (symbolOf name) &&
        (file.guard.any defined && file.identifiers.contains name)) := by
    intro file
    have hnames : (ascending (exclusions.retain file.identifiers)).contains name =
        (file.identifiers.contains name && !exclusions.contains name) := by
      rw [Bool.eq_iff_iff]
      simp [mem_ascending, Exclusions.mem_retain]
    rw [hnames, SchemaFile.isGuarded]
    rcases file.guard with _ | guard
    · simp
    · simp only [Option.all_some, Option.any_some, Option.isSome_some, Bool.and_true]
      ac_rfl
  have hcount : (RegistryPlan.guardedBlocks files exclusions).countP
      (RegistryBlock.registers defined name) =
        files.countP fun file => !exclusions.contains name && defined (symbolOf name) &&
          (file.guard.any defined && file.identifiers.contains name) := by
    rw [RegistryPlan.guardedBlocks, List.countP_map, List.countP_filter]
    exact List.countP_congr fun file _ => by
      rw [← hregisters file]
      rfl
  rw [hcount]
  rcases exclusions.contains name <;> rcases defined (symbolOf name) <;> simp

/-- **The blocks of a plan register each name as often as they are to.** -/
lemma countP_build (name : String) :
    (RegistryPlan.build files exclusions).blocks.countP (RegistryBlock.registers defined name) =
      registrations defined exclusions files name := by
  rw [RegistryPlan.build, List.countP_append, countP_unguardedBlock, countP_guardedBlocks,
    registrations]
  split_ifs <;> rfl

/-- A guard that was checked is an identifier. -/
lemma isIdentifier_of_validate {source : SchemaSource} {guard : String}
    (h : source.validate = .ok ()) (hguard : guard ∈ source.guard) : isIdentifier guard = true := by
  rw [SchemaSource.validate, Option.mem_def.1 hguard] at h
  by_contra hno
  simp [hno] at h

/-- **Every block of a plan can be written**, and repeats no name, if the names of the files are lines and
their guards are symbols.

**Proof sketch.** The names of a block are sorted without repetition (`nodup_ascending`), and each of
them is a name of some file. -/
lemma fit_of_mem_build (hnames : ∀ file ∈ files, ∀ name ∈ file.identifiers, OneLine name)
    (hguards : ∀ file ∈ files, ∀ guard ∈ file.guard, isIdentifier guard = true)
    (h : block ∈ (RegistryPlan.build files exclusions).blocks) :
    block.Fit ∧ block.identifiers.Nodup := by
  rw [RegistryPlan.build, List.mem_append] at h
  rcases h with h | h
  · unfold RegistryPlan.unguardedBlock at h
    have hmem := mem_unguarded files exclusions
    generalize (files.filter fun file => !file.isGuarded).flatMap
      (fun file => exclusions.retain file.identifiers) = names at hmem h
    rcases names with _ | ⟨first, rest⟩
    · simp at h
    · obtain rfl : block = ⟨none, ascending (first :: rest)⟩ := by simpa using h
      refine ⟨⟨fun name hname => ?_, by simp, fun _ => ?_⟩, nodup_ascending _⟩
      · obtain ⟨⟨file, hfile, -, hlisted⟩, -⟩ := (hmem name).1 (mem_ascending.1 hname)
        exact hnames file hfile name hlisted
      · exact List.ne_nil_of_mem (mem_ascending.2 (List.mem_cons_self (a := first)))
  · obtain ⟨file, hfile, rfl⟩ := List.mem_map.1 h
    obtain ⟨hfile, hguarded⟩ := List.mem_filter.1 hfile
    refine ⟨⟨fun name hname => ?_, hguards file hfile, fun hnone => ?_⟩, nodup_ascending _⟩
    · exact hnames file hfile name (Exclusions.mem_retain.1 (mem_ascending.1 hname)).1
    · have hguard : file.guard = none := hnone
      rw [SchemaFile.isGuarded, hguard] at hguarded
      simp at hguarded

/-! ## Headers -/

/-- **The text of a registry header.** -/
def registryHeader (target : Target) (macroName : String) (files : List SchemaFile)
    (exclusions : Exclusions) : String :=
  target.skeleton.assemble ((RegistryPlan.build files exclusions).fragments macroName)

/-- The active lines of the blocks of a plan register each name once a block. -/
lemma count_spaced_active (macroName name : String) {blocks : List RegistryBlock}
    (h : ∀ block ∈ blocks, block.identifiers.Nodup) (hne : registrationLine macroName name ≠ "") :
    (spaced (blocks.map (RegistryBlock.active macroName defined))).count
        (registrationLine macroName name) =
      blocks.countP (RegistryBlock.registers defined name) := by
  induction blocks with
  | nil => rfl
  | cons block blocks ih =>
    rw [List.forall_mem_cons] at h
    have hfirst : spaced [block.active macroName defined] = block.active macroName defined :=
      List.intercalate_singleton
    rw [List.map_cons, ← List.singleton_append, count_spaced_append hne, hfirst,
      RegistryBlock.count_active h.1, ih h.2, List.countP_cons, Nat.add_comm]

/-- **The lines of a registry header** are those of the frame and of the blocks, with empty lines
between.

**Proof sketch.** The fragments are the blocks, each one paragraph without bare marks, and so the header
is assembled with one empty line between all sections. -/
lemma lines_registryHeader (htarget : target.registryMacro? = some macroName)
    (h : ∀ block ∈ (RegistryPlan.build files exclusions).blocks, block.Fit) :
    lines (registryHeader target macroName files exclusions) =
      spaced (target.skeleton.top.map lines ++
        (RegistryPlan.build files exclusions).blocks.map (RegistryBlock.lines macroName) ++
        target.skeleton.bottom.map lines) := by
  have hreg := isRegistryMacro_of_target htarget
  have hfragments : (RegistryPlan.build files exclusions).fragments macroName =
      (RegistryPlan.build files exclusions).blocks.map fun block =>
        joinLines (block.lines macroName) :=
    List.map_congr_left fun block hblock => ((h block hblock).paragraph hreg).1.trimNewlines
  have hlines : (RegistryPlan.build files exclusions).blocks.map
      (lines ∘ fun block => joinLines (block.lines macroName)) =
        (RegistryPlan.build files exclusions).blocks.map (RegistryBlock.lines macroName) :=
    List.map_congr_left fun block hblock => ((h block hblock).paragraph hreg).2.1
  rw [registryHeader, hfragments, Skeleton.lines_assemble, List.map_append, List.map_append,
    List.map_map, hlines]
  · exact fun part hpart => (plain_frame htarget part hpart).paragraph
  · rw [List.forall_mem_map]
    exact fun block hblock => ((h block hblock).paragraph hreg).1
  · rw [List.forall_mem_map]
    intro block hblock
    obtain ⟨-, hblockLines, hbare⟩ := (h block hblock).paragraph hreg
    rwa [hblockLines]

/-- The lines of a registry header that are active: its frame, and those of each block. -/
def activeHeader (target : Target) (macroName : String) (defined : String → Bool)
    (blocks : List RegistryBlock) : List String :=
  spaced (target.skeleton.top.map lines ++ blocks.map (RegistryBlock.active macroName defined) ++
    target.skeleton.bottom.map lines)

/-- **How often a name is registered by the active lines** of a header. -/
lemma count_activeHeader (htarget : target.registryMacro? = some macroName)
    {blocks : List RegistryBlock} (h : ∀ block ∈ blocks, block.identifiers.Nodup) (name : String) :
    (activeHeader target macroName defined blocks).count (registrationLine macroName name) =
      blocks.countP (RegistryBlock.registers defined name) := by
  have hreg := isRegistryMacro_of_target htarget
  obtain ⟨htop, hbottom⟩ := List.forall_mem_append.1 (plain_frame htarget)
  have hne : registrationLine macroName name ≠ "" := by
    intro hempty
    simpa [hempty] using head?_registrationLine hreg name
  rw [activeHeader, count_spaced_append hne, count_spaced_append hne, count_frame htop hreg,
    count_frame hbottom hreg, count_spaced_active macroName name h hne, Nat.zero_add, Nat.add_zero]

/-- Every active line of a header that calls a macro registers a name. -/
lemma exists_of_mem_activeHeader (htarget : target.registryMacro? = some macroName)
    {blocks : List RegistryBlock} :
    ∀ l ∈ activeHeader target macroName defined blocks, callsMacro l = true →
      ∃ name, l = registrationLine macroName name := by
  obtain ⟨htop, hbottom⟩ := List.forall_mem_append.1 (plain_frame htarget)
  refine forall_mem_spaced (fun hempty => absurd hempty (by decide)) ?_
  simp only [List.forall_mem_append, List.forall_mem_map]
  refine ⟨⟨fun part hpart l hl hcall => ?_, fun block _ l hl _ => ?_⟩,
    fun part hpart l hl hcall => ?_⟩
  · simp [(htop part hpart).noCall l hl] at hcall
  · exact RegistryBlock.exists_of_mem_active hl
  · simp [(hbottom part hpart).noCall l hl] at hcall

/-- **A registry header is read block by block.** -/
lemma reads_registryHeader (htarget : target.registryMacro? = some macroName)
    (h : ∀ block ∈ (RegistryPlan.build files exclusions).blocks, block.Fit) :
    Reads defined (lines (registryHeader target macroName files exclusions))
      (activeHeader target macroName defined (RegistryPlan.build files exclusions).blocks) := by
  obtain ⟨htop, hbottom⟩ := List.forall_mem_append.1 (plain_frame htarget)
  have hblocks : List.Forall₂ (Reads defined)
      ((RegistryPlan.build files exclusions).blocks.map (RegistryBlock.lines macroName))
      ((RegistryPlan.build files exclusions).blocks.map
        (RegistryBlock.active macroName defined)) := by
    rw [List.forall₂_map_left_iff, List.forall₂_map_right_iff, List.forall₂_same]
    exact fun block hblock => (h block hblock).reads (isRegistryMacro_of_target htarget)
  rw [lines_registryHeader htarget h]
  exact reads_spaced (List.rel_append (List.rel_append (reads_frame htop) hblocks)
    (reads_frame hbottom))

/-- **What a registry header means.** Whatever symbols are defined, all conditionals of the header are
balanced, the line that registers a name is active as often as the name is to be registered, and every
other active line calls no macro.

**Proof sketch.** The lines of the header are those of the frame and of the blocks, with empty lines
between. The frame has no conditionals, and each block closes what it opens; so the active lines are
those of the frame and of each block. A name is registered once in a block, if at all, and a line
registers one name only. -/
theorem registryHeader_meaning (htarget : target.registryMacro? = some macroName)
    (given : List (SchemaSource × String))
    (hvalid : ∀ source ∈ given, source.1.validate = .ok ()) (exclusions : Exclusions)
    (defined : String → Bool) :
    let files := given.map fun source => SchemaFile.parse source.1 source.2
    ∃ active,
      activeLines? defined (lines (registryHeader target macroName files exclusions)) =
        some active ∧
      (∀ name, active.count (registrationLine macroName name) =
        registrations defined exclusions files name) ∧
      ∀ line ∈ active, callsMacro line = true →
        ∃ name, line = registrationLine macroName name ∧
          0 < registrations defined exclusions files name := by
  intro files
  have hfit : ∀ block ∈ (RegistryPlan.build files exclusions).blocks,
      block.Fit ∧ block.identifiers.Nodup := by
    refine fun block hblock => fit_of_mem_build ?_ ?_ hblock
    · intro file hfile name hname
      obtain ⟨source, -, rfl⟩ := List.mem_map.1 hfile
      exact (SchemaFile.oneLine_of_mem hname).1
    · intro file hfile guard hguard
      obtain ⟨source, hsource, rfl⟩ := List.mem_map.1 hfile
      exact isIdentifier_of_validate (hvalid source hsource) hguard
  have hreads : Reads defined _ _ := reads_registryHeader htarget fun block hb => (hfit block hb).1
  have hcount : ∀ name, (activeHeader target macroName defined
      (RegistryPlan.build files exclusions).blocks).count (registrationLine macroName name) =
        registrations defined exclusions files name := by
    intro name
    rw [count_activeHeader htarget fun block hb => (hfit block hb).2, countP_build]
  refine ⟨_, hreads.activeLines?_eq, hcount, fun line hline hcall => ?_⟩
  obtain ⟨name, rfl⟩ := exists_of_mem_activeHeader htarget line hline hcall
  refine ⟨name, rfl, ?_⟩
  rw [← hcount name]
  exact List.count_pos_iff.2 hline

/-- A file without guard, and one with a guard that lists a name again. -/
def guardedAgain : List (SchemaSource × String) :=
  [({ file := "base.txt" }, "Range\nArgument\n"),
    ({ file := "extra.txt", guard := some "UA_ENABLE_EXTRA" }, "Range\n")]

/-- **A name that is listed again under a guard** is registered twice when the guard is defined, and one that
is excluded is not registered. -/
theorem registryHeader_meaning_again :
    ∃ active,
      activeLines? (fun _ => true) (lines (registryHeader .typeRegistry typeRegistryMacro
        (guardedAgain.map fun source => SchemaFile.parse source.1 source.2) ⟨["Argument"]⟩)) =
          some active ∧
      active.count (registrationLine typeRegistryMacro "Range") = 2 ∧
      active.count (registrationLine typeRegistryMacro "Argument") = 0 := by
  have htarget : Target.typeRegistry.registryMacro? = some typeRegistryMacro := rfl
  obtain ⟨active, hactive, hcount, -⟩ :=
    registryHeader_meaning htarget guardedAgain (by decide) ⟨["Argument"]⟩ fun _ => true
  exact ⟨active, hactive, (hcount "Range").trans (by decide +kernel),
    (hcount "Argument").trans (by decide +kernel)⟩

end UaHeaders
