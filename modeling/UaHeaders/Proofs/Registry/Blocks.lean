import UaHeaders.Proofs.Registry.Conditionals
import UaHeaders.Proofs.Registry.Names
import UaHeaders.Registry.Plan

/-!
# Blocks as the preprocessor reads them

A block whose names are lines and whose guard is a symbol is a paragraph of lines that close what they
open. Active in it are the registrations of those names whose index is defined, when the guard is.

## Main definitions

* `UaHeaders.registrationLine`, `UaHeaders.symbolOf` — the line that registers a name, and the symbol
  of its index.
* `UaHeaders.RegistryBlock.Fit` — a block that can be written.
* `UaHeaders.RegistryBlock.active`, `registers` — the active lines of a block, and whether a name is
  registered by them.

## Main results

* `UaHeaders.RegistryBlock.Fit.paragraph` — a block is a paragraph.
* `UaHeaders.RegistryBlock.Fit.reads` — what is active in a block.
* `UaHeaders.RegistryBlock.count_active` — how often a name is registered in a block.
-/

set_option autoImplicit false

namespace UaHeaders

open Text Preprocessor

variable {macroName name other : String} {names : List String} {defined : String → Bool}
  {block : RegistryBlock}

/-! ## Registrations -/

/-- The symbol of the index of a name. -/
def symbolOf (name : String) : String := "UA_TYPES_" ++ upperAscii name

/-- **The line that registers a name.** -/
def registrationLine (macroName name : String) : String :=
  macroName ++ "(UA_" ++ name ++ ", UA_TYPES_" ++ upperAscii name ++ ")"

/-- The lines that register a name: the line itself, under the symbol of the index. -/
lemma Registration.lines_ofIdentifier (macroName name : String) :
    (Registration.ofIdentifier name).lines macroName =
      ["#ifdef " ++ symbolOf name, registrationLine macroName name, "#endif"] := by
  have hcall : macroName ++ "(" ++ ("UA_" ++ name) ++ ", " ++ ("UA_TYPES_" ++ upperAscii name) ++
      ")" = registrationLine macroName name := by
    rw [← String.toList_inj]
    simp [registrationLine]
  rw [lines, ofIdentifier, hcall]
  rfl

/-- **A line registers one name**: its length gives away the length of the name. -/
lemma registrationLine_inj (h : registrationLine macroName name = registrationLine macroName other) :
    name = other := by
  rw [← String.toList_inj] at h ⊢
  simp only [registrationLine, String.toList_append, List.append_assoc] at h
  have hrest := List.append_cancel_left (List.append_cancel_left h)
  have hlength := congrArg List.length hrest
  simp only [upperAscii, String.toList_ofList, List.length_append, List.length_map] at hlength
  exact (List.append_inj hrest (by omega)).1

/-- The macros of registry headers. -/
def IsRegistryMacro (macroName : String) : Prop :=
  macroName = typeRegistryMacro ∨ macroName = typeConverterMacro

/-- A macro is one line and begins with a letter. -/
lemma IsRegistryMacro.shape (h : IsRegistryMacro macroName) :
    OneLine macroName ∧ macroName.toList.head? = some 'U' := by
  rcases h with rfl | rfl <;> decide

/-- A registration begins with its macro. -/
lemma head?_registrationLine (h : IsRegistryMacro macroName) (name : String) :
    (registrationLine macroName name).toList.head? = some 'U' := by
  simp [registrationLine, h.shape.2]

/-- A registration of a line is one line. -/
lemma oneLine_registrationLine (h : IsRegistryMacro macroName) (hname : OneLine name) :
    OneLine (registrationLine macroName name) := by
  have hopening : OneLine "(UA_" := by decide
  have hmiddle : OneLine ", UA_TYPES_" := by decide
  have hclosing : OneLine ")" := by decide
  exact ((((h.shape.1.append hopening).append hname).append hmiddle).append
    hname.upperAscii).append hclosing

/-! ## Blocks -/

namespace RegistryBlock

/-- **A block that can be written**: its names are lines, its guard is a symbol, and without a guard
there is a name. -/
structure Fit (block : RegistryBlock) : Prop where
  names : ∀ name ∈ block.identifiers, OneLine name
  guard : ∀ guard ∈ block.guard, isIdentifier guard = true
  nonempty : block.guard = none → block.identifiers ≠ []

/-- The lines of a block by its guard. -/
lemma lines_eq (h : block.Fit) (macroName : String) : block.lines macroName =
    match block.guard with
    | none => block.bodyLines macroName
    | some guard => ("#ifdef " ++ guard) :: block.bodyLines macroName ++ ["#endif  // " ++ guard] := by
  unfold lines guardText
  rcases hg : block.guard with _ | guard
  · rfl
  · have hne : guard.isEmpty = false := by
      simpa using (oneLine_of_isIdentifier (h.guard guard (by simp [hg]))).2
    simp [hne]

/-- Every line of a block is one line, and begins with a hash or with the macro.

**Proof sketch.** A name takes three lines, two directives around a call of the macro. The guard, if
there is one, adds two more directives. -/
lemma Fit.forall_lines (h : block.Fit) (hreg : IsRegistryMacro macroName) :
    ∀ l ∈ block.lines macroName, OneLine l ∧
      (l.toList.head? = some '#' ∨ l.toList.head? = some 'U') := by
  have hifdef : OneLine "#ifdef " := by decide
  have hendif : OneLine "#endif  // " := by decide
  have hsymbol : OneLine "UA_TYPES_" := by decide
  have hbody : ∀ l ∈ block.bodyLines macroName, OneLine l ∧
      (l.toList.head? = some '#' ∨ l.toList.head? = some 'U') := by
    rw [bodyLines, List.forall_mem_flatMap]
    intro name hname
    have hone := h.names name hname
    simp only [Registration.lines_ofIdentifier, List.forall_mem_cons]
    exact ⟨⟨hifdef.append (hsymbol.append hone.upperAscii), .inl (by simp)⟩,
      ⟨oneLine_registrationLine hreg hone, .inr (head?_registrationLine hreg name)⟩,
      ⟨by decide, .inl (by decide)⟩, by simp⟩
  rw [lines_eq h]
  rcases hg : block.guard with _ | guard
  · exact hbody
  · have hone := (oneLine_of_isIdentifier (h.guard guard (by simp [hg]))).1
    simp only [List.cons_append, List.forall_mem_cons, List.forall_mem_append]
    exact ⟨⟨hifdef.append hone, .inl (by simp)⟩, hbody,
      ⟨hendif.append hone, .inl (by simp)⟩, by simp⟩

/-- A block has lines. -/
lemma Fit.lines_ne_nil (h : block.Fit) (macroName : String) : block.lines macroName ≠ [] := by
  rw [lines_eq h]
  rcases hg : block.guard with _ | guard
  · obtain ⟨name, names, hnames⟩ := List.exists_cons_of_ne_nil (h.nonempty hg)
    simp [bodyLines, hnames, Registration.lines_ofIdentifier]
  · simp

/-- **A block is a paragraph**, and none of its lines is a bare mark. -/
lemma Fit.paragraph (h : block.Fit) (hreg : IsRegistryMacro macroName) :
    Paragraph (joinLines (block.lines macroName)) ∧
      Text.lines (joinLines (block.lines macroName)) = block.lines macroName ∧
      ∀ l ∈ block.lines macroName, isBareMark l = false := by
  have hlines := h.forall_lines hreg
  have hne : ∀ l ∈ block.lines macroName, l ≠ "" := by
    rintro l hl rfl
    simpa using (hlines "" hl).2
  have hone : ∀ l ∈ block.lines macroName, OneLine l := fun l hl => (hlines l hl).1
  have hlast : (block.lines macroName).getLast? ≠ some "" :=
    fun hlast => hne "" (List.mem_of_getLast? hlast) rfl
  refine ⟨paragraph_joinLines hone (h.lines_ne_nil macroName)
    (fun hhead => hne "" (List.mem_of_head? hhead) rfl) hlast, lines_joinLines hone hlast, ?_⟩
  intro l hl
  rcases (hlines l hl).2 with hhead | hhead
  · exact isBareMark_of_head hhead (by decide) (by decide)
  · exact isBareMark_of_head hhead (by decide) (by decide)

/-! ## Active lines -/

/-- Whether the guard of a block is defined, if it has one. -/
def holds (defined : String → Bool) (block : RegistryBlock) : Bool := block.guard.all defined

/-- **The active lines of a block.** -/
def active (macroName : String) (defined : String → Bool) (block : RegistryBlock) : List String :=
  if block.holds defined then
    (block.identifiers.filter fun name => defined (symbolOf name)).map (registrationLine macroName)
  else []

/-- The registrations of names whose index is defined are active. -/
lemma reads_registrations (hreg : IsRegistryMacro macroName) (names : List String) :
    Reads defined (names.flatMap fun name => (Registration.ofIdentifier name).lines macroName)
      ((names.filter fun name => defined (symbolOf name)).map (registrationLine macroName)) := by
  induction names with
  | nil => exact reads_nil
  | cons name names ih =>
    have hline : Reads defined [registrationLine macroName name] _ :=
      reads_line (directive?_of_head (head?_registrationLine hreg name) (by decide))
    have hfirst := hline.guarded (symbolOf name) (show directive? "#endif" = some .endif by decide)
    rw [List.flatMap_cons, Registration.lines_ofIdentifier, List.filter_cons]
    rcases hd : defined (symbolOf name)
    · rw [hd] at hfirst
      exact hfirst.append ih
    · rw [hd] at hfirst
      exact hfirst.append ih

/-- **What is active in a block**: when its guard is defined, the registrations of the names whose index
is. -/
lemma Fit.reads (h : block.Fit) (hreg : IsRegistryMacro macroName) :
    Reads defined (block.lines macroName) (block.active macroName defined) := by
  have hbody : Reads defined (block.bodyLines macroName) _ :=
    reads_registrations hreg block.identifiers
  rw [lines_eq h, active, holds]
  rcases hg : block.guard with _ | guard
  · simpa using hbody
  · have hclosing : "#endif  // " ++ guard = "#endif" ++ ("  // " ++ guard) := by
      rw [← String.append_assoc]
      rfl
    have hguarded := hbody.guarded guard (directive?_endif ("  // " ++ guard))
    rw [← hclosing] at hguarded
    simpa using hguarded

/-- **Whether a name is registered in a block** once it is read. -/
def registers (defined : String → Bool) (name : String) (block : RegistryBlock) : Bool :=
  block.holds defined && defined (symbolOf name) && block.identifiers.contains name

/-- **A name is registered once in a block** whose names are not repeated, or not at all. -/
lemma count_active (hnodup : block.identifiers.Nodup) (macroName name : String) :
    (block.active macroName defined).count (registrationLine macroName name) =
      if block.registers defined name then 1 else 0 := by
  rw [active, registers]
  by_cases hholds : block.holds defined
  · rw [if_pos hholds, List.count_map_of_injective _ _ fun _ _ => registrationLine_inj,
      (hnodup.filter _).count]
    simp [List.mem_filter, hholds, and_comm]
  · simp [hholds]

/-- Every active line registers a name. -/
lemma exists_of_mem_active {l : String} (h : l ∈ block.active macroName defined) :
    ∃ name, l = registrationLine macroName name := by
  rw [active] at h
  split_ifs at h
  · obtain ⟨name, -, rfl⟩ := List.mem_map.1 h
    exact ⟨name, rfl⟩
  · simp at h

end RegistryBlock

end UaHeaders
