import UaHeaders.Attribute.Standard
import UaHeaders.Proofs.Attribute.Header

/-!
# The names of accessors

Each pair of accessors declares two functions, one that waits and one that takes a completion token, whose
name has an ending. The names in a table differ, and so do the names of the functions of either kind. But
the ending is no mark that an attribute may not have: if one attribute is named as another one with the
ending, the function that waits for the one has the name of the function that does not wait for the other.

## Main definitions

* `UaHeaders.AccessorPair.functionName` — the name of a function.
* `UaHeaders.Declares` — lines that declare a function.
* `UaHeaders.DescriptorTable.functionNames` — the names that a table declares, in order.

## Main results

* `UaHeaders.AccessorPair.functionName_eq_iff` — when two functions have one name.
* `UaHeaders.DescriptorTable.forall₂_declares` — the declarations in the header of a table.
* `UaHeaders.DescriptorTable.nodup_functionNames_iff` — when all names differ.
-/

set_option autoImplicit false

namespace UaHeaders

open Text Template

variable {d e : Descriptor} {pair pair' : AccessorPair} {async async' : Bool}
  {ds : List Descriptor} {table : DescriptorTable}

/-! ## Names -/

namespace AccessorPair

/-- What the name of a function ends with. -/
def ending (async : Bool) : String := if async then "Async" else ""

/-- **The name of a function**: what it does, to which attribute, and whether it does not wait. -/
def functionName (pair : AccessorPair) (d : Descriptor) (async : Bool) : String :=
  pair.name ++ (d.name ++ ending async)

/-- The names of a pair. -/
def functionNames (pair : AccessorPair) (d : Descriptor) : List String :=
  [pair.functionName d false, pair.functionName d true]

/-- **Two functions have one name** if they do the same, to attributes whose names with the endings are the
same. -/
lemma functionName_eq_iff : pair.functionName d async = pair'.functionName e async' ↔
    pair = pair' ∧ d.name ++ ending async = e.name ++ ending async' := by
  refine ⟨fun h => ?_, by rintro ⟨rfl, h⟩; rw [functionName, functionName, h]⟩
  have hpair : pair = pair' := by
    have hhead := congrArg (fun s => s.toList.head?) h
    revert hhead
    cases pair <;> cases pair' <;> simp [functionName, name]
  subst hpair
  exact ⟨rfl, String.append_right_inj _ |>.1 h⟩

/-- A name of a pair is that of one of its functions. -/
lemma mem_functionNames {name : String} :
    name ∈ pair.functionNames d ↔ ∃ async, name = pair.functionName d async := by
  simp [functionNames]

/-- The names of a pair differ. -/
lemma nodup_functionNames (pair : AccessorPair) (d : Descriptor) : (pair.functionNames d).Nodup := by
  rw [functionNames, List.nodup_cons, List.mem_singleton, functionName_eq_iff]
  refine ⟨fun h => ?_, List.nodup_singleton _⟩
  have hending := String.append_right_inj _ |>.1 h.2
  exact absurd hending (by decide)

end AccessorPair

/-! ## Declarations -/

/-- **A line that declares a function**: what it gives, its name, and what it takes. -/
def Declares (l name : String) : Prop :=
  ∃ result parameters, l = "inline " ++ result ++ " " ++ name ++ "(" ++ parameters

/-- Whether a line begins as a declaration does. -/
def isDeclaration (l : String) : Bool := hasPrefix "inline " l

/-- A line with another first character is no declaration. -/
lemma isDeclaration_of_head {l : String} {c : Char} (h : l.toList.head? = some c) (hc : c ≠ 'i') :
    isDeclaration l = false :=
  hasPrefix_eq_false (show _ = some 'i' by rw [String.toList_ofList]; rfl) h hc

/-- A line that declares a function begins as a declaration does. -/
lemma Declares.isDeclaration {l name : String} (h : Declares l name) : isDeclaration l = true := by
  obtain ⟨result, parameters, rfl⟩ := h
  simp only [String.append_assoc]
  exact hasPrefix_append _ _

/-- **A line of a template that begins as no declaration does**, whatever is filled in. -/
inductive Template.Undeclared : List Piece → Prop
  | nil : Undeclared []
  | text {c : Char} {cs : List Char} {line : List Piece} : c ≠ 'i' →
      Undeclared (.text (String.ofList (c :: cs)) :: line)

/-- Such a line declares nothing. -/
lemma Template.Undeclared.isDeclaration_fillLine {line : List Piece} (h : Undeclared line)
    (bindings : Bindings) : isDeclaration (fillLine bindings line) = false := by
  cases h with
  | nil =>
    have hempty : isDeclaration "" = false := by decide
    exact hempty
  | @text c cs line hc =>
    refine isDeclaration_of_head ?_ hc
    simp [fillLine, Piece.fill]

namespace AccessorPair

/-- Where a template declares its functions. -/
def rows : AccessorPair → Nat × Nat
  | read => (8, 20)
  | write => (9, 21)

/-- The other lines of a template declare nothing. -/
lemma undeclared_template (pair : AccessorPair) :
    ∀ line ∈ pair.template.take pair.rows.1 ++
      ((pair.template.drop (pair.rows.1 + 1)).take (pair.rows.2 - pair.rows.1 - 1) ++
        pair.template.drop (pair.rows.2 + 1)), Undeclared line := by
  cases pair
  all_goals
    simp only [template, rows, List.take_succ_cons, List.take_zero, List.drop_succ_cons, List.drop_zero,
      Nat.reduceAdd, Nat.reduceSub, List.cons_append, List.nil_append, List.forall_mem_cons,
      List.not_mem_nil, false_imp_iff, implies_true, and_true]
    repeat'
      first
      | refine ⟨?_, ?_⟩
      | exact .nil
      | exact .text (by decide)

/-- **A template declares two functions**, one in front of the other; its other lines declare nothing.

**Proof sketch.** Each template is cut at the two lines that declare, and these are compared with a
declaration piece by piece. The other lines begin with another character, whatever they are filled in
with. -/
lemma exists_template_eq (pair : AccessorPair) (d : Descriptor) :
    ∃ before waiting between asynchronous after,
      pair.template = before ++ waiting :: (between ++ asynchronous :: after) ∧
      (∀ line ∈ before ++ (between ++ after), Undeclared line) ∧
      Declares (fillLine d.fields.reverse waiting) (pair.functionName d false) ∧
      Declares (fillLine d.fields.reverse asynchronous) (pair.functionName d true) := by
  have hread : "inline Result<" = "inline " ++ "Result<" ∧ "> read" = ">" ++ (" " ++ "read") ∧
      "inline auto read" = "inline " ++ ("auto" ++ (" " ++ "read")) ∧ "Async(" = "Async" ++ "(" := by
    decide
  have hwrite : "inline StatusCode write" = "inline " ++ ("StatusCode" ++ (" " ++ "write")) ∧
      "inline auto write" = "inline " ++ ("auto" ++ (" " ++ "write")) := by
    decide
  cases pair with
  | read =>
    refine ⟨read.template.take 8, _, (read.template.drop 9).take 11, _, read.template.drop 21, rfl,
      undeclared_template read, ⟨"Result<" ++ d.valueType ++ ">",
        Connection.any.declaration ++ ", const NodeId& id) noexcept \x7b", ?_⟩, ⟨"auto", "", ?_⟩⟩
    all_goals
      simp [-String.reduceAppend, fillLine, functionName, ending, name, hread, String.append_assoc]
  | write =>
    refine ⟨write.template.take 9, _, (write.template.drop 10).take 11, _, write.template.drop 22, rfl,
      undeclared_template write, ⟨"StatusCode", Connection.any.declaration ++ ", const NodeId& id, " ++
        d.writeType ++ " " ++ d.paramName ++ ") noexcept \x7b", ?_⟩, ⟨"auto", "", ?_⟩⟩
    all_goals
      simp [-String.reduceAppend, fillLine, functionName, ending, name, hread, hwrite, String.append_assoc]

/-- **The lines of a pair that declare a function** declare its functions. -/
theorem forall₂_declares_filled (pair : AccessorPair) (d : Descriptor) :
    List.Forall₂ Declares ((pair.filled d).filter isDeclaration) (pair.functionNames d) := by
  obtain ⟨before, waiting, between, asynchronous, after, htemplate, hundeclared, hwaiting,
    hasynchronous⟩ := exists_template_eq pair d
  have hnone : ∀ part : List (List Piece), (∀ line ∈ part, Undeclared line) →
      (part.map (fillLine d.fields.reverse)).filter isDeclaration = [] := by
    intro part hpart
    rw [List.filter_eq_nil_iff, List.forall_mem_map]
    intro line hline
    simp [(hpart line hline).isDeclaration_fillLine d.fields.reverse]
  rw [List.forall_mem_append, List.forall_mem_append] at hundeclared
  rw [filled, htemplate, List.map_append, List.map_cons, List.map_append, List.map_cons,
    List.filter_append, hnone before hundeclared.1, List.filter_cons_of_pos hwaiting.isDeclaration,
    List.filter_append, hnone between hundeclared.2.1,
    List.filter_cons_of_pos hasynchronous.isDeclaration, hnone after hundeclared.2.2]
  exact .cons hwaiting (.cons hasynchronous .nil)

/-- A declaration is no bare mark. -/
lemma isBareMark_of_isDeclaration {l : String} (h : isDeclaration l = true) : isBareMark l = false := by
  rw [isDeclaration, hasPrefix, List.isPrefixOf_iff_prefix] at h
  have hmem : 'i' ∈ l.toList := h.subset (by rw [String.toList_ofList]; simp)
  exact isBareMark_of_mem hmem (by decide) (by decide)

/-- No declaration of a pair is dropped on the way into the header. -/
lemma filter_kept (pair : AccessorPair) (d : Descriptor) :
    (pair.kept d).filter isDeclaration = (pair.filled d).filter isDeclaration := by
  rw [← filter_filled, List.filter_filter]
  refine List.filter_congr fun l _ => ?_
  rcases hl : isDeclaration l with _ | _
  · rfl
  · rw [isBareMark_of_isDeclaration hl]
    rfl

end AccessorPair

/-- **The frame of the header declares nothing.**

**Proof sketch.** A declaration begins with an `i`. The lines of the banner begin with a slash, and each
other part of the frame is one line that begins otherwise. -/
lemma filter_lines_frame : ∀ part ∈ Target.attributes.skeleton.top ++ Target.attributes.skeleton.bottom,
    (lines part).filter isDeclaration = [] := by
  have hline : ∀ (l : String) (c : Char), OneLine l → l.toList.head? = some c → c ≠ 'i' →
      (lines l).filter isDeclaration = [] := by
    intro l c hone hhead hc
    have hne : l ≠ "" := by
      rintro rfl
      simp at hhead
    rw [lines_of_oneLine hone hne, List.filter_cons_of_neg (by simp [isDeclaration_of_head hhead hc]),
      List.filter_nil]
  have hbanner : (lines banner).filter isDeclaration = [] := by
    rw [List.filter_eq_nil_iff]
    intro l hl
    obtain ⟨cs, hcs⟩ := paragraph_banner.2 l hl
    have hhead : l.toList.head? = some '/' := by simp [hcs]
    simp [isDeclaration_of_head hhead (by decide)]
  have hframe : Target.attributes.skeleton.top ++ Target.attributes.skeleton.bottom =
      [banner, "#pragma once", "#include \"open62541pp/services/attribute.hpp\"",
        "namespace opcua::services \x7b", "\x7d  // namespace opcua::services"] := by
    decide +kernel
  rw [hframe]
  simp only [List.forall_mem_cons]
  exact ⟨hbanner, hline _ '#' (oneLine_ofList (by decide)) (by simp) (by decide),
    hline _ '#' (oneLine_ofList (by decide)) (by simp) (by decide),
    hline _ 'n' (oneLine_ofList (by decide)) (by simp) (by decide),
    hline _ '\x7d' (oneLine_ofList (by decide)) (by simp) (by decide), by simp⟩

/-! ## Tables -/

namespace DescriptorTable

/-- **The names that a table declares**, in the order of their declarations. -/
def functionNames (ds : List Descriptor) : List String :=
  ds.flatMap fun d => d.pairs.flatMap fun pair => pair.functionNames d

/-- The names of the functions that wait, or of those that do not. -/
def namesOf (async : Bool) (ds : List Descriptor) : List String :=
  ds.flatMap fun d => d.pairs.map fun pair => pair.functionName d async

/-- **The names in a table that was accepted differ.** -/
lemma pairwise_name_of_ofList (h : ofList ds = .ok table) : ds.Pairwise fun d e => d.name ≠ e.name :=
  List.pairwise_map.1 (ofList_eq_ok_iff.1 h).2.2.2

/-- The pairs of an attribute differ. -/
lemma nodup_pairs (d : Descriptor) : d.pairs.Nodup := by
  rw [Descriptor.pairs]
  split_ifs <;> decide

/-- **The functions of either kind** have different names. -/
lemma nodup_namesOf (async : Bool) (h : ds.Pairwise fun d e => d.name ≠ e.name) :
    (namesOf async ds).Nodup := by
  rw [namesOf, List.nodup_flatMap]
  constructor
  · intro d _
    exact (nodup_pairs d).map fun pair pair' heq => (AccessorPair.functionName_eq_iff.1 heq).1
  · refine h.imp fun {d e} hne => ?_
    simp only [Function.onFun, List.disjoint_left, List.mem_map]
    rintro _ ⟨pair, -, rfl⟩ ⟨pair', -, heq⟩
    exact hne (String.append_left_inj _ |>.1 (AccessorPair.functionName_eq_iff.1 heq.symm).2)

/-- The names for one attribute differ. -/
lemma nodup_functionNames_pairs (d : Descriptor) :
    (d.pairs.flatMap fun pair => pair.functionNames d).Nodup := by
  rw [List.nodup_flatMap]
  refine ⟨fun pair _ => pair.nodup_functionNames d, (nodup_pairs d).imp fun {pair pair'} hne => ?_⟩
  simp only [Function.onFun, List.disjoint_left, AccessorPair.mem_functionNames]
  rintro _ ⟨async, rfl⟩ ⟨async', heq⟩
  exact hne (AccessorPair.functionName_eq_iff.1 heq).1

/-- **Two attributes have a name in common** only if one is named as the other one with the ending. -/
lemma disjoint_functionNames (hne : d.name ≠ e.name) (hde : e.name ≠ d.name ++ "Async")
    (hed : d.name ≠ e.name ++ "Async") :
    (d.pairs.flatMap fun pair => pair.functionNames d).Disjoint
      (e.pairs.flatMap fun pair => pair.functionNames e) := by
  simp only [List.disjoint_left, List.mem_flatMap, AccessorPair.mem_functionNames]
  rintro _ ⟨pair, -, async, rfl⟩ ⟨pair', -, async', heq⟩
  have hnames := (AccessorPair.functionName_eq_iff.1 heq).2
  cases async <;> cases async' <;>
    simp only [AccessorPair.ending, Bool.false_eq_true, if_false, if_true, String.append_empty] at hnames
  case false.false => exact hne hnames
  case false.true => exact hed hnames
  case true.false => exact hde hnames.symm
  case true.true => exact hne (String.append_left_inj _ |>.1 hnames)

/-- **The declarations in the header of a table** declare the functions of its attributes, in order.

**Proof sketch.** The lines of the header are those of the frame, which declares nothing, and those of
the pairs, attribute by attribute. A pair declares its two functions in order. -/
theorem forall₂_declares (h : ofList ds = .ok table) (hds : ∀ d ∈ ds, d.Unbroken) :
    List.Forall₂ Declares
      ((lines (Target.attributes.skeleton.assemble table.fragments)).filter isDeclaration)
      (functionNames ds) := by
  have hframe := List.forall_mem_append.1 filter_lines_frame
  have hnone : ∀ parts : List String, (∀ part ∈ parts, (lines part).filter isDeclaration = []) →
      ((parts.map lines).flatMap fun ls => ls.filter isDeclaration) = [] := by
    intro parts hparts
    rw [List.flatMap_map, List.flatMap_eq_nil_iff]
    exact hparts
  rw [lines_assemble_of_fragments (Target.regular_skeleton .attributes) (fragment_of_ofList h hds),
    map_keptLines_of_ofList h hds, filter_spaced (by decide), List.flatMap_append, List.flatMap_append,
    hnone _ hframe.1, hnone _ hframe.2, List.nil_append, List.append_nil, List.flatMap_assoc,
    functionNames]
  refine List.rel_flatMap (R := Eq) (List.forall₂_refl ds) ?_
  rintro d _ rfl
  simp only [List.flatMap_map]
  refine List.rel_flatMap (R := Eq) (List.forall₂_refl d.pairs) ?_
  rintro pair _ rfl
  simp only [AccessorPair.filter_kept]
  exact pair.forall₂_declares_filled d

/-- The names are different if no attribute is named as another one with the ending. -/
lemma nodup_functionNames (hnames : ds.Pairwise fun d e => d.name ≠ e.name)
    (h : ∀ d ∈ ds, ∀ e ∈ ds, e.name ≠ d.name ++ "Async") : (functionNames ds).Nodup := by
  rw [functionNames, List.nodup_flatMap]
  refine ⟨fun d _ => nodup_functionNames_pairs d, hnames.imp_of_mem fun {d e} hd he hne => ?_⟩
  exact disjoint_functionNames hne (h d hd e he) (h e he d hd)

/-- An attribute that is named as another one with the ending has a name in common with it.

**Proof sketch.** The function that reads the first without waiting has the name of the one that reads
the second. The two attributes differ, for their names have different lengths, so the name is there
twice. -/
lemma not_nodup_functionNames (hd : d ∈ ds) (he : e ∈ ds) (hname : e.name = d.name ++ "Async") :
    ¬ (functionNames ds).Nodup := by
  intro hnodup
  have hne : d ≠ e := by
    rintro rfl
    have hlength := congrArg String.length hname
    rw [String.length_append] at hlength
    have hending : "Async".length = 5 := by decide
    omega
  have hsymm : Std.Symm (Function.onFun List.Disjoint fun d : Descriptor =>
      d.pairs.flatMap fun pair => pair.functionNames d) := ⟨fun _ _ h => h.symm⟩
  have hdisjoint := (List.nodup_flatMap.1 hnodup).2.forall hd he hne
  have hshared : AccessorPair.read.functionName d true = AccessorPair.read.functionName e false := by
    rw [AccessorPair.functionName_eq_iff, hname]
    exact ⟨rfl, by simp [AccessorPair.ending]⟩
  refine @hdisjoint (AccessorPair.read.functionName d true) ?_ ?_
  · simp [AccessorPair.functionNames, Descriptor.pairs]
  · simp [AccessorPair.functionNames, Descriptor.pairs, hshared]

/-- **The names of the functions for a table that was accepted.** Each pair of each attribute declares its
two functions and nothing else, and no declaration is lost in the header if the texts are lines. The names of
the functions that wait are pairwise different, and so are those of the functions that do not; all of them
are pairwise different if and only if no attribute is named as another one with `Async` behind. -/
theorem nodup_functionNames_iff (h : ofList ds = .ok table) :
    table.fragments = (ds.flatMap fun d => d.pairs.map fun pair => joinLines (pair.filled d)) ∧
    (∀ d ∈ ds, ∀ pair ∈ d.pairs,
      List.Forall₂ Declares ((pair.filled d).filter isDeclaration) (pair.functionNames d)) ∧
    ((∀ d ∈ ds, d.Unbroken) → List.Forall₂ Declares
      ((lines (Target.attributes.skeleton.assemble table.fragments)).filter isDeclaration)
      (functionNames ds)) ∧
    (∀ async, (namesOf async ds).Nodup) ∧
    ((functionNames ds).Nodup ↔ ∀ d ∈ ds, ∀ e ∈ ds, e.name ≠ d.name ++ "Async") := by
  have hnames := pairwise_name_of_ofList h
  refine ⟨fragments_eq_of_ofList h, fun d _ pair _ => pair.forall₂_declares_filled d,
    forall₂_declares h, fun async => nodup_namesOf async hnames, ?_, nodup_functionNames hnames⟩
  intro hnodup d hd e he hname
  exact not_nodup_functionNames hd he hname hnodup

/-- **The functions for the attributes of the standard** have different names. -/
theorem nodup_functionNames_standard :
    ofList Descriptor.standard = .ok ⟨Descriptor.standard⟩ ∧ (functionNames Descriptor.standard).Nodup := by
  have htable : ofList Descriptor.standard = .ok ⟨Descriptor.standard⟩ := by decide +kernel
  have hnames : ∀ d ∈ Descriptor.standard, ∀ e ∈ Descriptor.standard, e.name ≠ d.name ++ "Async" := by
    decide +kernel
  exact ⟨htable, (nodup_functionNames_iff htable).2.2.2.2.2 hnames⟩

/-- A table with an attribute that is named as another one with the ending. -/
def endingTable : List Descriptor :=
  [{ name := "Value", valueType := "bool" }, { name := "ValueAsync", valueType := "bool" }]

/-- **A table may be accepted although two functions have one name**: reading one attribute without waiting
is named as reading the other one. -/
theorem functionNames_endingTable :
    ofList endingTable = .ok ⟨endingTable⟩ ∧ ¬ (functionNames endingTable).Nodup := by
  refine ⟨by decide +kernel, not_nodup_functionNames (List.mem_cons_self) (List.mem_cons_of_mem _
    (List.mem_cons_self)) ?_⟩
  decide

end DescriptorTable

end UaHeaders
