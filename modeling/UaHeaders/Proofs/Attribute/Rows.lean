import Mathlib.Tactic
import UaHeaders.Attribute.Descriptor
import UaHeaders.Proofs.Text.Identifiers
import UaHeaders.Proofs.Text.Trimmed

/-!
# Rows of a table of descriptors

A list of descriptors is accepted as a table if there is one, each is well formed in itself, and no name comes
again. Otherwise the first row that is at fault is blamed, behind rows without fault, for the first thing that
is wrong with it. That its name was used before is looked at last.

## Main definitions

* `UaHeaders.Descriptor.WellFormed` — rows that are well formed in themselves.
* `UaHeaders.Descriptor.FirstFault` — what is wrong with a row behind others.
* `UaHeaders.DescriptorTable.AtFault` — the places of rows that are at fault.

## Main results

* `UaHeaders.DescriptorTable.firstFault?_eq_none_iff` — rows without fault.
* `UaHeaders.DescriptorTable.exists_of_firstFault?` — the row that is blamed.
* `UaHeaders.DescriptorTable.ofList_eq_ok_iff` — the lists that become tables.
* `UaHeaders.DescriptorTable.ofList_accepts` — which lists are accepted, and what is blamed in the others.
-/

set_option autoImplicit false

namespace UaHeaders

open Text

/-! ## Single rows -/

namespace Descriptor

variable {d : Descriptor} {seen seen' : List String} {fault : DescriptorFault}

/-- **A row that is well formed in itself**: its name is an identifier, and there is something in its types
besides white space. -/
structure WellFormed (d : Descriptor) : Prop where
  name : d.name.toList ∈ identifierExpression.matches'
  valueType : ∃ c ∈ d.valueType.toList, isBlank c = false
  viewType : ∀ view ∈ d.viewType, ∃ c ∈ view.toList, isBlank c = false

/-- **What is wrong with a row** behind rows with the names seen: the first thing of these that applies. -/
inductive FirstFault (seen : List String) (d : Descriptor) : DescriptorFault → Prop
  | notIdentifier : d.name.toList ∉ identifierExpression.matches' → FirstFault seen d .notIdentifier
  | noValueType : d.name.toList ∈ identifierExpression.matches' →
      (∀ c ∈ d.valueType.toList, isBlank c = true) → FirstFault seen d .noValueType
  | noViewType {view : String} : d.name.toList ∈ identifierExpression.matches' →
      (∃ c ∈ d.valueType.toList, isBlank c = false) → d.viewType = some view →
      (∀ c ∈ view.toList, isBlank c = true) → FirstFault seen d .noViewType
  | repeatedName : d.WellFormed → d.name ∈ seen → FirstFault seen d .repeatedName

/-- No view type is blank if there is something in the one that is given. -/
lemma any_isBlankText_eq_false_iff {view : Option String} :
    view.any isBlankText = false ↔ ∀ v ∈ view, ∃ c ∈ v.toList, isBlank c = false := by
  cases view with
  | none => simp
  | some v => rw [Option.any_some, isBlankText_eq_false_iff]; simp

/-- **A row is well formed exactly if nothing is wrong with it in itself.** -/
lemma fault?_eq_none_iff : d.fault? = none ↔ d.WellFormed := by
  have hparts : d.WellFormed ↔ isIdentifier d.name = true ∧ isBlankText d.valueType = false ∧
      d.viewType.any isBlankText = false := by
    rw [isIdentifier_iff, isBlankText_eq_false_iff, any_isBlankText_eq_false_iff]
    exact ⟨fun h => ⟨h.name, h.valueType, h.viewType⟩, fun h => ⟨h.1, h.2.1, h.2.2⟩⟩
  rw [hparts, fault?]
  split_ifs with hname hvalue hview <;> simp_all

/-- What is wrong with a row in itself is the first thing that is wrong with it. -/
lemma firstFault_of_fault? (h : d.fault? = some fault) : FirstFault seen d fault := by
  rw [fault?] at h
  split_ifs at h with hname hvalue hview
  · obtain rfl : .notIdentifier = fault := by simpa using h
    rw [Bool.not_eq_true', ← Bool.not_eq_true, isIdentifier_iff] at hname
    exact .notIdentifier hname
  · obtain rfl : .noValueType = fault := by simpa using h
    rw [Bool.not_eq_true', Bool.not_eq_false, isIdentifier_iff] at hname
    exact .noValueType hname (isBlankText_iff.1 hvalue)
  · obtain rfl : .noViewType = fault := by simpa using h
    rw [Bool.not_eq_true', Bool.not_eq_false, isIdentifier_iff] at hname
    rw [Bool.not_eq_true, isBlankText_eq_false_iff] at hvalue
    obtain ⟨view, hsome, hblank⟩ := (Option.any_eq_true _ _).1 hview
    exact .noViewType hname hvalue hsome (isBlankText_iff.1 hblank)

/-- Something is wrong with a row only if it is malformed or repeats a name. -/
lemma FirstFault.malformed_or_mem (h : FirstFault seen d fault) : ¬ d.WellFormed ∨ d.name ∈ seen := by
  cases h with
  | notIdentifier hname => exact .inl fun hd => hname hd.name
  | noValueType _ hvalue =>
    refine .inl fun hd => ?_
    obtain ⟨c, hc, hblank⟩ := hd.valueType
    exact Bool.false_ne_true (hblank.symm.trans (hvalue c hc))
  | noViewType _ _ hview hblanks =>
    refine .inl fun hd => ?_
    obtain ⟨c, hc, hblank⟩ := hd.viewType _ hview
    exact Bool.false_ne_true (hblank.symm.trans (hblanks c hc))
  | repeatedName _ hmem => exact .inr hmem

/-- It only matters which names were seen. -/
lemma FirstFault.congr (h : FirstFault seen d fault) (hseen : ∀ name, name ∈ seen ↔ name ∈ seen') :
    FirstFault seen' d fault := by
  cases h with
  | notIdentifier hname => exact .notIdentifier hname
  | noValueType hname hvalue => exact .noValueType hname hvalue
  | noViewType hname hvalue hview hblank => exact .noViewType hname hvalue hview hblank
  | repeatedName hd hmem => exact .repeatedName hd ((hseen _).1 hmem)

end Descriptor

/-! ## Rows behind one another -/

namespace DescriptorTable

variable {ds before after : List Descriptor} {d : Descriptor} {seen : List String} {row i k : Nat}
  {fault : DescriptorFault} {table : DescriptorTable}

/-- A row without fault in itself and with a new name is passed. -/
lemma firstFault?_cons_of_wellFormed (hd : d.WellFormed) (hseen : d.name ∉ seen) :
    firstFault? seen row (d :: ds) = firstFault? (d.name :: seen) (row + 1) ds := by
  rw [firstFault?, Descriptor.fault?_eq_none_iff.2 hd]
  exact if_neg hseen

/-- A row is passed, or blamed for the first thing that is wrong with it. -/
lemma passed_or_blamed (seen : List String) (row : Nat) (d : Descriptor) (ds : List Descriptor) :
    (d.WellFormed ∧ d.name ∉ seen) ∨
      ∃ fault, firstFault? seen row (d :: ds) = some (row, d, fault) ∧ d.FirstFault seen fault := by
  rcases hfault : d.fault? with _ | fault
  · have hd := Descriptor.fault?_eq_none_iff.1 hfault
    by_cases hseen : d.name ∈ seen
    · refine .inr ⟨.repeatedName, ?_, .repeatedName hd hseen⟩
      rw [firstFault?, hfault]
      exact if_pos hseen
    · exact .inl ⟨hd, hseen⟩
  · refine .inr ⟨fault, ?_, Descriptor.firstFault_of_fault? hfault⟩
    rw [firstFault?, hfault]

/-- **Rows without fault** are well formed, and their names are new and differ.

**Proof sketch.** Induction on the rows. Either the first row passes, and its name is seen behind it; or
it has a fault, and then it is malformed or its name was seen. -/
lemma firstFault?_eq_none_iff :
    firstFault? seen row ds = none ↔
      (∀ d ∈ ds, d.WellFormed ∧ d.name ∉ seen) ∧ (ds.map Descriptor.name).Nodup := by
  induction ds generalizing seen row with
  | nil => simp [firstFault?]
  | cons d ds ih =>
    rw [List.forall_mem_cons, List.map_cons, List.nodup_cons]
    rcases passed_or_blamed seen row d ds with ⟨hd, hseen⟩ | ⟨fault, hblamed, hfirst⟩
    · -- the names behind it are new to what was seen and to its own
      rw [firstFault?_cons_of_wellFormed hd hseen, ih]
      simp only [List.mem_cons, not_or, List.mem_map, not_exists, not_and]
      constructor
      · rintro ⟨hds, hnodup⟩
        exact ⟨⟨⟨hd, hseen⟩, fun e he => ⟨(hds e he).1, (hds e he).2.2⟩⟩,
          fun e he => (hds e he).2.1, hnodup⟩
      · rintro ⟨⟨-, hds⟩, hnew, hnodup⟩
        exact ⟨fun e he => ⟨(hds e he).1, hnew e he, (hds e he).2⟩, hnodup⟩
    · rw [hblamed]
      refine iff_of_false (by simp) ?_
      rintro ⟨⟨⟨hd, hseen⟩, -⟩, -⟩
      exact hfirst.malformed_or_mem.elim (fun h => h hd) hseen

/-- **The row that is blamed** stands behind rows without fault, and is blamed for the first thing that is
wrong with it. -/
lemma exists_of_firstFault? (h : firstFault? seen row ds = some (k, d, fault)) :
    ∃ before after, ds = before ++ d :: after ∧ k = row + before.length ∧
      firstFault? seen row before = none ∧
      d.FirstFault ((before.map Descriptor.name).reverse ++ seen) fault := by
  induction ds generalizing seen row with
  | nil => cases h
  | cons e ds ih =>
    rcases passed_or_blamed seen row e ds with ⟨he, hseen⟩ | ⟨fault', hblamed, hfirst⟩
    · rw [firstFault?_cons_of_wellFormed he hseen] at h
      obtain ⟨before, after, rfl, rfl, hbefore, hfirst⟩ := ih h
      refine ⟨e :: before, after, rfl, by rw [List.length_cons]; omega, ?_, ?_⟩
      · rw [firstFault?_cons_of_wellFormed he hseen, hbefore]
      · rw [List.map_cons, List.reverse_cons, List.append_assoc]
        exact hfirst
    · obtain ⟨rfl, rfl, rfl⟩ : row = k ∧ e = d ∧ fault' = fault := by simpa [hblamed] using h
      exact ⟨[], ds, rfl, rfl, rfl, hfirst⟩

/-! ## Tables -/

/-- **The place of a row at fault**: one that is malformed in itself, or has the name of an earlier row. -/
def AtFault (ds : List Descriptor) (i : Nat) : Prop :=
  ∃ d, ds[i]? = some d ∧ (¬ d.WellFormed ∨ d.name ∈ (ds.take i).map Descriptor.name)

/-- No row is at fault among rows that were passed. -/
lemma not_atFault_of_firstFault? (h : firstFault? [] 0 ds = none) (i : Nat) : ¬ AtFault ds i := by
  obtain ⟨hds, hnodup⟩ := firstFault?_eq_none_iff.1 h
  rintro ⟨d, hd, hfault | hmem⟩
  · exact hfault (hds d (List.mem_of_getElem? hd)).1
  · -- the names of the earlier rows end in front of the row's own
    obtain ⟨hi, rfl⟩ := List.getElem?_eq_some_iff.1 hd
    rw [← List.take_append_drop i ds, List.drop_eq_getElem_cons hi, List.map_append, List.map_cons,
      List.nodup_append] at hnodup
    exact hnodup.2.2 _ hmem _ List.mem_cons_self rfl

/-- **A row that is blamed behind rows that were passed** is the first one at fault. -/
lemma isLeast_atFault (hbefore : firstFault? [] 0 before = none)
    (hfirst : d.FirstFault (before.map Descriptor.name) fault) :
    IsLeast {i | AtFault (before ++ d :: after) i} before.length := by
  refine ⟨⟨d, by simp, ?_⟩, fun i hi => ?_⟩
  · rw [List.take_left]
    exact hfirst.malformed_or_mem
  · by_contra hlt
    obtain ⟨e, he, hfault⟩ := hi
    rw [List.getElem?_append_left (by omega)] at he
    rw [List.take_append_of_le_length (by omega)] at hfault
    exact not_atFault_of_firstFault? hbefore i ⟨e, he, hfault⟩

/-- **A list is accepted** if it has rows, all of them well formed, with different names. They become the rows
of the table. -/
lemma ofList_eq_ok_iff :
    ofList ds = .ok table ↔ table = ⟨ds⟩ ∧ ds ≠ [] ∧ (∀ d ∈ ds, d.WellFormed) ∧
      (ds.map Descriptor.name).Nodup := by
  have hpassed : firstFault? [] 0 ds = none ↔
      (∀ d ∈ ds, d.WellFormed) ∧ (ds.map Descriptor.name).Nodup := by
    simp [firstFault?_eq_none_iff]
  rw [← hpassed, ofList]
  split_ifs with hempty
  · simp [List.isEmpty_iff.1 hempty]
  · rw [List.isEmpty_iff] at hempty
    rcases firstFault? [] 0 ds with _ | ⟨k, d, fault⟩
    · simp [hempty, eq_comm]
    · simp

/-- **Which lists of descriptors are accepted, and what is blamed in the others.** A list becomes a table
exactly if it has rows, each of them well formed in itself, and no two rows have one name. There is no table
without rows. Of any other list that is refused, the first row that is malformed or repeats the name of an
earlier one is blamed, with its place, for the first thing of name, value type, view type and repetition that
is wrong with it. -/
theorem ofList_accepts (ds : List Descriptor) :
    ((∃ table, ofList ds = .ok table) ↔
      ds ≠ [] ∧ (∀ d ∈ ds, d.WellFormed) ∧ (ds.map Descriptor.name).Nodup) ∧
    ((ds = [] ∧ ofList ds = .error (.configuration .emptyTable)) ∨ ofList ds = .ok ⟨ds⟩ ∨
      ∃ i d fault, IsLeast {i | AtFault ds i} i ∧ ds[i]? = some d ∧
        d.FirstFault ((ds.take i).map Descriptor.name) fault ∧
        ofList ds = .error (.configuration (.descriptor i d.name fault))) := by
  refine ⟨by simp [ofList_eq_ok_iff], ?_⟩
  rcases eq_or_ne ds [] with rfl | hds
  · exact .inl ⟨rfl, rfl⟩
  have hne : ds.isEmpty = false := by simpa using hds
  refine .inr ?_
  rcases hblamed : firstFault? [] 0 ds with _ | ⟨k, d, fault⟩
  · exact .inl (by simp [ofList, hne, hblamed])
  · obtain ⟨before, after, rfl, rfl, hbefore, hfirst⟩ := exists_of_firstFault? hblamed
    have hfirst := hfirst.congr fun name => (by simp : _ ↔ name ∈ before.map Descriptor.name)
    refine .inr ⟨before.length, d, fault, isLeast_atFault hbefore hfirst, by simp, ?_, ?_⟩
    · rwa [List.take_left]
    · simp [ofList, hblamed]

/-- A name that comes again is blamed before the row behind it, that has no name. -/
example :
    ofList [{ name := "Value", valueType := "Variant" }, { name := "Value", valueType := "Variant" },
      { name := "", valueType := "Variant" }] =
        .error (.configuration (.descriptor 1 "Value" .repeatedName)) := by
  decide +kernel

end DescriptorTable

end UaHeaders
