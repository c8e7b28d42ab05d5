import UaHeaders.Proofs.Attribute.Accessors
import UaHeaders.Proofs.Attribute.Templates
import UaHeaders.Proofs.Lists

/-!
# The header of accessors

The body of the header for attributes is the accessors of its table: for each attribute in table order
the pair that reads it, and the pair that writes it if it is writeable. A comment line that holds nothing
but its mark is dropped on the way, and the only such line is the one for an extra sentence that is
missing or blank. Every other line of a template has text of its own, so that no text of a descriptor can
make it a bare mark.

## Main definitions

* `UaHeaders.AccessorPair.kept` — the lines of a pair that come into the header.
* `UaHeaders.Template.Worded` — lines of a template with text of their own.

## Main results

* `UaHeaders.AccessorPair.isBareMark_filled_iff` — which lines of a pair are bare marks.
* `UaHeaders.DescriptorTable.attributes_header` — the header of a table that was accepted.
-/

set_option autoImplicit false

namespace UaHeaders

open Text Template

variable {cs : List Char} {l s : String} {d : Descriptor} {pair : AccessorPair}

/-! ## Bare marks -/

/-- A bare mark has no other character that is not white space. -/
lemma filter_of_isBareMark (h : isBareMark l = true) :
    l.toList.filter (fun c => !isBlank c) = ['*'] := by
  rw [isBareMark, beq_iff_eq] at h
  rw [← filter_trim, h]
  decide

/-- A line with some other character that is not white space is no bare mark. -/
lemma isBareMark_of_mem {c : Char} (h : c ∈ l.toList) (hc : isBlank c = false) (hmark : c ≠ '*') :
    isBareMark l = false := by
  rw [← Bool.not_eq_true]
  intro hbare
  have hmem : c ∈ l.toList.filter fun c => !isBlank c := List.mem_filter.2 ⟨h, by simp [hc]⟩
  rw [filter_of_isBareMark hbare] at hmem
  exact hmark (by simpa using hmem)

/-- **A mark with a text behind it** is bare if the text is blank.

**Proof sketch.** A line is a bare mark if the star is all that is left of it without white space. Behind
the star nothing is left exactly if the text is blank. -/
lemma isBareMark_mark_append (s : String) : isBareMark (" * " ++ s) = isBlankText s := by
  have hchars : (" * " ++ s).toList = ' ' :: '*' :: ' ' :: s.toList := by
    rw [String.toList_append]
    rfl
  rw [Bool.eq_iff_iff, isBlankText_iff]
  constructor
  · intro hbare
    have hfilter := filter_of_isBareMark hbare
    rw [hchars, List.filter_cons_of_neg (by decide), List.filter_cons_of_pos (by decide),
      List.filter_cons_of_neg (by decide), List.cons_inj_right, List.filter_eq_nil_iff] at hfilter
    simpa using hfilter
  · intro hblank
    have hall : ∀ c ∈ ' ' :: s.toList, isBlank c = true := List.forall_mem_cons.2 ⟨by decide, hblank⟩
    have htrim : trimChars (['*'] ++ ' ' :: s.toList) = ['*'] := trimChars_append_blanks hall _
    rw [isBareMark, trim, hchars, trimChars_cons_of_isBlank (by decide), ← List.singleton_append, htrim]
    rfl

/-! ## Lines with text of their own -/

/-- Whether a character cannot stand in a bare mark. -/
def isWordy (c : Char) : Bool := !isBlank c && c != '*'

/-- **A line of a template with text of its own**: some text in it is more than a mark. -/
inductive Template.Worded : List Piece → Prop
  | here {cs : List Char} {line : List Piece} : cs.any isWordy = true →
      Worded (.text (String.ofList cs) :: line)
  | there {piece : Piece} {line : List Piece} : Worded line → Worded (piece :: line)

/-- A line with text of its own keeps it, whatever is filled in. -/
lemma Template.Worded.isBareMark_fillLine {line : List Piece} (h : Worded line) (bindings : Bindings) :
    isBareMark (fillLine bindings line) = false := by
  obtain ⟨c, hmem, hwordy⟩ : ∃ c ∈ (fillLine bindings line).toList, isWordy c = true := by
    induction h with
    | @here cs line hcs =>
      obtain ⟨c, hc, hwordy⟩ := List.any_eq_true.1 hcs
      refine ⟨c, ?_, hwordy⟩
      simp [fillLine, Piece.fill, hc]
    | @there piece line _ ih =>
      obtain ⟨c, hc, hwordy⟩ := ih
      refine ⟨c, ?_, hwordy⟩
      rw [fillLine, List.map_cons, String.join_cons, String.toList_append]
      exact List.mem_append_right _ hc
  rw [isWordy, Bool.and_eq_true, Bool.not_eq_true', bne_iff_ne] at hwordy
  exact isBareMark_of_mem hmem hwordy.1 hwordy.2

namespace AccessorPair

/-- **Every line of a template but the third** is empty or has text of its own. -/
lemma worded_template (pair : AccessorPair) :
    ∀ line ∈ pair.template.eraseIdx 2, line = [] ∨ Worded line := by
  -- One step for each piece in front of the first text of a line.
  cases pair
  all_goals
    simp only [template, List.eraseIdx_cons_succ, List.eraseIdx_cons_zero, List.forall_mem_cons,
      List.not_mem_nil, false_imp_iff, implies_true, and_true,
      true_or, true_and]
    repeat'
      first
      | refine ⟨?_, ?_⟩
      | refine .inr ?_
      | exact .here (by decide +kernel)
      | refine .there ?_

/-- The third line of a template is a mark with the place for the extra sentence. -/
lemma template_two (pair : AccessorPair) :
    pair.template[2]? = some [.text " * ", .place "detail"] := by
  cases pair <;> rfl

/-- **The bare marks in a pair**: the third line is one if there is no extra sentence or a blank one, and no
other line is.

**Proof sketch.** The third line is the mark with the extra sentence behind it. Every other line is
empty, or has a word in it whatever it is filled in with. -/
theorem isBareMark_filled_iff {i : Nat} (h : (pair.filled d)[i]? = some l) :
    isBareMark l = true ↔ i = 2 ∧ isBlankText (d.detail.getD "") = true := by
  rw [filled, List.getElem?_map] at h
  obtain ⟨line, hline, rfl⟩ := Option.map_eq_some_iff.1 h
  by_cases hi : i = 2
  · subst hi
    obtain rfl : [.text " * ", .place "detail"] = line :=
      Option.some.inj ((template_two pair).symm.trans hline)
    have hfill : fillLine d.fields.reverse [.text " * ", .place "detail"] =
        " * " ++ d.detail.getD "" := by
      simp [fillLine]
    rw [hfill, isBareMark_mark_append]
    simp
  · have hmem : line ∈ pair.template.eraseIdx 2 := List.mem_eraseIdx_iff_getElem?.2 ⟨i, hi, hline⟩
    have hbare : isBareMark (fillLine d.fields.reverse line) = false := by
      rcases worded_template pair line hmem with rfl | hworded
      · have hempty : isBareMark "" = false := by decide
        exact hempty
      · exact hworded.isBareMark_fillLine _
    simp [hbare, hi]

/-- **The lines of a pair that come into the header**: all of them, but for the one for an extra sentence that
is missing or blank. -/
def kept (pair : AccessorPair) (d : Descriptor) : List String :=
  if isBlankText (d.detail.getD "") then (pair.filled d).eraseIdx 2 else pair.filled d

/-- What is not a bare mark is kept. -/
lemma filter_filled (pair : AccessorPair) (d : Descriptor) :
    (pair.filled d).filter (fun l => !isBareMark l) = pair.kept d := by
  rw [kept]
  split_ifs with hblank
  · refine filter_eq_eraseIdx fun i l hl => ?_
    rw [Bool.not_eq_true', ← Bool.not_eq_true, isBareMark_filled_iff hl]
    simp [hblank]
  · rw [List.filter_eq_self]
    intro l hl
    obtain ⟨i, hi⟩ := List.getElem?_of_mem hl
    rw [Bool.not_eq_true', ← Bool.not_eq_true, isBareMark_filled_iff hi]
    simp [hblank]

/-- The lines of a pair are lines, if the texts of its descriptor are. -/
lemma oneLine_filled (hd : d.Unbroken) (hname : isIdentifier d.name = true) :
    ∀ l ∈ pair.filled d, OneLine l := by
  have hone := (oneLine_of_isIdentifier hname).1
  have hparam := (oneLine_of_isIdentifier (isIdentifier_lowerInitial hname)).1
  cases pair with
  | read =>
    rw [filled_read]
    exact fun l hl => (Descriptor.oneLine_and_noFrameLine (hd.innerLine_readLines hone l hl)).1
  | write =>
    rw [filled_write]
    exact fun l hl => (Descriptor.oneLine_and_noFrameLine (hd.innerLine_writeLines hone hparam l hl)).1

/-- **The lines of a pair that come into a header** are those of its text that are kept. -/
lemma keptLines_joinLines (hd : d.Unbroken) (hname : isIdentifier d.name = true)
    (pair : AccessorPair) : keptLines (joinLines (pair.filled d)) = pair.kept d := by
  have hlast : (pair.filled d).getLast? ≠ some "" := by
    rw [getLast?_filled]
    simp
  rw [keptLines, lines_joinLines (oneLine_filled hd hname) hlast, filter_filled]

end AccessorPair

/-! ## The header -/

namespace DescriptorTable

variable {ds : List Descriptor} {table : DescriptorTable}

/-- The accessors of a table that was accepted are the pairs of its descriptors. -/
lemma fragments_eq_of_ofList (h : ofList ds = .ok table) :
    table.fragments = ds.flatMap fun d => d.pairs.map fun pair => joinLines (pair.filled d) := by
  rw [fragments, (rows_of_ofList h).1]
  exact List.flatMap_congr fun d _ => d.fragments_eq

/-- The lines of the accessors that come into a header. -/
lemma map_keptLines_of_ofList (h : ofList ds = .ok table) (hds : ∀ d ∈ ds, d.Unbroken) :
    table.fragments.map keptLines = ds.flatMap fun d => d.pairs.map fun pair => pair.kept d := by
  rw [fragments_eq_of_ofList h, List.map_flatMap]
  refine List.flatMap_congr fun d hd => ?_
  rw [List.map_map]
  exact List.map_congr_left fun pair _ =>
    AccessorPair.keptLines_joinLines (hds d hd) ((rows_of_ofList h).2 d hd) pair

/-- **The header of a table that was accepted**, if the texts of its descriptors are lines. What is rendered
from the templates are its fragments; its body is the pairs of the descriptors in table order, without the
line for an extra sentence that is missing or blank; its lines are those of the frame around the pairs; and
these lines are all that is dropped.

**Proof sketch.** The fragments cannot break the frame, so that the body is the fragments without their
bare marks. Of the lines of a template all but the third have text of their own, and the third is a bare
mark if what fills its place is blank. -/
theorem attributes_header (h : ofList ds = .ok table) (hds : ∀ d ∈ ds, d.Unbroken) :
    (∃ templates, Templates.ofSources
        [("read", source AccessorPair.read.template), ("write", source AccessorPair.write.template)] =
          .ok templates ∧
      (ds.flatMap fun d => d.pairs.map fun pair => templates.render pair.name (.object d.fields)) =
        table.fragments.map .ok) ∧
    Skeleton.body table.fragments =
      joinSections (ds.flatMap fun d => d.pairs.map fun pair => joinLines (pair.kept d)) ∧
    lines (Target.attributes.skeleton.assemble table.fragments) =
      spaced (Target.attributes.skeleton.top.map lines ++
        (ds.flatMap fun d => d.pairs.map fun pair => pair.kept d) ++
        Target.attributes.skeleton.bottom.map lines) ∧
    ∀ d ∈ ds, ∀ pair ∈ d.pairs, ∀ (i : Nat) (l : String), (pair.filled d)[i]? = some l →
      (isBareMark l = true ↔ i = 2 ∧ isBlankText (d.detail.getD "") = true) := by
  have hfragments := fragment_of_ofList h hds
  have hkept := map_keptLines_of_ofList h hds
  refine ⟨?_, ?_, ?_, fun d _ pair _ i l hl => AccessorPair.isBareMark_filled_iff hl⟩
  · obtain ⟨templates, htemplates, hrender⟩ := AccessorPair.exists_templates
    refine ⟨templates, htemplates, ?_⟩
    rw [fragments_eq_of_ofList h, List.map_flatMap]
    refine List.flatMap_congr fun d _ => ?_
    rw [List.map_map]
    exact List.map_congr_left fun pair _ => hrender d pair
  · have hremoved : table.fragments.map bareMarksRemoved =
        (table.fragments.map keptLines).map joinLines := by
      rw [List.map_map]
      rfl
    rw [body_eq_joinSections_of_fragments hfragments, hremoved, hkept, List.map_flatMap]
    congr 1
    exact List.flatMap_congr fun d _ => List.map_map
  · rw [lines_assemble_of_fragments (Target.regular_skeleton .attributes) hfragments, hkept]

/-- A table with an extra sentence, a blank one, and a view that looks like a bare mark. -/
def mixedTable : List Descriptor :=
  [{ name := "Value", valueType := "Variant", viewType := some "*", detail := some " \t" },
    { name := "InverseName", valueType := "LocalizedText", copied := true, writeable := false
      detail := some "*" }]

/-- **A blank sentence is dropped and a mark in a text is not.** -/
theorem attributes_header_mixed :
    ofList mixedTable = .ok ⟨mixedTable⟩ ∧ (∀ d ∈ mixedTable, d.Unbroken) ∧
    Skeleton.body (DescriptorTable.fragments ⟨mixedTable⟩) =
      joinSections (mixedTable.flatMap fun d => d.pairs.map fun pair => joinLines (pair.kept d)) := by
  have htable : ofList mixedTable = .ok ⟨mixedTable⟩ := by decide +kernel
  have hunbroken : ∀ d ∈ mixedTable, d.Unbroken := by
    simp only [mixedTable, List.forall_mem_cons]
    exact ⟨⟨by decide, by simp; decide, by simp; decide⟩, ⟨by decide, by simp, by simp; decide⟩, by simp⟩
  exact ⟨htable, hunbroken, (attributes_header htable hunbroken).2.1⟩

end DescriptorTable

end UaHeaders
