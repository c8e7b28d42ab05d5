import UaHeaders.Proofs.Lists
import UaHeaders.Proofs.Registry.Names
import UaHeaders.Proofs.Text.Layout

/-!
# Schema files are normal forms

The names of a schema file are what stands in the lines of a text, each once and in the order of their first
lines. They are a normal form of the text: written out line by line they are read back, and texts that differ
in their layout, or in lines that come again, have the same names.

## Main results

* `UaHeaders.SchemaFile.pairwise_identifiers` — the order in which they stand.
* `UaHeaders.SchemaFile.identifiersOf_joinLines` — they are read back.
* `UaHeaders.SchemaFile.identifiersOf_congr` — they do not depend on the layout.
* `UaHeaders.SchemaFile.parse_normalForm` — all of this together.
-/

set_option autoImplicit false

namespace UaHeaders.SchemaFile

open Text

variable {text text' : String}

/-! ## The order of the names -/

/-- **The names stand in the order** of their first lines. -/
lemma pairwise_identifiers (source : SchemaSource) (text : String) :
    (parse source text).identifiers.Pairwise fun a b =>
      ((lines text).map trim).idxOf a < ((lines text).map trim).idxOf b := by
  refine (pairwise_distinct [] _).imp_of_mem fun {a b} ha hb hlt => ?_
  have hkept : ∀ x ∈ (parse source text).identifiers, (!x.isEmpty) = true := fun x hx => by
    simpa using (mem_identifiers.1 hx).1
  exact idxOf_lt_of_filter (hkept a ha) (hkept b hb) hlt

/-! ## Names that are read back -/

/-- **Names that are written out line by line** are read back. -/
lemma identifiersOf_joinLines (source : SchemaSource) (text : String) :
    identifiersOf (joinLines (parse source text).identifiers) = (parse source text).identifiers := by
  have hmem : ∀ name ∈ (parse source text).identifiers, OneLine name ∧ name ≠ "" := fun name h =>
    oneLine_of_mem h
  have hlast : (parse source text).identifiers.getLast? ≠ some "" := fun h =>
    (hmem "" (List.mem_of_getLast? h)).2 rfl
  have htrim : (parse source text).identifiers.map trim = (parse source text).identifiers := by
    refine (List.map_congr_left fun name h => ?_).trans (List.map_id _)
    obtain ⟨-, line, -, rfl⟩ := mem_identifiers.1 h
    exact trim_trim line
  have hfilter : ((parse source text).identifiers.filter fun line => !line.isEmpty) =
      (parse source text).identifiers := by
    rw [List.filter_eq_self]
    exact fun name h => by simpa using (hmem name h).2
  rw [identifiersOf, lines_joinLines (fun name h => (hmem name h).1) hlast, htrim, hfilter]
  exact distinct_eq_self (nodup_distinct _ _) (by simp)

/-! ## Layout -/

/-- The names of a text are what stands in its lines, each once. -/
lemma identifiersOf_eq (text : String) :
    identifiersOf text = distinct [] ((trimmedLines text.toList).map String.ofList) := by
  have hempty : ∀ l : List Char, (!(String.ofList l).isEmpty) = !l.isEmpty := fun l => by
    rw [Bool.eq_iff_iff]
    simp
  have htrim : (lines text).map trim = ((lineChars text.toList).map trimChars).map String.ofList := by
    simp [lines, trim]
  rw [identifiersOf, htrim, List.filter_map, trimmedLines]
  exact congrArg (fun ls => distinct [] (ls.map String.ofList)) (List.filter_congr fun l _ => hempty l)

/-- **Names do not depend on the layout** of a text. -/
lemma identifiersOf_congr (h : Relation.EqvGen Relaid text.toList text'.toList) :
    identifiersOf text' = identifiersOf text := by
  rw [identifiersOf_eq, identifiersOf_eq]
  generalize text.toList = cs, text'.toList = ds at h
  induction h with
  | rel cs ds hrelaid =>
    obtain ⟨earlier, later, again, hcs, hds, hagain⟩ := hrelaid.exists_trimmedLines
    rw [hcs, hds, List.map_append, List.map_append, List.map_append]
    refine distinct_repeated (fun name hname => ?_) _
    obtain ⟨line, hline, rfl⟩ := List.mem_map.1 hname
    exact List.mem_map_of_mem (hagain line hline)
  | refl cs => rfl
  | symm cs ds _ ih => exact ih.symm
  | trans cs ds es _ _ ih ih' => exact ih'.trans ih

/-- **Parsing a schema file computes a normal form.** No name comes twice. The names are the trimmed lines of
the text that are not empty, in the order in which they stand there first. Written out line by line they are
read back. They stay the same when carriage returns are put in front of the line feeds, and with any other
changes of the layout: lines that are indented or padded, blank lines anywhere, and lines that are repeated at
any later place. -/
theorem parse_normalForm (source : SchemaSource) (text : String) :
    (parse source text).identifiers.Nodup ∧
    (∀ name, name ∈ (parse source text).identifiers ↔ name ≠ "" ∧ ∃ line ∈ lines text, trim line = name) ∧
    (parse source text).identifiers.Pairwise (fun a b =>
      ((lines text).map trim).idxOf a < ((lines text).map trim).idxOf b) ∧
    parse source (joinLines (parse source text).identifiers) = parse source text ∧
    parse source (returned text) = parse source text ∧
    ∀ text', Relation.EqvGen Relaid text.toList text'.toList → parse source text' = parse source text := by
  have hsame : ∀ text', identifiersOf text' = identifiersOf text →
      parse source text' = parse source text := fun text' h => by rw [parse, h, parse]
  exact ⟨nodup_distinct _ _, fun name => mem_identifiers, pairwise_identifiers source text,
    hsame _ (identifiersOf_joinLines source text), hsame _ (identifiersOf_congr (eqvGen_relaid_returned text)),
    fun text' h => hsame text' (identifiersOf_congr h)⟩

/-- **Three changes of the layout**: the first line is indented, a blank line is put behind it and its line end
gets a carriage return, and the line is repeated at the end. -/
theorem parse_normalForm_relaid :
    Relation.EqvGen Relaid "Byte\nUuid".toList " Byte\r\n\r\nUuid\n Byte".toList ∧
    (parse ⟨⟨"names.txt"⟩, none⟩ " Byte\r\n\r\nUuid\n Byte").identifiers = ["Byte", "Uuid"] := by
  have hindented : Relaid "Byte\nUuid".toList " Byte\nUuid".toList :=
    @Relaid.indented [] [' '] "Byte\nUuid".toList (.inl rfl) (List.all_eq_true.1 rfl)
  have hpadded : Relaid " Byte\nUuid".toList " Byte\r\n\r\nUuid".toList :=
    @Relaid.padded " Byte".toList ['\r', '\n', '\r'] "\nUuid".toList (.inr (.inl ⟨"Uuid".toList, rfl⟩))
      (List.all_eq_true.1 rfl)
  have hrepeated : Relaid " Byte\r\n\r\nUuid".toList " Byte\r\n\r\nUuid\n Byte".toList :=
    @Relaid.repeated " Byte\r\n\r\nUuid".toList " Byte".toList [] (.inl rfl) (by decide)
  have hrelaid : Relation.EqvGen Relaid "Byte\nUuid".toList " Byte\r\n\r\nUuid\n Byte".toList :=
    .trans _ _ _ (.rel _ _ hindented) (.trans _ _ _ (.rel _ _ hpadded) (.rel _ _ hrepeated))
  refine ⟨hrelaid, ?_⟩
  rw [(parse_normalForm ⟨⟨"names.txt"⟩, none⟩ "Byte\nUuid").2.2.2.2.2 _ hrelaid]
  decide +kernel

end UaHeaders.SchemaFile
