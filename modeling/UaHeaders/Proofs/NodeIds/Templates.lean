import UaHeaders.NodeIds.Enums
import UaHeaders.Proofs.NodeIds.Grammar
import UaHeaders.Proofs.Template.Loops

/-!
# The template of an enumeration

An enumeration is a template that is filled in with the name of a category and the rows of the category. The
rows are a loop: each turn of it is the line of one enumerator.

## Main definitions

* `UaHeaders.NodeIdTable.enumTemplate` — the text of the template.
* `UaHeaders.NodeIdTable.enumFields` — what it is filled in with.

## Main results

* `UaHeaders.NodeIdTable.renderParts_enumParts` — the template, filled in, is the lines of the enumeration.
* `UaHeaders.NodeIdTable.exists_enumTemplate` — so the enumerations are what is rendered from it.
-/

set_option autoImplicit false

namespace UaHeaders

open Template Text

variable {table : NodeIdTable} {record : NodeIdRecord} {category content : String}

/-- What a row tells a template. -/
def NodeIdRecord.toJson (record : NodeIdRecord) : Json :=
  .object [("name", .string record.name), ("id", .number (toString record.id)),
    ("category", .string record.category)]

namespace NodeIdTable

/-! ## The text -/

/-- **The template of an enumeration.** -/
def enumTemplate : String :=
  joinLines
    ["/**",
      " * \x7b\x7b category \x7d\x7d node ids defined by the OPC UA specification (generated).",
      " * @see https://reference.opcfoundation.org/Core/Part6/v105/docs/A.3",
      " * @ingroup NodeIds",
      " */",
      "enum class \x7b\x7b category \x7d\x7dId : uint32_t \x7b",
      "\x7b% for record in records %\x7d    \x7b\x7b record.name \x7d\x7d = \x7b\x7b record.id \x7d\x7d,",
      "\x7b% endfor %\x7d\x7d;",
      ""]

/-- **What the template of an enumeration is filled in with.** -/
def enumFields (table : NodeIdTable) (category : String) : List (String × Json) :=
  [("category", .string category),
    ("records", .array ((table.category category).map NodeIdRecord.toJson))]

/-- What stands between the two places for the category. -/
def enumHeading : String :=
  " node ids defined by the OPC UA specification (generated)." ++ "\n" ++
    " * @see https://reference.opcfoundation.org/Core/Part6/v105/docs/A.3" ++ "\n" ++
    " * @ingroup NodeIds" ++ "\n" ++ " */" ++ "\n" ++ "enum class "

/-- The parts of an enumerator. -/
def enumeratorParts : List Part :=
  [.literal "    ", .place ["record", "name"], .literal " = ", .place ["record", "id"],
    .literal ("," ++ "\n")]

/-- The parts of an enumeration. -/
def enumParts : List Part :=
  [.literal ("/**" ++ "\n" ++ " * "), .place ["category"], .literal enumHeading, .place ["category"],
    .literal ("Id : uint32_t \x7b" ++ "\n"), .forEach "record" ["records"] enumeratorParts,
    .literal ("\x7d;" ++ "\n")]

/-- The template is read as these parts. -/
lemma parse_enumTemplate : Template.parse enumTemplate = some enumParts := by
  refine parse_joinLines (?_ : readMarks _ _ = some [.literal "/**\n * ", .place ["category"],
    .literal enumHeading, .place ["category"], .literal "Id : uint32_t \x7b\n",
    .forEach "record" ["records"], .literal "    ", .place ["record", "name"], .literal " = ",
    .place ["record", "id"], .literal ",\n", .endFor, .literal "\x7d;\n"]) rfl
  decide +kernel

/-! ## Filling in -/

/-- The parts of an enumerator, filled in with a row, are its line. -/
lemma renderParts_enumeratorParts (hid : record.id < 18446744073709551616) (bindings : Bindings) :
    renderParts (("record", record.toJson) :: bindings) enumeratorParts =
      some (enumeratorLine record ++ "\n") := by
  have hname : Bindings.find? (("record", record.toJson) :: bindings) ["record", "name"] =
      some (.string record.name) := rfl
  have hnumber : Bindings.find? (("record", record.toJson) :: bindings) ["record", "id"] =
      some (.number (toString record.id)) := rfl
  have hparts := renderParts_cons (renderPart_literal _ "    ") <|
    renderParts_cons (renderPart_place_string hname) <|
    renderParts_cons (renderPart_literal _ " = ") <|
    renderParts_cons (renderPart_place hnumber) <|
    renderParts_cons (renderPart_literal _ ("," ++ "\n")) (renderParts_nil _)
  rw [enumeratorParts, hparts, Json.plain_number hid, enumeratorLine]
  simp only [String.append_assoc, String.append_empty]

/-- **The template, filled in, is the lines of the enumeration.**

**Proof sketch.** Part by part. The loop writes one line for each record of the category
(`renderParts_enumeratorParts`), and the other parts stand once. -/
theorem renderParts_enumParts
    (hids : ∀ record ∈ table.category category, record.id < 18446744073709551616) :
    renderParts (table.enumFields category).reverse enumParts =
      some (String.join ((table.enumLines category).map (· ++ "\n"))) := by
  have hcategory : Bindings.find? (table.enumFields category).reverse ["category"] =
      some (.string category) := rfl
  have hrecords : Bindings.find? (table.enumFields category).reverse ["records"] =
      some (.array ((table.category category).map NodeIdRecord.toJson)) := rfl
  have hloop := renderPart_forEach hrecords fun record hrecord turn =>
    renderParts_enumeratorParts (hids record hrecord) (("loop", turn) :: _)
  have hparts := renderParts_cons (renderPart_literal _ ("/**" ++ "\n" ++ " * ")) <|
    renderParts_cons (renderPart_place_string hcategory) <|
    renderParts_cons (renderPart_literal _ enumHeading) <|
    renderParts_cons (renderPart_place_string hcategory) <|
    renderParts_cons (renderPart_literal _ ("Id : uint32_t \x7b" ++ "\n")) <|
    renderParts_cons hloop <|
    renderParts_cons (renderPart_literal _ ("\x7d;" ++ "\n")) (renderParts_nil _)
  rw [enumParts, hparts, enumLines, List.map_append, List.map_append, List.map_map, String.join_append,
    String.join_append]
  delta enumHeading
  simp only [List.map_cons, List.map_nil, String.join_cons, String.join_nil, String.append_assoc,
    String.append_empty, Function.comp_def]

/-- The ids of a table that was read have 32 bits. -/
lemma id_le_of_parse (h : parse content = .ok table) :
    ∀ record ∈ table.category category, record.id ≤ 4294967295 := by
  obtain ⟨records, hrows, harranges⟩ := exists_arranges h
  rw [harranges.category]
  intro record hrecord
  obtain ⟨line, -, numeral, -, digits, -, -, -, -, hid⟩ :=
    exists_of_forall₂ hrows (List.mem_of_mem_filter hrecord)
  exact hid

/-- What is rendered for an enumeration has no line feeds at its ends. -/
lemma trimNewlines_join_enumLines (table : NodeIdTable) (category : String) :
    trimNewlines (String.join ((table.enumLines category).map (· ++ "\n"))) =
      joinLines (table.enumLines category) := by
  obtain ⟨ls, hls⟩ : ∃ ls, table.enumLines category = "/**" :: ls := ⟨_, rfl⟩
  obtain ⟨ks, hks⟩ : ∃ ks, table.enumLines category = ks ++ ["\x7d;"] := ⟨_, rfl⟩
  have hhead : (joinLines (table.enumLines category)).toList.head? = some '/' := by
    rw [hls, head?_joinLines (by decide)]
    rfl
  have hlast : (joinLines (table.enumLines category)).toList.getLast? = some ';' := by
    rw [hks, getLast?_joinLines (by decide)]
    rfl
  rw [trimNewlines_join_feeds, trimNewlines_eq_self (by simp [hhead]) (by simp [hlast])]

/-- **The text of the template is a template**, and what is rendered from it for the selected categories of a
table that was read are the fragments of the table. -/
theorem exists_enumTemplate :
    ∃ templates, Templates.ofSources [("enum", enumTemplate)] = .ok templates ∧
      ∀ content table, parse content = .ok table →
        (selectedCategories.map fun category =>
            templates.render "enum" (.object (table.enumFields category))) =
          table.fragments.map .ok := by
  refine ⟨_, Templates.ofSources_singleton "enum" parse_enumTemplate, fun content table h => ?_⟩
  rw [fragments, List.map_map]
  refine List.map_congr_left fun category _ => ?_
  have hids : ∀ record ∈ table.category category, record.id < 18446744073709551616 :=
    fun record hrecord => (id_le_of_parse h record hrecord).trans_lt (by decide)
  rw [Templates.render_eq_trimNewlines rfl (renderParts_enumParts hids), trimNewlines_join_enumLines]
  rfl

end NodeIdTable

end UaHeaders
