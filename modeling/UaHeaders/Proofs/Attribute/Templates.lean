import UaHeaders.Attribute.Accessors
import UaHeaders.Proofs.Template.Places

/-!
# The templates of accessors

The accessors of an attribute are two templates that are filled in with the texts of its descriptor: one
for the pair that reads, one for the pair that writes. The lines of an accessor are those of its template
and in the same order, whatever the texts are.

## Main definitions

* `UaHeaders.AccessorPair` — the two pairs of accessors.
* `UaHeaders.AccessorPair.template` — the lines of a pair, with places for what depends on the attribute.
* `UaHeaders.Descriptor.fields` — what the places are filled with.
* `UaHeaders.AccessorPair.filled` — the lines of a pair for one attribute.

## Main results

* `UaHeaders.Descriptor.fragments_eq` — the accessors of an attribute are its pairs, filled in.
* `UaHeaders.AccessorPair.exists_templates` — so they are what is rendered from the texts of the templates.
-/

set_option autoImplicit false

namespace UaHeaders

open Template Text

/-- **A pair of accessors**, one that waits for the answer and one that takes a completion token. -/
inductive AccessorPair where
  | read
  | write
  deriving DecidableEq, Inhabited

namespace AccessorPair

open Template.Piece

/-- The name of the template of a pair. -/
def name : AccessorPair → String
  | read => "read"
  | write => "write"

/-- **The template of a pair.** The third line is the one for the extra sentence. -/
def template : AccessorPair → List (List Piece)
  | read =>
    [[text "/**"],
      [text " * Read the AttributeId::", place "attr", text " attribute of a node."],
      [text " * ", place "detail"],
      [text " * @param connection ", place "sync_connection_doc"],
      [text " * @param id Node to read"],
      [text " * @ingroup Read"],
      [text " */"],
      [text "template <typename T>"],
      [text "inline Result<", place "read_type", text "> read", place "attr", text "(",
        place "sync_connection", text ", const NodeId& id) noexcept \x7b"],
      [text "    return detail::readAttributeImpl<AttributeId::", place "attr",
        text ">(connection, id);"],
      [text "\x7d"],
      [],
      [text "/**"],
      [text " * Asynchronously read the AttributeId::", place "attr", text " attribute of a node."],
      [text " * @copydetails read", place "attr"],
      [text " * @param token @completiontoken\x7bvoid(", place "read_token_type", text ")\x7d"],
      [text " * @return @asyncresult\x7bResult<", place "read_type", text ">\x7d"],
      [text " * @ingroup Read"],
      [text " */"],
      [text "template <typename CompletionToken = DefaultCompletionToken>"],
      [text "inline auto read", place "attr", text "Async("],
      [text "    ", place "async_connection",
        text ", const NodeId& id, CompletionToken&& token = DefaultCompletionToken()"],
      [text ") \x7b"],
      [text "    return detail::readAttributeAsyncImpl<AttributeId::", place "attr", text ">("],
      [text "        connection, id, std::forward<CompletionToken>(token)"],
      [text "    );"],
      [text "\x7d"]]
  | write =>
    [[text "/**"],
      [text " * Write the AttributeId::", place "attr", text " attribute of a node."],
      [text " * ", place "detail"],
      [text " * @param connection ", place "sync_connection_doc"],
      [text " * @param id Node to write"],
      [text " * @param ", place "param_name", text " Value to write"],
      [text " * @ingroup Write"],
      [text " */"],
      [text "template <typename T>"],
      [text "inline StatusCode write", place "attr", text "(", place "sync_connection",
        text ", const NodeId& id, ", place "param_type", text " ", place "param_name",
        text ") noexcept \x7b"],
      [text "    return detail::writeAttributeImpl<AttributeId::", place "attr",
        text ">(connection, id, ", place "param_name", text ");"],
      [text "\x7d"],
      [],
      [text "/**"],
      [text " * Asynchronously write the AttributeId::", place "attr", text " attribute of a node."],
      [text " * @copydetails write", place "attr"],
      [text " * @param token @completiontoken\x7bvoid(StatusCode)\x7d"],
      [text " * @return @asyncresult\x7bStatusCode\x7d"],
      [text " * @ingroup Write"],
      [text " */"],
      [text "template <typename CompletionToken = DefaultCompletionToken>"],
      [text "inline auto write", place "attr", text "Async("],
      [text "    ", place "async_connection", text ","],
      [text "    const NodeId& id,"],
      [text "    ", place "param_type", text " ", place "param_name", text ","],
      [text "    CompletionToken&& token = DefaultCompletionToken()"],
      [text ") \x7b"],
      [text "    return detail::writeAttributeAsyncImpl<AttributeId::", place "attr", text ">("],
      [text "        connection, id, ", place "param_name",
        text ", std::forward<CompletionToken>(token)"],
      [text "    );"],
      [text "\x7d"]]

end AccessorPair

/-- **What the places of an accessor are filled with.** -/
def Descriptor.fields (d : Descriptor) : List (String × Json) :=
  [("attr", .string d.name), ("read_type", .string d.valueType),
    ("param_type", .string
      (d.viewType.getD (if d.copied then d.valueType else "const " ++ d.valueType ++ "&"))),
    ("param_name", .string (lowerInitial d.name)),
    ("read_token_type", .string ("Result<" ++ d.valueType ++ (if d.copied then ">" else ">&"))),
    ("detail", d.detail.elim .null .string),
    ("sync_connection", .string "T& connection"),
    ("sync_connection_doc", .string "Instance of type Client (or Server)"),
    ("async_connection", .string "Client& connection")]

namespace AccessorPair

/-- **The lines of a pair for one attribute.** -/
def filled (pair : AccessorPair) (d : Descriptor) : List String :=
  pair.template.map (fillLine d.fields.reverse)

variable {d : Descriptor}

section Fill

variable (d)

@[simp] lemma fill_attr : (Piece.place "attr").fill d.fields.reverse = d.name := rfl

@[simp] lemma fill_readType : (Piece.place "read_type").fill d.fields.reverse = d.valueType := rfl

@[simp] lemma fill_paramType : (Piece.place "param_type").fill d.fields.reverse = d.writeType := by
  have hfill : (Piece.place "param_type").fill d.fields.reverse =
      d.viewType.getD (if d.copied then d.valueType else "const " ++ d.valueType ++ "&") := rfl
  rw [hfill, Descriptor.writeType]
  cases d.viewType <;> rfl

@[simp] lemma fill_paramName : (Piece.place "param_name").fill d.fields.reverse = d.paramName := rfl

@[simp] lemma fill_readTokenType :
    (Piece.place "read_token_type").fill d.fields.reverse = d.completionType := rfl

@[simp] lemma fill_detail : (Piece.place "detail").fill d.fields.reverse = d.detail.getD "" := by
  have hfill : (Piece.place "detail").fill d.fields.reverse = (d.detail.elim Json.null .string).plain := rfl
  rw [hfill]
  cases d.detail <;> simp [Json.plain]

@[simp] lemma fill_syncConnectionDoc :
    (Piece.place "sync_connection_doc").fill d.fields.reverse = Connection.any.doc := rfl

@[simp] lemma fill_syncConnection :
    (Piece.place "sync_connection").fill d.fields.reverse = Connection.any.declaration := rfl

@[simp] lemma fill_asyncConnection :
    (Piece.place "async_connection").fill d.fields.reverse = Connection.client.declaration := rfl

@[simp] lemma fill_text (s : String) : (Piece.text s).fill d.fields.reverse = s := rfl

end Fill

/-- **The lines that read an attribute** are its template, filled in. -/
lemma filled_read (d : Descriptor) : read.filled d = d.readLines := by
  simp [filled, template, fillLine, Descriptor.readLines, Descriptor.detailLine, String.append_assoc]

/-- **The lines that write an attribute** are its template, filled in. -/
lemma filled_write (d : Descriptor) : write.filled d = d.writeLines := by
  simp [filled, template, fillLine, Descriptor.writeLines, Descriptor.detailLine, String.append_assoc]

/-- Every place of a pair has a value, and every text is read back. -/
lemma lineFits_template (pair : AccessorPair) (d : Descriptor) :
    ∀ line ∈ pair.template, LineFits (d.fields.reverse.map Prod.fst) line := by
  have hnames : d.fields.reverse.map Prod.fst =
      ["async_connection", "sync_connection_doc", "sync_connection", "detail", "read_token_type",
        "param_name", "param_type", "read_type", "attr"] := rfl
  rw [hnames]
  -- One step for each piece of each line.
  cases pair
  all_goals
    simp only [template, List.forall_mem_cons, List.not_mem_nil, false_imp_iff, implies_true, and_true]
    repeat'
      first
      | exact .nil
      | refine ⟨?_, ?_⟩
      | refine .text (by decide +kernel) ?_
      | refine .place (by decide +kernel) (by simp) ?_

/-- The last line of a pair is a closing brace. -/
lemma getLast?_filled (pair : AccessorPair) (d : Descriptor) :
    (pair.filled d).getLast? = some "\x7d" := by
  cases pair with
  | read => rw [filled_read]; rfl
  | write => rw [filled_write]; rfl

/-- A pair begins with the opening of a comment and ends with a closing brace. -/
lemma ends_filled (pair : AccessorPair) (d : Descriptor) :
    (joinLines (pair.filled d)).toList.head? = some '/' ∧
      (joinLines (pair.filled d)).toList.getLast? = some '\x7d' := by
  have hfirst : (pair.filled d).head? = some "/**" := by
    cases pair <;> rfl
  constructor
  · obtain ⟨ls, hls⟩ := List.head?_eq_some_iff.1 hfirst
    rw [hls, head?_joinLines (by decide)]
    rfl
  · obtain ⟨ls, hls⟩ := List.getLast?_eq_some_iff.1 (getLast?_filled pair d)
    rw [hls, getLast?_joinLines (by decide)]
    rfl

/-- **The texts of the templates are templates**, and what is rendered from them for an attribute is its
accessors.

**Proof sketch.** The lines of both templates are read back as they were written, so both are parsed, and
rendering fills in the lines. They begin and end with no line feed, so that nothing is trimmed. -/
theorem exists_templates :
    ∃ templates, Templates.ofSources
        [(read.name, source read.template), (write.name, source write.template)] = .ok templates ∧
      ∀ (d : Descriptor) (pair : AccessorPair),
        templates.render pair.name (.object d.fields) = .ok (joinLines (pair.filled d)) := by
  obtain ⟨reading, hreading, -⟩ := exists_parse_source (lineFits_template read default)
  obtain ⟨writing, hwriting, -⟩ := exists_parse_source (lineFits_template write default)
  refine ⟨⟨[(write.name, writing), (read.name, reading)]⟩, ?_, fun d pair => ?_⟩
  · have hall : List.Forall₂
        (fun (text : String × String) (parts : String × List Part) =>
          text.1 = parts.1 ∧ parse text.2 = some parts.2)
        [(read.name, source read.template), (write.name, source write.template)]
        [(read.name, reading), (write.name, writing)] :=
      .cons (And.intro rfl hreading) (.cons (And.intro rfl hwriting) .nil)
    exact Templates.ofSources_eq_ok hall
  · obtain ⟨hhead, hlast⟩ := ends_filled pair d
    rw [filled] at hhead hlast
    have hlookup : [(write.name, writing), (read.name, reading)].lookup pair.name =
        parse (source pair.template) := by
      cases pair with
      | read => rw [hreading]; rfl
      | write => rw [hwriting]; rfl
    exact Templates.render_eq_joinLines (lineFits_template pair d) hlookup (by simp [hhead])
      (by simp [hlast])

end AccessorPair

namespace Descriptor

/-- **The pairs of an attribute**: it is always read, and written if it is writeable. -/
def pairs (d : Descriptor) : List AccessorPair := .read :: if d.writeable then [.write] else []

/-- **The accessors of an attribute** are its pairs, filled in. -/
theorem fragments_eq (d : Descriptor) :
    d.fragments = d.pairs.map fun pair => joinLines (pair.filled d) := by
  rw [fragments, pairs, List.map_cons, AccessorPair.filled_read]
  split_ifs
  · rw [List.map_singleton, AccessorPair.filled_write]
  · rfl

end Descriptor

end UaHeaders
