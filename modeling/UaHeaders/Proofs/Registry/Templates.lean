import UaHeaders.Proofs.Template.Loops
import UaHeaders.Registry.Plan

/-!
# The template of a registry block

A block is a template that is filled in with its guard, the registrations of its names and the macro. The lines
of the guard are conditions, so that a block without guard, or with an empty one, has none of them, and the
registrations are a loop.

## Main definitions

* `UaHeaders.RegistryBlock.template` — the text of the template.
* `UaHeaders.RegistryBlock.fields` — what it is filled in with.

## Main results

* `UaHeaders.RegistryBlock.renderParts_parts` — the template, filled in, is the lines of the block.
* `UaHeaders.RegistryBlock.exists_template` — so the fragments of a plan are what is rendered from it.
-/

set_option autoImplicit false

namespace UaHeaders

open Template Text

variable {macroName : String} {bindings : Bindings}

/-- What a registration tells a template. -/
def Registration.toJson (r : Registration) : Json :=
  .object [("type_name", .string r.typeName), ("index_symbol", .string r.indexSymbol)]

namespace RegistryBlock

variable {block : RegistryBlock}

/-! ## The text -/

/-- **The template of a block.** -/
def template : String :=
  joinLines
    ["\x7b% if guard %\x7d#ifdef \x7b\x7b guard \x7d\x7d",
      "\x7b% endif %\x7d\x7b% for entry in entries %\x7d#ifdef \x7b\x7b entry.index_symbol \x7d\x7d",
      "\x7b\x7b macro_name \x7d\x7d(\x7b\x7b entry.type_name \x7d\x7d, \x7b\x7b entry.index_symbol \x7d\x7d)",
      "#endif",
      "\x7b% endfor %\x7d\x7b% if guard %\x7d#endif  // \x7b\x7b guard \x7d\x7d",
      "\x7b% endif %\x7d"]

/-- **What the template of a block is filled in with.** -/
def fields (macroName : String) (block : RegistryBlock) : List (String × Json) :=
  [("guard", block.guard.elim .null .string),
    ("entries", .array (block.identifiers.map fun name => (Registration.ofIdentifier name).toJson)),
    ("macro_name", .string macroName)]

/-- The parts of the line above a guarded block. -/
def openingParts : List Part := [.literal "#ifdef ", .place ["guard"], .literal "\n"]

/-- The parts of one registration. -/
def entryParts : List Part :=
  [.literal "#ifdef ", .place ["entry", "index_symbol"], .literal "\n", .place ["macro_name"], .literal "(",
    .place ["entry", "type_name"], .literal ", ", .place ["entry", "index_symbol"],
    .literal (")" ++ "\n" ++ "#endif" ++ "\n")]

/-- The parts of the line below a guarded block. -/
def closingParts : List Part := [.literal "#endif  // ", .place ["guard"], .literal "\n"]

/-- The parts of a block. -/
def parts : List Part :=
  [.ifTrue ["guard"] openingParts, .forEach "entry" ["entries"] entryParts, .ifTrue ["guard"] closingParts]

/-- The template is read as these parts. -/
lemma parse_template : parse template = some parts := by
  refine parse_joinLines (?_ : readMarks _ _ = some [.ifTrue ["guard"], .literal "#ifdef ",
    .place ["guard"], .literal "\n", .endIf, .forEach "entry" ["entries"], .literal "#ifdef ",
    .place ["entry", "index_symbol"], .literal "\n", .place ["macro_name"], .literal "(",
    .place ["entry", "type_name"], .literal ", ", .place ["entry", "index_symbol"],
    .literal ")\n#endif\n", .endFor, .ifTrue ["guard"], .literal "#endif  // ", .place ["guard"],
    .literal "\n", .endIf]) rfl
  decide +kernel

/-! ## Filling in -/

/-- A guard fills a place with its text. -/
lemma find?_guard (macroName : String) (block : RegistryBlock) :
    Bindings.find? (block.fields macroName).reverse ["guard"] = some (block.guard.elim .null .string) := rfl

/-- The text of a guard is written where it is filled in, and a guard counts as true unless it is empty. -/
lemma plain_guard (block : RegistryBlock) :
    (block.guard.elim Json.null .string).plain = block.guardText ∧
      (block.guard.elim Json.null .string).isTrue = !block.guardText.isEmpty := by
  cases h : block.guard with
  | none => exact ⟨by simp [Json.plain, guardText, h], by simp [Json.isTrue, guardText, h]⟩
  | some guard => exact ⟨by simp [Json.plain, guardText, h], by simp [Json.isTrue, guardText, h]⟩

/-- The lines of a guard: they are written if it is not empty. -/
lemma renderPart_guard (macroName : String) (block : RegistryBlock) (opening : String) :
    renderPart (block.fields macroName).reverse
        (.ifTrue ["guard"] [.literal opening, .place ["guard"], .literal "\n"]) =
      some (if block.guardText.isEmpty then "" else opening ++ block.guardText ++ "\n") := by
  obtain ⟨hplain, htrue⟩ := plain_guard block
  have hbody := renderParts_cons (renderPart_literal _ opening) <|
    renderParts_cons (renderPart_place (find?_guard macroName block)) <|
    renderParts_cons (renderPart_literal _ "\n") (renderParts_nil _)
  rw [renderPart_ifTrue (find?_guard macroName block) fun _ => hbody, hplain, htrue]
  cases block.guardText.isEmpty <;> simp [String.append_assoc]

/-- The parts of a registration, filled in, are its lines. -/
lemma renderParts_entryParts {r : Registration}
    (htype : bindings.find? ["entry", "type_name"] = some (.string r.typeName))
    (hindex : bindings.find? ["entry", "index_symbol"] = some (.string r.indexSymbol))
    (hname : bindings.find? ["macro_name"] = some (.string macroName)) :
    renderParts bindings entryParts = some (String.join ((r.lines macroName).map (· ++ "\n"))) := by
  have hparts := renderParts_cons (renderPart_literal _ "#ifdef ") <|
    renderParts_cons (renderPart_place_string hindex) <|
    renderParts_cons (renderPart_literal _ "\n") <|
    renderParts_cons (renderPart_place_string hname) <|
    renderParts_cons (renderPart_literal _ "(") <|
    renderParts_cons (renderPart_place_string htype) <|
    renderParts_cons (renderPart_literal _ ", ") <|
    renderParts_cons (renderPart_place_string hindex) <|
    renderParts_cons (renderPart_literal _ (")" ++ "\n" ++ "#endif" ++ "\n")) (renderParts_nil _)
  rw [entryParts, hparts, Registration.lines]
  simp only [List.map_cons, List.map_nil, String.join_cons, String.join_nil, String.append_assoc,
    String.append_empty]

/-- **The template, filled in, is the lines of the block.**

**Proof sketch.** Part by part: the guard is written if it is not empty, then the loop writes three lines
for each name (`renderParts_entryParts`), and the guard is closed. -/
theorem renderParts_parts (macroName : String) (block : RegistryBlock) :
    renderParts (block.fields macroName).reverse parts =
      some (String.join ((block.lines macroName).map (· ++ "\n"))) := by
  have hentries : Bindings.find? (block.fields macroName).reverse ["entries"] = some (.array
      (block.identifiers.map fun name => (Registration.ofIdentifier name).toJson)) := rfl
  have hloop : renderPart (block.fields macroName).reverse (.forEach "entry" ["entries"] entryParts) =
      some (String.join (block.identifiers.map fun name =>
        String.join (((Registration.ofIdentifier name).lines macroName).map (· ++ "\n")))) :=
    renderPart_forEach hentries fun name _ turn => renderParts_entryParts rfl rfl rfl
  have hbody : String.join (block.identifiers.map fun name =>
        String.join (((Registration.ofIdentifier name).lines macroName).map (· ++ "\n"))) =
      String.join ((block.bodyLines macroName).map (· ++ "\n")) := by
    rw [bodyLines]
    induction block.identifiers with
    | nil => rfl
    | cons name names ih =>
      rw [List.map_cons, String.join_cons, ih, List.flatMap_cons, List.map_append, String.join_append]
  have hparts := renderParts_cons (renderPart_guard macroName block "#ifdef ") <|
    renderParts_cons hloop <|
    renderParts_cons (renderPart_guard macroName block "#endif  // ") (renderParts_nil _)
  rw [parts, openingParts, closingParts, hparts, hbody, lines]
  rcases hguard : block.guardText.isEmpty
  · simp only [if_false, Bool.false_eq_true, List.map_cons, List.cons_append, List.map_append,
      List.map_nil, String.join_cons, String.join_append, String.join_nil, String.append_assoc,
      String.append_empty]
  · simp only [if_true, String.append_empty, String.empty_append]

/-- **The text of the template is a template**, and what is rendered from it for the blocks of a plan are the
fragments of the plan. -/
theorem exists_template :
    ∃ templates, Templates.ofSources [("block", template)] = .ok templates ∧
      ∀ macroName (plan : RegistryPlan),
        (plan.blocks.map fun block => templates.render "block" (.object (block.fields macroName))) =
          (plan.fragments macroName).map .ok := by
  refine ⟨_, Templates.ofSources_singleton "block" parse_template, fun macroName plan => ?_⟩
  rw [RegistryPlan.fragments, List.map_map]
  refine List.map_congr_left fun block _ => ?_
  rw [Templates.render_eq_trimNewlines rfl (renderParts_parts macroName block), trimNewlines_join_feeds]
  rfl

end RegistryBlock

end UaHeaders
