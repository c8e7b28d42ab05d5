import UaHeaders.Proofs.Header.Enclosed
import UaHeaders.Proofs.NodeIds.Grammar

/-!
# The node id header as a picture of its table

The header of node ids shows the rows of the selected categories, each category in table order, and
nothing else of the table. A row can be read back from its enumerator, whatever characters its name is
made of, and an enumeration ends where its closing line stands. So two tables give the same header
exactly if the selected categories have the same names and ids.

## Main definitions

* `UaHeaders.NodeIdTable.entries` — the names and ids of one category among some rows.
* `UaHeaders.NodeIdTable.headingLines` — what stands above the enumerators of a category.

## Main results

* `UaHeaders.NodeIdTable.enumeratorLine_inj` — an enumerator gives its row away.
* `UaHeaders.NodeIdTable.fragment_of_parse` — an enumeration cannot break the frame of a header.
* `UaHeaders.NodeIdTable.entries_of_spaced_eq` — enumerations give their rows away.
* `UaHeaders.nodeIds_header_eq_iff` — when two tables have the same header.
-/

set_option autoImplicit false

namespace UaHeaders

open Text

variable {table table' : NodeIdTable} {record record' : NodeIdRecord}
  {records records' : List NodeIdRecord} {category content line : String}

namespace NodeIdTable

/-! ## Rows of a table -/

/-- A row of a line has no line feed in its name. -/
lemma Row.noFeed (h : Row line record) (hline : '\n' ∉ line.toList) : '\n' ∉ record.name.toList := by
  obtain ⟨numeral, hcolumns, -⟩ := h
  have hname : record.name ∈ fields ',' line := by simp [fields_eq_iff.2 hcolumns]
  obtain ⟨cs, hcs, hcharacters⟩ := List.mem_map.1 hname
  rw [← hcharacters, String.toList_ofList]
  exact fun hfeed => hline (mem_of_mem_splitOn hcs hfeed)

/-- **The names in a table that was read have no line feeds.** -/
lemma noFeed_of_parse (h : parse content = .ok table) (category : String) :
    ∀ record ∈ table.category category, '\n' ∉ record.name.toList := by
  obtain ⟨records, hrows, harranges⟩ := exists_arranges h
  rw [harranges.category]
  intro record hrecord
  obtain ⟨line, hline, hrow⟩ := exists_of_forall₂ hrows (List.mem_of_mem_filter hrecord)
  exact hrow.noFeed (noFeed_of_mem_lines hline)

/-! ## Enumerators -/

/-- What an enumerator says of its row. -/
def entry (record : NodeIdRecord) : String × Nat := (record.name, record.id)

/-- The characters of an enumerator. -/
lemma toList_enumeratorLine (record : NodeIdRecord) : (enumeratorLine record).toList =
    [' ', ' ', ' ', ' '] ++ ((record.name.toList ++ [' ', '=']) ++ ' ' ::
      Nat.toDigits 10 record.id) ++ [','] := by
  simp [enumeratorLine, Nat.toString_eq_repr]

/-- The digits of an id have no blank among them. -/
lemma blank_notMem_toDigits (n : Nat) : ' ' ∉ Nat.toDigits 10 n := fun h =>
  absurd (Nat.isDigit_of_mem_toDigits (by decide) (by decide) h) (by decide)

/-- **An enumerator gives its row away.** The id is what stands behind the last blank. -/
lemma enumeratorLine_inj (h : enumeratorLine record = enumeratorLine record') :
    entry record = entry record' := by
  have hchars := congrArg String.toList h
  rw [toList_enumeratorLine, toList_enumeratorLine] at hchars
  obtain ⟨hname, hdigits⟩ := append_cons_inj_of_right (blank_notMem_toDigits _)
    (blank_notMem_toDigits _) (List.append_cancel_left (List.append_cancel_right hchars))
  have hid := congrArg (fun digits => Nat.ofDigitChars 10 digits 0) hdigits
  rw [entry, entry, Prod.mk.injEq]
  exact ⟨String.toList_injective (List.append_cancel_right hname), by simpa using hid⟩

/-- An enumerator begins with a blank. -/
lemma head?_enumeratorLine (record : NodeIdRecord) :
    (enumeratorLine record).toList.head? = some ' ' := by
  rw [toList_enumeratorLine]
  rfl

/-- An enumerator ends with a comma. -/
lemma getLast?_enumeratorLine (record : NodeIdRecord) :
    (enumeratorLine record).toList.getLast? = some ',' := by
  rw [toList_enumeratorLine, List.getLast?_concat]

/-- An enumerator of a name without line feed is one line. -/
lemma oneLine_enumeratorLine (h : '\n' ∉ record.name.toList) : OneLine (enumeratorLine record) := by
  have hdigits : '\n' ∉ Nat.toDigits 10 record.id := fun hfeed =>
    absurd (Nat.isDigit_of_mem_toDigits (by decide) (by decide) hfeed) (by decide)
  constructor
  · rw [toList_enumeratorLine]
    simp [h, hdigits]
  · rw [getLast?_enumeratorLine]
    decide

/-! ## Enumerations -/

/-- **The names and ids of one category** among some rows, in their order. -/
def entries (records : List NodeIdRecord) (category : String) : List (String × Nat) :=
  (records.filter fun record => record.category = category).map entry

/-- What stands above the enumerators of a category. -/
def headingLines (category : String) : List String :=
  ["/**",
    " * " ++ category ++ " node ids defined by the OPC UA specification (generated).",
    " * @see https://reference.opcfoundation.org/Core/Part6/v105/docs/A.3",
    " * @ingroup NodeIds",
    " */",
    "enum class " ++ category ++ "Id : uint32_t \x7b"]

/-- An enumeration is its heading, its enumerators and a closing line. -/
lemma enumLines_eq (table : NodeIdTable) (category : String) : table.enumLines category =
    headingLines category ++ (table.category category).map enumeratorLine ++ ["\x7d;"] := rfl

/-- The lines of a heading are lines. -/
lemma oneLine_headingLines (h : OneLine category) : ∀ l ∈ headingLines category, OneLine l := by
  simp only [headingLines, List.forall_mem_cons]
  exact ⟨oneLine_ofList (by decide),
    (OneLine.append (oneLine_ofList (by decide)) h).append (oneLine_ofList (by decide)),
    oneLine_ofList (by decide), oneLine_ofList (by decide), oneLine_ofList (by decide),
    (OneLine.append (oneLine_ofList (by decide)) h).append (oneLine_ofList (by decide)), by simp⟩

/-- No line of a heading is a frame line. -/
lemma isFrameLine_headingLines (category : String) :
    ∀ l ∈ headingLines category, isFrameLine l = false := by
  simp only [headingLines, List.forall_mem_cons]
  exact ⟨by decide, isFrameLine_of_head (c := ' ') (by simp) (by decide),
    isFrameLine_of_head (c := ' ') (by simp) (by decide),
    isFrameLine_of_head (c := ' ') (by simp) (by decide),
    isFrameLine_of_head (c := ' ') (by simp) (by decide),
    isFrameLine_of_head (c := 'e') (by simp) (by decide), by simp⟩

/-- The names of the selected categories are lines. -/
lemma oneLine_of_mem_selectedCategories :
    ∀ category ∈ selectedCategories, OneLine category := by
  simp only [selectedCategories, List.forall_mem_cons]
  exact ⟨oneLine_ofList (by decide), oneLine_ofList (by decide), oneLine_ofList (by decide),
    oneLine_ofList (by decide), oneLine_ofList (by decide), oneLine_ofList (by decide),
    oneLine_ofList (by decide), by simp⟩

/-- **Enumerations of names without line feeds** are lines. -/
lemma oneLine_enumLines (h : ∀ record ∈ table.category category, '\n' ∉ record.name.toList)
    (hcategory : OneLine category) : ∀ l ∈ table.enumLines category, OneLine l := by
  have hrows : ∀ l ∈ (table.category category).map enumeratorLine, OneLine l := by
    rw [List.forall_mem_map]
    exact fun record hrecord => oneLine_enumeratorLine (h record hrecord)
  rw [enumLines_eq, List.forall_mem_append, List.forall_mem_append, List.forall_mem_singleton]
  exact ⟨⟨oneLine_headingLines hcategory, hrows⟩, oneLine_ofList (by decide)⟩

/-- **An enumeration cannot break the frame of a header.** -/
lemma fragment_enumLines (h : ∀ record ∈ table.category category, '\n' ∉ record.name.toList)
    (hcategory : OneLine category) : Fragment (joinLines (table.enumLines category)) := by
  refine fragment_joinLines (oneLine_enumLines h hcategory) ?_ (a := "/**") rfl (by decide)
    (b := "\x7d;") (by rw [enumLines_eq, List.getLast?_concat]) (by decide)
  rw [enumLines_eq, List.forall_mem_append, List.forall_mem_append, List.forall_mem_singleton,
    List.forall_mem_map]
  exact ⟨⟨isFrameLine_headingLines category, fun record _ =>
    isFrameLine_of_head (head?_enumeratorLine record) (by decide)⟩, by decide⟩

/-- **The enumerations of a table that was read** cannot break the frame of a header. -/
lemma fragment_of_parse (h : parse content = .ok table) :
    ∀ part ∈ table.fragments, Fragment part := by
  rw [fragments, List.forall_mem_map]
  exact fun category hc =>
    fragment_enumLines (noFeed_of_parse h category) (oneLine_of_mem_selectedCategories category hc)

/-- The lines of an enumeration that come into a header: its enumerators all do. -/
lemma keptLines_enumLines (h : ∀ record ∈ table.category category, '\n' ∉ record.name.toList)
    (hcategory : OneLine category) : keptLines (joinLines (table.enumLines category)) =
      (headingLines category).filter (fun line => !isBareMark line) ++
        ((table.category category).map enumeratorLine ++ ["\x7d;"]) := by
  have hrows : ((table.category category).map enumeratorLine).filter (fun line => !isBareMark line) =
      (table.category category).map enumeratorLine := by
    rw [List.filter_eq_self, List.forall_mem_map]
    intro record _
    simp [isBareMark_of_getLast (getLast?_enumeratorLine record) (by decide) (by decide)]
  have hclosing : isBareMark "\x7d;" = false := by decide
  have hlast : (table.enumLines category).getLast? ≠ some "" := by
    rw [enumLines_eq, List.getLast?_concat]
    simp
  rw [keptLines, lines_joinLines (oneLine_enumLines h hcategory) hlast, enumLines_eq,
    List.filter_append, List.filter_append, hrows, List.filter_cons_of_pos (by simp [hclosing]),
    List.filter_nil, List.append_assoc]

/-! ## Reading enumerations back -/

/-- Enumerators that are closed give their rows away, whatever follows. -/
lemma entries_of_closed {rest rest' : List String}
    (h : records.map enumeratorLine ++ "\x7d;" :: rest =
      records'.map enumeratorLine ++ "\x7d;" :: rest') :
    records.map entry = records'.map entry ∧ rest = rest' := by
  have hclosing : ∀ records : List NodeIdRecord, "\x7d;" ∉ records.map enumeratorLine := by
    intro records hmem
    obtain ⟨record, -, hrecord⟩ := List.mem_map.1 hmem
    have hhead := head?_enumeratorLine record
    rw [hrecord] at hhead
    exact absurd hhead (by decide)
  obtain ⟨hrows, hrest⟩ := append_cons_inj (hclosing records) (hclosing records') h
  refine ⟨?_, hrest⟩
  rw [← List.forall₂_eq_eq_eq, List.forall₂_map_left_iff, List.forall₂_map_right_iff] at hrows ⊢
  exact hrows.imp fun _ _ => enumeratorLine_inj

/-- **Enumerations give their rows away**, one after the other.

**Proof sketch.** Induction on the categories. The two enumerations begin with the same lines; the brace
that closes them is no entry, so the entries end at the same line (`entries_of_closed`), and what is
behind are the other enumerations. -/
lemma entries_of_spaced_eq {categories : List String}
    (h : ∀ category, ∀ record ∈ table.category category, '\n' ∉ record.name.toList)
    (h' : ∀ category, ∀ record ∈ table'.category category, '\n' ∉ record.name.toList)
    (hone : ∀ category ∈ categories, OneLine category)
    (heq : spaced (categories.map fun category => keptLines (joinLines (table.enumLines category))) =
      spaced (categories.map fun category => keptLines (joinLines (table'.enumLines category)))) :
    ∀ category ∈ categories,
      (table.category category).map entry = (table'.category category).map entry := by
  induction categories with
  | nil => simp
  | cons category categories ih =>
    rw [List.forall_mem_cons] at hone
    rw [List.forall_mem_cons]
    rw [List.map_cons, List.map_cons, keptLines_enumLines (h category) hone.1,
      keptLines_enumLines (h' category) hone.1] at heq
    rcases categories with _ | ⟨next, categories⟩
    · rw [List.map_nil, List.map_nil, spaced, spaced, List.intercalate_singleton,
        List.intercalate_singleton] at heq
      exact ⟨(entries_of_closed (List.append_cancel_left heq)).1, by simp⟩
    · rw [spaced_cons _ (by simp), spaced_cons _ (by simp), List.append_assoc, List.append_assoc,
        List.append_assoc, List.append_assoc] at heq
      obtain ⟨hentries, hrest⟩ := entries_of_closed (List.append_cancel_left heq)
      exact ⟨hentries, ih hone.2 (List.cons.inj hrest).2⟩

/-- Tables with the same names and ids have the same enumerations. -/
lemma fragments_congr (h : ∀ category ∈ selectedCategories,
    (table.category category).map entry = (table'.category category).map entry) :
    table.fragments = table'.fragments := by
  refine List.map_congr_left fun category hc => ?_
  have hline : enumeratorLine =
      (fun entry : String × Nat => "    " ++ entry.1 ++ " = " ++ toString entry.2 ++ ",") ∘ entry := rfl
  rw [enumLines_eq, enumLines_eq, hline, ← List.map_map, ← List.map_map, h category hc]

end NodeIdTable

/-! ## Headers -/

/-- **The node id header is a picture of the selected rows.** Two texts that are read as tables have the
same header exactly if, among the rows of their lines, each selected category has the same names and ids
in the same order. The rows of the lines are determined, since a line is one row at most
(`NodeIdTable.Row.rightUnique`).

**Proof sketch.** What the table has of a category are the rows of the category in the order of the
lines. The lines of a header are those of the frame and of the enumerations, with empty lines between.
What two headers share above and below is cut off. Then the enumerations are read back one by one: none
of their enumerators is the line that closes them, and an enumerator gives its row away. -/
theorem nodeIds_header_eq_iff {content content' : String} {table table' : NodeIdTable}
    (h : NodeIdTable.parse content = .ok table) (h' : NodeIdTable.parse content' = .ok table') :
    ∃ records records', List.Forall₂ NodeIdTable.Row (lines content) records ∧
      List.Forall₂ NodeIdTable.Row (lines content') records' ∧
      (Target.nodeIds.skeleton.assemble table.fragments =
          Target.nodeIds.skeleton.assemble table'.fragments ↔
        ∀ category ∈ NodeIdTable.selectedCategories,
          NodeIdTable.entries records category = NodeIdTable.entries records' category) := by
  obtain ⟨records, hrows, harranges⟩ := NodeIdTable.exists_arranges h
  obtain ⟨records', hrows', harranges'⟩ := NodeIdTable.exists_arranges h'
  refine ⟨records, records', hrows, hrows', ?_⟩
  simp only [NodeIdTable.entries, ← harranges.category, ← harranges'.category]
  have hframe := Target.regular_skeleton .nodeIds
  constructor
  · intro heq
    have hlines := congrArg lines heq
    rw [lines_assemble_of_fragments hframe (NodeIdTable.fragment_of_parse h),
      lines_assemble_of_fragments hframe (NodeIdTable.fragment_of_parse h')] at hlines
    have hinner : spaced (table.fragments.map keptLines) = spaced (table'.fragments.map keptLines) :=
      spaced_cancel (by simp [Skeleton.top])
        (by simp [NodeIdTable.fragments, NodeIdTable.selectedCategories])
        (by simp [NodeIdTable.fragments, NodeIdTable.selectedCategories])
        (by simp [Skeleton.bottom]) hlines
    rw [NodeIdTable.fragments, NodeIdTable.fragments, List.map_map, List.map_map] at hinner
    exact NodeIdTable.entries_of_spaced_eq (NodeIdTable.noFeed_of_parse h)
      (NodeIdTable.noFeed_of_parse h') NodeIdTable.oneLine_of_mem_selectedCategories hinner
  · intro hentries
    rw [NodeIdTable.fragments_congr hentries]

/-- Rows with names that look like other lines of the header. -/
def lookalikeRows : List NodeIdRecord :=
  [⟨"\x7d;", 7, "Object"⟩, ⟨"*", 5, "Method"⟩, ⟨"* = 5", 5, "Enum"⟩, ⟨"", 7, "Object"⟩]

/-- The table of these rows. -/
def lookalikes : NodeIdTable :=
  ⟨[("Object", [⟨"\x7d;", 7, "Object"⟩, ⟨"", 7, "Object"⟩]), ("Method", [⟨"*", 5, "Method"⟩]),
    ("Enum", [⟨"* = 5", 5, "Enum"⟩])], by decide⟩

/-- The rows of the selected categories, interleaved otherwise. -/
def lookalikeRowsAgain : List NodeIdRecord :=
  [⟨"*", 5, "Method"⟩, ⟨"\x7d;", 7, "Object"⟩, ⟨"", 7, "Object"⟩]

/-- The table of these rows. -/
def lookalikesAgain : NodeIdTable :=
  ⟨[("Method", [⟨"*", 5, "Method"⟩]), ("Object", [⟨"\x7d;", 7, "Object"⟩, ⟨"", 7, "Object"⟩])],
    by decide⟩

/-- **Names that look like other lines** come into the header as names. -/
theorem nodeIds_header_eq_iff_lookalikes :
    NodeIdTable.parse "\x7d;,7,Object\n*,5,Method\n* = 5,5,Enum\n,7,Object\n" = .ok lookalikes ∧
    NodeIdTable.parse "*,5,Method\n\x7d;,7,Object\n,7,Object" = .ok lookalikesAgain ∧
    Target.nodeIds.skeleton.assemble lookalikes.fragments =
      Target.nodeIds.skeleton.assemble lookalikesAgain.fragments := by
  have hfirst : NodeIdTable.parse
      "\x7d;,7,Object\n*,5,Method\n* = 5,5,Enum\n,7,Object\n" = .ok lookalikes := by
    decide +kernel
  have hsecond : NodeIdTable.parse "*,5,Method\n\x7d;,7,Object\n,7,Object" =
      .ok lookalikesAgain := by
    decide +kernel
  have hrows : List.Forall₂ NodeIdTable.Row
      (lines "\x7d;,7,Object\n*,5,Method\n* = 5,5,Enum\n,7,Object\n") lookalikeRows := by
    decide +kernel
  have hrows' : List.Forall₂ NodeIdTable.Row (lines "*,5,Method\n\x7d;,7,Object\n,7,Object")
      lookalikeRowsAgain := by
    decide +kernel
  obtain ⟨records, records', hrecords, hrecords', hiff⟩ := nodeIds_header_eq_iff hfirst hsecond
  obtain rfl := NodeIdTable.Row.rightUnique.forall₂ hrows hrecords
  obtain rfl := NodeIdTable.Row.rightUnique.forall₂ hrows' hrecords'
  exact ⟨hfirst, hsecond, hiff.2 (by decide)⟩

end UaHeaders
