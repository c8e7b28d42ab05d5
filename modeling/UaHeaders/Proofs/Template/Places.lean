import UaHeaders.Proofs.Text.Lines
import UaHeaders.Template.Render

/-!
# Templates of lines with places

A template that has neither conditions nor loops is a list of lines, each of which is made of texts and
places. Filling it in fills the places of each line and leaves everything else as it is.

## Main definitions

* `UaHeaders.Template.Piece` — a text or a place in a line.
* `UaHeaders.Template.source` — the text of a template of lines.
* `UaHeaders.Template.LineFits` — lines whose pieces are read back as they were written.

## Main results

* `UaHeaders.Template.exists_parse_source` — the parts of a template of lines, filled in, are its lines
  filled in.
* `UaHeaders.Templates.render_eq_joinLines` — a template of lines is rendered as its lines.
-/

set_option autoImplicit false

namespace UaHeaders

namespace Template

variable {bindings : Bindings} {cs rest : List Char} {c : Char} {out name : String}
  {marks : List Mark} {parts : List Part}

/-! ## Lines of pieces -/

/-- **A piece of a line**: text, or the place for a value. -/
inductive Piece where
  | text (s : String)
  | place (name : String)
  deriving DecidableEq, Inhabited

/-- How a piece is written in a template. -/
def Piece.source : Piece → String
  | text s => s
  | place name => "\x7b\x7b " ++ name ++ " \x7d\x7d"

/-- What a piece becomes when it is filled in. -/
def Piece.fill (bindings : Bindings) : Piece → String
  | text s => s
  | place name => ((bindings.find? [name]).map Json.plain).getD ""

/-- A line of a template. -/
def lineSource (line : List Piece) : String := String.join (line.map Piece.source)

/-- **A line with its places filled in.** -/
def fillLine (bindings : Bindings) (line : List Piece) : String :=
  String.join (line.map (Piece.fill bindings))

/-- **The text of a template of lines.** Every line is ended, the last one too. -/
def source (ls : List (List Piece)) : String :=
  String.join (ls.map fun line => lineSource line ++ "\n")

/-- Whether a mark opens with a character and the next one. -/
def opensAt (c : Char) (next : Option Char) : Bool :=
  c == '\x7b' && (next == some '\x7b' || next == some '%')

/-- Whether no mark opens among characters. -/
def opensNone : List Char → Bool
  | [] => true
  | c :: cs => !opensAt c cs.head? && opensNone cs

/-- Whether a text may name a value: it has letters, digits and underscores, and no digit in front. -/
def isPlaceName (name : String) : Bool :=
  name.toList.head?.any (fun c => isNameChar c && !c.isDigit) && name.toList.all isNameChar

/-- Whether no mark opens in a text or at its end, whatever comes next. The last text of a line may end as a
mark begins, since a line feed comes next. -/
def textFits (isLast : Bool) (cs : List Char) : Bool :=
  opensNone cs && (isLast || cs.getLast? != some '\x7b')

/-- **Lines whose pieces are read back as they were written**, and may be filled in if some names have
values. -/
inductive LineFits (names : List String) : List Piece → Prop
  | nil : LineFits names []
  | text {cs : List Char} {line : List Piece} :
      textFits line.isEmpty cs = true → LineFits names line →
      LineFits names (.text (String.ofList cs) :: line)
  | place {name : String} {line : List Piece} :
      isPlaceName name = true → name ∈ names → LineFits names line →
      LineFits names (.place name :: line)

/-! ## Reading -/

/-- The part that a mark is, unless it opens or closes a part. -/
def Mark.part? : Mark → Option Part
  | .literal text => some (.literal text)
  | .place path => some (.place path)
  | _ => none

/-- Marks that neither open nor close a part are parts one after the other. -/
lemma build_eq (h : ∀ mark ∈ marks, (Mark.part? mark).isSome = true) :
    build marks [] parts = some (parts.reverse ++ marks.filterMap Mark.part?) := by
  induction marks generalizing parts with
  | nil => simp [build]
  | cons mark marks ih =>
    rw [List.forall_mem_cons] at h
    cases mark with
    | literal text => rw [build, ih h.2]; simp [Mark.part?]
    | place path => rw [build, ih h.2]; simp [Mark.part?]
    | ifTrue path => simp [Mark.part?] at h
    | endIf => simp [Mark.part?] at h
    | forEach name path => simp [Mark.part?] at h
    | endFor => simp [Mark.part?] at h

/-- A mark opens with two characters. -/
lemma isPrefixOf_opening (h : opensAt c cs.head? = false) :
    placeOpening.isPrefixOf (c :: cs) = false ∧ wordOpening.isPrefixOf (c :: cs) = false := by
  constructor
  · rw [← Bool.not_eq_true, List.isPrefixOf_iff_prefix]
    rintro ⟨rest, hrest⟩
    obtain ⟨rfl, rfl⟩ := List.cons.inj hrest
    simp [opensAt] at h
  · rw [← Bool.not_eq_true, List.isPrefixOf_iff_prefix]
    rintro ⟨rest, hrest⟩
    obtain ⟨rfl, rfl⟩ := List.cons.inj hrest
    simp [opensAt] at h

/-- No mark opens in a text that goes on. -/
lemma opensNone_append_head? {isLast : Bool} (h : textFits isLast cs = true)
    (hlast : isLast = true → rest.head? = some '\n') :
    opensNone (cs ++ rest.head?.toList) = true := by
  rw [textFits, Bool.and_eq_true] at h
  obtain ⟨hnone, hend⟩ := h
  induction cs with
  | nil => cases rest.head? <;> simp [opensNone, opensAt]
  | cons c cs ih =>
    rw [opensNone, Bool.and_eq_true] at hnone
    rw [List.cons_append, opensNone, Bool.and_eq_true]
    rcases cs with _ | ⟨d, ds⟩
    · rcases hnext : rest.head? with _ | next
      · simp [opensNone, opensAt]
      · rw [Bool.or_eq_true] at hend
        rcases hend with hend | hend
        · obtain rfl : next = '\n' := by simpa [hnext] using hlast hend
          simp [opensNone, opensAt]
        · have hc : c ≠ '\x7b' := by simpa using hend
          simp [opensNone, opensAt, hc]
    · exact ⟨hnone.1, ih hnone.2 (by simpa using hend)⟩

/-- What is rendered of marks when a character is put in front of them. -/
lemma renderParts_consChar (c : Char) (marks : List Mark) :
    renderParts bindings ((consChar c marks).filterMap Mark.part?) =
      (renderParts bindings (marks.filterMap Mark.part?)).map (String.singleton c ++ ·) := by
  have hnew : ∀ parts, renderParts bindings (.literal (String.singleton c) :: parts) =
      (renderParts bindings parts).map (String.singleton c ++ ·) := by
    intro parts
    rw [renderParts, renderPart]
    rcases renderParts bindings parts with _ | out <;> rfl
  rcases marks with _ | ⟨mark, marks⟩
  · exact hnew []
  · cases mark with
    | literal text =>
      simp only [consChar, Mark.part?, List.filterMap_cons, renderParts, renderPart]
      rcases renderParts bindings (marks.filterMap Mark.part?) with _ | out
      · rfl
      · simp [String.append_assoc]
    | place path => exact hnew _
    | ifTrue path => exact hnew _
    | endIf => exact hnew _
    | forEach name path => exact hnew _
    | endFor => exact hnew _

/-- **A name in a place** is read up to the blank behind it.

**Proof sketch.** The blanks in front are skipped and the name has none of its own, so it ends at the
blank behind it. -/
lemma readName_append (hname : isPlaceName name = true) (rest : List Char) :
    readName (' ' :: (name.toList ++ ' ' :: rest)) = some (name, ' ' :: rest) := by
  rw [isPlaceName, Bool.and_eq_true, List.all_eq_true] at hname
  obtain ⟨hstart, hall⟩ := hname
  have htake : (name.toList ++ ' ' :: rest).takeWhile isNameChar = name.toList := by
    rw [List.takeWhile_append_of_pos hall, List.takeWhile_cons_of_neg (by decide), List.append_nil]
  have hdrop : (name.toList ++ ' ' :: rest).dropWhile isNameChar = ' ' :: rest := by
    rw [List.dropWhile_append_of_pos hall, List.dropWhile_cons_of_neg (by decide)]
  obtain ⟨d, ds, hds⟩ : ∃ d ds, name.toList = d :: ds := by
    refine List.exists_cons_of_ne_nil fun hnil => ?_
    simp [hnil] at hstart
  have hd : (isNameChar d && !d.isDigit) = true := by simpa [hds] using hstart
  have hblank : (d == ' ' || d == '\t' || d == '\r' || d == '\n') = false := by
    rw [Bool.and_eq_true] at hd
    simp only [Bool.or_eq_false_iff, beq_eq_false_iff_ne]
    refine ⟨⟨⟨?_, ?_⟩, ?_⟩, ?_⟩ <;> rintro rfl <;> exact absurd hd.1 (by decide)
  have hcons : name.toList ++ ' ' :: rest = d :: (ds ++ ' ' :: rest) := by rw [hds, List.cons_append]
  have hskip : skipBlanks (' ' :: (name.toList ++ ' ' :: rest)) = d :: (ds ++ ' ' :: rest) := by
    rw [skipBlanks, List.dropWhile_cons_of_pos (by decide), hcons,
      List.dropWhile_cons_of_neg (by simp [hblank])]
  rw [readName, hskip]
  dsimp only
  rw [if_pos hd, ← hcons, htake, hdrop, String.ofList_toList]

/-- **A place is read back** as it was written. -/
lemma readPlace_append (hname : isPlaceName name = true) (rest : List Char) :
    readPlace (' ' :: (name.toList ++ ' ' :: '\x7d' :: '\x7d' :: rest)) =
      some (.place [name], rest) := by
  have hrest : readRest (' ' :: '\x7d' :: '\x7d' :: rest).length (' ' :: '\x7d' :: '\x7d' :: rest) =
      ([], ' ' :: '\x7d' :: '\x7d' :: rest) := by
    simp [readRest]
  have hexpect : expect "\x7d\x7d" (' ' :: '\x7d' :: '\x7d' :: rest) = some rest := by
    have hlength : "\x7d\x7d".length = 2 := rfl
    simp [expect, skipBlanks, List.isPrefixOf, hlength]
  have hpath : readPath (' ' :: (name.toList ++ ' ' :: '\x7d' :: '\x7d' :: rest)) =
      some ([name], ' ' :: '\x7d' :: '\x7d' :: rest) := by
    rw [readPath, readName_append hname]
    simp only [Option.bind_eq_bind, Option.bind_some, hrest]
    rfl
  simp [readPlace, hpath, hexpect]

/-- A name that is bound has a value. -/
lemma exists_find? (h : name ∈ bindings.map Prod.fst) :
    ∃ value, bindings.find? [name] = some value := by
  obtain ⟨⟨bound, value⟩, hmem, rfl⟩ := List.mem_map.1 h
  refine Option.isSome_iff_exists.1 ?_
  rw [Bindings.find?, List.findSome?_isSome_iff]
  exact ⟨_, hmem, by simp [Json.follow]⟩

/-- **Characters that read as texts and places**, and what they become. -/
def Yields (bindings : Bindings) (cs : List Char) (out : String) : Prop :=
  ∃ marks, (∀ mark ∈ marks, (Mark.part? mark).isSome = true) ∧
    (∀ fuel, cs.length < fuel → readMarks fuel cs = some marks) ∧
    renderParts bindings (marks.filterMap Mark.part?) = some out

namespace Yields

/-- **What reads as texts and places** is parsed and rendered. -/
lemma exists_parse {text : String} (h : Yields bindings text.toList out) :
    ∃ parts, parse text = some parts ∧ renderParts bindings parts = some out := by
  obtain ⟨marks, hparts, hread, hrender⟩ := h
  refine ⟨_, ?_, hrender⟩
  have hmarks := hread (text.length + 1) (by simp [String.length_toList])
  simp [parse, hmarks, build_eq hparts]

/-- Nothing becomes nothing. -/
lemma nil : Yields bindings [] "" := by
  refine ⟨[], by simp, fun fuel hfuel => ?_, rfl⟩
  obtain ⟨fuel, rfl⟩ := Nat.exists_eq_add_one_of_ne_zero (Nat.ne_of_gt hfuel)
  rfl

/-- A character at which no mark opens stays as it is. -/
lemma cons (h : Yields bindings cs out) (hopen : opensAt c cs.head? = false) :
    Yields bindings (c :: cs) (String.singleton c ++ out) := by
  obtain ⟨marks, hparts, hread, hrender⟩ := h
  obtain ⟨hplace, hword⟩ := isPrefixOf_opening hopen
  refine ⟨consChar c marks, ?_, fun fuel hfuel => ?_, ?_⟩
  · rcases marks with _ | ⟨mark, marks⟩
    · simp [consChar, Mark.part?]
    · cases mark <;> simp_all [consChar, Mark.part?]
  · obtain ⟨fuel, rfl⟩ := Nat.exists_eq_add_one_of_ne_zero (Nat.ne_zero_of_lt hfuel)
    have hrest := hread fuel (by simpa using hfuel)
    simp [readMarks, hplace, hword, hrest]
  · rw [renderParts_consChar, hrender, Option.map_some]

/-- **A text in which no mark opens** stays as it is. -/
lemma text (h : Yields bindings rest out) {ds : List Char}
    (hds : opensNone (ds ++ rest.head?.toList) = true) :
    Yields bindings (ds ++ rest) (String.ofList ds ++ out) := by
  induction ds with
  | nil => simpa using h
  | cons d ds ih =>
    rw [List.cons_append, opensNone, Bool.and_eq_true, Bool.not_eq_true'] at hds
    have hnext : (ds ++ rest.head?.toList).head? = (ds ++ rest).head? := by
      rcases ds with _ | ⟨_, _⟩
      · rcases rest with _ | ⟨_, _⟩ <;> rfl
      · rfl
    rw [hnext] at hds
    have hall := (ih hds.2).cons hds.1
    rwa [← String.append_assoc, ← String.ofList_cons] at hall

/-- **A place** becomes the value of its name.

**Proof sketch.** What opens a place is no literal, so the name behind it is read. The marks are closed
behind the blank, and the rest is read with the fuel that is left. -/
lemma place (h : Yields bindings rest out) {name : String} (hname : isPlaceName name = true)
    {value : Json} (hvalue : bindings.find? [name] = some value) :
    Yields bindings ((Piece.place name).source.toList ++ rest) (value.plain ++ out) := by
  obtain ⟨marks, hparts, hread, hrender⟩ := h
  refine ⟨.place [name] :: marks, ?_, fun fuel hfuel => ?_, ?_⟩
  · rw [List.forall_mem_cons]
    exact ⟨rfl, hparts⟩
  · obtain ⟨fuel, rfl⟩ := Nat.exists_eq_add_one_of_ne_zero (Nat.ne_zero_of_lt hfuel)
    have hsource : (Piece.place name).source.toList ++ rest =
        '\x7b' :: '\x7b' :: ' ' :: (name.toList ++ ' ' :: '\x7d' :: '\x7d' :: rest) := by
      simp [Piece.source]
    have hshort : rest.length < fuel := by
      rw [hsource] at hfuel
      simp only [List.length_cons, List.length_append] at hfuel
      omega
    rw [hsource, readMarks]
    simp [placeOpening, List.isPrefixOf, readPlace_append hname, hread fuel hshort]
  · have hpart : (Mark.place [name] :: marks).filterMap Mark.part? =
        .place [name] :: marks.filterMap Mark.part? := rfl
    rw [hpart, renderParts, renderPart, hvalue, hrender]
    rfl

/-- **A line** is filled in.

**Proof sketch.** Induction on the pieces of the line. Behind the last one stands the line feed; in front
of it a text is written as it stands, and a place becomes its value. -/
lemma line (h : Yields bindings rest out) {line : List Piece}
    (hfits : LineFits (bindings.map Prod.fst) line) :
    Yields bindings ((lineSource line).toList ++ '\n' :: rest)
      (fillLine bindings line ++ ("\n" ++ out)) := by
  have hsource : ∀ piece line, lineSource (piece :: line) = piece.source ++ lineSource line := by
    simp [lineSource]
  have hfill : ∀ piece line, fillLine bindings (piece :: line) =
      piece.fill bindings ++ fillLine bindings line := by
    simp [fillLine]
  induction hfits with
  | nil =>
    have hfeed : Yields bindings ('\n' :: rest) ("\n" ++ out) := h.cons (by simp [opensAt])
    simpa [lineSource, fillLine] using hfeed
  | @text cs line hfits _ ih =>
    rw [hsource, hfill, String.toList_append, List.append_assoc, String.append_assoc, Piece.source,
      Piece.fill, String.toList_ofList]
    refine ih.text (opensNone_append_head? hfits fun hempty => ?_)
    rw [List.isEmpty_iff.1 hempty]
    simp [lineSource]
  | @place name line hname hbound _ ih =>
    obtain ⟨value, hvalue⟩ := exists_find? hbound
    rw [hsource, hfill, String.toList_append, List.append_assoc, String.append_assoc]
    have hplace := ih.place hname hvalue
    rwa [Piece.fill, hvalue]

/-- **Lines** are filled in, one after the other. -/
lemma lines {ls : List (List Piece)} (h : ∀ line ∈ ls, LineFits (bindings.map Prod.fst) line) :
    Yields bindings (source ls).toList
      (String.join (ls.map fun line => fillLine bindings line ++ "\n")) := by
  induction ls with
  | nil => exact nil
  | cons line ls ih =>
    rw [List.forall_mem_cons] at h
    have hline := (ih h.2).line h.1
    simpa [source, String.append_assoc] using hline

end Yields

/-- **A template of lines is parsed**, and its parts, filled in, are its lines filled in. -/
theorem exists_parse_source {ls : List (List Piece)}
    (h : ∀ line ∈ ls, LineFits (bindings.map Prod.fst) line) :
    ∃ parts, parse (source ls) = some parts ∧ renderParts bindings parts =
      some (String.join (ls.map fun line => fillLine bindings line ++ "\n")) :=
  (Yields.lines h).exists_parse

end Template

/-! ## Templates by name -/

namespace Templates

open Template Text

variable {templates : Templates} {name : String} {fields : List (String × Json)}
  {ls : List (List Piece)}

/-- Templates whose texts are parsed are kept with their parts, the last one first. -/
lemma ofSources_eq_ok {sources : List (String × String)} {read : List (String × List Part)}
    (h : List.Forall₂ (fun text parts => text.1 = parts.1 ∧ parse text.2 = some parts.2) sources read) :
    ofSources sources = .ok ⟨read.reverse⟩ := by
  have hread : ∀ f : String × String → String × Option (List Part),
      (∀ source, f source = (source.1, parse source.2)) →
        sources.map f = read.map fun entry => (entry.1, some entry.2) := by
    intro f hf
    induction h with
    | nil => rfl
    | @cons text parts sources read hfirst _ ih =>
      rw [List.map_cons, List.map_cons, ih, hf, hfirst.1, hfirst.2]
  have hgood : (read.map fun entry => (entry.1, some entry.2)).find? (·.2.isNone) = none := by
    rw [List.find?_eq_none, List.forall_mem_map]
    simp
  have hkept : ∀ f : String × Option (List Part) → Option (String × List Part),
      (∀ entry, f entry = entry.2.map fun parts => (entry.1, parts)) →
        (read.map fun entry => (entry.1, some entry.2)).filterMap f = read := by
    intro f hf
    simp only [List.filterMap_map, Function.comp_def, hf, Option.map_some]
    exact List.filterMap_some
  simp only [ofSources]
  rw [hread _ fun _ => rfl, hgood, hkept _ fun _ => rfl]

/-- **A template of lines is rendered as its lines**, set apart by line feeds. -/
theorem render_eq_joinLines
    (h : ∀ line ∈ ls, LineFits (fields.reverse.map Prod.fst) line)
    (hlookup : templates.parts.lookup name = parse (source ls))
    (hhead : (joinLines (ls.map (fillLine fields.reverse))).toList.head? ≠ some '\n')
    (hlast : (joinLines (ls.map (fillLine fields.reverse))).toList.getLast? ≠ some '\n') :
    templates.render name (.object fields) = .ok (joinLines (ls.map (fillLine fields.reverse))) := by
  obtain ⟨parts, hparse, hrender⟩ := exists_parse_source h
  have hfeeds := trimNewlines_join_feeds (ls.map (fillLine fields.reverse))
  rw [List.map_map, trimNewlines_eq_self hhead hlast] at hfeeds
  simp only [render, hlookup, hparse, hrender]
  exact congrArg Except.ok hfeeds

end Templates

end UaHeaders
