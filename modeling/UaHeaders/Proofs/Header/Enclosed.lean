import UaHeaders.Proofs.Header.Frames

/-!
# Headers that keep their frames

A fragment whose lines are no frame lines cannot break the frame of a header: the lines of the header
are those of the frame and of the fragments, with empty lines between, and the namespace and the fences
enclose all that the fragments bring. Comment lines that hold nothing but their mark are dropped on the
way, which leaves no empty line behind.

## Main definitions

* `UaHeaders.Fragment` — fragments that cannot break a frame.
* `UaHeaders.keptLines` — the lines of a fragment that come into a header.
* `UaHeaders.Encloses` — lines between an opening and a closing one.
* `UaHeaders.Framed` — a text that is a frame around fragments.

## Main results

* `UaHeaders.body_eq_joinSections_of_fragments` — the body is the fragments without the bare marks.
* `UaHeaders.Skeleton.Regular.framed` — a header of fragments keeps its frame.
-/

set_option autoImplicit false

namespace UaHeaders

open Text

variable {s : Skeleton} {fragments : List String} {part l a b : String} {ls : List String}

/-! ## Fragments -/

/-- **A fragment that cannot break a frame**: a paragraph that neither begins nor ends with a bare mark,
and has no frame lines. -/
structure Fragment (part : String) : Prop where
  paragraph : Paragraph part
  head : ∀ l ∈ (lines part).head?, isBareMark l = false
  last : ∀ l ∈ (lines part).getLast?, isBareMark l = false
  noFrameLine : ∀ l ∈ lines part, isFrameLine l = false

/-- **Lines that are joined** make a fragment, if the first and the last of them are text. -/
lemma fragment_joinLines (hone : ∀ l ∈ ls, OneLine l) (hframe : ∀ l ∈ ls, isFrameLine l = false)
    (hhead : ls.head? = some a) (ha : a ≠ "" ∧ isBareMark a = false)
    (hlast : ls.getLast? = some b) (hb : b ≠ "" ∧ isBareMark b = false) :
    Fragment (joinLines ls) := by
  have hne : ls ≠ [] := by
    rintro rfl
    simp at hhead
  have hnohead : ls.head? ≠ some "" := by simpa [hhead] using ha.1
  have hnolast : ls.getLast? ≠ some "" := by simpa [hlast] using hb.1
  have hlines := lines_joinLines hone hnolast
  refine ⟨paragraph_joinLines hone hne hnohead hnolast, ?_, ?_, ?_⟩
  · simpa [hlines, hhead] using ha.2
  · simpa [hlines, hlast] using hb.2
  · rwa [hlines]

/-- **The lines of a fragment that come into a header.** -/
def keptLines (part : String) : List String := (lines part).filter fun line => !isBareMark line

namespace Fragment

/-- The first line of a fragment is kept. -/
lemma head?_keptLines (h : Fragment part) : (keptLines part).head? = (lines part).head? := by
  obtain ⟨l, ls, hls⟩ := List.exists_cons_of_ne_nil h.paragraph.nonempty
  have hkept : isBareMark l = false := h.head l (by simp [hls])
  rw [keptLines, hls, List.filter_cons_of_pos (by simp [hkept]), List.head?_cons, List.head?_cons]

/-- The last line of a fragment is kept. -/
lemma getLast?_keptLines (h : Fragment part) :
    (keptLines part).getLast? = (lines part).getLast? := by
  obtain ⟨ls, l, hls⟩ := (List.eq_nil_or_concat' (lines part)).resolve_left h.paragraph.nonempty
  have hkept : isBareMark l = false := h.last l (by simp [hls])
  rw [keptLines, hls, List.filter_append, List.filter_cons_of_pos (by simp [hkept]), List.filter_nil,
    List.getLast?_concat, List.getLast?_concat]

/-- Some line of a fragment is kept. -/
lemma keptLines_ne_nil (h : Fragment part) : keptLines part ≠ [] := by
  rw [Ne, ← List.head?_eq_none_iff, h.head?_keptLines, List.head?_eq_none_iff]
  exact h.paragraph.nonempty

/-- **A fragment without its bare marks** is a paragraph of the lines that are kept. -/
lemma paragraph_bareMarksRemoved (h : Fragment part) :
    Paragraph (bareMarksRemoved part) ∧ lines (bareMarksRemoved part) = keptLines part := by
  have hone : ∀ l ∈ keptLines part, OneLine l :=
    fun l hl => h.paragraph.oneLine l (List.mem_of_mem_filter hl)
  have hlast : (keptLines part).getLast? ≠ some "" := by
    rw [h.getLast?_keptLines]
    exact h.paragraph.last
  have hhead : (keptLines part).head? ≠ some "" := by
    rw [h.head?_keptLines]
    exact h.paragraph.head
  exact ⟨paragraph_joinLines hone h.keptLines_ne_nil hhead hlast, lines_joinLines hone hlast⟩

end Fragment

/-- Fragments without their bare marks are paragraphs. -/
lemma forall_paragraph_bareMarksRemoved (h : ∀ part ∈ fragments, Fragment part) :
    ∀ part ∈ fragments.map bareMarksRemoved, Paragraph part := by
  rw [List.forall_mem_map]
  exact fun part hp => (h part hp).paragraph_bareMarksRemoved.1

/-- The lines of fragments without their bare marks are those that are kept. -/
lemma map_lines_bareMarksRemoved (h : ∀ part ∈ fragments, Fragment part) :
    (fragments.map bareMarksRemoved).map lines = fragments.map keptLines := by
  rw [List.map_map]
  exact List.map_congr_left fun part hp => (h part hp).paragraph_bareMarksRemoved.2

/-- **The body of fragments** is the fragments without the bare marks. -/
lemma body_eq_joinSections_of_fragments (h : ∀ part ∈ fragments, Fragment part) :
    Skeleton.body fragments = joinSections (fragments.map bareMarksRemoved) := by
  rw [Skeleton.body, map_trimNewlines_filter fun part hp => (h part hp).paragraph]
  by_cases hne : fragments = []
  · subst hne
    rfl
  · obtain ⟨-, hlines⟩ := paragraph_joinSections (fun part hp => (h part hp).paragraph) hne
    obtain ⟨hpar, hkept⟩ :=
      paragraph_joinSections (forall_paragraph_bareMarksRemoved h) (by simpa using hne)
    rw [← hpar.joined, hkept, map_lines_bareMarksRemoved h, bareMarksRemoved, hlines,
      filter_spaced_of_pos (by decide), List.map_map]
    rfl

/-- No line of a fragment without its bare marks is one. -/
lemma isBareMark_of_mem_bareMarksRemoved (h : Fragment part) :
    ∀ l ∈ lines (bareMarksRemoved part), isBareMark l = false := by
  intro l hl
  rw [h.paragraph_bareMarksRemoved.2] at hl
  simpa using (List.mem_filter.1 hl).2

/-- A header may be assembled from the fragments without the bare marks. -/
lemma assemble_map_bareMarksRemoved (h : ∀ part ∈ fragments, Fragment part) :
    s.assemble (fragments.map bareMarksRemoved) = s.assemble fragments := by
  have hbody : Skeleton.body (fragments.map bareMarksRemoved) = Skeleton.body fragments := by
    rw [body_eq_joinSections_of_fragments h,
      body_eq_joinSections (forall_paragraph_bareMarksRemoved h)]
    rw [List.forall_mem_map]
    exact fun part hp => isBareMark_of_mem_bareMarksRemoved (h part hp)
  rw [Skeleton.assemble, Skeleton.assemble, hbody]

/-- **The lines of a header of fragments**: those of the frame and those that are kept, with one empty line
between. -/
lemma lines_assemble_of_fragments (hs : s.Regular) (h : ∀ part ∈ fragments, Fragment part) :
    lines (s.assemble fragments) =
      spaced (s.top.map lines ++ fragments.map keptLines ++ s.bottom.map lines) := by
  have hframe : ∀ part ∈ s.top ++ s.bottom, Paragraph part :=
    List.forall_mem_append.2 ⟨hs.sections_top.paragraph, hs.sections_bottom.paragraph⟩
  have hbare : ∀ part ∈ fragments.map bareMarksRemoved, ∀ l ∈ lines part, isBareMark l = false := by
    rw [List.forall_mem_map]
    exact fun part hp => isBareMark_of_mem_bareMarksRemoved (h part hp)
  rw [← assemble_map_bareMarksRemoved h,
    Skeleton.lines_assemble hframe (forall_paragraph_bareMarksRemoved h) hbare, List.map_append,
    List.map_append, map_lines_bareMarksRemoved h]

/-! ## What a frame encloses -/

/-- **Lines between an opening and a closing one.** -/
def Encloses (opening closing : String) (inner ls : List String) : Prop :=
  ∃ before above below after,
    ls = before ++ opening :: above ++ inner ++ below ++ closing :: after

/-- Spaced lists end with those behind. -/
lemma exists_spaced_append (p q : List (List String)) : ∃ ls, spaced (p ++ q) = ls ++ spaced q := by
  rcases p with _ | ⟨ls, p⟩
  · exact ⟨[], rfl⟩
  rcases q with _ | ⟨ks, q⟩
  · exact ⟨spaced (ls :: p), by simp [spaced]⟩
  · exact ⟨spaced (ls :: p) ++ [""], by rw [spaced_append (by simp) (by simp)]; simp⟩

/-- **A line in a section above and one in a section below** enclose what stands between.

**Proof sketch.** The sections are cut at the two lines. What is joined on either side begins or ends
with them, whether or not there is a section on the other side. -/
lemma encloses_spaced (p above inner below q : List (List String)) (opening closing : String) :
    Encloses opening closing (spaced inner)
      (spaced ((p ++ [[opening]] ++ above) ++ inner ++ (below ++ [[closing]] ++ q))) := by
  obtain ⟨after, hafter⟩ : ∃ after, spaced ([closing] :: q) = closing :: after := by
    rcases q with _ | ⟨ks, q⟩
    · exact ⟨[], by simp [spaced]⟩
    · exact ⟨_, spaced_cons [closing] (by simp)⟩
  obtain ⟨lower, hlower⟩ := exists_spaced_append below ([closing] :: q)
  obtain ⟨below', hbelow⟩ : ∃ below', spaced (inner ++ (below ++ [closing] :: q)) =
      spaced inner ++ below' ++ closing :: after := by
    rcases inner with _ | ⟨ls, inner⟩
    · exact ⟨lower, by rw [List.nil_append, hlower, hafter]; simp [spaced]⟩
    · exact ⟨"" :: lower, by rw [spaced_append (by simp) (by simp), hlower, hafter]; simp⟩
  obtain ⟨upper, hupper⟩ := exists_spaced_append above (inner ++ (below ++ [closing] :: q))
  obtain ⟨before, hbefore⟩ :=
    exists_spaced_append p ([opening] :: (above ++ (inner ++ (below ++ [closing] :: q))))
  refine ⟨before, "" :: upper, below', after, ?_⟩
  have hall : (p ++ [[opening]] ++ above) ++ inner ++ (below ++ [[closing]] ++ q) =
      p ++ [opening] :: (above ++ (inner ++ (below ++ [closing] :: q))) := by
    simp
  rw [hall, hbefore, spaced_cons [opening] (by simp), hupper, hbelow]
  simp

/-- **A text that is a frame around fragments.** -/
structure Framed (s : Skeleton) (fragments : List String) (text : String) : Prop where
  /-- The lines are those of the frame and those of the fragments, with empty lines between. -/
  lines_eq : lines text =
    spaced (s.top.map lines ++ fragments.map keptLines ++ s.bottom.map lines)
  /-- The text ends with one line feed. -/
  ended : text = joinLines (lines text) ++ "\n" ∧ (lines text).getLast? ≠ some ""
  /-- The body is the fragments with empty lines between, without the bare marks. -/
  body_eq : lines (Skeleton.body fragments) =
    (spaced (fragments.map lines)).filter fun line => !isBareMark line
  /-- Without them, no fragment is empty, and none begins or ends with an empty line. -/
  separate : ∀ part ∈ fragments, keptLines part ≠ [] ∧ (keptLines part).head? ≠ some "" ∧
    (keptLines part).getLast? ≠ some ""
  /-- The body has no frame lines. -/
  inner : ∀ l ∈ lines (Skeleton.body fragments), isFrameLine l = false
  /-- The frame lines are those of the skeleton, each once. -/
  frameLines : (lines text).filter isFrameLine = s.linesAbove ++ s.linesBelow
  once : ∀ l ∈ s.linesAbove ++ s.linesBelow, (lines text).count l = 1
  /-- The namespace encloses the body. -/
  scope : Encloses s.scopeOpening s.scopeClosing (lines (Skeleton.body fragments)) (lines text)
  /-- The fences, if there are any, enclose the body. -/
  fence : s.fenced = true → Encloses "// clang-format off" "// clang-format on"
    (lines (Skeleton.body fragments)) (lines text)

/-- The lines of a body are those that are kept of the fragments. -/
lemma lines_body (h : ∀ part ∈ fragments, Fragment part) :
    lines (Skeleton.body fragments) = spaced (fragments.map keptLines) := by
  rw [body_eq_joinSections_of_fragments h]
  by_cases hne : fragments = []
  · subst hne
    decide
  · have hpar := paragraph_joinSections (forall_paragraph_bareMarksRemoved h) (by simpa using hne)
    rw [hpar.2, map_lines_bareMarksRemoved h]

/-- A header is a paragraph with a line feed behind it. -/
lemma exists_paragraph_assemble (hs : s.Regular) (h : ∀ part ∈ fragments, Fragment part) :
    ∃ text, Paragraph text ∧ s.assemble fragments = text ++ "\n" := by
  have hcontent : ∀ part ∈ (if (Skeleton.body fragments).isEmpty then []
      else [Skeleton.body fragments]), Paragraph part := by
    rw [body_eq_joinSections_of_fragments h]
    by_cases hne : fragments = []
    · subst hne
      have hempty : joinSections [] = "" := rfl
      simp [hempty]
    · have hpar :=
        (paragraph_joinSections (forall_paragraph_bareMarksRemoved h) (by simpa using hne)).1
      split_ifs
      · simp
      · simpa using hpar
  have hall := List.forall_mem_append.2
    ⟨List.forall_mem_append.2 ⟨hs.sections_top.paragraph, hcontent⟩, hs.sections_bottom.paragraph⟩
  exact ⟨_, (paragraph_joinSections hall (by simp [Skeleton.top])).1, rfl⟩

namespace Skeleton.Regular

/-- The line that opens the namespace stands alone. -/
lemma lines_scopeOpening (hs : s.Regular) : lines s.scopeOpening = [s.scopeOpening] := by
  have hne : "namespace " ++ s.scope ++ " \x7b" ≠ "" := by simp
  exact lines_of_oneLine (OneLine.append (OneLine.append (oneLine_ofList (by decide)) hs.scope)
    (oneLine_ofList (by decide))) hne

/-- The line that closes the namespace stands alone. -/
lemma lines_scopeClosing (hs : s.Regular) : lines s.scopeClosing = [s.scopeClosing] := by
  have hne : "\x7d  // namespace " ++ s.scope ≠ "" := by simp
  exact lines_of_oneLine (OneLine.append (oneLine_ofList (by decide)) hs.scope) hne

/-- The namespace encloses what stands between the sections of the frame. -/
lemma encloses_scope (hs : s.Regular) (inner : List (List String)) :
    Encloses s.scopeOpening s.scopeClosing (spaced inner)
      (spaced (s.top.map lines ++ inner ++ s.bottom.map lines)) := by
  have htop : s.top.map lines = (([banner, "#pragma once"] ++ s.includeSection ++
      (s.suppression.map Suppression.opening).toList).map lines) ++ [[s.scopeOpening]] ++
        ((s.preamble.toList ++ if s.fenced then ["// clang-format off"] else []).map lines) := by
    rw [← hs.lines_scopeOpening, top]
    simp only [List.map_append, List.map_cons, List.map_nil, List.append_assoc]
  have hbottom : s.bottom.map lines = (if s.fenced then ["// clang-format on"] else []).map lines ++
      [[s.scopeClosing]] ++ (s.suppression.map fun _ => Suppression.closing).toList.map lines := by
    rw [← hs.lines_scopeClosing, bottom]
    simp only [List.map_append, List.map_cons, List.map_nil]
  rw [htop, hbottom]
  exact encloses_spaced _ _ _ _ _ _ _

/-- The fences enclose what stands between the sections of the frame. -/
lemma encloses_fence (hfenced : s.fenced = true) (inner : List (List String)) :
    Encloses "// clang-format off" "// clang-format on" (spaced inner)
      (spaced (s.top.map lines ++ inner ++ s.bottom.map lines)) := by
  have hoff : lines "// clang-format off" = ["// clang-format off"] :=
    lines_of_oneLine (oneLine_ofList (by decide)) (by simp)
  have hon : lines "// clang-format on" = ["// clang-format on"] :=
    lines_of_oneLine (oneLine_ofList (by decide)) (by simp)
  have htop : s.top.map lines = (([banner, "#pragma once"] ++ s.includeSection ++
      (s.suppression.map Suppression.opening).toList ++ [s.scopeOpening] ++
        s.preamble.toList).map lines) ++ [["// clang-format off"]] ++ [] := by
    rw [top, if_pos hfenced, List.map_append, List.map_singleton, hoff, List.append_nil]
  have hbottom : s.bottom.map lines = [] ++ [["// clang-format on"]] ++
      ([s.scopeClosing] ++ (s.suppression.map fun _ => Suppression.closing).toList).map lines := by
    rw [bottom, if_pos hfenced, List.append_assoc, List.map_append, List.map_singleton, hon,
      List.nil_append]
  rw [htop, hbottom]
  exact encloses_spaced _ _ _ _ _ _ _

/-- **A header of fragments keeps its frame.**

**Proof sketch.** Without the bare marks the fragments are paragraphs, so the lines of the header are
those of the frame and of the fragments. The frame lines are picked out of the sections one by one, and
the fragments have none. -/
theorem framed (hs : s.Regular) (honce : (s.linesAbove ++ s.linesBelow).Nodup)
    (h : ∀ part ∈ fragments, Fragment part) : Framed s fragments (s.assemble fragments) := by
  have hlines := lines_assemble_of_fragments hs h
  have hbody := lines_body h
  have hnone : ∀ part ∈ fragments, ∀ l ∈ keptLines part, isFrameLine l = false :=
    fun part hp l hl => (h part hp).noFrameLine l (List.mem_of_mem_filter hl)
  have hframe : (lines (s.assemble fragments)).filter isFrameLine = s.linesAbove ++ s.linesBelow := by
    have hinner : (fragments.flatMap fun part => (keptLines part).filter isFrameLine) = [] := by
      rw [List.flatMap_eq_nil_iff]
      intro part hp
      rw [List.filter_eq_nil_iff]
      intro l hl
      simp [hnone part hp l hl]
    rw [hlines, filter_spaced (by decide), List.flatMap_append, List.flatMap_append, List.flatMap_map,
      List.flatMap_map, List.flatMap_map, hinner, List.append_nil, hs.sections_top.frameLines,
      hs.sections_bottom.frameLines]
  obtain ⟨text, hpar, htext⟩ := exists_paragraph_assemble hs h
  constructor
  case lines_eq => exact hlines
  case ended =>
    rw [htext, hpar.lines_append_feed, hpar.joined]
    exact ⟨rfl, hpar.last⟩
  case body_eq =>
    rw [hbody, filter_spaced_of_pos (by decide), List.map_map]
    rfl
  case separate =>
    intro part hp
    have hpart := h part hp
    rw [hpart.head?_keptLines, hpart.getLast?_keptLines]
    exact ⟨hpart.keptLines_ne_nil, hpart.paragraph.head, hpart.paragraph.last⟩
  case inner =>
    rw [hbody]
    refine forall_mem_spaced (by decide) ?_
    rwa [List.forall_mem_map]
  case frameLines => exact hframe
  case once =>
    intro l hl
    have hmem := hl
    rw [← hframe] at hmem
    rw [← List.count_filter (List.mem_filter.1 hmem).2, hframe]
    exact List.count_eq_one_of_mem honce hl
  case scope =>
    rw [hbody, hlines]
    exact hs.encloses_scope _
  case fence =>
    intro hfenced
    rw [hbody, hlines]
    exact encloses_fence hfenced _

end Skeleton.Regular

end UaHeaders
