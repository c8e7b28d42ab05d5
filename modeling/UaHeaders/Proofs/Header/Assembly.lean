import UaHeaders.Header.Skeleton
import UaHeaders.Proofs.Text.Lines

/-!
# The lines of an assembled header

Sections and fragments that are paragraphs keep their lines when a header is assembled: its lines are
theirs, with one empty line between.

## Main definitions

* `UaHeaders.spaced` — lists of lines with one empty line between.

## Main results

* `UaHeaders.Skeleton.lines_assemble` — the lines of a header.
* `UaHeaders.paragraph_banner` — the banner is a paragraph.
-/

set_option autoImplicit false

namespace UaHeaders

open Text

variable {s : Skeleton} {sections fragments : List String} {p q : List (List String)}

/-! ## Sections -/

/-- Lists of lines with one empty line between. -/
def spaced (p : List (List String)) : List String := [""].intercalate p

/-- Spaced lists, one at a time. -/
lemma spaced_cons (ls : List String) (h : p ≠ []) : spaced (ls :: p) = ls ++ "" :: spaced p := by
  rw [spaced, List.intercalate_cons_of_ne_nil h, List.append_assoc]
  rfl

/-- Spaced lists behind others. -/
lemma spaced_append (h : p ≠ []) (h' : q ≠ []) :
    spaced (p ++ q) = spaced p ++ "" :: spaced q := by
  induction p with
  | nil => exact absurd rfl h
  | cons ls p ih =>
    rcases p with _ | ⟨ks, p⟩
    · rw [List.singleton_append, spaced_cons ls h', spaced, spaced, List.intercalate_singleton]
    · rw [List.cons_append, spaced_cons ls (by simp), ih (by simp), spaced_cons ls (by simp),
        List.append_assoc, List.cons_append]

/-- What spaced lists share before and behind may be cut off. -/
lemma spaced_cancel {p q q' r : List (List String)} (hp : p ≠ []) (hq : q ≠ []) (hq' : q' ≠ [])
    (hr : r ≠ []) (h : spaced (p ++ q ++ r) = spaced (p ++ q' ++ r)) : spaced q = spaced q' := by
  rw [spaced_append (by simp [hp]) hr, spaced_append (by simp [hp]) hr, spaced_append hp hq,
    spaced_append hp hq'] at h
  exact (List.cons.inj (List.append_cancel_left (List.append_cancel_right h))).2

/-- Spaced lists may be spaced in groups. -/
lemma spaced_group (p r : List (List String)) (h : q ≠ []) :
    spaced (p ++ [spaced q] ++ r) = spaced (p ++ q ++ r) := by
  have hsingle : ∀ ls, spaced [ls] = ls := fun ls => List.intercalate_singleton
  have hleft : spaced (p ++ [spaced q]) = spaced (p ++ q) := by
    rcases p with _ | ⟨ls, p⟩
    · simp [hsingle]
    · rw [spaced_append (by simp) (by simp), spaced_append (by simp) h, hsingle]
  rcases r with _ | ⟨ls, r⟩
  · simpa using hleft
  · rw [spaced_append (p := p ++ [spaced q]) (by simp) (by simp), hleft,
      spaced_append (p := p ++ q) (by simp [h]) (by simp)]

/-- What holds of empty lines and of all lists holds of spaced lists. -/
lemma forall_mem_spaced {P : String → Prop} (hempty : P "") (h : ∀ ls ∈ p, ∀ l ∈ ls, P l) :
    ∀ l ∈ spaced p, P l := by
  induction p with
  | nil => simp [spaced]
  | cons ls p ih =>
    rw [List.forall_mem_cons] at h
    rcases p with _ | ⟨ks, p⟩
    · simpa [spaced] using h.1
    · rw [spaced_cons ls (by simp), List.forall_mem_append, List.forall_mem_cons]
      exact ⟨h.1, hempty, ih h.2⟩

/-- A line that is not empty is in spaced lists as often as in each. -/
lemma count_spaced_append {l : String} (hl : l ≠ "") (p q : List (List String)) :
    (spaced (p ++ q)).count l = (spaced p).count l + (spaced q).count l := by
  rcases p with _ | ⟨ls, p⟩
  · simp [spaced]
  rcases q with _ | ⟨ks, q⟩
  · simp [spaced]
  · rw [spaced_append (by simp) (by simp), List.count_append, List.count_cons_of_ne hl.symm]

/-- What is picked out of spaced lists is picked out of each, if no empty line is. -/
lemma filter_spaced {P : String → Bool} (hempty : P "" = false) (p : List (List String)) :
    (spaced p).filter P = p.flatMap fun ls => ls.filter P := by
  induction p with
  | nil => rfl
  | cons ls p ih =>
    rcases p with _ | ⟨ks, p⟩
    · simp [spaced]
    · rw [List.flatMap_cons, ← ih, spaced_cons ls (by simp), List.filter_append,
        List.filter_cons_of_neg (by simp [hempty])]

/-- Lists that are spaced stay spaced when lines are dropped, but no empty ones. -/
lemma filter_spaced_of_pos {P : String → Bool} (hempty : P "" = true) (p : List (List String)) :
    (spaced p).filter P = spaced (p.map fun ls => ls.filter P) := by
  induction p with
  | nil => rfl
  | cons ls p ih =>
    rcases p with _ | ⟨ks, p⟩
    · simp [spaced]
    · have hne : (ks :: p).map (fun ls => ls.filter P) ≠ [] := by simp
      rw [List.map_cons, spaced_cons _ hne, ← ih, spaced_cons ls (by simp), List.filter_append,
        List.filter_cons_of_pos hempty]

/-- **Paragraphs that are joined** are a paragraph, whose lines are theirs.

**Proof sketch.** Induction on the sections. Two paragraphs with an empty line between are a paragraph,
for neither begins or ends with an empty line. -/
lemma paragraph_joinSections (h : ∀ part ∈ sections, Paragraph part) (hne : sections ≠ []) :
    Paragraph (joinSections sections) ∧
      lines (joinSections sections) = spaced (sections.map lines) := by
  induction sections with
  | nil => exact absurd rfl hne
  | cons first rest ih =>
    rw [List.forall_mem_cons] at h
    rcases rest with _ | ⟨second, rest⟩
    · have hsingle : joinSections [first] = first := String.intercalate_singleton
      rw [hsingle]
      exact ⟨h.1, List.intercalate_singleton.symm⟩
    · obtain ⟨hpar, hlines⟩ := ih h.2 (by simp)
      have hjoined : joinSections (first :: second :: rest) =
          joinLines (lines first ++ "" :: lines (joinSections (second :: rest))) := by
        have hfeeds : "\n\n" = "\n" ++ "\n" := rfl
        rw [joinLines_append h.1.nonempty (by simp), joinLines_cons "" hpar.nonempty, h.1.joined,
          hpar.joined, joinSections, String.intercalate_cons_of_ne_nil (by simp), ← joinSections,
          hfeeds, String.empty_append]
        simp only [String.append_assoc]
      have hone : ∀ l ∈ lines first ++ "" :: lines (joinSections (second :: rest)), OneLine l := by
        rw [List.forall_mem_append, List.forall_mem_cons]
        exact ⟨h.1.oneLine, by decide, hpar.oneLine⟩
      have hhead : (lines first ++ "" :: lines (joinSections (second :: rest))).head? ≠ some "" := by
        rw [List.head?_append_of_ne_nil _ h.1.nonempty]
        exact h.1.head
      have hlast :
          (lines first ++ "" :: lines (joinSections (second :: rest))).getLast? ≠ some "" := by
        rw [List.getLast?_append_of_ne_nil _ (by simp), List.getLast?_cons_of_ne_nil hpar.nonempty]
        exact hpar.last
      rw [hjoined]
      refine ⟨paragraph_joinLines hone (by simp) hhead hlast, ?_⟩
      rw [lines_joinLines hone hlast, List.map_cons, spaced_cons _ (by simp), hlines]

/-! ## Bodies -/

/-- A line that begins with another character is no bare mark. -/
lemma isBareMark_of_head {l : String} {c : Char} (h : l.toList.head? = some c)
    (hc : isBlank c = false) (hmark : c ≠ '*') : isBareMark l = false := by
  rw [isBareMark, beq_eq_false_iff_ne]
  intro hbare
  have hhead := head?_trim h hc
  rw [hbare] at hhead
  exact hmark (by simpa using hhead.symm)

/-- A line that ends with another character is no bare mark. -/
lemma isBareMark_of_getLast {l : String} {c : Char} (h : l.toList.getLast? = some c)
    (hc : isBlank c = false) (hmark : c ≠ '*') : isBareMark l = false := by
  rw [isBareMark, beq_eq_false_iff_ne]
  intro hbare
  have hlast := getLast?_trim h hc
  rw [hbare] at hlast
  exact hmark (by simpa using hlast.symm)

/-- A text without bare marks stays as it is. -/
lemma bareMarksRemoved_eq_self {text : String} (h : Paragraph text)
    (hbare : ∀ l ∈ lines text, isBareMark l = false) : bareMarksRemoved text = text := by
  rw [bareMarksRemoved, List.filter_eq_self.2 fun l hl => by simp [hbare l hl], h.joined]

/-- Paragraphs are taken into a body as they are. -/
lemma map_trimNewlines_filter (h : ∀ part ∈ fragments, Paragraph part) :
    (fragments.map trimNewlines).filter (fun part => !part.isEmpty) = fragments := by
  rw [List.map_congr_left fun part hp => (h part hp).trimNewlines, List.map_id',
    List.filter_eq_self]
  intro part hp
  simpa using (h part hp).ne_empty

/-- **The body of paragraphs without bare marks** is the paragraphs. -/
lemma body_eq_joinSections (h : ∀ part ∈ fragments, Paragraph part)
    (hbare : ∀ part ∈ fragments, ∀ l ∈ lines part, isBareMark l = false) :
    Skeleton.body fragments = joinSections fragments := by
  rw [Skeleton.body, map_trimNewlines_filter h]
  by_cases hne : fragments = []
  · subst hne
    rfl
  · obtain ⟨hpar, hlines⟩ := paragraph_joinSections h hne
    refine bareMarksRemoved_eq_self hpar ?_
    rw [hlines]
    refine forall_mem_spaced (by decide) ?_
    simpa using hbare

/-! ## Headers -/

/-- **The lines of a header** are those of the sections above, of the fragments and of the sections
below, with one empty line between.

**Proof sketch.** The body is one more section between those above and below, unless it is empty; and its
lines are those of the fragments with one empty line between (`paragraph_joinSections`). -/
theorem Skeleton.lines_assemble (hframe : ∀ part ∈ s.top ++ s.bottom, Paragraph part)
    (h : ∀ part ∈ fragments, Paragraph part)
    (hbare : ∀ part ∈ fragments, ∀ l ∈ lines part, isBareMark l = false) :
    lines (s.assemble fragments) = spaced ((s.top ++ fragments ++ s.bottom).map lines) := by
  have htop : s.top ≠ [] := by simp [top]
  rw [List.forall_mem_append] at hframe
  rw [assemble, body_eq_joinSections h hbare]
  by_cases hne : fragments = []
  · subst hne
    have hall : ∀ part ∈ s.top ++ [] ++ s.bottom, Paragraph part := by
      rw [List.append_nil, List.forall_mem_append]
      exact hframe
    obtain ⟨hpar, hlines⟩ := paragraph_joinSections hall (by simp [htop])
    have hempty : joinSections [] = "" := rfl
    rw [hempty, if_pos (by simp), hpar.lines_append_feed, hlines]
  · obtain ⟨hbody, hbodyLines⟩ := paragraph_joinSections h hne
    have hall : ∀ part ∈ s.top ++ [joinSections fragments] ++ s.bottom, Paragraph part := by
      simp only [List.forall_mem_append, List.forall_mem_singleton]
      exact ⟨⟨hframe.1, hbody⟩, hframe.2⟩
    obtain ⟨hpar, hlines⟩ := paragraph_joinSections hall (by simp)
    rw [if_neg (by simpa using hbody.ne_empty), hpar.lines_append_feed, hlines]
    simp only [List.map_append, List.map_cons, List.map_nil, hbodyLines]
    exact spaced_group _ _ (by simpa using hne)

/-! ## The banner -/

/-- A text that is one comment is one line, if its middle has no line feed. -/
lemma oneLine_comment {l : String} {middle : List Char}
    (h : l.toList = '/' :: '*' :: (middle ++ ['*', '/'])) (hmiddle : '\n' ∉ middle) : OneLine l := by
  constructor
  · simpa [h] using hmiddle
  · rw [h, ← List.cons_append, ← List.cons_append, List.getLast?_append_of_ne_nil _ (by simp)]
    decide

/-- **The banner is a paragraph**, and each of its lines is a comment.

**Proof sketch.** A line of the banner is a mark, blanks or dashes around at most the title, and a mark
again; none of it is a line feed. -/
lemma paragraph_banner :
    Paragraph banner ∧ ∀ l ∈ lines banner, ∃ cs, l.toList = '/' :: '*' :: cs := by
  have hrule : ∀ n, ("/* " ++ replicateText n '-' ++ " */").toList =
      '/' :: '*' :: ((' ' :: List.replicate n '-' ++ [' ']) ++ ['*', '/']) := by
    intro n
    simp [replicateText]
  have htitle : ∀ n k, ("/*" ++ replicateText n ' ' ++ bannerTitle ++ replicateText k ' ' ++
      "*/").toList = '/' :: '*' :: ((List.replicate n ' ' ++ bannerTitle.toList ++
        List.replicate k ' ') ++ ['*', '/']) := by
    intro n k
    simp [replicateText]
  have hone : ∀ n, OneLine ("/* " ++ replicateText n '-' ++ " */") := by
    intro n
    refine oneLine_comment (hrule n) ?_
    simp
  have hmiddle : ∀ n k, OneLine ("/*" ++ replicateText n ' ' ++ bannerTitle ++
      replicateText k ' ' ++ "*/") := by
    intro n k
    refine oneLine_comment (htitle n k) ?_
    have htext : '\n' ∉ bannerTitle.toList := by decide
    simp [htext]
  obtain ⟨n, k, m, hbanner⟩ : ∃ n k m, banner = joinLines
      ["/* " ++ replicateText n '-' ++ " */",
        "/*" ++ replicateText k ' ' ++ bannerTitle ++ replicateText m ' ' ++ "*/",
        "/* " ++ replicateText n '-' ++ " */"] := ⟨_, _, _, rfl⟩
  have hall : ∀ l ∈ ["/* " ++ replicateText n '-' ++ " */",
      "/*" ++ replicateText k ' ' ++ bannerTitle ++ replicateText m ' ' ++ "*/",
      "/* " ++ replicateText n '-' ++ " */"], OneLine l ∧ ∃ cs, l.toList = '/' :: '*' :: cs := by
    simp only [List.forall_mem_cons]
    exact ⟨⟨hone n, _, hrule n⟩, ⟨hmiddle k m, _, htitle k m⟩, ⟨hone n, _, hrule n⟩, by simp⟩
  rw [hbanner, lines_joinLines (fun l hl => (hall l hl).1) (by simp)]
  exact ⟨paragraph_joinLines (fun l hl => (hall l hl).1) (by simp) (by simp) (by simp),
    fun l hl => (hall l hl).2⟩

end UaHeaders
