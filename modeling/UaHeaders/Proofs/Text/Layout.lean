import Mathlib.Logic.Relation
import UaHeaders.Proofs.Text.LineEnds

/-!
# The layout of a text

A text that is read line by line for what stands in its lines may be laid out in many ways. White space at
either end of a line does not count, and neither does a line with nothing else in it. White space includes the
line feed, so what does not count is white space at a place where a line starts or ends: a text can be cut
there, and the white space goes to one of the parts.

## Main definitions

* `UaHeaders.Text.trimmedLines` — what stands in the lines of a text.
* `UaHeaders.Text.StartsLine`, `UaHeaders.Text.EndsLine` — where a line starts, and where one ends.
* `UaHeaders.Text.Relaid` — a change of the layout, or a line that is repeated.
* `UaHeaders.Text.returned` — a text with a carriage return in front of each line feed.

## Main results

* `UaHeaders.Text.trimmedLines_append` — a text that is cut where a line starts or ends.
* `UaHeaders.Text.eqvGen_relaid_returned` — carriage returns are a change of the layout.
-/

set_option autoImplicit false

namespace UaHeaders.Text

variable {cs ds blanks before line rest : List Char} {c : Char}

/-! ## Trimmed lines -/

/-- **What stands in the lines of a text**: the lines without the white space at their ends, if there is
anything left. -/
def trimmedLines (cs : List Char) : List (List Char) :=
  ((lineChars cs).map trimChars).filter fun line => !line.isEmpty

/-- **Texts line by line**: what holds of a text without line feeds, and of a text with one more line in front,
holds of all texts. -/
lemma induction_on_lines {P : List Char → Prop} (last : ∀ l, '\n' ∉ l → P l)
    (line : ∀ l rest, '\n' ∉ l → P rest → P (l ++ '\n' :: rest)) (cs : List Char) : P cs := by
  have hmade := madeOf_lineChars cs
  generalize lineChars cs = ls at hmade
  induction hmade with
  | none => exact last [] (by simp)
  | unended _ hfeed => exact last _ hfeed
  | feed hfeed _ _ ih => exact line _ _ hfeed ih
  | @returnFeed l rest ls hfeed _ ih =>
    have hline := line (l ++ ['\r']) rest (by simp [hfeed]) ih
    rwa [List.append_assoc] at hline

/-- What stands in a single line. -/
lemma trimmedLines_of_noFeed (h : '\n' ∉ line) :
    trimmedLines line = [trimChars line].filter fun l => !l.isEmpty := by
  rcases eq_or_ne line [] with rfl | hne
  · rfl
  · rw [trimmedLines, lineChars_of_noFeed h hne, List.map_singleton]

/-- The first line of a text is cut off. A carriage return in front of its line feed is white space. -/
lemma trimmedLines_line (h : '\n' ∉ line) (rest : List Char) :
    trimmedLines (line ++ '\n' :: rest) = trimmedLines line ++ trimmedLines rest := by
  have hcut : ∀ l, trimChars l = trimChars line → lineChars (line ++ '\n' :: rest) = l :: lineChars rest →
      trimmedLines (line ++ '\n' :: rest) = trimmedLines line ++ trimmedLines rest := by
    intro l htrim hlines
    rw [trimmedLines, hlines, List.map_cons, htrim, ← List.singleton_append, List.filter_append,
      ← trimmedLines_of_noFeed h, ← trimmedLines]
  by_cases hreturn : line.getLast? = some '\r'
  · obtain ⟨l, rfl⟩ := List.getLast?_eq_some_iff.1 hreturn
    have hl : '\n' ∉ l := fun hmem => h (List.mem_append_left _ hmem)
    refine hcut l (trimChars_concat_of_isBlank (by decide)).symm ?_
    rw [List.append_assoc]
    exact lineChars_append_returnFeed hl
  · exact hcut line rfl (lineChars_append_feed h hreturn)

/-- A text is cut at a line feed. -/
lemma trimmedLines_append_feed (cs rest : List Char) :
    trimmedLines (cs ++ '\n' :: rest) = trimmedLines cs ++ trimmedLines rest := by
  induction cs using induction_on_lines with
  | last l hl => exact trimmedLines_line hl rest
  | line l cs hl ih =>
    rw [List.append_assoc, List.cons_append, trimmedLines_line hl, ih, trimmedLines_line hl,
      List.append_assoc]

/-! ## White space -/

/-- White space in front of a text does not count. -/
lemma trimmedLines_cons_of_isBlank (hc : isBlank c = true) (cs : List Char) :
    trimmedLines (c :: cs) = trimmedLines cs := by
  by_cases hfeed : c = '\n'
  · rw [hfeed]
    exact trimmedLines_append_feed [] cs
  have hsingle : ∀ l, '\n' ∉ l → trimmedLines (c :: l) = trimmedLines l := by
    intro l hl
    have hcl : '\n' ∉ c :: l := by simp [hl, Ne.symm hfeed]
    rw [trimmedLines_of_noFeed hcl, trimChars_cons_of_isBlank hc, trimmedLines_of_noFeed hl]
  induction cs using induction_on_lines with
  | last l hl => exact hsingle l hl
  | line l cs hl _ =>
    rw [trimmedLines_line hl, ← List.cons_append, trimmedLines_append_feed, hsingle l hl]

/-- White space behind a text does not count. -/
lemma trimmedLines_concat_of_isBlank (hc : isBlank c = true) (cs : List Char) :
    trimmedLines (cs ++ [c]) = trimmedLines cs := by
  by_cases hfeed : c = '\n'
  · rw [hfeed, trimmedLines_append_feed]
    exact List.append_nil _
  induction cs using induction_on_lines with
  | last l hl =>
    have hlc : '\n' ∉ l ++ [c] := by simp [hl, Ne.symm hfeed]
    rw [trimmedLines_of_noFeed hlc, trimChars_concat_of_isBlank hc, trimmedLines_of_noFeed hl]
  | line l cs hl ih => rw [List.append_assoc, List.cons_append, trimmedLines_line hl, ih, trimmedLines_line hl]

/-- White space in front of a text does not count, however much there is. -/
lemma trimmedLines_blanks_append (h : ∀ c ∈ blanks, isBlank c = true) (cs : List Char) :
    trimmedLines (blanks ++ cs) = trimmedLines cs := by
  induction blanks with
  | nil => rfl
  | cons c blanks ih =>
    rw [List.forall_mem_cons] at h
    rw [List.cons_append, trimmedLines_cons_of_isBlank h.1, ih h.2]

/-- White space behind a text does not count, however much there is. -/
lemma trimmedLines_append_blanks (h : ∀ c ∈ blanks, isBlank c = true) (cs : List Char) :
    trimmedLines (cs ++ blanks) = trimmedLines cs := by
  induction blanks generalizing cs with
  | nil => rw [List.append_nil]
  | cons c blanks ih =>
    rw [List.forall_mem_cons] at h
    rw [List.append_cons, ih h.2, trimmedLines_concat_of_isBlank h.1]

/-! ## Places between lines -/

/-- **A line starts** at the beginning of a text and behind each line feed. -/
def StartsLine (before : List Char) : Prop :=
  before = [] ∨ ∃ earlier, before = earlier ++ ['\n']

/-- **A line ends** at the end of a text and in front of each line end. -/
def EndsLine (rest : List Char) : Prop :=
  rest = [] ∨ (∃ later, rest = '\n' :: later) ∨ ∃ later, rest = '\r' :: '\n' :: later

/-- **A text is cut** where a line starts or ends, and what stands in its lines is cut there, too. -/
lemma trimmedLines_append (h : StartsLine before ∨ EndsLine rest) :
    trimmedLines (before ++ rest) = trimmedLines before ++ trimmedLines rest := by
  rcases h with (rfl | ⟨earlier, rfl⟩) | (rfl | ⟨later, rfl⟩ | ⟨later, rfl⟩)
  · rfl
  · rw [← List.append_cons, trimmedLines_append_feed, trimmedLines_concat_of_isBlank (by decide)]
  · rw [List.append_nil]
    exact (List.append_nil _).symm
  · rw [trimmedLines_append_feed, trimmedLines_cons_of_isBlank (by decide)]
  · rw [List.append_cons, trimmedLines_append_feed, trimmedLines_concat_of_isBlank (by decide),
      trimmedLines_cons_of_isBlank (by decide), trimmedLines_cons_of_isBlank (by decide)]

/-! ## Changes of the layout -/

/-- **A change of the layout of a text, or a line that is repeated.** White space may hold line feeds, and then
it brings blank lines with it. -/
inductive Relaid : List Char → List Char → Prop
  /-- A line is indented, or blank lines are put in front of it. -/
  | indented {before blanks rest : List Char} : StartsLine before → (∀ c ∈ blanks, isBlank c = true) →
      Relaid (before ++ rest) (before ++ blanks ++ rest)
  /-- A line is padded, perhaps with the carriage return of its line end, or blank lines are put behind it. -/
  | padded {before blanks rest : List Char} : EndsLine rest → (∀ c ∈ blanks, isBlank c = true) →
      Relaid (before ++ rest) (before ++ blanks ++ rest)
  /-- A line is repeated behind a later one, or behind itself. -/
  | repeated {before line rest : List Char} : EndsLine rest → line ∈ lineChars before →
      Relaid (before ++ rest) (before ++ '\n' :: line ++ rest)

/-- **What stands in the lines** stays, and more can only come behind what is the same. -/
lemma Relaid.exists_trimmedLines (h : Relaid cs ds) :
    ∃ earlier later again, trimmedLines cs = earlier ++ later ∧
      trimmedLines ds = earlier ++ (again ++ later) ∧ ∀ line ∈ again, line ∈ earlier := by
  cases h with
  | @indented before blanks rest hstart hblanks =>
    refine ⟨trimmedLines before, trimmedLines rest, [], trimmedLines_append (.inl hstart), ?_, by simp⟩
    rw [List.append_assoc, trimmedLines_append (.inl hstart), trimmedLines_blanks_append hblanks,
      List.nil_append]
  | @padded before blanks rest hend hblanks =>
    refine ⟨trimmedLines before, trimmedLines rest, [], trimmedLines_append (.inr hend), ?_, by simp⟩
    rw [trimmedLines_append (.inr hend), trimmedLines_append_blanks hblanks, List.nil_append]
  | @repeated before line rest hend hline =>
    refine ⟨trimmedLines before, trimmedLines rest, trimmedLines line, trimmedLines_append (.inr hend), ?_, ?_⟩
    · rw [trimmedLines_append (.inr hend), trimmedLines_append_feed, List.append_assoc]
    · rw [trimmedLines_of_noFeed (noFeed_of_mem_lineChars line hline), trimmedLines]
      exact List.filter_subset _ (by simpa using ⟨line, hline, rfl⟩)

/-- **A text with carriage returns** in front of its line feeds. -/
def returned (s : String) : String :=
  String.ofList (s.toList.flatMap fun c => if c = '\n' then ['\r', '\n'] else [c])

/-- **Carriage returns in front of line feeds** are changes of the layout.

**Proof sketch.** Induction on the text, with what was gone through in front: a line feed is padded with
a carriage return, and other characters stay. -/
lemma eqvGen_relaid_returned (s : String) : Relation.EqvGen Relaid s.toList (returned s).toList := by
  have hrest : ∀ before cs : List Char, Relation.EqvGen Relaid (before ++ cs)
      (before ++ cs.flatMap fun c => if c = '\n' then ['\r', '\n'] else [c]) := by
    intro before cs
    induction cs generalizing before with
    | nil => exact .refl _
    | cons c cs ih =>
      rw [List.flatMap_cons, ← List.append_assoc]
      split_ifs with hc
      · refine .trans _ (before ++ ['\r'] ++ '\n' :: cs) _ (.rel _ _ ?_) ?_
        · rw [hc]
          exact .padded (.inr (.inl ⟨cs, rfl⟩)) (by simp; decide)
        · have hih := ih (before ++ ['\r', '\n'])
          simpa using hih
      · have hih := ih (before ++ [c])
        simpa using hih
  rw [returned, String.toList_ofList]
  exact hrest [] s.toList

end UaHeaders.Text
