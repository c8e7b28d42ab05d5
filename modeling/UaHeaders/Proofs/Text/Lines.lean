import Mathlib.Tactic
import UaHeaders.Proofs.Text.Trimmed
import UaHeaders.Text.Lines
import UaHeaders.Text.Search

/-!
# Lines of joined texts

A text that is made by joining lines has those lines, as long as no line holds a line end of its own.

## Main definitions

* `UaHeaders.Text.OneLine` — a text that is one line.

## Main results

* `UaHeaders.Text.lines_joinLines_feed` — the lines of lines that are joined and ended.
* `UaHeaders.Text.lines_joinLines` — the lines of lines that are joined.
* `UaHeaders.Text.oneLine_trim` — a trimmed line is one line.
-/

set_option autoImplicit false

namespace UaHeaders.Text

variable {cs rest : List Char} {c : Char} {l s : String} {ls : List String}

/-- **A text that is one line**: it has no line feed, and no carriage return at its end, which would
belong to the line end. -/
structure OneLine (l : String) : Prop where
  noFeed : '\n' ∉ l.toList
  noReturn : l.toList.getLast? ≠ some '\r'

instance (l : String) : Decidable (OneLine l) :=
  decidable_of_iff ('\n' ∉ l.toList ∧ l.toList.getLast? ≠ some '\r')
    ⟨fun h => ⟨h.1, h.2⟩, fun h => ⟨h.noFeed, h.noReturn⟩⟩

/-- The characters of one line. -/
lemma oneLine_ofList (h : '\n' ∉ cs ∧ cs.getLast? ≠ some '\r') : OneLine (String.ofList cs) := by
  constructor
  · rw [String.toList_ofList]
    exact h.1
  · rw [String.toList_ofList]
    exact h.2

/-- One line continued by another is one line. -/
lemma OneLine.append {k : String} (h : OneLine l) (h' : OneLine k) : OneLine (l ++ k) := by
  constructor
  · rw [String.toList_append, List.mem_append, not_or]
    exact ⟨h.noFeed, h'.noFeed⟩
  · rw [String.toList_append]
    by_cases hk : k.toList = []
    · rw [hk, List.append_nil]
      exact h.noReturn
    · rw [List.getLast?_append_of_ne_nil _ hk]
      exact h'.noReturn

/-- One line behind the characters of one is one line. -/
lemma OneLine.behind (h : OneLine l) (hcs : '\n' ∉ cs ∧ cs.getLast? ≠ some '\r') :
    OneLine (String.ofList cs ++ l) :=
  (oneLine_ofList hcs).append h

/-- One line between the characters of others is one line. -/
lemma OneLine.between {ds : List Char} (h : OneLine l)
    (hends : ('\n' ∉ cs ∧ cs.getLast? ≠ some '\r') ∧ '\n' ∉ ds ∧ ds.getLast? ≠ some '\r') :
    OneLine (String.ofList cs ++ l ++ String.ofList ds) :=
  (h.behind hends.1).append (oneLine_ofList hends.2)

/-- Texts that begin with different characters do not begin with each other. -/
lemma hasPrefix_eq_false {start : String} {c d : Char} (hstart : start.toList.head? = some d)
    (hline : l.toList.head? = some c) (hne : c ≠ d) : hasPrefix start l = false := by
  obtain ⟨ds, hds⟩ := List.head?_eq_some_iff.1 hstart
  obtain ⟨cs, hcs⟩ := List.head?_eq_some_iff.1 hline
  rw [hasPrefix, hds, hcs, List.isPrefixOf, beq_false_of_ne (Ne.symm hne), Bool.false_and]

/-- What begins with a text begins with it. -/
lemma hasPrefix_append (start rest : String) : hasPrefix start (start ++ rest) = true := by
  rw [hasPrefix, String.toList_append, List.isPrefixOf_iff_prefix]
  exact List.prefix_append _ _

/-! ## Cutting at line feeds -/

/-- A character that does not begin a line end begins a line. -/
lemma lineChars_cons (hfeed : c ≠ '\n') (hreturn : c = '\r' → cs.head? ≠ some '\n') :
    lineChars (c :: cs) =
      match lineChars cs with
      | [] => [[c]]
      | l :: ls => (c :: l) :: ls := by
  refine lineChars.eq_4 c cs ?_ hfeed
  rintro tail rfl rfl
  exact hreturn rfl rfl

/-- **A line is cut off at its end.** -/
lemma lineChars_append_feed (hfeed : '\n' ∉ cs) (hreturn : cs.getLast? ≠ some '\r') :
    lineChars (cs ++ '\n' :: rest) = cs :: lineChars rest := by
  induction cs with
  | nil => simp [lineChars]
  | cons c cs ih =>
    rw [List.mem_cons, not_or] at hfeed
    have hlast : cs.getLast? ≠ some '\r' := by
      rcases cs with _ | ⟨d, ds⟩
      · simp
      · simpa using hreturn
    rw [List.cons_append, lineChars_cons (Ne.symm hfeed.1), ih hfeed.2 hlast]
    rintro rfl
    rcases cs with _ | ⟨d, ds⟩
    · simp at hreturn
    · have hd : d ≠ '\n' := fun h => hfeed.2 (by simp [h])
      simpa using hd

/-- A last line needs no end. -/
lemma lineChars_of_noFeed (hfeed : '\n' ∉ cs) (hne : cs ≠ []) : lineChars cs = [cs] := by
  induction cs with
  | nil => exact absurd rfl hne
  | cons c cs ih =>
    rw [List.mem_cons, not_or] at hfeed
    have hnext : cs.head? ≠ some '\n' := fun h => hfeed.2 (List.mem_of_head? h)
    rw [lineChars_cons (Ne.symm hfeed.1) fun _ => hnext]
    rcases cs with _ | ⟨d, ds⟩
    · simp [lineChars]
    · rw [ih hfeed.2 (by simp)]

/-- No line holds a line feed. -/
lemma noFeed_of_mem_lineChars : ∀ l ∈ lineChars cs, '\n' ∉ l := by
  fun_induction lineChars cs with
  | case1 => simp
  | case2 cs ih => simpa using ih
  | case3 cs ih => simpa using ih
  | case4 c cs _ hfeed _ _ => simpa [eq_comm] using hfeed
  | case5 c cs _ hfeed l ls hls ih =>
    rw [hls, List.forall_mem_cons] at ih
    rw [List.forall_mem_cons, List.mem_cons, not_or]
    exact ⟨⟨Ne.symm hfeed, ih.1⟩, ih.2⟩

/-! ## Joined lines -/

/-- Lines that are joined, one at a time. -/
lemma joinLines_cons (l : String) (h : ls ≠ []) :
    joinLines (l :: ls) = l ++ "\n" ++ joinLines ls :=
  String.intercalate_cons_of_ne_nil h

/-- Lines that are joined behind others. -/
lemma joinLines_append {ks : List String} (h : ls ≠ []) (h' : ks ≠ []) :
    joinLines (ls ++ ks) = joinLines ls ++ "\n" ++ joinLines ks :=
  String.intercalate_append_of_ne_nil h h'

/-- Lines that are ended are lines that are joined, with a line feed behind the last. -/
lemma join_map_feed {ls : List String} (hne : ls ≠ []) :
    String.join (ls.map (· ++ "\n")) = joinLines ls ++ "\n" := by
  induction ls with
  | nil => exact absurd rfl hne
  | cons l ls ih =>
    rcases ls with _ | ⟨k, ks⟩
    · simp [joinLines]
    · rw [List.map_cons, String.join_cons, ih (by simp), joinLines_cons l (by simp)]
      simp only [String.append_assoc]

/-- **The lines of lines that are joined and ended.** -/
lemma lines_joinLines_feed (h : ∀ l ∈ ls, OneLine l) (hne : ls ≠ []) :
    lines (joinLines ls ++ "\n") = ls := by
  induction ls with
  | nil => exact absurd rfl hne
  | cons l ls ih =>
    rw [List.forall_mem_cons] at h
    rcases ls with _ | ⟨k, ks⟩
    · simp [lines, joinLines, lineChars_append_feed h.1.noFeed h.1.noReturn, lineChars]
    · have hlist : (joinLines (l :: k :: ks) ++ "\n").toList =
          l.toList ++ '\n' :: (joinLines (k :: ks) ++ "\n").toList := by
        simp [joinLines_cons]
      rw [lines, hlist, lineChars_append_feed h.1.noFeed h.1.noReturn, List.map_cons,
        String.ofList_toList]
      exact congrArg (l :: ·) (ih h.2 (by simp))

/-- **The lines of lines that are joined**, the last of which is not empty. -/
lemma lines_joinLines (h : ∀ l ∈ ls, OneLine l) (hlast : ls.getLast? ≠ some "") :
    lines (joinLines ls) = ls := by
  induction ls with
  | nil => simp [lines, joinLines, lineChars]
  | cons l ls ih =>
    rw [List.forall_mem_cons] at h
    rcases ls with _ | ⟨k, ks⟩
    · have hne : l.toList ≠ [] := by simpa using hlast
      simp [lines, joinLines, lineChars_of_noFeed h.1.noFeed hne]
    · have hlist : (joinLines (l :: k :: ks)).toList =
          l.toList ++ '\n' :: (joinLines (k :: ks)).toList := by
        simp [joinLines_cons]
      rw [lines, hlist, lineChars_append_feed h.1.noFeed h.1.noReturn, List.map_cons,
        String.ofList_toList]
      exact congrArg (l :: ·) (ih h.2 (by simpa using hlast))

/-- A text that is one line has that line. -/
lemma lines_of_oneLine (h : OneLine l) (hne : l ≠ "") : lines l = [l] := by
  have hlines := lines_joinLines (List.forall_mem_singleton.2 h) (by simpa using hne)
  rwa [joinLines, String.intercalate_singleton] at hlines

/-- A text without line feeds at its ends keeps them off. -/
lemma trimNewlines_eq_self (hhead : s.toList.head? ≠ some '\n')
    (hlast : s.toList.getLast? ≠ some '\n') : trimNewlines s = s := by
  rw [← List.head?_reverse] at hlast
  rw [trimNewlines, List.dropWhile_beq_eq_self_of_head?_ne hhead,
    List.dropWhile_beq_eq_self_of_head?_ne hlast, List.reverse_reverse, String.ofList_toList]

/-- A line feed behind a text is trimmed. -/
lemma trimNewlines_feed (s : String) : trimNewlines (s ++ "\n") = trimNewlines s := by
  have hfeed : "\n".toList = ['\n'] := rfl
  rw [trimNewlines, trimNewlines, String.toList_append, hfeed, List.dropWhile_append]
  split_ifs with hempty
  · rw [List.isEmpty_iff.1 hempty]
    rfl
  · exact congrArg String.ofList (List.rdropWhile_concat_pos (· == '\n') _ '\n' rfl)

/-- Lines that are ended are trimmed as lines that are joined. -/
lemma trimNewlines_join_feeds (ls : List String) :
    trimNewlines (String.join (ls.map (· ++ "\n"))) = trimNewlines (joinLines ls) := by
  rcases eq_or_ne ls [] with rfl | hne
  · rfl
  · rw [join_map_feed hne, trimNewlines_feed]

/-! ## Paragraphs -/

/-- **A text that is a paragraph**: its lines joined again, the first and the last of which are not
empty. -/
structure Paragraph (s : String) : Prop where
  joined : joinLines (lines s) = s
  oneLine : ∀ l ∈ lines s, OneLine l
  nonempty : lines s ≠ []
  head : (lines s).head? ≠ some ""
  last : (lines s).getLast? ≠ some ""

/-- **Lines that are joined** make a paragraph. -/
lemma paragraph_joinLines (h : ∀ l ∈ ls, OneLine l) (hne : ls ≠ []) (hhead : ls.head? ≠ some "")
    (hlast : ls.getLast? ≠ some "") : Paragraph (joinLines ls) := by
  have hlines := lines_joinLines h hlast
  constructor
  · rw [hlines]
  · rwa [hlines]
  · rwa [hlines]
  · rwa [hlines]
  · rwa [hlines]

/-- A paragraph has text. -/
lemma Paragraph.ne_empty (h : Paragraph s) : s ≠ "" := by
  rintro rfl
  exact h.nonempty (by simp [lines, lineChars])

/-- The first character of joined lines is the one of the first. -/
lemma head?_joinLines (hne : l ≠ "") (ls : List String) :
    (joinLines (l :: ls)).toList.head? = l.toList.head? := by
  have hl : l.toList ≠ [] := by simpa using hne
  rcases ls with _ | ⟨k, ks⟩
  · simp [joinLines]
  · rw [joinLines_cons l (by simp), String.toList_append, String.toList_append, List.append_assoc,
      List.head?_append_of_ne_nil _ hl]

/-- The last character of joined lines is the one of the last. -/
lemma getLast?_joinLines (hne : l ≠ "") (ls : List String) :
    (joinLines (ls ++ [l])).toList.getLast? = l.toList.getLast? := by
  have hl : l.toList ≠ [] := by simpa using hne
  rcases ls with _ | ⟨k, ks⟩
  · simp [joinLines]
  · rw [joinLines_append (by simp) (by simp), String.toList_append,
      List.getLast?_append_of_ne_nil _ (by simpa [joinLines] using hne)]
    simp [joinLines]

/-- **A paragraph has no line feeds at its ends.** -/
lemma Paragraph.trimNewlines (h : Paragraph s) : Text.trimNewlines s = s := by
  refine trimNewlines_eq_self ?_ ?_
  · obtain ⟨l, ls, hls⟩ := List.exists_cons_of_ne_nil h.nonempty
    have hne : l ≠ "" := by simpa [hls] using h.head
    rw [← h.joined, hls, head?_joinLines hne]
    exact fun hfeed => (h.oneLine l (by simp [hls])).noFeed (List.mem_of_head? hfeed)
  · obtain ⟨ls, l, hls⟩ := (List.eq_nil_or_concat' (lines s)).resolve_left h.nonempty
    have hne : l ≠ "" := by simpa [hls] using h.last
    rw [← h.joined, hls, getLast?_joinLines hne]
    exact fun hfeed => (h.oneLine l (by simp [hls])).noFeed (List.mem_of_getLast? hfeed)

/-- A paragraph that is ended keeps its lines. -/
lemma Paragraph.lines_append_feed (h : Paragraph s) : lines (s ++ "\n") = lines s := by
  have hlines := lines_joinLines_feed h.oneLine h.nonempty
  rwa [h.joined] at hlines

/-! ## Trimmed lines -/

/-- No line of a text holds a line feed. -/
lemma noFeed_of_mem_lines (h : l ∈ lines s) : '\n' ∉ l.toList := by
  obtain ⟨cs, hcs, rfl⟩ := List.mem_map.1 h
  rw [String.toList_ofList]
  exact noFeed_of_mem_lineChars cs hcs

/-- **A trimmed line is one line.** -/
lemma oneLine_trim (h : '\n' ∉ l.toList) : OneLine (trim l) :=
  ⟨fun hmem => h (mem_of_mem_trim hmem), fun hlast => absurd (isBlank_getLast?_trim hlast) (by decide)⟩

end UaHeaders.Text
