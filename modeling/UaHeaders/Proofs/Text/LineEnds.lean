import UaHeaders.Proofs.Text.Lines

/-!
# What the lines of a text are

A text is cut into lines in one way only. Each line is ended by `\n` or by `\r\n`, and the last one may
be ended by nothing if there is anything in it. The relation says this without going through the text;
the content lines of a text are the only lines that it is made of.

## Main definitions

* `UaHeaders.Text.MadeOf` — the characters of a text and the lines it is made of.

## Main results

* `UaHeaders.Text.madeOf_iff` — a text is made of its content lines and of no others.
-/

set_option autoImplicit false

namespace UaHeaders.Text

variable {cs rest l : List Char} {ls : List (List Char)} {c : Char}

/-- **A text made of lines.** No line holds a line feed, and a carriage return in front of a line feed
belongs to the line end. -/
inductive MadeOf : List Char → List (List Char) → Prop
  | none : MadeOf [] []
  | unended {l : List Char} : l ≠ [] → '\n' ∉ l → MadeOf l [l]
  | feed {l rest : List Char} {ls : List (List Char)} :
      '\n' ∉ l → l.getLast? ≠ some '\r' → MadeOf rest ls → MadeOf (l ++ '\n' :: rest) (l :: ls)
  | returnFeed {l rest : List Char} {ls : List (List Char)} :
      '\n' ∉ l → MadeOf rest ls → MadeOf (l ++ '\r' :: '\n' :: rest) (l :: ls)

/-- A line is cut off at a carriage return with a line feed behind it. -/
lemma lineChars_append_returnFeed (hfeed : '\n' ∉ l) :
    lineChars (l ++ '\r' :: '\n' :: rest) = l :: lineChars rest := by
  induction l with
  | nil => simp [lineChars]
  | cons c l ih =>
    rw [List.mem_cons, not_or] at hfeed
    rw [List.cons_append, lineChars_cons (Ne.symm hfeed.1), ih hfeed.2]
    intro _
    rcases l with _ | ⟨d, l⟩
    · simp
    · have hd : d ≠ '\n' := fun h => hfeed.2 (by simp [h])
      simpa using hd

/-- A text that is made of lines has these content lines. -/
lemma MadeOf.lineChars_eq (h : MadeOf cs ls) : lineChars cs = ls := by
  induction h with
  | none => rw [lineChars]
  | unended hne hfeed => exact lineChars_of_noFeed hfeed hne
  | feed hfeed hreturn _ ih => rw [lineChars_append_feed hfeed hreturn, ih]
  | returnFeed hfeed _ ih => rw [lineChars_append_returnFeed hfeed, ih]

/-- One more character at the beginning of a text belongs to its first line, unless it begins a line
end. -/
lemma MadeOf.cons (h : MadeOf cs (l :: ls)) (hfeed : c ≠ '\n')
    (hreturn : c = '\r' → cs.head? ≠ some '\n') : MadeOf (c :: cs) ((c :: l) :: ls) := by
  cases h with
  | unended hne hl => exact .unended (by simp) (by simp [hl, Ne.symm hfeed])
  | feed hl hlast hrest =>
    refine .feed (l := c :: l) (by simp [hl, Ne.symm hfeed]) ?_ hrest
    rcases l with _ | ⟨d, l⟩
    · simpa using hreturn
    · simpa using hlast
  | returnFeed hl hrest => exact .returnFeed (l := c :: l) (by simp [hl, Ne.symm hfeed]) hrest

/-- A text is made of its content lines. -/
lemma madeOf_lineChars (cs : List Char) : MadeOf cs (lineChars cs) := by
  fun_induction lineChars cs with
  | case1 => exact .none
  | case2 rest ih => exact .returnFeed (l := []) (by simp) ih
  | case3 rest ih => exact .feed (l := []) (by simp) (by simp) ih
  | case4 c cs hreturn hfeed hnone ih =>
    rw [hnone] at ih
    cases ih with
    | none => exact .unended (by simp) (by simpa [eq_comm] using hfeed)
  | case5 c cs hreturn hfeed l ls hls ih =>
    rw [hls] at ih
    refine ih.cons hfeed ?_
    rintro rfl hnext
    obtain ⟨tail, rfl⟩ := List.head?_eq_some_iff.1 hnext
    exact hreturn tail rfl rfl

/-- **A text is made of its content lines, and of no others.** -/
theorem madeOf_iff : MadeOf cs ls ↔ lineChars cs = ls :=
  ⟨MadeOf.lineChars_eq, fun h => h ▸ madeOf_lineChars cs⟩

/-- The content lines of a text as texts. -/
lemma madeOf_lines (s : String) : MadeOf s.toList ((lines s).map String.toList) := by
  rw [madeOf_iff, lines, List.map_map]
  simp [Function.comp_def]

end UaHeaders.Text
