import Mathlib.Tactic
import UaHeaders.Text.Lines

/-!
# Lines with their ends

A terminated line is characters without any line end, followed by `\n`, `\r\n` or `\r`, or by nothing if
there are characters. It is cut off from what follows it, unless it ends with `\r` and a line feed follows.

## Main definitions

* `UaHeaders.Text.Unbroken` — characters without line ends.
* `UaHeaders.Text.IsLineEnd`, `UaHeaders.Text.IsLine` — line ends, and lines with theirs.

## Main results

* `UaHeaders.Text.terminatedChars_append` — a line is cut off from what follows it.
* `UaHeaders.Text.isLine_of_mem_terminatedChars` — a text is cut into lines.
-/

set_option autoImplicit false

namespace UaHeaders.Text

variable {cs body ending rest l : List Char} {c : Char}

/-- **Characters without line ends.** -/
structure Unbroken (cs : List Char) : Prop where
  noFeed : '\n' ∉ cs
  noReturn : '\r' ∉ cs

/-- **Line ends.** -/
inductive IsLineEnd : List Char → Prop
  | feed : IsLineEnd ['\n']
  | returned : IsLineEnd ['\r']
  | returnFeed : IsLineEnd ['\r', '\n']

/-- **Lines with their ends**; a last line may have none. -/
inductive IsLine : List Char → Prop
  | ended {b e : List Char} : Unbroken b → IsLineEnd e → IsLine (b ++ e)
  | unended {b : List Char} : b ≠ [] → Unbroken b → IsLine b

/-- There are no line ends in nothing. -/
lemma unbroken_nil : Unbroken [] := ⟨by simp, by simp⟩

/-- There are line ends neither in a character nor in those behind it. -/
lemma unbroken_cons : Unbroken (c :: cs) ↔ (c ≠ '\n' ∧ c ≠ '\r') ∧ Unbroken cs := by
  constructor
  · rintro ⟨hfeed, hreturn⟩
    rw [List.mem_cons, not_or] at hfeed hreturn
    exact ⟨⟨Ne.symm hfeed.1, Ne.symm hreturn.1⟩, hfeed.2, hreturn.2⟩
  · rintro ⟨⟨hfeed, hreturn⟩, h⟩
    constructor
    · simp [Ne.symm hfeed, h.noFeed]
    · simp [Ne.symm hreturn, h.noReturn]

/-- There are line ends in neither of two texts. -/
lemma Unbroken.append (h : Unbroken cs) (h' : Unbroken rest) : Unbroken (cs ++ rest) :=
  ⟨by simp [h.noFeed, h'.noFeed], by simp [h.noReturn, h'.noReturn]⟩

/-- A character that is no line end goes to the line behind it. -/
lemma terminatedChars_cons (hfeed : c ≠ '\n') (hreturn : c ≠ '\r') :
    terminatedChars (c :: cs) =
      match terminatedChars cs with
      | [] => [[c]]
      | l :: ls => (c :: l) :: ls :=
  terminatedChars.eq_5 c cs (fun _ h _ => hreturn h) hreturn hfeed

/-- A line end is cut off from what follows it. -/
lemma terminatedChars_lineEnd (hending : IsLineEnd ending)
    (hrest : ending = ['\r'] → rest.head? ≠ some '\n') :
    terminatedChars (ending ++ rest) = ending :: terminatedChars rest := by
  cases hending with
  | feed => rw [List.cons_append, List.nil_append, terminatedChars]
  | returned =>
    rw [List.cons_append, List.nil_append, terminatedChars]
    rintro tail rfl
    exact hrest rfl rfl
  | returnFeed => rw [List.cons_append, List.cons_append, List.nil_append, terminatedChars]

/-- **A line is cut off from what follows it.** -/
lemma terminatedChars_append (hbody : Unbroken body) (hending : IsLineEnd ending)
    (hrest : ending = ['\r'] → rest.head? ≠ some '\n') :
    terminatedChars (body ++ (ending ++ rest)) = (body ++ ending) :: terminatedChars rest := by
  induction body with
  | nil => exact terminatedChars_lineEnd hending hrest
  | cons c body ih =>
    rw [unbroken_cons] at hbody
    rw [List.cons_append, terminatedChars_cons hbody.1.1 hbody.1.2, ih hbody.2]
    rfl

/-- A line is cut off behind its line feed, whatever follows. -/
lemma terminatedChars_append_feed (hbody : Unbroken body) (rest : List Char) :
    terminatedChars (body ++ '\n' :: rest) = (body ++ ['\n']) :: terminatedChars rest :=
  terminatedChars_append hbody .feed (by simp)

/-- One more character without line end makes a line longer. -/
lemma IsLine.cons (h : IsLine l) (hfeed : c ≠ '\n') (hreturn : c ≠ '\r') : IsLine (c :: l) := by
  cases h with
  | @ended body ending hbody hending =>
    exact .ended (b := c :: body) (unbroken_cons.2 ⟨⟨hfeed, hreturn⟩, hbody⟩) hending
  | unended hne hbody => exact .unended (by simp) (unbroken_cons.2 ⟨⟨hfeed, hreturn⟩, hbody⟩)

/-- **A text is cut into lines.** -/
lemma isLine_of_mem_terminatedChars : ∀ l ∈ terminatedChars cs, IsLine l := by
  fun_induction terminatedChars cs with
  | case1 => simp
  | case2 cs ih => exact List.forall_mem_cons.2 ⟨.ended unbroken_nil .returnFeed, ih⟩
  | case3 cs _ ih => exact List.forall_mem_cons.2 ⟨.ended unbroken_nil .returned, ih⟩
  | case4 cs ih => exact List.forall_mem_cons.2 ⟨.ended unbroken_nil .feed, ih⟩
  | case5 c cs _ hreturn hfeed hnone ih =>
    rw [List.forall_mem_singleton]
    exact .unended (by simp) (unbroken_cons.2 ⟨⟨hfeed, hreturn⟩, unbroken_nil⟩)
  | case6 c cs _ hreturn hfeed l ls hls ih =>
    rw [hls, List.forall_mem_cons] at ih
    exact List.forall_mem_cons.2 ⟨ih.1.cons hfeed hreturn, ih.2⟩

/-- A text begins as its first line does. -/
lemma head?_of_head?_terminatedChars (h : (terminatedChars cs).head? = some (c :: l)) :
    cs.head? = some c := by
  obtain ⟨ls, hls⟩ := List.head?_eq_some_iff.1 h
  rw [← flatten_terminatedChars cs, hls, List.flatten_cons, List.cons_append, List.head?_cons]

end UaHeaders.Text
