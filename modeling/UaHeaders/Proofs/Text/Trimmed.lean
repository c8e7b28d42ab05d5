import Mathlib.Data.List.DropRight
import Mathlib.Tactic
import UaHeaders.Text.Blank

/-!
# Trimmed texts

White space at the ends of a text is taken away, one character at a time from either end. What is left begins
and ends with something else, and nothing but white space is lost.

## Main results

* `UaHeaders.Text.isBlankText_iff` — texts of white space only.
* `UaHeaders.Text.trimChars_cons_of_isBlank`, `UaHeaders.Text.trimChars_append_blanks` — white space at the
  ends of a text.
* `UaHeaders.Text.trim_trim` — what was trimmed is trimmed.
* `UaHeaders.Text.filter_trim` — trimming keeps all that is not white space.
-/

set_option autoImplicit false

namespace UaHeaders.Text

variable {cs blanks : List Char} {c : Char} {l s : String}

/-! ## Blank texts -/

/-- A text is blank if all of it is white space. -/
lemma isBlankText_iff : isBlankText s = true ↔ ∀ c ∈ s.toList, isBlank c = true := by
  rw [isBlankText, List.all_eq_true]

/-- A text that is not blank has something in it besides white space. -/
lemma isBlankText_eq_false_iff : isBlankText s = false ↔ ∃ c ∈ s.toList, isBlank c = false := by
  rw [isBlankText, List.all_eq_false]
  simp only [Bool.not_eq_true]

/-! ## White space at the ends -/

/-- White space in front is trimmed. -/
lemma trimChars_cons_of_isBlank (hc : isBlank c = true) : trimChars (c :: cs) = trimChars cs := by
  rw [trimChars, trimChars, List.dropWhile_cons_of_pos hc]

/-- White space behind is trimmed. -/
lemma trimChars_concat_of_isBlank (hc : isBlank c = true) : trimChars (cs ++ [c]) = trimChars cs := by
  rw [trimChars, trimChars, List.dropWhile_append]
  split_ifs with hempty
  · rw [List.isEmpty_iff.1 hempty, List.dropWhile_cons_of_pos hc, List.dropWhile_nil]
  · exact List.rdropWhile_concat_pos isBlank _ c hc

/-- White space behind is trimmed, however much there is. -/
lemma trimChars_append_blanks (h : ∀ c ∈ blanks, isBlank c = true) (cs : List Char) :
    trimChars (cs ++ blanks) = trimChars cs := by
  induction blanks generalizing cs with
  | nil => rw [List.append_nil]
  | cons c blanks ih =>
    rw [List.forall_mem_cons] at h
    rw [List.append_cons, ih h.2, trimChars_concat_of_isBlank h.1]

/-! ## What is left -/

/-- Trimming only takes characters away. -/
lemma mem_of_mem_trim (h : c ∈ (trim l).toList) : c ∈ l.toList := by
  simp only [trim, trimChars, dropBlankEnd, String.toList_ofList, List.mem_reverse] at h
  exact List.dropWhile_subset _ (List.mem_reverse.1 (List.dropWhile_subset _ h))

/-- A trimmed text does not end with white space. -/
lemma isBlank_getLast?_trim (h : (trim l).toList.getLast? = some c) : isBlank c = false := by
  simp only [trim, trimChars, dropBlankEnd, String.toList_ofList, List.getLast?_reverse] at h
  have hhead := List.head?_dropWhile_not isBlank (l.toList.dropWhile isBlank).reverse
  rw [h] at hhead
  simpa using hhead

/-- Trimming keeps a first character that is not white space. -/
lemma head?_trim (h : l.toList.head? = some c) (hc : isBlank c = false) :
    (trim l).toList.head? = some c := by
  obtain ⟨cs, hcs⟩ := List.head?_eq_some_iff.1 h
  have hlast : ((c :: cs).reverse.dropWhile isBlank).getLast? = some c := by
    rw [List.reverse_cons, List.dropWhile_append]
    split_ifs <;> simp [hc]
  simpa [trim, trimChars, dropBlankEnd, hcs, hc] using hlast

/-- Trimming keeps a last character that is not white space. -/
lemma getLast?_trim (h : l.toList.getLast? = some c) (hc : isBlank c = false) :
    (trim l).toList.getLast? = some c := by
  obtain ⟨cs, hcs⟩ := List.getLast?_eq_some_iff.1 h
  have hkept : (cs ++ [c]).dropWhile isBlank = cs.dropWhile isBlank ++ [c] := by
    rw [List.dropWhile_append]
    split_ifs with hempty
    · rw [List.isEmpty_iff.1 hempty, List.nil_append, List.dropWhile_cons_of_neg (by simp [hc])]
    · rfl
  simp [trim, trimChars, dropBlankEnd, hcs, hkept, hc]

/-- There is nothing left to trim in what was trimmed. -/
lemma trimChars_trimChars (cs : List Char) : trimChars (trimChars cs) = trimChars cs := by
  have hkept : trimChars cs <+: cs.dropWhile isBlank := List.rdropWhile_prefix isBlank _
  have hstart : (trimChars cs).dropWhile isBlank = trimChars cs := by
    rw [List.dropWhile_eq_self_iff]
    intro hpos
    rw [hkept.getElem hpos]
    exact List.dropWhile_get_zero_not isBlank _ (hpos.trans_le hkept.length_le)
  rw [trimChars, hstart]
  exact List.rdropWhile_idempotent isBlank _

/-- **What was trimmed is trimmed.** -/
lemma trim_trim (s : String) : trim (trim s) = trim s := by
  rw [trim, trim, String.toList_ofList, trimChars_trimChars]

/-- Dropping white space keeps all that is none. -/
lemma filter_dropWhile_isBlank (cs : List Char) :
    (cs.dropWhile isBlank).filter (fun c => !isBlank c) = cs.filter fun c => !isBlank c := by
  induction cs with
  | nil => rfl
  | cons c cs ih =>
    by_cases hc : isBlank c = true
    · rw [List.dropWhile_cons_of_pos hc, ih, List.filter_cons_of_neg (by simp [hc])]
    · rw [List.dropWhile_cons_of_neg hc]

/-- **Trimming keeps all that is not white space.** -/
lemma filter_trim (s : String) :
    (trim s).toList.filter (fun c => !isBlank c) = s.toList.filter fun c => !isBlank c := by
  rw [trim, String.toList_ofList, trimChars, dropBlankEnd, List.filter_reverse,
    filter_dropWhile_isBlank, List.filter_reverse, List.reverse_reverse, filter_dropWhile_isBlank]

end UaHeaders.Text
