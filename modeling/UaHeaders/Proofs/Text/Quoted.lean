import Mathlib.Tactic
import UaHeaders.Text.Quoted

/-!
# Quoted texts are one line

What a quoted text holds besides characters that can be shown is escaped, line feeds among it. So a quoted
text never goes over the end of a line, whatever text it is.

## Main results

* `UaHeaders.Text.feed_notMem_toDigits` — digits in any base.
* `UaHeaders.Text.feed_notMem_quote`, `UaHeaders.Text.feed_notMem_quoteList` — quoted texts.
-/

set_option autoImplicit false

namespace UaHeaders.Text

/-- The digits of a number have no line feed among them, in any base. -/
lemma feed_notMem_toDigits {base : Nat} (hbase : 1 < base) (n : Nat) : '\n' ∉ Nat.toDigits base n := by
  induction n using Nat.strong_induction_on with
  | _ n ih =>
    rw [Nat.toDigits_eq_if hbase]
    split_ifs with hn
    · simp
    · have hless : n / base < n := Nat.div_lt_self (by omega) hbase
      simpa using ih _ hless

/-- A character inside quotes is no line feed. -/
lemma feed_notMem_escapeChar (c : Char) : '\n' ∉ escapeChar c := by
  unfold escapeChar
  split
  case h_7 _ _ hfeed _ _ _ =>
    split_ifs
    · rw [List.mem_singleton]
      exact fun h => hfeed h.symm
    · simpa [hexDigits] using feed_notMem_toDigits (by decide) c.toNat
  all_goals decide

/-- **A quoted text has no line feed**, whatever text it is. -/
lemma feed_notMem_quote (s : String) : '\n' ∉ (quote s).toList := by
  rw [quote, String.toList_ofList, List.cons_append, List.mem_cons, List.mem_append, List.mem_flatMap,
    List.mem_singleton]
  rintro (hquote | ⟨c, -, hc⟩ | hquote)
  · exact absurd hquote (by decide)
  · exact feed_notMem_escapeChar c hc
  · exact absurd hquote (by decide)

/-- Texts that are joined have no line feed if none of them has, and what joins them has none either. -/
lemma feed_notMem_intercalate {sep : String} {ss : List String} (hsep : '\n' ∉ sep.toList)
    (h : ∀ s ∈ ss, '\n' ∉ s.toList) : '\n' ∉ (sep.intercalate ss).toList := by
  induction ss with
  | nil => simp
  | cons s ss ih =>
    rw [List.forall_mem_cons] at h
    rcases ss with _ | ⟨next, ss⟩
    · simpa using h.1
    · rw [String.intercalate_cons_of_ne_nil (by simp)]
      simp only [String.toList_append, List.mem_append, not_or]
      exact ⟨⟨h.1, hsep⟩, ih h.2⟩

/-- **A list of quoted texts has no line feed.** -/
lemma feed_notMem_quoteList (ss : List String) : '\n' ∉ (quoteList ss).toList := by
  have hquoted : '\n' ∉ (", ".intercalate (ss.map quote)).toList := by
    refine feed_notMem_intercalate (by decide) fun s hs => ?_
    obtain ⟨text, -, rfl⟩ := List.mem_map.1 hs
    exact feed_notMem_quote text
  simp only [quoteList, String.toList_append, List.mem_append, not_or]
  exact ⟨⟨by decide, hquoted⟩, by decide⟩

end UaHeaders.Text
