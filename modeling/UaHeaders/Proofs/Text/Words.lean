import UaHeaders.Proofs.Text.Trimmed

/-!
# The words of a text

A word is a run of characters without white space. A text is laid out as words that are set apart by white
space, and there is only one such layout: its words are the ones that it is cut into. How much white space
there is and of which kind does not matter, so words that are joined again by single blanks are the words of
the joined text.

## Main definitions

* `UaHeaders.Text.IsWord` — a word by itself.
* `UaHeaders.Text.SpacedWords` — a text as words with white space between and around them.

## Main results

* `UaHeaders.Text.spacedWords_iff` — the words of a text are those it is laid out as.
* `UaHeaders.Text.words_eq_nil_iff` — texts without words.
* `UaHeaders.Text.words_intercalate` — words that are joined by blanks are read back.
-/

set_option autoImplicit false

namespace UaHeaders.Text

variable {cs rest blanks w : List Char} {ws : List (List Char)} {c d : Char} {s : String}

/-- **A word**: characters, at least one, and none of them white space. -/
structure IsWord (w : List Char) : Prop where
  nonempty : w ≠ []
  plain : ∀ c ∈ w, isBlank c = false

/-- **Words with white space between and around them**: the words of a text in order, each behind any amount
of white space. A word ends where the text ends or at white space. -/
inductive SpacedWords : List (List Char) → List Char → Prop
  | blank {blanks : List Char} : (∀ c ∈ blanks, isBlank c = true) → SpacedWords [] blanks
  | last {blanks w : List Char} :
      (∀ c ∈ blanks, isBlank c = true) → IsWord w → SpacedWords [w] (blanks ++ w)
  | word {blanks w rest : List Char} {c : Char} {ws : List (List Char)} :
      (∀ c ∈ blanks, isBlank c = true) → IsWord w → isBlank c = true → SpacedWords ws rest →
        SpacedWords (w :: ws) (blanks ++ (w ++ c :: rest))

/-! ## Cutting a text into words -/

/-- White space in front of a text is passed over, one character at a time. -/
lemma wordChars_cons_of_isBlank (hc : isBlank c = true) (cs : List Char) :
    wordChars (c :: cs) = wordChars cs := by
  rw [wordChars.eq_def]
  simp only [hc, if_true]

/-- A character that no other one of its word follows. -/
lemma wordChars_cons_of_ends (hc : isBlank c = false) (hcs : ∀ d ∈ cs.head?, isBlank d = true) :
    wordChars (c :: cs) = [c] :: wordChars cs := by
  rw [wordChars.eq_def]
  rcases cs with _ | ⟨d, cs⟩
  · simp [hc, wordChars]
  · simp [hc, hcs d rfl]

/-- A character that another one of its word follows. -/
lemma wordChars_cons_cons (hc : isBlank c = false) (hd : isBlank d = false)
    (h : wordChars (d :: cs) = w :: ws) : wordChars (c :: d :: cs) = (c :: w) :: ws := by
  rw [wordChars.eq_def]
  simp only [hc, hd, Bool.false_eq_true, if_false, h]

/-- White space in front of a text is passed over. -/
lemma wordChars_blanks_append (h : ∀ c ∈ blanks, isBlank c = true) (cs : List Char) :
    wordChars (blanks ++ cs) = wordChars cs := by
  induction blanks with
  | nil => rfl
  | cons c blanks ih =>
    rw [List.forall_mem_cons] at h
    rw [List.cons_append, wordChars_cons_of_isBlank h.1, ih h.2]

/-- **A word ends where the text ends** or at white space. -/
lemma wordChars_word_append (h : IsWord w) (hrest : ∀ d ∈ rest.head?, isBlank d = true) :
    wordChars (w ++ rest) = w :: wordChars rest := by
  obtain ⟨hne, hplain⟩ := h
  induction w with
  | nil => exact absurd rfl hne
  | cons c w ih =>
    rw [List.forall_mem_cons] at hplain
    rcases w with _ | ⟨d, w⟩
    · exact wordChars_cons_of_ends hplain.1 hrest
    · exact wordChars_cons_cons hplain.1 (hplain.2 d List.mem_cons_self) (ih (by simp) hplain.2)

/-! ## One layout -/

/-- One more character in front of a text: white space, a longer first word, or a word of its own. -/
lemma SpacedWords.exists_cons (h : SpacedWords ws cs) (c : Char) : ∃ ws', SpacedWords ws' (c :: cs) := by
  have hmore : ∀ {blanks : List Char}, isBlank c = true → (∀ d ∈ blanks, isBlank d = true) →
      ∀ d ∈ c :: blanks, isBlank d = true := fun hc hblanks => List.forall_mem_cons.2 ⟨hc, hblanks⟩
  have hnone : ∀ d ∈ ([] : List Char), isBlank d = true := by simp
  rcases hc : isBlank c with _ | _
  · have halone : IsWord [c] := ⟨by simp, by simp [hc]⟩
    have hlonger : ∀ {w : List Char}, IsWord w → IsWord (c :: w) := fun hw =>
      ⟨by simp, List.forall_mem_cons.2 ⟨hc, hw.plain⟩⟩
    -- a blank behind the character ends its word, and without one it joins the next word
    cases h with
    | blank hblanks =>
      rcases cs with _ | ⟨d, cs⟩
      · exact ⟨_, .last hnone halone⟩
      · rw [List.forall_mem_cons] at hblanks
        exact ⟨_, .word hnone halone hblanks.1 (.blank hblanks.2)⟩
    | @last blanks w hblanks hw =>
      rcases blanks with _ | ⟨d, blanks⟩
      · exact ⟨_, .last hnone (hlonger hw)⟩
      · rw [List.forall_mem_cons] at hblanks
        exact ⟨_, .word hnone halone hblanks.1 (.last hblanks.2 hw)⟩
    | @word blanks w rest e ws hblanks hw he hrest =>
      rcases blanks with _ | ⟨d, blanks⟩
      · exact ⟨_, .word hnone (hlonger hw) he hrest⟩
      · rw [List.forall_mem_cons] at hblanks
        exact ⟨_, .word hnone halone hblanks.1 (.word hblanks.2 hw he hrest)⟩
  · cases h with
    | blank hblanks => exact ⟨_, .blank (hmore hc hblanks)⟩
    | last hblanks hw => exact ⟨_, .last (hmore hc hblanks) hw⟩
    | word hblanks hw he hrest => exact ⟨_, .word (hmore hc hblanks) hw he hrest⟩

/-- Every text is laid out as words. -/
lemma exists_spacedWords (cs : List Char) : ∃ ws, SpacedWords ws cs := by
  induction cs with
  | nil => exact ⟨[], .blank (by simp)⟩
  | cons c cs ih =>
    obtain ⟨ws, hws⟩ := ih
    exact hws.exists_cons c

/-- A text is cut into the words that it is laid out as. -/
lemma SpacedWords.wordChars_eq (h : SpacedWords ws cs) : wordChars cs = ws := by
  induction h with
  | @blank blanks hblanks => simpa [wordChars] using wordChars_blanks_append hblanks []
  | @last blanks w hblanks hw =>
    have hword : wordChars (w ++ []) = w :: wordChars [] := wordChars_word_append hw (by simp)
    rw [wordChars_blanks_append hblanks, ← List.append_nil w, hword, List.append_nil]
    rfl
  | word hblanks hw hc _ ih =>
    rw [wordChars_blanks_append hblanks, wordChars_word_append hw (by simpa using hc),
      wordChars_cons_of_isBlank hc, ih]

/-- **The words of a text are those it is laid out as**, in the only way there is. -/
theorem spacedWords_iff : SpacedWords ws cs ↔ wordChars cs = ws := by
  refine ⟨SpacedWords.wordChars_eq, ?_⟩
  rintro rfl
  obtain ⟨ws, hws⟩ := exists_spacedWords cs
  rwa [hws.wordChars_eq]

/-! ## What words are -/

/-- What a text is laid out as are words. -/
lemma SpacedWords.isWord (h : SpacedWords ws cs) : ∀ w ∈ ws, IsWord w := by
  induction h with
  | blank => simp
  | last _ hw => simpa using hw
  | word _ hw _ _ ih => exact List.forall_mem_cons.2 ⟨hw, ih⟩

/-- The words of a text are words. -/
lemma isWord_of_mem_words {word : String} (h : word ∈ words s) : IsWord word.toList := by
  obtain ⟨w, hw, rfl⟩ := List.mem_map.1 h
  rw [String.toList_ofList]
  exact (spacedWords_iff.2 rfl).isWord w hw

/-- **A text without words** is white space. -/
lemma words_eq_nil_iff : words s = [] ↔ isBlankText s = true := by
  rw [words, List.map_eq_nil_iff, ← spacedWords_iff, isBlankText_iff]
  constructor
  · rintro ⟨hblanks⟩
    exact hblanks
  · exact .blank

/-- The words of a text that is laid out. -/
lemma words_of_spacedWords {ws : List String} (h : SpacedWords (ws.map String.toList) s.toList) :
    words s = ws := by
  rw [words, h.wordChars_eq, List.map_map]
  simp

/-- Words that are joined by blanks are laid out. -/
lemma spacedWords_intercalate {ws : List String} (h : ∀ word ∈ ws, IsWord word.toList) :
    SpacedWords (ws.map String.toList) (" ".intercalate ws).toList := by
  induction ws with
  | nil => exact .blank (by simp)
  | cons word ws ih =>
    rw [List.forall_mem_cons] at h
    rcases ws with _ | ⟨next, ws⟩
    · have hlast : SpacedWords [word.toList] ([] ++ word.toList) := .last (by simp) h.1
      simpa using hlast
    · have hblank : isBlank ' ' = true := by decide
      rw [String.intercalate_cons_of_ne_nil (by simp), String.toList_append, String.toList_append,
        List.append_assoc]
      exact SpacedWords.word (List.forall_mem_nil _) h.1 hblank (ih h.2)

/-- **Words that are joined by blanks are read back.** -/
lemma words_intercalate {ws : List String} (h : ∀ word ∈ ws, IsWord word.toList) :
    words (" ".intercalate ws) = ws :=
  words_of_spacedWords (spacedWords_intercalate h)

end UaHeaders.Text
