import UaHeaders.Header.Formatter
import UaHeaders.Proofs.Text.Words

/-!
# Formatters and their command lines

A command line names a formatter by its words, whatever white space stands between them. A program that
stands alone is given the argument for formatting in place. A formatter that was read from a command line has
a command line of its own, in which no argument is missing, so it is read back from there as it is.

## Main results

* `UaHeaders.FormatterCommand.parse_of_words` — the formatter in the words of a command line.
* `UaHeaders.FormatterCommand.parse_eq_ok_iff` — what is read from a command line.
* `UaHeaders.FormatterCommand.parse_commandLine` — a formatter is read back.
* `UaHeaders.FormatterCommand.parse_words` — all of this together.
-/

set_option autoImplicit false

namespace UaHeaders.FormatterCommand

open Text

variable {text text' program : String} {args : List String} {command : FormatterCommand}

/-! ## Words -/

/-- **The formatter in the words of a command line**: the first word with the others, or with the argument for
formatting in place if there are none. -/
lemma parse_of_words (h : words text = program :: args) :
    parse text = .ok ⟨program, if args = [] then [inPlace] else args⟩ := by
  rw [parse, h]
  rcases args with _ | ⟨arg, args⟩ <;> rfl

/-- A command line without words names no formatter. -/
lemma parse_of_blank (h : words text = []) : parse text = .error (.configuration .emptyFormatter) := by
  rw [parse, h]

/-- **What is read from a command line** is there in its words. -/
lemma parse_eq_ok_iff :
    parse text = .ok command ↔
      ∃ args, words text = command.program :: args ∧ command.args = if args = [] then [inPlace] else args := by
  constructor
  · intro h
    rcases hwords : words text with _ | ⟨program, args⟩
    · rw [parse_of_blank hwords] at h
      cases h
    · rw [parse_of_words hwords] at h
      cases h
      exact ⟨args, rfl, rfl⟩
  · rintro ⟨args, hwords, hargs⟩
    rw [parse_of_words hwords, ← hargs]

/-- **A formatter is read from every command line that is not blank.** -/
lemma exists_parse_iff : (∃ command, parse text = .ok command) ↔ isBlankText text = false := by
  constructor
  · rintro ⟨command, hcommand⟩
    obtain ⟨args, hwords, -⟩ := parse_eq_ok_iff.1 hcommand
    by_contra hblank
    rw [words_eq_nil_iff.2 (by simpa using hblank)] at hwords
    cases hwords
  · intro hblank
    have hne : words text ≠ [] := fun hnil => by simp [words_eq_nil_iff.1 hnil] at hblank
    obtain ⟨program, args, hwords⟩ := List.exists_cons_of_ne_nil hne
    exact ⟨_, parse_of_words hwords⟩

/-! ## Command lines that are printed -/

/-- A formatter that was read has an argument. -/
lemma args_ne_nil (h : parse text = .ok command) : command.args ≠ [] := by
  obtain ⟨args, -, hargs⟩ := parse_eq_ok_iff.1 h
  rw [hargs]
  split_ifs with hnil
  · exact List.cons_ne_nil _ _
  · exact hnil

/-- The program and the arguments of a formatter that was read are words. -/
lemma isWord_of_parse (h : parse text = .ok command) :
    ∀ word ∈ command.program :: command.args, IsWord word.toList := by
  obtain ⟨args, hwords, hargs⟩ := parse_eq_ok_iff.1 h
  have hall : ∀ word ∈ command.program :: args, IsWord word.toList := fun word hword =>
    isWord_of_mem_words (hwords ▸ hword)
  rw [List.forall_mem_cons] at hall ⊢
  refine ⟨hall.1, ?_⟩
  rw [hargs]
  split_ifs
  · have hinPlace : IsWord inPlace.toList :=
      ⟨by decide, List.forall_mem_cons.2 ⟨by decide, List.forall_mem_singleton.2 (by decide)⟩⟩
    simpa using hinPlace
  · exact hall.2

/-- **A formatter is read back from its command line.** It has arguments already, so it is given none. -/
lemma parse_commandLine (h : parse text = .ok command) : parse command.commandLine = .ok command := by
  have hwords : words command.commandLine = command.program :: command.args :=
    words_intercalate (isWord_of_parse h)
  rw [parse_of_words hwords, if_neg (args_ne_nil h)]

/-! ## White space -/

/-- **Formatters survive printing.** A formatter is read from a command line exactly if something in it is not
white space: its first word is the program and the others are the arguments, or `-i` if there are none. So
both are words, there always is an argument, and the formatter is read back from the command line that is
printed for it. Command lines with the same words are read alike, however much white space stands between and
around the words, and of whichever kind. -/
theorem parse_words (text : String) :
    ((∃ command, parse text = .ok command) ↔ ∃ c ∈ text.toList, isBlank c = false) ∧
    (∀ program args, SpacedWords ((program :: args).map String.toList) text.toList →
      parse text = .ok ⟨program, if args = [] then ["-i"] else args⟩) ∧
    (∀ command, parse text = .ok command →
      (∀ word ∈ command.program :: command.args, word ≠ "" ∧ ∀ c ∈ word.toList, isBlank c = false) ∧
      command.args ≠ [] ∧ parse command.commandLine = .ok command) ∧
    ∀ text' ws, SpacedWords ws text.toList → SpacedWords ws text'.toList → parse text' = parse text := by
  refine ⟨?_, fun program args hlaid => ?_, fun command hcommand => ⟨fun word hword => ?_, ?_, ?_⟩,
    fun text' ws hlaid hlaid' => ?_⟩
  · rw [exists_parse_iff, isBlankText_eq_false_iff]
  · exact parse_of_words (words_of_spacedWords hlaid)
  · obtain ⟨hne, hplain⟩ := isWord_of_parse hcommand word hword
    exact ⟨by simpa using hne, hplain⟩
  · exact args_ne_nil hcommand
  · exact parse_commandLine hcommand
  · have hsame : words text' = words text := by
      rw [words, words, hlaid.wordChars_eq, hlaid'.wordChars_eq]
    rw [parse, parse, hsame]

/-- **Words with other white space between them**: a tab and a line feed, and a space that is wider than others. -/
theorem parse_words_respaced :
    SpacedWords ["tidy".toList, "-q".toList] "tidy\t\n-q".toList ∧
    SpacedWords ["tidy".toList, "-q".toList] "\u2003tidy -q ".toList ∧
    parse "tidy\t\n-q" = .ok ⟨"tidy", ["-q"]⟩ ∧
    parse "\u2003tidy -q " = .ok ⟨"tidy", ["-q"]⟩ ∧
    parse "tidy -q" = .ok ⟨"tidy", ["-q"]⟩ := by
  have hlaid : SpacedWords ["tidy".toList, "-q".toList] "tidy\t\n-q".toList :=
    spacedWords_iff.2 (by decide)
  have hlaid' : SpacedWords ["tidy".toList, "-q".toList] "\u2003tidy -q ".toList :=
    spacedWords_iff.2 (by decide)
  obtain ⟨-, hread, hprinted, hsame⟩ := parse_words "tidy\t\n-q"
  have hcommand : parse "tidy\t\n-q" = .ok ⟨"tidy", ["-q"]⟩ := hread "tidy" ["-q"] hlaid
  exact ⟨hlaid, hlaid', hcommand, (hsame _ _ hlaid hlaid').trans hcommand, (hprinted _ hcommand).2.2⟩

end UaHeaders.FormatterCommand
