import UaHeaders.Program
import UaHeaders.Proofs.Files.Joined
import UaHeaders.Proofs.Lists
import UaHeaders.Proofs.Text.LineEnds
import UaHeaders.Proofs.Text.Quoted

/-!
# What is shown of an example

A user is shown lines: one that announces a pair, and then what is known of its processes. Text that a process
has written stands four blanks to the right, under a title, and the lines of a logger are left out of its
output. So whatever a process writes, none of its lines begins where an announcement does.

## Main definitions

* `UaHeaders.ProcessOutcome.shownOut`, `UaHeaders.ProcessOutcome.shownErr` — the lines shown of a process.
* `UaHeaders.PairOutcome.shown` — the lines shown of a pair.
* `UaHeaders.ExamplePair.announcementLine` — the line that announces a pair.

## Main results

* `UaHeaders.fields_printed` — printed lines are read back.
* `UaHeaders.PairOutcome.echo_eq` — what is shown of a pair, line by line.
* `UaHeaders.ProcessOutcome.notMem_shownOut` — no line of a logger is shown.
* `UaHeaders.PairOutcome.filter_shown` — no line that is shown of a pair is an announcement.
-/

set_option autoImplicit false

namespace UaHeaders

open Text

variable {l text : String} {ls ks : List String} {p : ProcessOutcome} {outcome : PairOutcome}

/-! ## Printed lines -/

/-- Lines that are printed one at a time. -/
lemma printed_cons (l : String) (ls : List String) : printed (l :: ls) = l ++ "\n" ++ printed ls := by
  rw [printed, List.map_cons, String.join_cons, ← printed]

/-- Lines that are printed behind others. -/
lemma printed_append (ls ks : List String) : printed (ls ++ ks) = printed ls ++ printed ks := by
  rw [printed, List.map_append, String.join_append, ← printed, ← printed]

/-- Printed lines are joined and ended. -/
lemma printed_eq_joinLines (h : ls ≠ []) : printed ls = joinLines ls ++ "\n" := by
  induction ls with
  | nil => exact absurd rfl h
  | cons l ls ih =>
    rw [printed_cons]
    rcases ls with _ | ⟨k, ls⟩
    · simp [printed, joinLines]
    · rw [ih (by simp), joinLines_cons l (by simp), String.append_assoc, String.append_assoc,
        String.append_assoc]

/-- **Printed lines are read back**, with nothing behind the last line feed. -/
lemma fields_printed (h : ∀ l ∈ ls, '\n' ∉ l.toList) : fields '\n' (printed ls) = ls ++ [""] := by
  induction ls with
  | nil => rfl
  | cons l ls ih =>
    rw [List.forall_mem_cons] at h
    have hchars : (printed (l :: ls)).toList = l.toList ++ '\n' :: (printed ls).toList := by
      simp [printed_cons]
    have hrest : (printed ls).toList.splitOn '\n' = (ls ++ [""]).map String.toList := by
      rw [← ih h.2, fields, List.map_map]
      simp
    rw [fields, hchars, List.splitOn_append_cons_self, List.splitOn_eq_singleton h.1, hrest]
    simp

/-! ## Lines and fields -/

/-- A line of a text is what stands between two line feeds, perhaps without a carriage return at its end.

**Proof sketch.** Induction on how the lines are made. A line that ends with a carriage return and a line
feed loses both, so the carriage return is what it ended with between the line feeds. -/
lemma exists_field_of_mem_lines (h : l ∈ lines text) :
    ∃ ending, (ending = "" ∨ ending = "\r") ∧ l ++ ending ∈ fields '\n' text := by
  obtain ⟨cs, hcs, rfl⟩ := List.mem_map.1 h
  suffices hfield : ∃ ending, (ending = [] ∨ ending = ['\r']) ∧ cs ++ ending ∈ text.toList.splitOn '\n' by
    obtain ⟨ending, hending, hmem⟩ := hfield
    refine ⟨String.ofList ending, ?_, List.mem_map.2 ⟨_, hmem, by simp⟩⟩
    rcases hending with rfl | rfl
    · exact .inl rfl
    · exact .inr rfl
  have hmade := madeOf_lineChars text.toList
  generalize text.toList = ds, lineChars text.toList = ls at hmade hcs
  induction hmade with
  | none => cases hcs
  | @unended l hne hfeed =>
    obtain rfl : cs = l := by simpa using hcs
    exact ⟨[], .inl rfl, by simp [List.splitOn_eq_singleton hfeed]⟩
  | @feed l rest ls hfeed _ _ ih =>
    rw [List.splitOn_append_cons_self, List.splitOn_eq_singleton hfeed]
    rcases List.mem_cons.1 hcs with rfl | hrest
    · exact ⟨[], .inl rfl, by simp⟩
    · obtain ⟨ending, hending, hmem⟩ := ih hrest
      exact ⟨ending, hending, by simp [hmem]⟩
  | @returnFeed l rest ls hfeed _ ih =>
    have hreturn : '\n' ∉ l ++ ['\r'] := by simp [hfeed]
    rw [List.append_cons l '\r', List.splitOn_append_cons_self, List.splitOn_eq_singleton hreturn]
    rcases List.mem_cons.1 hcs with rfl | hrest
    · exact ⟨['\r'], .inr rfl, by simp⟩
    · obtain ⟨ending, hending, hmem⟩ := ih hrest
      exact ⟨ending, hending, by simp [hmem]⟩

/-- What stands between the line feeds of a text has none. -/
lemma feed_notMem_of_mem_fields (h : l ∈ fields '\n' text) : '\n' ∉ l.toList := by
  obtain ⟨cs, hcs, rfl⟩ := List.mem_map.1 h
  rw [String.toList_ofList]
  exact notMem_of_mem_splitOn hcs

/-- Joined lines without line feeds are read back. -/
lemma fields_joinLines (h : ∀ l ∈ ls, '\n' ∉ l.toList) (hne : ls ≠ []) : fields '\n' (joinLines ls) = ls := by
  have hchars : (joinLines ls).toList = ['\n'].intercalate (ls.map String.toList) := by
    rw [joinLines, String.toList_intercalate]
    rfl
  rw [fields, hchars, List.splitOn_intercalate _ (by simpa using h) (by simpa using hne), List.map_map]
  simp

namespace ProcessOutcome

/-! ## Processes -/

/-- The lines of a text, four blanks to the right. An empty text leaves an empty line. -/
def indentedLines (text : String) : List String :=
  if lines text = [] then [""] else (lines text).map ("    " ++ ·)

/-- **The lines that are shown of the output**: a title and the lines that are not a logger's, or nothing if
there are none but blank ones. -/
def shownOut (p : ProcessOutcome) : List String :=
  if isBlankText p.outWithoutLogs then []
  else ("Captured output " ++ p.name ++ ":") :: indentedLines p.outWithoutLogs

/-- **The lines that are shown of the errors**: a title and all lines, if the process failed. -/
def shownErr (p : ProcessOutcome) : List String :=
  if p.failed then
    ("Error " ++ p.name ++ " (" ++ p.status.message ++ "):") :: indentedLines p.err
  else []

/-- Indented text is printed line by line. -/
lemma printed_indentedLines (text : String) : printed (indentedLines text) = indent text ++ "\n" := by
  rw [indentedLines, indent]
  split_ifs with hnone
  · rw [hnone]
    rfl
  · rw [printed_eq_joinLines (by simpa using hnone)]

/-- **What is shown of a process**, line by line. -/
lemma echo_eq (p : ProcessOutcome) : p.echo = printed (p.shownOut ++ p.shownErr) := by
  have hempty : printed [] = "" := rfl
  rw [printed_append, echo, shownOut, shownErr]
  split_ifs <;>
    simp [← String.toList_inj, printed_cons, printed_indentedLines, hempty]

/-- What is left of the output has no line of a logger.

**Proof sketch.** The lines that are left are joined with line feeds, so each is one of those that were
kept, or one without its carriage return (`exists_field_of_mem_lines`). Neither begins with a bracket. -/
lemma isLogLine_of_mem_lines (h : l ∈ lines p.outWithoutLogs) : isLogLine l = false := by
  generalize hkept : (fields '\n' p.out).filter (!isLogLine ·) = kept
  have hlines : l ∈ lines (joinLines kept) := by rwa [outWithoutLogs, hkept] at h
  have hfeed : ∀ k ∈ kept, '\n' ∉ k.toList := fun k hk =>
    feed_notMem_of_mem_fields (List.mem_of_mem_filter (hkept ▸ hk))
  have hne : kept ≠ [] := by
    rintro rfl
    cases hlines
  obtain ⟨ending, -, hfield⟩ := exists_field_of_mem_lines hlines
  rw [fields_joinLines hfeed hne, ← hkept, List.mem_filter] at hfield
  -- the line begins as it does with what was taken away at its end
  by_contra hlog
  have hprefix : "[".toList <+: l.toList := by simpa [isLogLine, hasPrefix] using hlog
  have hlonger : isLogLine (l ++ ending) = true := by
    rw [isLogLine, hasPrefix, List.isPrefixOf_iff_prefix, String.toList_append]
    exact hprefix.trans (List.prefix_append _ _)
  simp [hlonger] at hfield

/-- A line that is indented begins with a blank, if it is not empty. -/
lemma head?_of_mem_indentedLines (h : l ∈ indentedLines text) :
    l.toList.head? = none ∨ l.toList.head? = some ' ' := by
  rw [indentedLines] at h
  split_ifs at h
  · obtain rfl : l = "" := by simpa using h
    exact .inl rfl
  · obtain ⟨line, -, rfl⟩ := List.mem_map.1 h
    exact .inr (by simp)

/-- An indented line has no line feed. -/
lemma feed_notMem_of_mem_indentedLines (h : l ∈ indentedLines text) : '\n' ∉ l.toList := by
  rw [indentedLines] at h
  split_ifs at h
  · obtain rfl : l = "" := by simpa using h
    simp
  · obtain ⟨line, hline, rfl⟩ := List.mem_map.1 h
    simpa using noFeed_of_mem_lines hline

/-- **No line of a logger is shown** of the output.

**Proof sketch.** A title has no blank in front, and the blanks alone are too short. A line that is
indented is one that was kept, which no line of a logger is (`isLogLine_of_mem_lines`). -/
lemma notMem_shownOut (p : ProcessOutcome) {line : String} (h : hasPrefix "[" line = true) :
    "    " ++ line ∉ p.shownOut := by
  rw [shownOut]
  split_ifs
  · simp
  · rw [List.mem_cons, not_or]
    constructor
    · intro htitle
      have hhead := congrArg (fun s => s.toList.head?) htitle
      simp at hhead
    · rw [indentedLines]
      split_ifs
      · intro hempty
        have hlength := congrArg (fun s => s.toList.length) (List.mem_singleton.1 hempty)
        simp at hlength
      · intro hmem
        obtain ⟨shown, hshown, heq⟩ := List.mem_map.1 hmem
        obtain rfl : shown = line := by simpa using heq
        have hlog : hasPrefix "[" shown = false := isLogLine_of_mem_lines hshown
        simp [h] at hlog

/-- A title begins with a letter, and what is under it with a blank, if with anything. So no line that is shown
of a process begins with a bracket. -/
lemma head?_of_mem_shown (h : l ∈ p.shownOut ++ p.shownErr) : l.toList.head? ≠ some '[' := by
  have hindented : ∀ {text : String}, l ∈ indentedLines text → l.toList.head? ≠ some '[' := by
    intro text hmem
    rcases head?_of_mem_indentedLines hmem with hhead | hhead <;> simp [hhead]
  rcases List.mem_append.1 h with h | h
  · rw [shownOut] at h
    split_ifs at h
    · cases h
    · rcases List.mem_cons.1 h with rfl | h
      · simp
      · exact hindented h
  · rw [shownErr] at h
    split_ifs at h
    · rcases List.mem_cons.1 h with rfl | h
      · simp
      · exact hindented h
    · cases h

end ProcessOutcome

/-! ## Line feeds -/

namespace ExitStatus

/-- A signal is named on one line. -/
lemma feed_notMem_signalText (signal : Nat) : '\n' ∉ (signalText signal).toList := by
  unfold signalText
  split
  · simp
  · next n =>
    split
    · next name hname =>
      have hnames : ∀ name ∈ signalNames, '\n' ∉ name.toList := by decide
      simp [feed_notMem_toDigits, hnames name (List.mem_of_getElem? hname)]
    · simp [feed_notMem_toDigits]

/-- **The wording of a status has no line feed.** -/
lemma feed_notMem_message (s : ExitStatus) : '\n' ∉ s.message.toList := by
  have hraw : '\n' ∉ s.raw.repr.toList := by
    rcases s.raw with n | n <;> simp [Int.repr, feed_notMem_toDigits]
  have hhex : '\n' ∉ s.hexText.toList := by
    simp [hexText, feed_notMem_toDigits]
  unfold message
  split
  · simp [feed_notMem_toDigits]
  · split_ifs <;> simp [feed_notMem_signalText]
  · simp [feed_notMem_signalText]
  · split_ifs <;> simp [hraw, hhex]

end ExitStatus

/-- Lines that are shown of a process have no line feed if its name has none. -/
lemma ProcessOutcome.feed_notMem_of_mem_shown (hname : '\n' ∉ p.name.toList)
    (h : l ∈ p.shownOut ++ p.shownErr) : '\n' ∉ l.toList := by
  rcases List.mem_append.1 h with h | h
  · rw [shownOut] at h
    split_ifs at h
    · cases h
    · rcases List.mem_cons.1 h with rfl | h
      · simp [hname]
      · exact feed_notMem_of_mem_indentedLines h
  · rw [shownErr] at h
    split_ifs at h
    · rcases List.mem_cons.1 h with rfl | h
      · simp [hname, ExitStatus.feed_notMem_message]
      · exact feed_notMem_of_mem_indentedLines h
    · cases h

/-! ## Pairs -/

namespace PairOutcome

/-- The processes that a pair was tried with. -/
def processes : PairOutcome → List ProcessOutcome
  | skipped _ => []
  | ran server client => server :: client.toList

/-- The names that a user is shown of a pair. -/
def names : PairOutcome → List String
  | skipped missing => [missing.text]
  | ran server client => (server :: client.toList).map ProcessOutcome.name

/-- **The lines that are shown of a pair.** -/
def shown : PairOutcome → List String
  | skipped missing => ["Skip: " ++ missing.text ++ " not found"]
  | ran server client => (server :: client.toList).flatMap fun p => p.shownOut ++ p.shownErr

/-- **What is shown of a pair**, line by line. -/
lemma echo_eq (outcome : PairOutcome) : outcome.echo = printed outcome.shown := by
  cases outcome with
  | skipped missing => simp [echo, shown, ← String.toList_inj, printed]
  | ran server client =>
    rcases client with _ | client
    · simp [echo, shown, ProcessOutcome.echo_eq]
    · simp [echo, shown, ProcessOutcome.echo_eq, printed_append, String.append_assoc]

/-- Lines that are shown of a pair have no line feed if the names have none. -/
lemma feed_notMem_of_mem_shown (hnames : ∀ name ∈ outcome.names, '\n' ∉ name.toList)
    (h : l ∈ outcome.shown) : '\n' ∉ l.toList := by
  cases outcome with
  | skipped missing =>
    have hmissing : '\n' ∉ missing.text.toList := hnames _ List.mem_cons_self
    obtain rfl : l = "Skip: " ++ missing.text ++ " not found" := List.mem_singleton.1 h
    simp [hmissing]
  | ran server client =>
    obtain ⟨p, hp, hl⟩ := List.mem_flatMap.1 h
    exact p.feed_notMem_of_mem_shown (hnames _ (List.mem_map_of_mem hp)) hl

/-- **No line that is shown of a pair is an announcement**, whatever its processes have written. -/
lemma filter_shown (outcome : PairOutcome) : outcome.shown.filter (hasPrefix "[RUN] ") = [] := by
  have hhead : ∀ l ∈ outcome.shown, l.toList.head? ≠ some '[' := by
    intro l hl
    cases outcome with
    | skipped missing =>
      obtain rfl : l = "Skip: " ++ missing.text ++ " not found" := List.mem_singleton.1 hl
      simp
    | ran server client =>
      obtain ⟨p, -, hp⟩ := List.mem_flatMap.1 hl
      exact p.head?_of_mem_shown hp
  rw [List.filter_eq_nil_iff]
  intro l hl hprefix
  obtain ⟨cs, hcs⟩ := List.isPrefixOf_iff_prefix.1 hprefix
  exact hhead l hl (by simp [← hcs])

end PairOutcome

/-! ## Announcements -/

namespace ExamplePair

/-- **The line that announces a pair.** -/
def announcementLine (pair : ExamplePair) : String :=
  "[RUN] " ++ pair.server ++ " " ++ quoteList pair.serverArgs ++ " / " ++
    pair.client.getD "None" ++ " " ++ quoteList pair.clientArgs

/-- An announcement begins with its mark. -/
lemma hasPrefix_announcementLine (pair : ExamplePair) : hasPrefix "[RUN] " pair.announcementLine = true := by
  simp only [announcementLine, String.append_assoc]
  exact hasPrefix_append _ _

/-- An announcement has no line feed if the names of the executables have none, whatever their arguments. -/
lemma feed_notMem_announcementLine {pair : ExamplePair}
    (h : ∀ name ∈ pair.server :: pair.client.toList, '\n' ∉ name.toList) :
    '\n' ∉ pair.announcementLine.toList := by
  rw [List.forall_mem_cons] at h
  have hclient : '\n' ∉ (pair.client.getD "None").toList := by
    rcases hclient : pair.client with _ | client
    · decide
    · exact h.2 client (by simp [hclient])
  simp [announcementLine, h.1, hclient, feed_notMem_quoteList]

end ExamplePair

end UaHeaders
