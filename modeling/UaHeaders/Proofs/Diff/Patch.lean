import UaHeaders.Header.Record
import UaHeaders.Proofs.Diff.Reader
import UaHeaders.Proofs.Text.TerminatedLines

/-!
# Diffs are patches

The text of a diff is read back as the hunks that were written. Each line of a hunk has a sign in front, so
whatever stands in it, it is no header, no note, and does not join the line before it. A line without an
end is given one, and the note behind it takes that away again. So the replacements that are read are those
of the hunks, and they lead from the old text to the new one.

## Main definitions

* `UaHeaders.Diff.Fresh` — a text that does not join the line in front of it.
* `UaHeaders.Diff.Block.signed`, `UaHeaders.Diff.Hunk.lines` — the lines that stand for blocks and hunks.

## Main results

* `UaHeaders.Diff.patchLines_hunks` — the lines of written hunks.
* `UaHeaders.Diff.readHunks?_lines` — written hunks are read back.
* `UaHeaders.HeaderRecord.diff_patches` — the diff of a header is empty or a patch.
-/

set_option autoImplicit false

namespace UaHeaders.Diff

open Text (Unbroken IsLineEnd IsLine)

variable {body ending rest : List Char} {sign : Char} {line : String} {ls : List String}

/-! ## Lines of a patch -/

/-- A line that no note follows is left as it is. -/
lemma heedNotes_cons {l : List Char} {lines : List (List Char)} (h : lines.head? ≠ some noEndNote.toList) :
    heedNotes (l :: lines) = l :: heedNotes lines := by
  rcases lines with _ | ⟨k, lines⟩
  · rfl
  · rw [heedNotes, if_neg (by simpa using h)]

/-- **A text that does not join the line in front of it**: neither does it complete a line end, nor is it a
note. -/
def Fresh (cs : List Char) : Prop := cs.head? ≠ some '\n' ∧ cs.head? ≠ some '\\'

/-- A line with an end is cut off from a text that does not join it. -/
lemma patchLines_ended (hbody : Unbroken body) (hending : IsLineEnd ending) (hrest : Fresh rest) :
    patchLines (body ++ (ending ++ rest)) = (body ++ ending) :: patchLines rest := by
  rw [patchLines, Text.terminatedChars_append hbody hending fun _ => hrest.1, heedNotes_cons]
  · rfl
  · exact fun h => hrest.2 (Text.head?_of_head?_terminatedChars h)

/-- A line with a line feed is cut off from a text that does not join it. -/
lemma patchLines_feed (hbody : Unbroken body) (hrest : Fresh rest) :
    patchLines (body ++ '\n' :: rest) = (body ++ ['\n']) :: patchLines rest :=
  patchLines_ended hbody .feed hrest

/-- The note is a line of its own. -/
lemma terminatedChars_noEndNote (rest : List Char) :
    Text.terminatedChars (noEndNote.toList ++ rest) =
      noEndNote.toList :: Text.terminatedChars rest := by
  have hnote : noEndNote.toList = "\\ No newline at end of file".toList ++ ['\n'] := by
    decide +kernel
  have hunbroken : Unbroken "\\ No newline at end of file".toList :=
    ⟨by decide +kernel, by decide +kernel⟩
  rw [hnote, List.append_assoc, List.singleton_append, Text.terminatedChars_append_feed hunbroken]

/-- A line with a note behind it has no end. -/
lemma patchLines_noted (hbody : Unbroken body) (rest : List Char) :
    patchLines (body ++ '\n' :: (noEndNote.toList ++ rest)) = body :: patchLines rest := by
  rw [patchLines, Text.terminatedChars_append_feed hbody, terminatedChars_noEndNote, heedNotes,
    if_pos rfl, List.dropLast_concat, patchLines]

/-! ## Signed lines -/

/-- A line that ends with a line end is terminated. -/
lemma isTerminated_of_eq (hending : IsLineEnd ending) (h : line.toList = body ++ ending) :
    isTerminated line = true := by
  cases hending with
  | feed => simp [isTerminated, h]
  | returned => simp [isTerminated, h]
  | returnFeed => simp [isTerminated, h]

/-- A line without line ends is not terminated. -/
lemma isTerminated_of_unbroken (h : Unbroken line.toList) : isTerminated line = false := by
  rw [isTerminated, Bool.or_eq_false_iff, beq_eq_false_iff_ne, beq_eq_false_iff_ne]
  exact ⟨fun hlast => h.noFeed (List.mem_of_getLast? hlast),
    fun hlast => h.noReturn (List.mem_of_getLast? hlast)⟩

/-- **A sign**: a character that begins a line of its own, and no note. -/
structure IsSign (c : Char) : Prop where
  noFeed : c ≠ '\n'
  noReturn : c ≠ '\r'
  noNote : c ≠ '\\'

/-- What begins with a sign does not join the line in front of it. -/
lemma IsSign.fresh (h : IsSign sign) (cs : List Char) : Fresh (sign :: cs) :=
  ⟨by simpa using h.noFeed, by simpa using h.noNote⟩

/-- A sign adds no line end. -/
lemma IsSign.unbroken (h : IsSign sign) (hbody : Unbroken body) : Unbroken (sign :: body) :=
  Text.unbroken_cons.2 ⟨⟨h.noFeed, h.noReturn⟩, hbody⟩

/-- **A signed line is read as the sign and the line**, with its end if it has one. -/
lemma patchLines_signedLine (hsign : IsSign sign) (hline : IsLine line.toList) (hrest : Fresh rest) :
    patchLines ((signedLine sign line).toList ++ rest) = (sign :: line.toList) :: patchLines rest := by
  generalize hcs : line.toList = cs at hline ⊢
  cases hline with
  | @ended b e hbody hending =>
    have htext : (signedLine sign line).toList ++ rest = sign :: b ++ (e ++ rest) := by
      simp [signedLine, isTerminated_of_eq hending hcs, hcs]
    rw [htext, patchLines_ended (hsign.unbroken hbody) hending hrest]
    rfl
  | unended hne hbody =>
    have hnone : isTerminated line = false := isTerminated_of_unbroken (by rwa [hcs])
    have htext : (signedLine sign line).toList ++ rest =
        sign :: cs ++ '\n' :: (noEndNote.toList ++ rest) := by
      simp [signedLine, hnone, hcs, noEndNote]
    rw [htext, patchLines_noted (hsign.unbroken hbody)]

/-- A signed line begins with its sign. -/
lemma fresh_signedLine (hsign : IsSign sign) (line : String) (rest : List Char) :
    Fresh ((signedLine sign line).toList ++ rest) := by
  have htext : ∃ cs, (signedLine sign line).toList ++ rest = sign :: cs :=
    ⟨_, by rw [signedLine, String.append_assoc, String.toList_append, String.toList_singleton]; rfl⟩
  obtain ⟨cs, hcs⟩ := htext
  rw [hcs]
  exact hsign.fresh cs

/-- **Signed lines are read one by one**, and do not join the line in front of them. -/
lemma patchLines_signedLines (hsign : IsSign sign) (hls : ∀ l ∈ ls, IsLine l.toList)
    (hrest : Fresh rest) :
    Fresh ((signedLines sign ls).toList ++ rest) ∧
      patchLines ((signedLines sign ls).toList ++ rest) =
        ls.map (fun l => sign :: l.toList) ++ patchLines rest := by
  induction ls with
  | nil => exact ⟨hrest, rfl⟩
  | cons l ls ih =>
    rw [List.forall_mem_cons] at hls
    obtain ⟨hfresh, hlines⟩ := ih hls.2
    have htext : (signedLines sign (l :: ls)).toList ++ rest =
        (signedLine sign l).toList ++ ((signedLines sign ls).toList ++ rest) := by
      simp [signedLines]
    rw [htext, patchLines_signedLine hsign hls.1 hfresh, hlines]
    exact ⟨fresh_signedLine hsign _ _, rfl⟩

/-! ## Blocks -/

/-- The lines of a block with their signs. -/
def Block.signed : Block String → List (List Char)
  | .same ls => ls.map fun l => ' ' :: l.toList
  | .change removed added =>
    (removed.map fun l => '-' :: l.toList) ++ added.map fun l => '+' :: l.toList

/-- The lines of a block are read one by one. -/
lemma patchLines_block {b : Block String} (hb : ∀ l ∈ b.old ++ b.new, IsLine l.toList)
    (hrest : Fresh rest) :
    Fresh (b.text.toList ++ rest) ∧ patchLines (b.text.toList ++ rest) = b.signed ++ patchLines rest := by
  cases b with
  | same ls =>
    have hkept : IsSign ' ' := ⟨by decide, by decide, by decide⟩
    have hls : ∀ l ∈ ls, IsLine l.toList := fun l hl => hb l (List.mem_append_left _ hl)
    exact patchLines_signedLines hkept hls hrest
  | change removed added =>
    have hminus : IsSign '-' := ⟨by decide, by decide, by decide⟩
    have hplus : IsSign '+' := ⟨by decide, by decide, by decide⟩
    have hremoved : ∀ l ∈ removed, IsLine l.toList := fun l hl => hb l (List.mem_append_left _ hl)
    have hadded : ∀ l ∈ added, IsLine l.toList := fun l hl => hb l (List.mem_append_right _ hl)
    obtain ⟨hfresh, hlines⟩ := patchLines_signedLines hplus hadded hrest
    obtain ⟨hfresh', hlines'⟩ := patchLines_signedLines hminus hremoved hfresh
    rw [Block.text, Block.signed, String.toList_append, List.append_assoc, List.append_assoc, ← hlines]
    exact ⟨hfresh', hlines'⟩

/-- The lines of blocks are read one by one. -/
lemma patchLines_blocks {bs : List (Block String)}
    (hbs : ∀ b ∈ bs, ∀ l ∈ b.old ++ b.new, IsLine l.toList) (hrest : Fresh rest) :
    Fresh ((String.join (bs.map Block.text)).toList ++ rest) ∧
      patchLines ((String.join (bs.map Block.text)).toList ++ rest) =
        bs.flatMap Block.signed ++ patchLines rest := by
  induction bs with
  | nil => exact ⟨hrest, rfl⟩
  | cons b bs ih =>
    rw [List.forall_mem_cons] at hbs
    obtain ⟨hfresh, hlines⟩ := ih hbs.2
    obtain ⟨hfresh', hlines'⟩ := patchLines_block hbs.1 hfresh
    rw [List.map_cons, String.join_cons, String.toList_append, List.append_assoc, List.flatMap_cons,
      List.append_assoc, ← hlines]
    exact ⟨hfresh', hlines'⟩

/-- Kept lines are read to the last. -/
lemma readBody?_kept (ls : List String) (old new : Nat) (lines : List (List Char)) :
    readBody? (ls.length + old) (ls.length + new) (ls.map (fun l => ' ' :: l.toList) ++ lines) =
      (readBody? old new lines).map fun (olds, news, rest) =>
        (ls.map String.toList ++ olds, ls.map String.toList ++ news, rest) := by
  induction ls with
  | nil => simp
  | cons l ls ih =>
    have hold : (l :: ls).length + old = ls.length + old + 1 := by simp; omega
    have hnew : (l :: ls).length + new = ls.length + new + 1 := by simp; omega
    rw [hold, hnew, List.map_cons, List.cons_append, readBody?, ih, Option.map_map]
    rfl

/-- Removed lines are read to the last. -/
lemma readBody?_removed (ls : List String) (old new : Nat) (lines : List (List Char)) :
    readBody? (ls.length + old) new (ls.map (fun l => '-' :: l.toList) ++ lines) =
      (readBody? old new lines).map fun (olds, news, rest) =>
        (ls.map String.toList ++ olds, news, rest) := by
  induction ls with
  | nil => simp
  | cons l ls ih =>
    have hold : (l :: ls).length + old = ls.length + old + 1 := by simp; omega
    rw [hold, List.map_cons, List.cons_append, readBody?, ih, Option.map_map]
    rfl

/-- Added lines are read to the last. -/
lemma readBody?_added (ls : List String) (old new : Nat) (lines : List (List Char)) :
    readBody? old (ls.length + new) (ls.map (fun l => '+' :: l.toList) ++ lines) =
      (readBody? old new lines).map fun (olds, news, rest) =>
        (olds, ls.map String.toList ++ news, rest) := by
  induction ls with
  | nil => simp
  | cons l ls ih =>
    have hnew : (l :: ls).length + new = ls.length + new + 1 := by simp; omega
    rw [hnew, List.map_cons, List.cons_append, readBody?, ih, Option.map_map]
    rfl

/-- **The lines of blocks are read back** as what the blocks take and give. -/
lemma readBody?_blocks (bs : List (Block String)) (old new : Nat) (lines : List (List Char)) :
    readBody? ((bs.flatMap Block.old).length + old) ((bs.flatMap Block.new).length + new)
        (bs.flatMap Block.signed ++ lines) =
      (readBody? old new lines).map fun (olds, news, rest) =>
        ((bs.flatMap Block.old).map String.toList ++ olds,
          (bs.flatMap Block.new).map String.toList ++ news, rest) := by
  induction bs with
  | nil => simp
  | cons b bs ih =>
    simp only [List.flatMap_cons, List.length_append, List.append_assoc, Nat.add_assoc]
    cases b with
    | same ls =>
      rw [Block.old, Block.new, Block.signed, readBody?_kept, ih, Option.map_map]
      simp [Function.comp_def]
    | change removed added =>
      rw [Block.old, Block.new, Block.signed, List.append_assoc, readBody?_removed, readBody?_added, ih,
        Option.map_map, Option.map_map]
      simp [Function.comp_def]

/-! ## Headers of hunks -/

/-- A number is read up to what is no digit. -/
lemma readNumber?_toDigits (n : Nat) {c : Char} (hc : c.isDigit = false) (rest : List Char) :
    readNumber? (Nat.toDigits 10 n ++ c :: rest) = some (n, c :: rest) := by
  have hdigits : ∀ d ∈ Nat.toDigits 10 n, d.isDigit = true := fun d hd =>
    Nat.isDigit_of_mem_toDigits (by decide) (by decide) hd
  have htake : (Nat.toDigits 10 n ++ c :: rest).takeWhile Char.isDigit = Nat.toDigits 10 n := by
    rw [List.takeWhile_append_of_pos hdigits, List.takeWhile_cons_of_neg (by simp [hc]),
      List.append_nil]
  have hdrop : (Nat.toDigits 10 n ++ c :: rest).dropWhile Char.isDigit = c :: rest := by
    rw [List.dropWhile_append_of_pos hdigits, List.dropWhile_cons_of_neg (by simp [hc])]
  rw [readNumber?, htake, hdrop, if_neg (by simp [Nat.toDigits_ne_nil]),
    Nat.ofDigitChars_toDigits (by decide) (by decide)]

/-- A first line and a number of lines are read up to the blank behind them. -/
lemma readPlace?_toDigits (first count : Nat) (rest : List Char) :
    readPlace? (Nat.toDigits 10 first ++ ',' :: (Nat.toDigits 10 count ++ ' ' :: rest)) =
      (place? first count).map fun place => (place, ' ' :: rest) := by
  have hcomma := readNumber?_toDigits first (c := ',') (by decide)
  have hblank := readNumber?_toDigits count (c := ' ') (by decide)
  simp only [readPlace?, hcomma, hblank, Option.bind_eq_bind, Option.bind_some]
  rcases place? first count with _ | place <;> rfl

/-- **A place is read back.**

**Proof sketch.** By the three ways in which a place is written: one line without its count, no line with
the number of the line before, and any other count. The digits are read back as they were written. -/
lemma readPlace?_rangeText (start count : Nat) (rest : List Char) :
    readPlace? ((rangeText start count).toList ++ ' ' :: rest) = some (⟨start, count⟩, ' ' :: rest) := by
  unfold rangeText
  split_ifs with hone hnone
  · subst hone
    have hblank := readNumber?_toDigits (start + 1) (c := ' ') (by decide)
    have htext : (toString (start + 1)).toList = Nat.toDigits 10 (start + 1) := Nat.toList_repr
    simp only [readPlace?, htext, hblank, Option.bind_eq_bind, Option.bind_some]
    simp [place?]
  · subst hnone
    have htext : (toString start ++ ",0").toList ++ ' ' :: rest =
        Nat.toDigits 10 start ++ ',' :: (Nat.toDigits 10 0 ++ ' ' :: rest) := by
      simp [Nat.toDigits_zero]
    rw [htext, readPlace?_toDigits]
    simp [place?]
  · have htext : (toString (start + 1) ++ "," ++ toString count).toList ++ ' ' :: rest =
        Nat.toDigits 10 (start + 1) ++ ',' :: (Nat.toDigits 10 count ++ ' ' :: rest) := by
      simp
    rw [htext, readPlace?_toDigits]
    simp [place?, hnone]

/-- A place is written without line ends. -/
lemma unbroken_rangeText (start count : Nat) : Unbroken (rangeText start count).toList := by
  have hdigits : ∀ n : Nat, Unbroken (toString n).toList := by
    intro n
    have hn : ∀ c ∈ (toString n).toList, c.isDigit = true := fun c hc =>
      Nat.isDigit_of_mem_toDigits (by decide) (by decide) (Nat.toList_repr ▸ hc)
    exact ⟨fun h => absurd (hn _ h) (by decide), fun h => absurd (hn _ h) (by decide)⟩
  unfold rangeText
  split_ifs with hone hnone
  · exact hdigits _
  · rw [String.toList_append]
    exact (hdigits _).append ⟨by decide, by decide⟩
  · rw [String.toList_append, String.toList_append]
    exact ((hdigits _).append ⟨by decide, by decide⟩).append (hdigits _)

namespace Hunk

/-- The first line of a hunk in its parts. -/
lemma toList_header (h : Hunk) : h.header.toList =
    "@@ -".toList ++ ((rangeText h.oldStart h.old.length).toList ++
      (" +".toList ++ ((rangeText h.newStart h.new.length).toList ++ " @@\n".toList))) := by
  simp [header]

/-- **The first line of a hunk is read back.** -/
lemma readHeader?_header (h : Hunk) : readHeader? h.header.toList =
    some (⟨h.oldStart, h.old.length⟩, ⟨h.newStart, h.new.length⟩) := by
  have hdrop : ∀ start rest : List Char, (start ++ rest).dropPrefix? start = some rest := fun start rest =>
    List.dropPrefix?_eq_some_iff.2 ⟨start, rfl, by simp⟩
  have hplus : ∀ rest, " +".toList ++ rest = ' ' :: '+' :: rest := fun _ => rfl
  have hclose : " @@\n".toList = ' ' :: "@@\n".toList := rfl
  rw [toList_header, readHeader?, hdrop]
  simp only [Option.bind_eq_bind, Option.bind_some]
  rw [hplus, readPlace?_rangeText]
  simp only [Option.bind_some]
  rw [← hplus, hdrop]
  simp only [Option.bind_some]
  rw [hclose, readPlace?_rangeText]
  simp only [Option.bind_some, if_pos]

/-- The first line of a hunk is one line. -/
lemma exists_header_eq (h : Hunk) :
    ∃ body, Unbroken ('@' :: body) ∧ h.header.toList = '@' :: body ++ ['\n'] := by
  refine ⟨"@ -".toList ++ ((rangeText h.oldStart h.old.length).toList ++
    (" +".toList ++ ((rangeText h.newStart h.new.length).toList ++ " @@".toList))), ?_, ?_⟩
  · have hopen : Unbroken "@@ -".toList := ⟨by decide, by decide⟩
    have hplus : Unbroken " +".toList := ⟨by decide, by decide⟩
    have hclose : Unbroken " @@".toList := ⟨by decide, by decide⟩
    exact hopen.append ((unbroken_rangeText _ _).append
      (hplus.append ((unbroken_rangeText _ _).append hclose)))
  · have hclose : " @@\n".toList = " @@".toList ++ ['\n'] := rfl
    have hopen : "@@ -".toList = '@' :: "@ -".toList := rfl
    rw [toList_header, hopen, hclose]
    simp only [List.append_assoc, List.cons_append]

/-- **The lines that stand for a hunk.** -/
def lines (h : Hunk) : List (List Char) := h.header.toList :: h.blocks.flatMap Block.signed

end Hunk

/-! ## Hunks -/

/-- **The lines of written hunks**, whatever their own lines hold.

**Proof sketch.** Induction on the hunks. The header of a hunk is one line, its blocks are read in front
of what follows, which does not begin as a note does. -/
lemma patchLines_hunks {hs : List Hunk}
    (hhs : ∀ h ∈ hs, ∀ b ∈ h.blocks, ∀ l ∈ b.old ++ b.new, IsLine l.toList) :
    Fresh (String.join (hs.map Hunk.text)).toList ∧
      patchLines (String.join (hs.map Hunk.text)).toList = hs.flatMap Hunk.lines := by
  induction hs with
  | nil => exact ⟨⟨by simp, by simp⟩, by simp [patchLines, Text.terminatedChars, heedNotes]⟩
  | cons h hs ih =>
    rw [List.forall_mem_cons] at hhs
    obtain ⟨hfresh, hlines⟩ := ih hhs.2
    obtain ⟨hfresh', hlines'⟩ := patchLines_blocks hhs.1 hfresh
    obtain ⟨body, hbody, hheader⟩ := h.exists_header_eq
    have htext : (String.join ((h :: hs).map Hunk.text)).toList = '@' :: body ++ '\n' ::
        ((String.join (h.blocks.map Block.text)).toList ++
          (String.join (hs.map Hunk.text)).toList) := by
      rw [List.map_cons, String.join_cons, String.toList_append, Hunk.text, String.toList_append, hheader]
      simp
    constructor
    · rw [htext]
      exact ⟨by simp, by simp⟩
    · rw [htext, patchLines_feed hbody hfresh', hlines', hlines, List.flatMap_cons, Hunk.lines, hheader]
      rfl

/-- **Written hunks are read back.**

**Proof sketch.** Induction on the hunks, with `readBody?_blocks`. The counts in a header are those of
the lines of its blocks, so the body ends where the next header begins. -/
lemma readHunks?_lines (hs : List Hunk) : readHunks? (hs.flatMap Hunk.lines) =
    some (hs.map fun h => h.replacement.map String.toList) := by
  induction hs with
  | nil => rw [List.flatMap_nil, readHunks?]; rfl
  | cons h hs ih =>
    have hbody : readBody? h.old.length h.new.length
        (h.blocks.flatMap Block.signed ++ hs.flatMap Hunk.lines) =
          some (h.old.map String.toList, h.new.map String.toList, hs.flatMap Hunk.lines) := by
      have hblocks := readBody?_blocks h.blocks 0 0 (hs.flatMap Hunk.lines)
      simp only [Nat.add_zero, readBody?, Option.map_some, List.append_nil] at hblocks
      exact hblocks
    rw [List.flatMap_cons, Hunk.lines, List.cons_append, readHunks?, Hunk.readHeader?_header]
    simp only
    split
    · next hnone => simp [hbody] at hnone
    · next olds news rest hread =>
      rw [hbody] at hread
      cases hread
      rw [ih]
      rfl

/-! ## Patches -/

/-- The lines of a text are lines. -/
lemma isLine_of_mem_terminatedLines {s : String} {l : String} (h : l ∈ Text.terminatedLines s) :
    IsLine l.toList := by
  obtain ⟨cs, hcs, rfl⟩ := List.mem_map.1 h
  rw [String.toList_ofList]
  exact Text.isLine_of_mem_terminatedChars cs hcs

/-- The lines of a text as characters. -/
lemma map_toList_terminatedLines (s : String) :
    (Text.terminatedLines s).map String.toList = Text.terminatedChars s.toList := by
  rw [Text.terminatedLines, List.map_map]
  simp [Function.comp_def]

/-- The hunks between two contents hold lines of theirs. -/
lemma isLine_of_mem_hunks {old new : String} : ∀ h ∈ hunks (blocksBetween old new), ∀ b ∈ h.blocks,
    ∀ l ∈ b.old ++ b.new, IsLine l.toList := by
  intro h hh b hb l hl
  obtain ⟨hold, hnew⟩ := (replaces_hunks_blocksBetween old new).subset h.replacement
    (List.mem_map_of_mem hh)
  rcases List.mem_append.1 hl with hl | hl
  · exact isLine_of_mem_terminatedLines (hold (List.mem_flatMap.2 ⟨b, hb, hl⟩))
  · exact isLine_of_mem_terminatedLines (hnew (List.mem_flatMap.2 ⟨b, hb, hl⟩))

/-- **A diff is read back** as what its hunks replace, whatever the names of the files are.

**Proof sketch.** The names of the files hold no line feed, so the two lines in front are found as they
were written, and what follows are the lines of the hunks (`patchLines_hunks`). -/
lemma readPatch?_unified {oldName newName old new : String} (hold : Unbroken oldName.toList)
    (hnew : Unbroken newName.toList) (hne : hunks (blocksBetween old new) ≠ []) :
    readPatch? (unified oldName newName old new).toList =
      some ((hunks (blocksBetween old new)).map fun h => h.replacement.map String.toList) := by
  have hhunks := @isLine_of_mem_hunks old new
  rw [unified]
  generalize hunks (blocksBetween old new) = hs at hne hhunks ⊢
  obtain ⟨hfresh, hlines⟩ := patchLines_hunks hhunks
  have hfirst : Unbroken ("--- ".toList ++ oldName.toList) :=
    Unbroken.append ⟨by decide, by decide⟩ hold
  have hsecond : Unbroken ("+++ ".toList ++ newName.toList) :=
    Unbroken.append ⟨by decide, by decide⟩ hnew
  have htext : ("--- " ++ oldName ++ "\n+++ " ++ newName ++ "\n" ++
      String.join (hs.map Hunk.text)).toList = ("--- ".toList ++ oldName.toList) ++ '\n' ::
        (("+++ ".toList ++ newName.toList) ++ '\n' :: (String.join (hs.map Hunk.text)).toList) := by
    simp
  have hfreshSecond : Fresh (("+++ ".toList ++ newName.toList) ++ '\n' ::
      (String.join (hs.map Hunk.text)).toList) := ⟨by simp, by simp⟩
  have hread : readPatch? ("--- " ++ oldName ++ "\n+++ " ++ newName ++ "\n" ++
      String.join (hs.map Hunk.text)).toList = readHunks? (hs.flatMap Hunk.lines) := by
    rw [readPatch?, htext, patchLines_feed hfirst hfreshSecond, patchLines_feed hsecond hfresh, hlines]
    simp only [List.append_assoc]
    rw [if_pos ⟨List.prefix_append _ _, List.prefix_append _ _⟩]
  obtain ⟨h, hs, rfl⟩ := List.exists_cons_of_ne_nil hne
  rw [← readHunks?_lines, ← hread]

/-- **There are no hunks exactly between a content and itself.** -/
lemma hunks_eq_nil_iff {old new : String} : hunks (blocksBetween old new) = [] ↔ old = new := by
  constructor
  · intro hnone
    have hreplaces := replaces_hunks_blocksBetween old new
    rw [hnone] at hreplaces
    have hlines := congrArg (List.map String.toList) hreplaces.eq_of_nil
    rw [map_toList_terminatedLines, map_toList_terminatedLines] at hlines
    have hchars := congrArg List.flatten hlines
    rwa [Text.flatten_terminatedChars, Text.flatten_terminatedChars, String.toList_inj] at hchars
  · rintro rfl
    exact hunks_blocksBetween_self old

/-- A diff is empty exactly between a content and itself. -/
lemma unified_eq_empty_iff {oldName newName old new : String} :
    unified oldName newName old new = "" ↔ old = new := by
  rw [← @hunks_eq_nil_iff old new, unified]
  split
  · next hnone => simp [hnone]
  · next hne => simpa using hne

/-- **A diff is a patch**: applied to the one content it makes the other. -/
lemma applyPatch?_unified {oldName newName old new : String} (hold : Unbroken oldName.toList)
    (hnew : Unbroken newName.toList) (hne : old ≠ new) :
    applyPatch? (unified oldName newName old new) old = some new := by
  have hreplaces := (replaces_hunks_blocksBetween old new).map String.toList
  rw [map_toList_terminatedLines, map_toList_terminatedLines, List.map_map] at hreplaces
  have happly := applyAll?_eq_some_iff.2 hreplaces
  have hread := readPatch?_unified hold hnew (mt hunks_eq_nil_iff.1 hne)
  simp only [Function.comp_def] at happly
  simp only [applyPatch?, hread, Option.bind_eq_bind, Option.bind_some, happly,
    Text.flatten_terminatedChars, String.ofList_toList]

end UaHeaders.Diff

namespace UaHeaders.HeaderRecord

open Diff (applyPatch?)

/-- **The diff of a header is a correct patch**: it is empty if the target has the new content already, a
target that is not there counting as empty. Otherwise its hunks stand where they say, the lines that they
keep and remove are the ones that stand there, and applied to the previous content they make the new one.

**Proof sketch.** The edit script leads from the previous lines to the new ones, however good it is, and
cutting it into hunks leaves out only lines that are the same in both. What is written is read back line by
line, since a signed line is neither a header nor a note. -/
theorem diff_patches (r : HeaderRecord) (htarget : Text.Unbroken r.target.text.toList) :
    (r.diff = "" ↔ r.previous.getD "" = r.content) ∧
      (r.previous.getD "" ≠ r.content → applyPatch? r.diff (r.previous.getD "") = some r.content) := by
  have hname : ∀ start : String, Text.Unbroken start.toList →
      Text.Unbroken (start ++ r.target.text).toList := by
    intro start hstart
    rw [String.toList_append]
    exact hstart.append htarget
  have hold := hname "a/" ⟨by decide, by decide⟩
  have hnew := hname "b/" ⟨by decide, by decide⟩
  exact ⟨Diff.unified_eq_empty_iff, Diff.applyPatch?_unified hold hnew⟩

/-- A header with line ends of all kinds, lines that look like those of a diff, and none at the new end. -/
def staleRecord : HeaderRecord where
  target := ⟨"ua/ids.hpp"⟩
  content := "a\nb\r\n-- c\rd\ne\nf\ng\nh\ni\nj\nk\\"
  previous := some "a\nB\r\n-- c\rd\ne\nf\ng\nh\ni\nj\n"

/-- Its diff is a patch. -/
theorem diff_patches_stale :
    staleRecord.diff ≠ "" ∧
      applyPatch? staleRecord.diff (staleRecord.previous.getD "") = some staleRecord.content := by
  have htarget : Text.Unbroken staleRecord.target.text.toList := ⟨by decide, by decide⟩
  have hne : staleRecord.previous.getD "" ≠ staleRecord.content := by decide
  obtain ⟨hempty, hpatch⟩ := diff_patches staleRecord htarget
  exact ⟨fun h => hne (hempty.1 h), hpatch hne⟩

example : staleRecord.diff =
    "--- a/ua/ids.hpp\n+++ b/ua/ids.hpp\n@@ -1,5 +1,5 @@\n a\n-B\r\n+b\r\n -- c\r d\n e\n" ++
      "@@ -8,3 +8,4 @@\n h\n i\n j\n+k\\\n\\ No newline at end of file\n" := by
  decide +kernel

end UaHeaders.HeaderRecord
