import UaHeaders.Header.Target
import UaHeaders.Proofs.Header.Assembly

/-!
# The lines of a frame

The frame of a header is made of paragraphs. Some of their lines do its work: the pragmas, the lines
that open and close the namespace, and the fences of the formatter. This module lists them.

## Main definitions

* `UaHeaders.isFrameLine` — whether a line does the work of a frame.
* `UaHeaders.Skeleton.linesAbove`, `UaHeaders.Skeleton.linesBelow` — these lines of a skeleton.
* `UaHeaders.Skeleton.Regular` — skeletons whose texts are lines, and no such lines of their own.
* `UaHeaders.Sections` — paragraphs with their frame lines.

## Main results

* `UaHeaders.Skeleton.Regular.sections_top`, `UaHeaders.Skeleton.Regular.sections_bottom` — the
  sections of a frame.
* `UaHeaders.Target.regular_skeleton` — the frames of all headers are regular.
-/

set_option autoImplicit false

namespace UaHeaders

open Text

variable {s : Skeleton} {parts parts' ls ls' : List String} {part l : String} {w : Suppression}

/-! ## Frame lines -/

/-- **Whether a line does the work of a frame**: it is a pragma, opens or closes a namespace, or is a fence
of the formatter. -/
def isFrameLine (l : String) : Bool :=
  hasPrefix "#pragma " l || hasPrefix "namespace " l || hasPrefix "\x7d  // namespace " l ||
    hasPrefix "// clang-format " l

/-- A line that begins with another character is no frame line. -/
lemma isFrameLine_of_head {c : Char} (h : l.toList.head? = some c)
    (hc : c ∉ ['#', 'n', '\x7d', '/']) : isFrameLine l = false := by
  simp only [List.mem_cons, List.not_mem_nil, or_false, not_or] at hc
  rw [isFrameLine, hasPrefix_eq_false (show _ = some '#' by rw [String.toList_ofList]; rfl) h hc.1,
    hasPrefix_eq_false (show _ = some 'n' by rw [String.toList_ofList]; rfl) h hc.2.1,
    hasPrefix_eq_false (show _ = some '\x7d' by rw [String.toList_ofList]; rfl) h hc.2.2.1,
    hasPrefix_eq_false (show _ = some '/' by rw [String.toList_ofList]; rfl) h hc.2.2.2]
  rfl

/-! ## Sections -/

/-- **Sections of a frame**: paragraphs, with the frame lines in them. -/
structure Sections (parts ls : List String) : Prop where
  paragraph : ∀ part ∈ parts, Paragraph part
  frameLines : (parts.flatMap fun part => (lines part).filter isFrameLine) = ls

namespace Sections

/-- No sections have no frame lines. -/
lemma nil : Sections [] [] := ⟨by simp, rfl⟩

/-- Sections behind others. -/
lemma append (h : Sections parts ls) (h' : Sections parts' ls') :
    Sections (parts ++ parts') (ls ++ ls') := by
  refine ⟨List.forall_mem_append.2 ⟨h.paragraph, h'.paragraph⟩, ?_⟩
  rw [List.flatMap_append, h.frameLines, h'.frameLines]

/-- Lines that are joined are a section. -/
lemma joinLines (hone : ∀ l ∈ ls, OneLine l) (hne : ls ≠ []) (hhead : ls.head? ≠ some "")
    (hlast : ls.getLast? ≠ some "") : Sections [Text.joinLines ls] (ls.filter isFrameLine) := by
  refine ⟨by simpa using paragraph_joinLines hone hne hhead hlast, ?_⟩
  rw [List.flatMap_singleton, lines_joinLines hone hlast]

/-- A line is a section. -/
lemma line (h : OneLine l) (hne : l ≠ "") : Sections [l] ([l].filter isFrameLine) := by
  have hjoined : Text.joinLines [l] = l := String.intercalate_singleton
  have hsection : Sections [Text.joinLines [l]] _ :=
    joinLines (by simpa using h) (by simp) (by simpa using hne) (by simpa using hne)
  rwa [hjoined] at hsection

/-- A frame line is a section. -/
lemma frameLine (h : OneLine l) (hframe : isFrameLine l = true) : Sections [l] [l] := by
  have hne : l ≠ "" := by
    rintro rfl
    exact absurd hframe (by decide)
  have hsection := line h hne
  rwa [List.filter_cons_of_pos hframe, List.filter_nil] at hsection

/-- Sections that are there or not. -/
lemma ite {p : Prop} [Decidable p] (h : p → Sections parts ls) :
    Sections (if p then parts else []) (if p then ls else []) := by
  split_ifs with hp
  · exact h hp
  · exact nil

end Sections

/-! ## Skeletons -/

/-- The frame lines that silence a warning. -/
def Suppression.openingFrame (w : Suppression) : List String :=
  ["#pragma GCC diagnostic push", "#pragma GCC diagnostic ignored \"" ++ w.flag ++ "\""]

namespace Skeleton

/-- **The frame lines above the body.** -/
def linesAbove (s : Skeleton) : List String :=
  ["#pragma once"] ++ (s.suppression.map Suppression.openingFrame).getD [] ++ [s.scopeOpening] ++
    (if s.fenced then ["// clang-format off"] else [])

/-- **The frame lines below the body.** -/
def linesBelow (s : Skeleton) : List String :=
  (if s.fenced then ["// clang-format on"] else []) ++ [s.scopeClosing] ++
    (s.suppression.map fun _ => ["#pragma GCC diagnostic pop"]).getD []

/-- **A skeleton whose texts are lines**, and bring no frame lines of their own. -/
structure Regular (s : Skeleton) : Prop where
  includes : ∀ file ∈ s.includes, OneLine file
  scope : OneLine s.scope
  flag : ∀ w ∈ s.suppression, OneLine w.flag
  reason : ∀ w ∈ s.suppression, ∀ l ∈ w.reason, OneLine l ∧ isFrameLine ("// " ++ l) = false
  preamble : ∀ part ∈ s.preamble, Sections [part] []

/-- The section that silences a warning.

**Proof sketch.** The reason is commented out line by line, so only the lines behind it belong to the
frame; and each of them is one line, as the flag is. -/
lemma Regular.sections_opening (h : s.Regular) (hw : w ∈ s.suppression) :
    Sections [w.opening] w.openingFrame := by
  have hcomment : OneLine "// " := oneLine_ofList (by decide)
  have hignored : OneLine ("#pragma GCC diagnostic ignored \"" ++ w.flag ++ "\"") :=
    OneLine.append (OneLine.append (oneLine_ofList (by decide)) (h.flag w hw))
      (oneLine_ofList (by decide))
  have hone : ∀ l ∈ (w.reason.map fun line => "// " ++ line) ++
      ["#ifndef _MSC_VER", "#pragma GCC diagnostic push",
        "#pragma GCC diagnostic ignored \"" ++ w.flag ++ "\"", "#endif"], OneLine l := by
    rw [List.forall_mem_append, List.forall_mem_map]
    refine ⟨fun l hl => hcomment.append (h.reason w hw l hl).1, ?_⟩
    simp only [List.forall_mem_cons]
    exact ⟨oneLine_ofList (by decide), oneLine_ofList (by decide), hignored,
      oneLine_ofList (by decide), by simp⟩
  have hreason : (w.reason.map fun line => "// " ++ line).filter isFrameLine = [] := by
    rw [List.filter_eq_nil_iff, List.forall_mem_map]
    intro l hl
    simp [(h.reason w hw l hl).2]
  have hhead : ((w.reason.map fun line => "// " ++ line) ++
      ["#ifndef _MSC_VER", "#pragma GCC diagnostic push",
        "#pragma GCC diagnostic ignored \"" ++ w.flag ++ "\"", "#endif"]).head? ≠ some "" := by
    rcases w.reason with _ | ⟨l, ls⟩ <;> simp
  have hsection := Sections.joinLines hone (by simp) hhead (by simp)
  rw [List.filter_append, hreason] at hsection
  refine ⟨hsection.paragraph, hsection.frameLines.trans ?_⟩
  simp [Suppression.openingFrame, isFrameLine, hasPrefix]

/-- The section that ends the silence. -/
lemma sections_closing : Sections [Suppression.closing] ["#pragma GCC diagnostic pop"] := by
  have hone : ∀ l ∈ ["#ifndef _MSC_VER", "#pragma GCC diagnostic pop", "#endif"], OneLine l := by
    simp only [List.forall_mem_cons]
    exact ⟨oneLine_ofList (by decide), oneLine_ofList (by decide), oneLine_ofList (by decide),
      by simp⟩
  have hsection := Sections.joinLines hone (by simp) (by simp) (by simp)
  refine ⟨hsection.paragraph, hsection.frameLines.trans ?_⟩
  simp [isFrameLine, hasPrefix]

/-- The banner is a section without frame lines. -/
lemma sections_banner : Sections [banner] [] := by
  obtain ⟨hparagraph, hcomment⟩ := paragraph_banner
  refine ⟨by simpa using hparagraph, ?_⟩
  rw [List.flatMap_singleton, List.filter_eq_nil_iff]
  intro l hl
  obtain ⟨cs, hcs⟩ := hcomment l hl
  simp [isFrameLine, hasPrefix, hcs]

/-- The include lines are a section without frame lines. -/
lemma Regular.sections_includes (h : s.Regular) : Sections s.includeSection [] := by
  have hinclude : OneLine "#include " := oneLine_ofList (by decide)
  rw [includeSection]
  by_cases hempty : s.includes = []
  · simpa [hempty] using Sections.nil
  · have hone : ∀ l ∈ s.includes.map fun file => "#include " ++ file, OneLine l := by
      rw [List.forall_mem_map]
      exact fun file hfile => hinclude.append (h.includes file hfile)
    have hsection := Sections.joinLines hone (by simpa using hempty) (by simp) (by simp)
    rw [if_neg (by simpa using hempty)]
    refine ⟨hsection.paragraph, hsection.frameLines.trans ?_⟩
    rw [List.filter_eq_nil_iff, List.forall_mem_map]
    simp [isFrameLine, hasPrefix]

/-- **The sections above the body.** -/
lemma Regular.sections_top (h : s.Regular) : Sections s.top s.linesAbove := by
  have hpragma : Sections ["#pragma once"] ["#pragma once"] :=
    Sections.frameLine (oneLine_ofList (by decide)) (by decide)
  have hopening : Sections [s.scopeOpening] [s.scopeOpening] := by
    have hstart : hasPrefix "namespace " s.scopeOpening = true := by
      rw [scopeOpening, String.append_assoc]
      exact hasPrefix_append _ _
    refine Sections.frameLine ?_ (by simp [isFrameLine, hstart])
    exact OneLine.append (OneLine.append (oneLine_ofList (by decide)) h.scope)
      (oneLine_ofList (by decide))
  have hfence : Sections ["// clang-format off"] ["// clang-format off"] :=
    Sections.frameLine (oneLine_ofList (by decide)) (by decide)
  have hsilence : Sections (s.suppression.map Suppression.opening).toList
      ((s.suppression.map Suppression.openingFrame).getD []) := by
    rcases hw : s.suppression with _ | w
    · exact Sections.nil
    · exact h.sections_opening hw
  have hpreamble : Sections s.preamble.toList [] := by
    rcases hpart : s.preamble with _ | part
    · exact Sections.nil
    · exact h.preamble part hpart
  have hall := (((((sections_banner.append hpragma).append h.sections_includes).append
    hsilence).append hopening).append hpreamble).append (Sections.ite fun _ : s.fenced = true => hfence)
  simpa [top, linesAbove] using hall

/-- **The sections below the body.** -/
lemma Regular.sections_bottom (h : s.Regular) : Sections s.bottom s.linesBelow := by
  have hclosing : Sections [s.scopeClosing] [s.scopeClosing] := by
    have hstart : hasPrefix "\x7d  // namespace " s.scopeClosing = true := hasPrefix_append _ _
    refine Sections.frameLine ?_ (by simp [isFrameLine, hstart])
    exact OneLine.append (oneLine_ofList (by decide)) h.scope
  have hfence : Sections ["// clang-format on"] ["// clang-format on"] :=
    Sections.frameLine (oneLine_ofList (by decide)) (by decide)
  have hsilence : Sections (s.suppression.map fun _ => Suppression.closing).toList
      ((s.suppression.map fun _ => ["#pragma GCC diagnostic pop"]).getD []) := by
    rcases s.suppression with _ | w
    · exact Sections.nil
    · exact sections_closing
  exact ((Sections.ite fun _ : s.fenced = true => hfence).append hclosing).append hsilence

end Skeleton

/-! ## The frames of the headers -/

/-- The preamble of the node ids is a section without frame lines. -/
lemma sections_preamble : Sections [NodeIdTable.preamble] [] := by
  have hone : ∀ l ∈ ["/**", " * @defgroup NodeIds Generated NodeIds",
      " * Numeric NodeIds defined by the OPC UA specification.",
      " * @see https://reference.opcfoundation.org/Core/Part6/v105/docs/A.3", " */"],
      OneLine l := by
    simp only [List.forall_mem_cons]
    exact ⟨oneLine_ofList (by decide), oneLine_ofList (by decide), oneLine_ofList (by decide),
      oneLine_ofList (by decide), oneLine_ofList (by decide), by simp⟩
  have hsection := Sections.joinLines hone (by simp) (by simp) (by simp)
  refine ⟨hsection.paragraph, hsection.frameLines.trans ?_⟩
  simp [isFrameLine, hasPrefix]

/-- **The frames of all headers are regular.** -/
lemma Target.regular_skeleton (target : Target) : target.skeleton.Regular := by
  cases target with
  | attributes =>
    refine ⟨?_, oneLine_ofList (by decide), by simp [skeleton], by simp [skeleton], by simp [skeleton]⟩
    simp only [skeleton, List.forall_mem_cons]
    exact ⟨oneLine_ofList (by decide), by simp⟩
  | typeRegistry =>
    refine ⟨?_, oneLine_ofList (by decide), by simp [skeleton], by simp [skeleton], by simp [skeleton]⟩
    simp only [skeleton, List.forall_mem_cons]
    exact ⟨oneLine_ofList (by decide), oneLine_ofList (by decide), by simp⟩
  | typeConverter =>
    refine ⟨?_, oneLine_ofList (by decide), by simp [skeleton], by simp [skeleton], by simp [skeleton]⟩
    simp only [skeleton, List.forall_mem_cons]
    exact ⟨oneLine_ofList (by decide), oneLine_ofList (by decide), by simp⟩
  | nodeIds =>
    refine ⟨?_, oneLine_ofList (by decide), ?_, ?_, ?_⟩
    · simp only [skeleton, List.forall_mem_cons]
      exact ⟨oneLine_ofList (by decide), by simp⟩
    · rintro w ⟨⟩
      exact oneLine_ofList (by decide)
    · rintro w ⟨⟩
      simp only [Suppression.gccShadow, List.forall_mem_cons]
      exact ⟨⟨oneLine_ofList (by decide), by decide⟩, ⟨oneLine_ofList (by decide), by decide⟩, by simp⟩
    · rintro part ⟨⟩
      exact sections_preamble

end UaHeaders
