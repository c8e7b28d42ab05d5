import UaHeaders.Text.Blank
import UaHeaders.Text.Lines

/-!
# The frame of a generated header

A header is a fixed frame around a body. The frame consists of sections with one blank line between
them: a banner, the include lines, the opening of a namespace and what belongs to it, and the same
things closed again below the body. The body is the fragments that were rendered, with one blank line
between them.

## Main definitions

* `UaHeaders.Skeleton` — what the frame of one header is made of.
* `UaHeaders.bareMarksRemoved` — a text without comment lines that say nothing.
* `UaHeaders.Skeleton.body` — the body for some fragments.
* `UaHeaders.Skeleton.assemble` — the whole text.
-/

set_option autoImplicit false

namespace UaHeaders

/-! ## Banner -/

/-- How many characters a line of the banner has. -/
def bannerWidth : Nat := 100

/-- What the banner says. -/
def bannerTitle : String := "Generated - do not modify!"

/-- A character repeated. -/
def replicateText (n : Nat) (c : Char) : String := String.ofList (List.replicate n c)

/-- **The banner**: its title in the middle of a line between two rules. -/
def banner : String :=
  let inner := bannerWidth - 4
  let free := inner - bannerTitle.length
  let rule := "/* " ++ replicateText (inner - 2) '-' ++ " */"
  let title := "/*" ++ replicateText (free / 2) ' ' ++ bannerTitle ++
    replicateText (free - free / 2) ' ' ++ "*/"
  Text.joinLines [rule, title, rule]

/-! ## Frame -/

/-- **A warning of the compiler that is silenced around the body**, with the reason as comment lines. -/
structure Suppression where
  flag : String
  reason : List String
  deriving DecidableEq, Inhabited

namespace Suppression

/-- The warning about an enumerator that has the name of a type. -/
def gccShadow : Suppression where
  flag := "-Wshadow"
  reason :=
    ["ignore (false-positive?) warning of GCC:",
      "declaration of 'MonitoringParameters' shadows a global declaration"]

/-- The section that silences the warning. -/
def opening (s : Suppression) : String :=
  Text.joinLines
    (s.reason.map (fun line => "// " ++ line) ++
      ["#ifndef _MSC_VER",
        "#pragma GCC diagnostic push",
        "#pragma GCC diagnostic ignored \"" ++ s.flag ++ "\"",
        "#endif"])

/-- The section that ends the silence. -/
def closing : String :=
  Text.joinLines ["#ifndef _MSC_VER", "#pragma GCC diagnostic pop", "#endif"]

end Suppression

/-- **What the frame of a header is made of.** -/
structure Skeleton where
  /-- The files to include, with their quotes or angle brackets. -/
  includes : List String := []
  /-- The name of the namespace. -/
  scope : String
  /-- A warning to silence. -/
  suppression : Option Suppression := none
  /-- A section in front of the body. -/
  preamble : Option String := none
  /-- Whether the body is closed to the formatter. -/
  fenced : Bool := false
  deriving DecidableEq, Inhabited

/-! ## Body -/

/-- Whether a comment line holds nothing but its continuation mark. -/
def isBareMark (line : String) : Bool := Text.trim line == "*"

/-- **A text without the comment lines that hold nothing but their mark.** -/
def bareMarksRemoved (text : String) : String :=
  Text.joinLines ((Text.lines text).filter fun line => !isBareMark line)

/-- Sections with one blank line between them. -/
def joinSections (sections : List String) : String := "\n\n".intercalate sections

namespace Skeleton

/-- **The body for some fragments**: those with text in them, with one blank line between. -/
def body (fragments : List String) : String :=
  bareMarksRemoved
    (joinSections ((fragments.map Text.trimNewlines).filter fun fragment => !fragment.isEmpty))

/-! ## Assembly -/

/-- The include lines, a section if there are any. -/
def includeSection (s : Skeleton) : List String :=
  if s.includes.isEmpty then []
  else [Text.joinLines (s.includes.map fun file => "#include " ++ file)]

/-- The line that opens the namespace. -/
def scopeOpening (s : Skeleton) : String := "namespace " ++ s.scope ++ " \x7b"

/-- The line that closes the namespace. -/
def scopeClosing (s : Skeleton) : String := "\x7d  // namespace " ++ s.scope

/-- **The sections above the body.** -/
def top (s : Skeleton) : List String :=
  [banner, "#pragma once"] ++ s.includeSection ++ (s.suppression.map Suppression.opening).toList ++
    [s.scopeOpening] ++ s.preamble.toList ++ (if s.fenced then ["// clang-format off"] else [])

/-- **The sections below the body.** -/
def bottom (s : Skeleton) : List String :=
  (if s.fenced then ["// clang-format on"] else []) ++ [s.scopeClosing] ++
    (s.suppression.map fun _ => Suppression.closing).toList

/-- **The text of a header.** An empty body is no section. -/
def assemble (s : Skeleton) (fragments : List String) : String :=
  let content := body fragments
  joinSections (s.top ++ (if content.isEmpty then [] else [content]) ++ s.bottom) ++ "\n"

end Skeleton

end UaHeaders
