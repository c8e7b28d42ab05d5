import Mathlib.Tactic
import UaHeaders.Files.Path

/-!
# The paths above a path

## Main results

* `UaHeaders.Path.ancestors_of_parent?` — the paths above are those above the parent, after itself.
-/

set_option autoImplicit false

namespace UaHeaders.Path

variable {p q : Path} {cs up : List Char}

/-- The reversed characters of a path made from reversed characters. -/
@[simp] lemma reverse_toList_ofRev (cs : List Char) : (ofRev cs).text.toList.reverse = cs := by
  simp [ofRev]

/-- The paths above, one step further. -/
lemma ancestorsRev_of_parentRev? (h : parentRev? cs = some up) :
    ancestorsRev cs = up :: ancestorsRev up := by
  rw [ancestorsRev]
  split
  · next hn => simp [h] at hn
  · next up' hs =>
    obtain rfl : up = up' := by simpa [h] using hs
    rfl

/-- **The paths above a path** are those above its parent, after the path itself. -/
lemma ancestors_of_parent? (h : p.parent? = some q) : p.ancestors = p :: q.ancestors := by
  obtain ⟨up, hup, rfl⟩ := Option.map_eq_some_iff.1 h
  simp [ancestors, ancestorsRev_of_parentRev? hup]

end UaHeaders.Path
