import Mathlib.Computability.RegularExpressions
import UaHeaders.Text.Identifier

/-!
# The names that are identifiers

Identifiers are the texts that match `[A-Za-z_][A-Za-z0-9_]*`. The expression is put together from ranges of
characters, as it is written.

## Main definitions

* `UaHeaders.Text.identifierExpression` — the regular expression of identifiers.

## Main results

* `UaHeaders.Text.isIdentifier_iff` — identifiers are the texts that match.
-/

set_option autoImplicit false

namespace UaHeaders.Text

variable {c start stop : Char} {cs w : List Char} {s : String}

/-! ## Ranges of characters -/

/-- The characters from one to another. -/
def charsFrom (start stop : Char) : List Char :=
  (List.range' start.toNat (stop.toNat + 1 - start.toNat)).map Char.ofNat

/-- A range holds the characters between its ends, as long as it does not run into surrogates. -/
lemma mem_charsFrom (hstop : stop.toNat < 0xD800) : c ∈ charsFrom start stop ↔ start ≤ c ∧ c ≤ stop := by
  have horder : start ≤ c ∧ c ≤ stop ↔ start.toNat ≤ c.toNat ∧ c.toNat ≤ stop.toNat := Iff.rfl
  rw [horder, charsFrom, List.mem_map]
  constructor
  · rintro ⟨n, hn, rfl⟩
    rw [List.mem_range'_1] at hn
    have hvalid : n.isValidChar := .inl (by omega)
    have htoNat : (Char.ofNat n).toNat = n := by
      rw [Char.ofNat, dif_pos hvalid]
      rfl
    rw [htoNat]
    omega
  · intro hc
    exact ⟨c.toNat, by rw [List.mem_range'_1]; omega, Char.ofNat_toNat c⟩

/-! ## Expressions -/

/-- **One of some characters.** -/
def oneOf (cs : List Char) : RegularExpression Char := (cs.map RegularExpression.char).sum

/-- What matches is one of the characters. -/
lemma mem_matches_oneOf : w ∈ (oneOf cs).matches' ↔ ∃ c ∈ cs, w = [c] := by
  induction cs with
  | nil => simp [oneOf, Language.notMem_zero]
  | cons c cs ih =>
    rw [oneOf, List.map_cons, List.sum_cons, RegularExpression.matches'_add, Language.mem_add,
      ← oneOf, ih, RegularExpression.matches'_char, List.exists_mem_cons_iff]
    exact Iff.rfl

/-- What matches again and again holds no other characters. -/
lemma mem_matches_star_oneOf : w ∈ (oneOf cs).star.matches' ↔ ∀ c ∈ w, c ∈ cs := by
  rw [RegularExpression.matches'_star, Language.mem_kstar]
  constructor
  · rintro ⟨parts, rfl, hparts⟩ c hc
    obtain ⟨part, hpart, hc⟩ := List.mem_flatten.1 hc
    obtain ⟨d, hd, rfl⟩ := mem_matches_oneOf.1 (hparts part hpart)
    rwa [List.mem_singleton.1 hc]
  · intro h
    refine ⟨w.map fun c => [c], by rw [← List.flatMap_def, List.flatMap_singleton'], fun part hpart => ?_⟩
    obtain ⟨c, hc, rfl⟩ := List.mem_map.1 hpart
    exact mem_matches_oneOf.2 ⟨c, h c hc, rfl⟩

/-- **The expression of identifiers**, `[A-Za-z_][A-Za-z0-9_]*`. -/
def identifierExpression : RegularExpression Char :=
  oneOf (charsFrom 'A' 'Z' ++ charsFrom 'a' 'z' ++ ['_']) *
    (oneOf (charsFrom 'A' 'Z' ++ charsFrom 'a' 'z' ++ charsFrom '0' '9' ++ ['_'])).star

/-- The characters that may begin an identifier. -/
lemma isIdentifierStart_iff :
    isIdentifierStart c = true ↔ c ∈ charsFrom 'A' 'Z' ++ charsFrom 'a' 'z' ++ ['_'] := by
  simp only [isIdentifierStart, Bool.or_eq_true, Bool.and_eq_true, decide_eq_true_eq, beq_iff_eq,
    List.mem_append, List.mem_singleton]
  rw [mem_charsFrom (by decide), mem_charsFrom (by decide)]
  exact or_congr_left or_comm

/-- The characters that may go on in an identifier. -/
lemma isIdentifierPart_iff :
    isIdentifierPart c = true ↔
      c ∈ charsFrom 'A' 'Z' ++ charsFrom 'a' 'z' ++ charsFrom '0' '9' ++ ['_'] := by
  rw [isIdentifierPart, Bool.or_eq_true, isIdentifierStart_iff]
  simp only [Bool.and_eq_true, decide_eq_true_eq, List.mem_append, List.mem_singleton]
  rw [mem_charsFrom (by decide : ('9' : Char).toNat < 0xD800), or_right_comm]

/-- **Identifiers are the texts that match.** -/
theorem isIdentifier_iff : isIdentifier s = true ↔ s.toList ∈ identifierExpression.matches' := by
  rw [identifierExpression, RegularExpression.matches'_mul, Language.mem_mul]
  unfold isIdentifier
  constructor
  · intro h
    split at h
    · cases h
    · next c cs hcs =>
      rw [Bool.and_eq_true, List.all_eq_true] at h
      refine ⟨[c], mem_matches_oneOf.2 ⟨c, isIdentifierStart_iff.1 h.1, rfl⟩, cs, ?_, hcs.symm⟩
      exact mem_matches_star_oneOf.2 fun d hd => isIdentifierPart_iff.1 (h.2 d hd)
  · rintro ⟨first, hfirst, rest, hrest, heq⟩
    obtain ⟨c, hc, rfl⟩ := mem_matches_oneOf.1 hfirst
    rw [← heq, List.singleton_append]
    simp only
    rw [Bool.and_eq_true, List.all_eq_true]
    exact ⟨isIdentifierStart_iff.2 hc,
      fun d hd => isIdentifierPart_iff.2 (mem_matches_star_oneOf.1 hrest d hd)⟩

end UaHeaders.Text
