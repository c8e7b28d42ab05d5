import Mathlib.Data.String.Basic

/-!
# The order of octets

Texts are ordered by their characters. In UTF-8 this is the order of the octets as well: a later
character has a larger octet where the two first differ, and neither is the beginning of the other.

## Main definitions

* `UaHeaders.Text.octets` — the octets of a text.

## Main results

* `UaHeaders.Text.octets_lt_iff` — texts come in the order of their octets.
-/

set_option autoImplicit false

namespace UaHeaders.Text

variable {c d : Char} {s t : String}

/-- The octets of a text in UTF-8. -/
def octets (s : String) : List UInt8 := s.toUTF8.data.toList

/-- The octets of a text are those of its characters. -/
lemma octets_eq_flatMap (s : String) : octets s = s.toList.flatMap String.utf8EncodeChar := by
  rw [octets, String.toUTF8_eq_toByteArray, ← String.utf8Encode_toList, List.utf8Encode,
    List.data_toByteArray, List.toList_toArray]

/-- Characters end at `U+10FFFF`. -/
lemma val_toNat_lt (c : Char) : c.val.toNat < 0x110000 := by
  rcases c.valid with h | h
  · exact lt_of_lt_of_le h (by decide)
  · exact h.2

/-- **A later character has later octets**, whatever follows.

**Proof sketch.** By how many octets the two characters have. If they have the same number, the first
bits that differ decide; otherwise the first octet does, which tells how many there are. -/
lemma utf8EncodeChar_lt (h : c < d) (as bs : List UInt8) :
    String.utf8EncodeChar c ++ as < String.utf8EncodeChar d ++ bs := by
  have hval : c.val.toNat < d.val.toNat := h
  have hc := val_toNat_lt c
  have hd := val_toNat_lt d
  unfold String.utf8EncodeChar
  dsimp only
  generalize c.val.toNat = m at hval hc
  generalize d.val.toNat = n at hval hd
  -- the six bits of an octet are cut off one after the other
  have hcut : ∀ v, v / 4096 = v / 64 / 64 ∧ v / 262144 = v / 64 / 64 / 64 := by
    intro v
    simp only [Nat.div_div_eq_div_mul, true_and]
  split_ifs <;>
    simp (disch := omega) only [List.cons_append, List.nil_append, List.cons_lt_cons_iff,
      UInt8.lt_iff_toNat_lt, ← UInt8.toNat_inj, UInt8.toNat_ofNat', hcut, Nat.reducePow,
      Nat.mod_eq_of_lt (b := 256)] <;>
    omega

/-- Characters that come in order have octets that do. -/
lemma flatMap_utf8EncodeChar_lt {cs ds : List Char} (h : cs < ds) :
    cs.flatMap String.utf8EncodeChar < ds.flatMap String.utf8EncodeChar := by
  induction h with
  | @nil d ds =>
    obtain ⟨a, as, hd⟩ := List.exists_cons_of_ne_nil (String.utf8EncodeChar_ne_nil (c := d))
    rw [List.flatMap_nil, List.flatMap_cons, hd]
    exact List.nil_lt_cons a _
  | @cons c cs ds _ ih =>
    rw [List.flatMap_cons, List.flatMap_cons]
    exact List.append_left_lt ih
  | @rel c cs d ds h =>
    rw [List.flatMap_cons, List.flatMap_cons]
    exact utf8EncodeChar_lt h _ _

/-- **Texts come in the order of their octets.** -/
lemma octets_lt_iff : octets s < octets t ↔ s < t := by
  have hlt : ∀ {s t : String}, s < t → octets s < octets t := by
    intro s t h
    rw [octets_eq_flatMap, octets_eq_flatMap]
    exact flatMap_utf8EncodeChar_lt h
  refine ⟨fun h => ?_, hlt⟩
  rcases lt_trichotomy s t with hst | rfl | hts
  · exact hst
  · exact absurd h (List.lt_irrefl _)
  · exact absurd h (List.lt_asymm (hlt hts))

end UaHeaders.Text
