/-!
# Text from octets

Captured output and file contents arrive as octets. `decode?` reads them as UTF-8 and refuses what is
not; `decodeLossy` reads on and puts one replacement character for each maximal broken sequence.

## Main definitions

* `UaHeaders.Text.decode?` — the text, if the octets are UTF-8.
* `UaHeaders.Text.decodeLossy` — the text with broken sequences replaced.
-/

set_option autoImplicit false

namespace UaHeaders.Text

/-- The text the octets spell in UTF-8, if they do. -/
def decode? (octets : ByteArray) : Option String := String.fromUTF8? octets

/-- How a sequence goes on after its first octet: the number of octets still owed, the bounds of the
next one, and the bits the first one gives. -/
def leadOctet (b : Nat) : Option (Nat × Nat × Nat × Nat) :=
  if b < 0x80 then some (0, 0, 0, b)
  else if 0xC2 ≤ b ∧ b ≤ 0xDF then some (1, 0x80, 0xBF, b - 0xC0)
  else if b = 0xE0 then some (2, 0xA0, 0xBF, 0)
  else if b = 0xED then some (2, 0x80, 0x9F, 0xD)
  else if 0xE1 ≤ b ∧ b ≤ 0xEF then some (2, 0x80, 0xBF, b - 0xE0)
  else if b = 0xF0 then some (3, 0x90, 0xBF, 0)
  else if 0xF1 ≤ b ∧ b ≤ 0xF3 then some (3, 0x80, 0xBF, b - 0xF0)
  else if b = 0xF4 then some (3, 0x80, 0x8F, 4)
  else none

/-- Takes `owed` continuation octets, the first of them between `low` and `high`. Answers the character
or the replacement, and the rest. -/
def takeTail : Nat → Nat → Nat → Nat → List UInt8 → Char × List UInt8
  | 0, _, _, bits, rest => (Char.ofNat bits, rest)
  | _ + 1, _, _, _, [] => ('\uFFFD', [])
  | owed + 1, low, high, bits, b :: rest =>
    if low ≤ b.toNat ∧ b.toNat ≤ high then
      takeTail owed 0x80 0xBF (bits * 64 + (b.toNat - 0x80)) rest
    else ('\uFFFD', b :: rest)

/-- What `takeTail` leaves is no longer than what it was given. -/
theorem length_takeTail_le (owed low high bits : Nat) (octets : List UInt8) :
    (takeTail owed low high bits octets).2.length ≤ octets.length := by
  induction octets generalizing owed low high bits with
  | nil => cases owed <;> simp [takeTail]
  | cons b rest ih =>
    cases owed with
    | zero => simp [takeTail]
    | succ owed =>
      simp only [takeTail]
      split
      · exact Nat.le_trans (ih ..) (by simp)
      · simp

/-- The characters the octets spell; each maximal broken sequence gives one replacement character. -/
def lossyChars : List UInt8 → List Char
  | [] => []
  | b :: rest =>
    match leadOctet b.toNat with
    | none => '\uFFFD' :: lossyChars rest
    | some (owed, low, high, bits) =>
      (takeTail owed low high bits rest).1 :: lossyChars (takeTail owed low high bits rest).2
termination_by octets => octets.length
decreasing_by
  · simp
  · exact Nat.lt_succ_of_le (length_takeTail_le ..)

/-- **The text the octets spell**, with `U+FFFD` for what is not UTF-8. -/
def decodeLossy (octets : ByteArray) : String :=
  match decode? octets with
  | some s => s
  | none => String.ofList (lossyChars octets.toList)

end UaHeaders.Text
