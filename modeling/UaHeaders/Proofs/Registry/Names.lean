import UaHeaders.Proofs.Distinct
import UaHeaders.Proofs.Text.Lines
import UaHeaders.Registry.Exclusion
import UaHeaders.Text.Casing

/-!
# Names in schema files

The names of a schema file are trimmed lines, so they have no line end in them, and neither have the
texts that are made of them.

## Main results

* `UaHeaders.mem_ascending`, `UaHeaders.nodup_ascending` — names in ascending order.
* `UaHeaders.SchemaFile.mem_identifiers` — the names of a schema file.
* `UaHeaders.SchemaFile.oneLine_of_mem` — a name of a schema file is one line.
* `UaHeaders.Text.oneLine_of_isIdentifier` — an identifier is one line.
-/

set_option autoImplicit false

namespace UaHeaders

open Text

variable {name l k : String} {names : List String}

/-- Ordering keeps the names. -/
lemma mem_ascending : name ∈ ascending names ↔ name ∈ names := by
  simp [ascending, mem_distinct]

/-- Ordering leaves each name once. -/
lemma nodup_ascending (names : List String) : (ascending names).Nodup := nodup_distinct _ _

/-! ## Texts made of lines -/

namespace Text

/-- Upper case touches letters only. -/
lemma upperAsciiChar_eq_iff {c d : Char} (hd : d.toNat < 65) : upperAsciiChar c = d ↔ c = d := by
  unfold upperAsciiChar
  split_ifs with hc
  · have hlow : 97 ≤ c.toNat := UInt32.le_iff_toNat_le.1 hc.1
    have hhigh : c.toNat ≤ 122 := UInt32.le_iff_toNat_le.1 hc.2
    have hvalid : (c.toNat - 32).isValidChar := .inl (by omega)
    have hupper : (Char.ofNat (c.toNat - 32)).toNat = c.toNat - 32 := by
      rw [Char.ofNat, dif_pos hvalid]
      rfl
    constructor
    · rintro rfl
      omega
    · rintro rfl
      omega
  · rfl

/-- A line in upper case is one line. -/
lemma OneLine.upperAscii (h : OneLine l) : OneLine (upperAscii l) := by
  constructor
  · rw [Text.upperAscii, String.toList_ofList, List.mem_map]
    rintro ⟨c, hc, hfeed⟩
    rw [upperAsciiChar_eq_iff (by decide)] at hfeed
    exact h.noFeed (hfeed ▸ hc)
  · rw [Text.upperAscii, String.toList_ofList, List.getLast?_map]
    intro hlast
    obtain ⟨c, hc, hreturn⟩ := Option.map_eq_some_iff.1 hlast
    rw [upperAsciiChar_eq_iff (by decide)] at hreturn
    exact h.noReturn (hreturn ▸ hc)

/-- **An identifier is one line**, and not empty. -/
lemma oneLine_of_isIdentifier (h : isIdentifier l = true) : OneLine l ∧ l ≠ "" := by
  have hpart : ∀ c ∈ l.toList, isIdentifierPart c = true := by
    unfold isIdentifier at h
    split at h
    · simp at h
    · next c cs hcs =>
      rw [Bool.and_eq_true, List.all_eq_true] at h
      rw [hcs, List.forall_mem_cons]
      exact ⟨by simp [isIdentifierPart, h.1], h.2⟩
  refine ⟨⟨fun hfeed => absurd (hpart _ hfeed) (by decide), fun hlast =>
    absurd (hpart _ (List.mem_of_getLast? hlast)) (by decide)⟩, ?_⟩
  rintro rfl
  exact absurd h (by decide)

end Text

/-! ## Schema files -/

/-- **Which names a schema file has**: its trimmed lines, but for empty ones. -/
lemma SchemaFile.mem_identifiers {source : SchemaSource} {content : String} :
    name ∈ (SchemaFile.parse source content).identifiers ↔
      name ≠ "" ∧ ∃ line ∈ lines content, trim line = name := by
  rw [SchemaFile.parse, SchemaFile.identifiersOf, mem_distinct, List.mem_filter, List.mem_map]
  simp [and_comm]

/-- **A name of a schema file is one line**, and not empty. -/
lemma SchemaFile.oneLine_of_mem {source : SchemaSource} {content : String}
    (h : name ∈ (SchemaFile.parse source content).identifiers) : OneLine name ∧ name ≠ "" := by
  obtain ⟨hne, line, hline, rfl⟩ := SchemaFile.mem_identifiers.1 h
  exact ⟨oneLine_trim (noFeed_of_mem_lines hline), hne⟩

/-- Names that are not excluded. -/
lemma Exclusions.mem_retain {exclusions : Exclusions} :
    name ∈ exclusions.retain names ↔ name ∈ names ∧ exclusions.contains name = false := by
  simp [retain]

end UaHeaders
