import UaHeaders.NodeIds.Table
import UaHeaders.Proofs.Distinct
import UaHeaders.Proofs.Lists
import UaHeaders.Proofs.Registry.Names
import UaHeaders.Proofs.Text.LineEnds

/-!
# The grammar of node id tables

A table is read line by line. A line is a row if it has three columns set apart by commas and the second
is a numeral: decimal digits, perhaps behind one plus sign, whose value has 32 bits. A text is a table
exactly if each of its lines is a row; otherwise the first line that is none is to blame, whatever
stands below it.

## Main definitions

* `UaHeaders.Columns` — a line and its columns.
* `UaHeaders.Denotes` — a numeral and its value.
* `UaHeaders.NodeIdTable.Row` — a line that is a row.
* `UaHeaders.NodeIdTable.Defect` — what is wrong with a line that is no row.
* `UaHeaders.NodeIdTable.Arranges` — how rows are arranged in a table.
* `UaHeaders.NodeIdTable.Reads` — what a table says of the lines it was read from.

## Main results

* `UaHeaders.readNodeId_eq_ok_iff`, `UaHeaders.numberDefect_of_readNodeId` — what is read as an id.
* `UaHeaders.NodeIdTable.parseRow_eq_ok_iff`, `UaHeaders.NodeIdTable.defect_of_parseRow` — what is read
  as a row.
* `UaHeaders.NodeIdTable.Arranges.push`, `UaHeaders.NodeIdTable.Arranges.foldl` — one more row, and all
  of them.
* `UaHeaders.NodeIdTable.parse_partitions` — what is read as a table, and how its rows are arranged.
-/

set_option autoImplicit false

namespace UaHeaders

open Text

variable {line text content : String} {columns : List String} {cs : List Char} {n value : Nat}
  {fault : NumberFault}

/-! ## Columns -/

/-- **A line and its columns**, which are set apart by commas and hold none. -/
structure Columns (line : String) (columns : List String) : Prop where
  joined : ",".intercalate columns = line
  noComma : ∀ column ∈ columns, ',' ∉ column.toList
  nonempty : columns ≠ []

/-- The parts between the commas of a line are its columns, and it has no others. -/
lemma fields_eq_iff : fields ',' line = columns ↔ Columns line columns := by
  constructor
  · rintro rfl
    constructor
    · rw [← String.toList_inj, String.toList_intercalate, fields, List.map_map]
      simp [Function.comp_def, List.intercalate_splitOn]
    · rw [fields, List.forall_mem_map]
      intro part hpart
      rw [String.toList_ofList]
      exact notMem_of_mem_splitOn hpart
    · simp [fields, List.splitOn_ne_nil]
  · rintro ⟨rfl, hcomma, hne⟩
    rw [fields, String.toList_intercalate,
      show ",".toList = [','] from rfl, List.splitOn_intercalate, List.map_map]
    · simp [Function.comp_def]
    · simpa using hcomma
    · simpa using hne

/-! ## Numerals -/

/-- **A numeral and its value**: digits, at least one, behind a plus sign or nothing. -/
def Denotes (text : String) (n : Nat) : Prop :=
  ∃ digits : List Char, (text.toList = digits ∨ text.toList = '+' :: digits) ∧ digits ≠ [] ∧
    (∀ c ∈ digits, c.isDigit) ∧ Nat.ofDigitChars 10 digits 0 = n ∧ n ≤ 4294967295

/-- **Why a text is no numeral.** What is no digit is to blame only if the digits before it do not make
too large a number already. -/
inductive NumberDefect (text : String) : NumberFault → Prop
  | empty : text = "" → NumberDefect text .empty
  | sign : text = "+" → NumberDefect text .invalidDigit
  | digit {digits rest : List Char} {c : Char} :
      text.toList = digits ++ c :: rest ∨ text.toList = '+' :: (digits ++ c :: rest) →
      (∀ d ∈ digits, d.isDigit) → Nat.ofDigitChars 10 digits 0 ≤ 4294967295 → ¬ c.isDigit →
      NumberDefect text .invalidDigit
  | value {digits rest : List Char} :
      text.toList = digits ++ rest ∨ text.toList = '+' :: (digits ++ rest) →
      (∀ d ∈ digits, d.isDigit) → 4294967295 < Nat.ofDigitChars 10 digits 0 →
      NumberDefect text .tooLarge

/-- The digits are the decimal ones. -/
lemma digitValue?_eq (c : Char) :
    digitValue? c = if c.isDigit then some (c.toNat - '0'.toNat) else none := by
  have hiff : ('0' ≤ c ∧ c ≤ '9') ↔ c.isDigit = true := by
    rw [Char.isDigit_iff_toNat]
    rfl
  simp only [digitValue?, hiff]

/-- More digits make no smaller number. -/
lemma le_ofDigitChars (cs : List Char) (value : Nat) : value ≤ Nat.ofDigitChars 10 cs value := by
  induction cs generalizing value with
  | nil => simp
  | cons c cs ih =>
    rw [Nat.ofDigitChars_cons]
    exact le_trans (by omega) (ih _)

/-- Digits are read on as long as they are digits and the number has 32 bits. -/
lemma readDigits_cons (value : Nat) (c : Char) (cs : List Char) :
    readDigits value (c :: cs) =
      if c.isDigit then
        if 10 * value + (c.toNat - '0'.toNat) ≤ 4294967295 then
          readDigits (10 * value + (c.toNat - '0'.toNat)) cs
        else .error .tooLarge
      else .error .invalidDigit := by
  rw [readDigits, digitValue?_eq, Nat.mul_comm 10 value]
  by_cases hdigit : c.isDigit
  · rw [if_pos hdigit, if_pos hdigit]
    rfl
  · rw [if_neg hdigit, if_neg hdigit]

/-- **What is read as digits**, behind digits that make a number of 32 bits.

**Proof sketch.** Induction on the characters. Once the number is too large, it stays so, whatever digits
follow. -/
lemma readDigits_eq_ok_iff (hvalue : value ≤ 4294967295) :
    readDigits value cs = .ok n ↔
      (∀ c ∈ cs, c.isDigit) ∧ Nat.ofDigitChars 10 cs value = n ∧ n ≤ 4294967295 := by
  induction cs generalizing value with
  | nil =>
    simp only [readDigits, Except.ok.injEq, List.not_mem_nil, false_imp_iff, implies_true, true_and,
      Nat.ofDigitChars_nil]
    exact ⟨fun h => ⟨h, h ▸ hvalue⟩, fun h => h.1⟩
  | cons c cs ih =>
    rw [readDigits_cons, List.forall_mem_cons, Nat.ofDigitChars_cons]
    split_ifs with hdigit hsmall
    · rw [ih hsmall]
      exact ⟨fun ⟨hcs, hn⟩ => ⟨⟨hdigit, hcs⟩, hn⟩, fun ⟨hcs, hn⟩ => ⟨hcs.2, hn⟩⟩
    · -- the number is too large already, and what follows makes it no smaller
      have hle := le_ofDigitChars cs (10 * value + (c.toNat - '0'.toNat))
      refine ⟨nofun, fun ⟨_, hn, hfits⟩ => ?_⟩
      omega
    · exact ⟨nofun, fun h => absurd h.1.1 hdigit⟩

/-- Why no digits are read: a character that is none, or a number that is too large.

**Proof sketch.** Induction on the characters, as for those that are read: the first character that is no
digit, or the first number that is too large, ends the reading. -/
lemma exists_of_readDigits_error (hvalue : value ≤ 4294967295)
    (h : readDigits value cs = .error fault) :
    (∃ digits c rest, cs = digits ++ c :: rest ∧ (∀ d ∈ digits, d.isDigit) ∧
        Nat.ofDigitChars 10 digits value ≤ 4294967295 ∧ ¬ c.isDigit ∧ fault = .invalidDigit) ∨
      ∃ digits rest, cs = digits ++ rest ∧ (∀ d ∈ digits, d.isDigit) ∧
        4294967295 < Nat.ofDigitChars 10 digits value ∧ fault = .tooLarge := by
  induction cs generalizing value with
  | nil => cases h
  | cons c cs ih =>
    rw [readDigits_cons] at h
    split_ifs at h with hdigit hlarge
    · rcases ih hlarge h with ⟨digits, d, rest, rfl, hdigits, hsmall, hd, hfault⟩ |
        ⟨digits, rest, rfl, hdigits, hbig, hfault⟩
      · exact .inl ⟨c :: digits, d, rest, rfl, List.forall_mem_cons.2 ⟨hdigit, hdigits⟩,
          by rwa [Nat.ofDigitChars_cons], hd, hfault⟩
      · exact .inr ⟨c :: digits, rest, rfl, List.forall_mem_cons.2 ⟨hdigit, hdigits⟩,
          by rwa [Nat.ofDigitChars_cons], hfault⟩
    · obtain rfl : NumberFault.tooLarge = fault := by simpa using h
      exact .inr ⟨[c], cs, rfl, by simpa using hdigit, by
        rwa [Nat.ofDigitChars_cons, Nat.ofDigitChars_nil, ← not_le], rfl⟩
    · obtain rfl : NumberFault.invalidDigit = fault := by simpa using h
      exact .inl ⟨[], c, cs, rfl, by simp, by simpa using hvalue, hdigit, rfl⟩

/-- The sign is no digit, so a numeral is read behind it or from its first character. -/
lemma readNodeId_cases (text : String) :
    text = "" ∧ readNodeId text = .error .empty ∨
      text = "+" ∧ readNodeId text = .error .invalidDigit ∨
      ∃ cs, cs ≠ [] ∧ (text.toList = cs ∧ cs.head? ≠ some '+' ∨ text.toList = '+' :: cs) ∧
        readNodeId text = readDigits 0 cs := by
  unfold readNodeId
  split
  · next h => exact .inl ⟨by simpa using h, rfl⟩
  · next h => exact .inr (.inl ⟨by rw [← String.toList_inj, h]; rfl, rfl⟩)
  · next cs hne h => exact .inr (.inr ⟨cs, hne, .inr h, rfl⟩)
  · next hne _ hsign =>
    refine .inr (.inr ⟨text.toList, hne, .inl ⟨rfl, fun hhead => ?_⟩, rfl⟩)
    obtain ⟨cs, hcs⟩ := List.head?_eq_some_iff.1 hhead
    exact hsign cs hcs

/-- **A text is read as an id exactly if it is a numeral**, and the id is its value.

**Proof sketch.** An empty text and a sign alone denote nothing. By `readNodeId_cases`. What is behind a
sign, if there is one, are the digits that the numeral has, since a digit is no sign. -/
theorem readNodeId_eq_ok_iff : readNodeId text = .ok n ↔ Denotes text n := by
  rcases readNodeId_cases text with ⟨rfl, h⟩ | ⟨rfl, h⟩ | ⟨cs, hne, htext, h⟩
  · rw [h]
    refine ⟨nofun, fun ⟨digits, htext, hne, _⟩ => ?_⟩
    simp [hne, eq_comm] at htext
  · rw [h]
    refine ⟨nofun, fun ⟨digits, htext, hne, hdigits, _⟩ => ?_⟩
    rcases htext with rfl | htext
    · exact absurd (hdigits '+' (by decide)) (by decide)
    · exact absurd (by simpa [eq_comm] using htext) hne
  · rw [h, readDigits_eq_ok_iff (by omega)]
    constructor
    · rintro ⟨hdigits, hn⟩
      exact ⟨cs, htext.imp And.left id, hne, hdigits, hn⟩
    · rintro ⟨digits, hdigitsText, -, hdigits, hn⟩
      obtain rfl : digits = cs := by
        rcases htext with ⟨rfl, hhead⟩ | htext
        · refine (hdigitsText.resolve_right fun hplus => hhead ?_).symm
          rw [hplus, List.head?_cons]
        · rcases hdigitsText with rfl | hplus
          · rw [htext, List.forall_mem_cons] at hdigits
            exact absurd hdigits.1 (by decide)
          · simpa [hplus] using htext
      exact ⟨hdigits, hn⟩

/-- **Why a text is not read as an id.** -/
theorem numberDefect_of_readNodeId (h : readNodeId text = .error fault) :
    NumberDefect text fault := by
  rcases readNodeId_cases text with ⟨htext, hread⟩ | ⟨htext, hread⟩ | ⟨cs, -, htext, hread⟩
  · obtain rfl : NumberFault.empty = fault := by simpa [hread] using h
    exact .empty htext
  · obtain rfl : NumberFault.invalidDigit = fault := by simpa [hread] using h
    exact .sign htext
  · rw [hread] at h
    have htext : text.toList = cs ∨ text.toList = '+' :: cs := htext.imp And.left id
    rcases exists_of_readDigits_error (by omega) h with
      ⟨digits, c, rest, rfl, hdigits, hsmall, hc, rfl⟩ | ⟨digits, rest, rfl, hdigits, hbig, rfl⟩
    · exact .digit htext hdigits hsmall hc
    · exact .value htext hdigits hbig

namespace NodeIdTable

/-! ## Rows -/

variable {row : Nat} {record : NodeIdRecord} {records : List NodeIdRecord}
  {table table' : NodeIdTable} {ls before after : List String} {failure : Failure}

/-- **A line that is a row**: three columns, of which the second is a numeral. -/
def Row (line : String) (record : NodeIdRecord) : Prop :=
  ∃ numeral, Columns line [record.name, numeral, record.category] ∧ Denotes numeral record.id

/-- **What is wrong with a line that is no row.** -/
inductive Defect (line : String) : RowFault → Prop
  | columns {columns : List String} :
      Columns line columns → columns.length ≠ 3 → Defect line (.columns columns.length)
  | number {name numeral category : String} {fault : NumberFault} :
      Columns line [name, numeral, category] → NumberDefect numeral fault →
      Defect line (.number numeral fault)

/-- **A line is read as a row exactly if it is one.** -/
theorem parseRow_eq_ok_iff : parseRow row line = .ok record ↔ Row line record := by
  constructor
  · intro h
    rw [parseRow] at h
    split at h
    · next name numeral category hfields =>
      split at h
      · next value hid =>
        obtain rfl : ⟨name, value, category⟩ = record := by simpa using h
        exact ⟨numeral, fields_eq_iff.1 hfields, readNodeId_eq_ok_iff.1 hid⟩
      · cases h
    · cases h
  · rintro ⟨numeral, hcolumns, hid⟩
    rw [parseRow, fields_eq_iff.2 hcolumns]
    simp only [readNodeId_eq_ok_iff.2 hid]

/-- A line is one row at most. -/
lemma Row.rightUnique : Relator.RightUnique Row := fun line record record' h h' => by
  simpa using (parseRow_eq_ok_iff.2 h).symm.trans (parseRow_eq_ok_iff.2 h' : parseRow 0 line = .ok record')

instance (line : String) (record : NodeIdRecord) : Decidable (Row line record) :=
  decidable_of_iff (parseRow 0 line = .ok record) parseRow_eq_ok_iff

/-- **A line that is not read as a row** is blamed with its number and its text. -/
theorem defect_of_parseRow (h : parseRow row line = .error failure) :
    ∃ fault, Defect line fault ∧ failure = .malformedRow row line fault := by
  rw [parseRow] at h
  split at h
  · next name numeral category hfields =>
    split at h
    · cases h
    · next fault hid =>
      exact ⟨_, .number (fields_eq_iff.1 hfields) (numberDefect_of_readNodeId hid),
        by simpa [eq_comm] using h⟩
  · next hfields =>
    refine ⟨_, .columns (fields_eq_iff.1 rfl) fun hlength => ?_, by simpa [eq_comm] using h⟩
    obtain ⟨name, numeral, category, hthree⟩ := List.length_eq_three.1 hlength
    exact hfields name numeral category hthree

/-- A line that is no row fails. -/
lemma exists_parseRow_error (row : Nat) (h : ¬ ∃ record, Row line record) :
    ∃ fault, Defect line fault ∧ parseRow row line = .error (.malformedRow row line fault) := by
  rcases hrow : parseRow row line with failure | record
  · obtain ⟨fault, hfault, rfl⟩ := defect_of_parseRow hrow
    exact ⟨fault, hfault, rfl⟩
  · exact absurd ⟨record, parseRow_eq_ok_iff.1 hrow⟩ h

/-! ## Buckets -/

/-- The rows of a category, in buckets with one more row.

**Proof sketch.** Induction on the buckets. The row goes into the first one of its category, or into a
new one behind all; the buckets before are of other categories. -/
lemma lookup_pushInto (record : NodeIdRecord) (buckets : List (String × List NodeIdRecord))
    (name : String) : ((pushInto record buckets).lookup name).getD [] =
      (buckets.lookup name).getD [] ++ if record.category = name then [record] else [] := by
  induction buckets with
  | nil =>
    by_cases hname : record.category = name
    · simp [pushInto, hname]
    · simp [pushInto, hname, List.lookup_cons, beq_false_of_ne (Ne.symm hname)]
  | cons bucket buckets ih =>
    obtain ⟨other, rows⟩ := bucket
    rw [pushInto]
    by_cases hother : name = other
    · subst hother
      by_cases hname : name = record.category
      · simp [hname]
      · simp [hname, Ne.symm hname]
    · -- the bucket in front is another category's, whether or not the row goes there
      have hskip : (name == other) = false := beq_false_of_ne hother
      by_cases hfirst : other = record.category
      · have hname : record.category ≠ name := hfirst ▸ Ne.symm hother
        rw [if_pos hfirst, List.lookup_cons, List.lookup_cons, hskip, if_neg hname, List.append_nil]
      · rw [if_neg hfirst, List.lookup_cons, List.lookup_cons, hskip]
        exact ih

/-- **One more row** opens a category if it is the first there. -/
lemma categories_push (table : NodeIdTable) (record : NodeIdRecord) :
    (table.push record).categories =
      if record.category ∈ table.categories then table.categories
      else table.categories ++ [record.category] :=
  keys_pushInto record table.buckets

/-- **One more row** stands behind the others of its category, and in no other. -/
lemma category_push (table : NodeIdTable) (record : NodeIdRecord) (name : String) :
    (table.push record).category name =
      table.category name ++ if record.category = name then [record] else [] :=
  lookup_pushInto record table.buckets name

/-- **One more row** is one row more. -/
lemma rowCount_push (table : NodeIdTable) (record : NodeIdRecord) :
    (table.push record).rowCount = table.rowCount + 1 := by
  obtain ⟨buckets, hnodup⟩ := table
  simp only [push, rowCount]
  clear hnodup
  induction buckets with
  | nil => rfl
  | cons bucket buckets ih =>
    obtain ⟨name, records⟩ := bucket
    rw [pushInto]
    split_ifs
    · simp only [List.foldr_cons, List.length_append, List.length_singleton]
      omega
    · simp only [List.foldr_cons, ih]
      omega

/-- A category without a bucket has no rows. -/
lemma category_eq_nil {name : String} (h : name ∉ table.categories) : table.category name = [] := by
  have hnone : table.buckets.lookup name = none := by
    rw [List.lookup_eq_none_iff]
    rintro ⟨other, rows⟩ hmem
    rw [bne_iff_ne]
    rintro rfl
    exact h (List.mem_map_of_mem hmem)
  rw [category, hnone, Option.getD_none]

/-- **How rows are arranged in a table**: by their categories, which stand in the order of their first
rows. -/
structure Arranges (records : List NodeIdRecord) (table : NodeIdTable) : Prop where
  rowCount : table.rowCount = records.length
  categories : table.categories = distinct [] (records.map NodeIdRecord.category)
  category : ∀ name, table.category name = records.filter fun record => record.category = name

namespace Arranges

/-- No rows are arranged in the empty table. -/
lemma nil : Arranges [] empty := ⟨rfl, rfl, fun _ => rfl⟩

/-- **One more row is arranged with the others.** -/
lemma push (h : Arranges records table) (record : NodeIdRecord) :
    Arranges (records ++ [record]) (table.push record) where
  rowCount := by rw [rowCount_push, h.rowCount, List.length_append, List.length_singleton]
  categories := by
    have hseen : record.category ∈ table.categories ↔
        record.category ∈ records.map NodeIdRecord.category := by
      simp [h.categories, mem_distinct]
    rw [categories_push, List.map_append, List.map_singleton, distinct_append, List.nil_append,
      distinct, distinct, ← h.categories]
    simp only [hseen]
    split_ifs
    · exact (List.append_nil _).symm
    · rfl
  category := fun name => by
    rw [category_push, h.category, List.filter_append, List.filter_singleton]
    by_cases hname : record.category = name <;> simp [hname]

/-- **Rows are arranged one after the other.** -/
lemma foldl (h : Arranges records table) (more : List NodeIdRecord) :
    Arranges (records ++ more) (more.foldl NodeIdTable.push table) := by
  induction more generalizing records table with
  | nil => simpa using h
  | cons record more ih => simpa using ih (h.push record)

end Arranges

/-! ## Tables -/

/-- Rows are read one by one. -/
lemma readRows_cons (table : NodeIdTable) (row : Nat) (line : String) (ls : List String) :
    readRows table row (line :: ls) =
      match parseRow row line with
      | .error failure => .error failure
      | .ok record => readRows (table.push record) (row + 1) ls := by
  rw [readRows]
  cases parseRow row line <;> rfl

/-- **Lines are read into a table exactly if each is a row**, and their rows are put there one by one.

**Proof sketch.** Induction on the lines. The first one is read as a row exactly if it is one, and its
row is put into the table before the others. -/
lemma readRows_eq_ok_iff (row : Nat) : readRows table row ls = .ok table' ↔
    ∃ records, List.Forall₂ Row ls records ∧ records.foldl push table = table' := by
  induction ls generalizing table row with
  | nil => simp [readRows]
  | cons line ls ih =>
    rw [readRows_cons]
    constructor
    · intro h
      rcases hrow : parseRow row line with failure | record
      · simp [hrow] at h
      · rw [hrow] at h
        obtain ⟨records, hrecords, htable⟩ := (ih (row + 1)).1 h
        exact ⟨record :: records, .cons (parseRow_eq_ok_iff.1 hrow) hrecords, htable⟩
    · rintro ⟨records, hrecords, htable⟩
      obtain ⟨record, rest, hrow, hrest, rfl⟩ := List.forall₂_cons_left_iff.1 hrecords
      simp only [parseRow_eq_ok_iff.2 hrow]
      exact (ih (row + 1)).2 ⟨rest, hrest, htable⟩

/-- **The first line that is no row** is blamed, whatever follows it. -/
lemma exists_readRows_error (table : NodeIdTable) (row : Nat) (after : List String)
    (hbefore : ∀ l ∈ before, ∃ record, Row l record) (hline : ¬ ∃ record, Row line record) :
    ∃ fault, Defect line fault ∧ readRows table row (before ++ line :: after) =
      .error (.malformedRow (row + before.length) line fault) := by
  induction before generalizing table row with
  | nil =>
    obtain ⟨fault, hfault, hrow⟩ := exists_parseRow_error row hline
    exact ⟨fault, hfault, by simp [readRows_cons, hrow]⟩
  | cons l before ih =>
    rw [List.forall_mem_cons] at hbefore
    obtain ⟨record, hl⟩ := hbefore.1
    obtain ⟨fault, hfault, hrows⟩ := ih (table.push record) (row + 1) hbefore.2
    refine ⟨fault, hfault, ?_⟩
    rw [List.cons_append, readRows_cons, parseRow_eq_ok_iff.2 hl, List.length_cons]
    simp only [hrows, Nat.add_assoc, Nat.add_comm 1]

/-- **The rows of a text that was read** are arranged in its table. -/
lemma exists_arranges (h : parse content = .ok table) :
    ∃ records, List.Forall₂ Row (lines content) records ∧ Arranges records table := by
  obtain ⟨records, hrows, rfl⟩ := (readRows_eq_ok_iff 1).1 h
  exact ⟨records, hrows, Arranges.nil.foldl records⟩

/-! ## Categories -/

/-- **What a table says of the lines it was read from**: one row for each line, and the rows arranged by
their categories, which stand in the order of their first rows. -/
structure Reads (ls : List String) (records : List NodeIdRecord) (table : NodeIdTable) : Prop where
  rows : List.Forall₂ Row ls records
  rowCount : table.rowCount = ls.length
  nodup : table.categories.Nodup
  mem_categories : ∀ name, name ∈ table.categories ↔ ∃ record ∈ records, record.category = name
  inOrder : table.categories.Pairwise fun name name' =>
    (records.map NodeIdRecord.category).idxOf name < (records.map NodeIdRecord.category).idxOf name'
  category : ∀ name, table.category name = records.filter fun record => record.category = name
  unseen : ∀ name, name ∉ table.categories → table.category name = []

/-- A table says this of the lines whose rows are arranged in it. -/
lemma Arranges.reads (h : Arranges records table) (hrows : List.Forall₂ Row ls records) :
    Reads ls records table where
  rows := hrows
  rowCount := h.rowCount.trans hrows.length_eq.symm
  nodup := table.nodup
  mem_categories := fun name => by simp [h.categories, mem_distinct]
  inOrder := h.categories ▸ pairwise_distinct _ _
  category := h.category
  unseen := fun _ => category_eq_nil

/-- **A text is read as a table exactly if each of its lines is a row**, and the table is a stable
partition of the rows by their categories. Otherwise the first line that is no row is blamed, with its
number from one and its text, whatever follows it.

**Proof sketch.** The lines are read into the empty table one by one. One more row leaves the table
arranged by categories, so by induction on the rows all of them are. Up to the first line that is no row
nothing fails, and that line ends the reading. -/
theorem parse_partitions (content : String) :
    MadeOf content.toList ((lines content).map String.toList) ∧
      ((∃ table, parse content = .ok table) ↔
        ∀ line ∈ lines content, ∃ record, Row line record) ∧
      (∀ table, parse content = .ok table → ∃ records, Reads (lines content) records table) ∧
      ∀ before line after, lines content = before ++ line :: after →
        (∀ l ∈ before, ∃ record, Row l record) → (¬ ∃ record, Row line record) →
          ∃ fault, Defect line fault ∧
            parse content = .error (.malformedRow (before.length + 1) line fault) := by
  refine ⟨madeOf_lines content, ⟨?_, fun h => ?_⟩, fun table h => ?_,
    fun before line after hlines hbefore hline => ?_⟩
  · rintro ⟨table, htable⟩ line hline
    obtain ⟨records, hrows, -⟩ := exists_arranges htable
    obtain ⟨record, -, hrow⟩ := exists_of_forall₂ hrows.flip hline
    exact ⟨record, hrow⟩
  · obtain ⟨records, hrecords⟩ := exists_forall₂ h
    exact ⟨_, (readRows_eq_ok_iff 1).2 ⟨records, hrecords, rfl⟩⟩
  · obtain ⟨records, hrows, harranges⟩ := exists_arranges h
    exact ⟨records, harranges.reads hrows⟩
  · obtain ⟨fault, hfault, hrows⟩ := exists_readRows_error empty 1 after hbefore hline
    refine ⟨fault, hfault, ?_⟩
    rw [parse, hlines, hrows, Nat.add_comm]

example : ((parse "A,1,x\nB,+02,y\r\nC,3,x\n").map fun table =>
    (table.categories, table.category "x")) = .ok (["x", "y"], [⟨"A", 1, "x"⟩, ⟨"C", 3, "x"⟩]) := by
  decide +kernel

-- the second line is to blame, though the third has too many columns
example : parse "A,1,x\nB,4294967296,y\nC,3,x,z" =
    .error (.malformedRow 2 "B,4294967296,y" (.number "4294967296" .tooLarge)) := by
  decide +kernel

end NodeIdTable

end UaHeaders
