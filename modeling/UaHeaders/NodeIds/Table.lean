import UaHeaders.Failure
import UaHeaders.Files.Tree
import UaHeaders.Registry.Schema
import UaHeaders.Text.Lines
import UaHeaders.Text.Search

/-!
# Node id tables

The numeric node ids of the OPC UA specification come as a table without heading: a name, an id and a
category in each row, set apart by commas. Reading is strict, one malformed row is a failure.

## Main definitions

* `UaHeaders.NodeIdTable.push` — a table with one more row.
* `UaHeaders.NodeIdTable.parse` — the table in a text.
* `UaHeaders.NodeIdTable.categories`, `UaHeaders.NodeIdTable.category` — the categories and the rows of
  one category.
* `UaHeaders.NodeIdSource` — where a table comes from.
-/

set_option autoImplicit false

namespace UaHeaders

/-- **A row of the table.** -/
structure NodeIdRecord where
  name : String
  id : Nat
  category : String
  deriving DecidableEq, Inhabited

/-- **A table**, as one bucket of rows for each category. The buckets stand in the order in which they were
opened, and no category has two. -/
structure NodeIdTable where
  buckets : List (String × List NodeIdRecord)
  nodup : (buckets.map Prod.fst).Nodup
  deriving DecidableEq

/-! ## Ids -/

/-- The greatest id. -/
def maxNodeId : Nat := 4294967295

/-- The value of a decimal digit. -/
def digitValue? (c : Char) : Option Nat :=
  if '0' ≤ c ∧ c ≤ '9' then some (c.toNat - '0'.toNat) else none

/-- Reads on through digits, where `value` is what those before have made. A character that is no
digit is noticed before a number that grows too large with it. -/
def readDigits (value : Nat) : List Char → Except NumberFault Nat
  | [] => .ok value
  | c :: cs =>
    match digitValue? c with
    | none => .error .invalidDigit
    | some d =>
      if value * 10 + d ≤ maxNodeId then readDigits (value * 10 + d) cs else .error .tooLarge

/-- **An id**: decimal digits behind an optional plus sign. -/
def readNodeId (text : String) : Except NumberFault Nat :=
  match text.toList with
  | [] => .error .empty
  | ['+'] => .error .invalidDigit
  | '+' :: cs => readDigits 0 cs
  | cs => readDigits 0 cs

/-! ## Tables -/

namespace NodeIdTable

/-- One row, with its number for the failure. -/
def parseRow (row : Nat) (line : String) : Except Failure NodeIdRecord :=
  match Text.fields ',' line with
  | [name, id, category] =>
    match readNodeId id with
    | .ok value => .ok ⟨name, value, category⟩
    | .error fault => .error (.malformedRow row line (.number id fault))
  | columns => .error (.malformedRow row line (.columns columns.length))

/-- The table without rows. -/
def empty : NodeIdTable := ⟨[], .nil⟩

instance : Inhabited NodeIdTable := ⟨empty⟩

/-- Puts a row behind those of its category. A category without a bucket gets one behind the others. -/
def pushInto (record : NodeIdRecord) :
    List (String × List NodeIdRecord) → List (String × List NodeIdRecord)
  | [] => [(record.category, [record])]
  | (name, records) :: buckets =>
    if name = record.category then (name, records ++ [record]) :: buckets
    else (name, records) :: pushInto record buckets

/-- A row opens a bucket for its category if there is none. -/
theorem keys_pushInto (record : NodeIdRecord) (buckets : List (String × List NodeIdRecord)) :
    (pushInto record buckets).map Prod.fst =
      if record.category ∈ buckets.map Prod.fst then buckets.map Prod.fst
      else buckets.map Prod.fst ++ [record.category] := by
  induction buckets with
  | nil => rfl
  | cons bucket buckets ih =>
    obtain ⟨name, records⟩ := bucket
    rw [pushInto]
    by_cases hname : name = record.category
    · simp [hname]
    · have hmem : record.category ∈ name :: buckets.map Prod.fst ↔
          record.category ∈ buckets.map Prod.fst := by simp [eq_comm, hname]
      rw [if_neg hname, List.map_cons, List.map_cons, ih]
      simp only [hmem]
      split <;> rfl

/-- No category gets a second bucket. -/
theorem nodup_keys_pushInto (record : NodeIdRecord) {buckets : List (String × List NodeIdRecord)}
    (h : (buckets.map Prod.fst).Nodup) : ((pushInto record buckets).map Prod.fst).Nodup := by
  rw [keys_pushInto]
  split
  · exact h
  · next hnew =>
    refine List.nodup_append.2 ⟨h, by simp, fun name hname other hother => ?_⟩
    rw [List.mem_singleton.1 hother]
    rintro rfl
    exact hnew hname

/-- **A table with one more row.** -/
def push (table : NodeIdTable) (record : NodeIdRecord) : NodeIdTable :=
  ⟨pushInto record table.buckets, nodup_keys_pushInto record table.nodup⟩

/-- Reads lines into a table row by row, where `row` is the number of the first. -/
def readRows (table : NodeIdTable) (row : Nat) : List String → Except Failure NodeIdTable
  | [] => .ok table
  | line :: lines => do
    let record ← parseRow row line
    readRows (table.push record) (row + 1) lines

/-- **The table in a text.** The first malformed row is the failure. -/
def parse (content : String) : Except Failure NodeIdTable := readRows empty 1 (Text.lines content)

/-- **The rows of one category**, none if it has no bucket. -/
def category (table : NodeIdTable) (name : String) : List NodeIdRecord :=
  (table.buckets.lookup name).getD []

/-- **The categories**, in the order of their buckets. -/
def categories (table : NodeIdTable) : List String := table.buckets.map Prod.fst

/-- How many rows there are, counted bucket by bucket. -/
def rowCount (table : NodeIdTable) : Nat :=
  table.buckets.foldr (fun bucket count => bucket.2.length + count) 0

end NodeIdTable

/-! ## Sources -/

/-- **Where a node id table comes from.** -/
inductive NodeIdSource where
  /-- A web address, asked under the name of a user agent. -/
  | url (url userAgent : String)
  /-- A file. -/
  | file (path : Path)
  deriving DecidableEq, Inhabited

namespace NodeIdSource

/-- The address at which the table is published. -/
def defaultUrl : String := "http://www.opcfoundation.org/UA/schemas/1.04/NodeIds.csv"

/-- The user agent that asks for the table. -/
def defaultUserAgent : String := "Mozilla/5.0"

/-- The source in words. -/
def describe : NodeIdSource → String
  | url address _ => address
  | file path => path.text

/-- **The text of the table.** What an address answers is given by `fetch`. -/
def content (source : NodeIdSource) (fetch : String → String → Except String String)
    (t : FileTree) : Except Failure String :=
  match source with
  | url address userAgent =>
    match fetch address userAgent with
    | .ok text => .ok text
    | .error reason => .error (.network address reason)
  | file path =>
    match t.readText path with
    | .ok text => .ok text
    | .error cause => .error (.schemaRead path cause)

end NodeIdSource

end UaHeaders
