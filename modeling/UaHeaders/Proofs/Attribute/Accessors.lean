import UaHeaders.Attribute.Accessors
import UaHeaders.Proofs.Attribute.Rows
import UaHeaders.Proofs.Header.Enclosed
import UaHeaders.Proofs.Registry.Names

/-!
# Accessors of unbroken descriptors

The texts of a descriptor stand within lines of its accessors. If they have no line ends, the accessors
have the lines of their templates, none of which could be taken for a line of a frame.

## Main definitions

* `UaHeaders.Descriptor.Unbroken` — descriptors whose texts are lines.
* `UaHeaders.Descriptor.InnerLine` — lines inside of an accessor.

## Main results

* `UaHeaders.Text.isIdentifier_lowerInitial` — an identifier with a small initial is one.
* `UaHeaders.Descriptor.forall_fragment` — the accessors of a descriptor cannot break a frame.
* `UaHeaders.DescriptorTable.fragment_of_ofList` — nor can those of a table that was accepted.
-/

set_option autoImplicit false

namespace UaHeaders

open Text

/-! ## Names of parameters -/

namespace Text

/-- A letter in lower case may begin an identifier.

**Proof sketch.** A character that may begin an identifier has a code below 123, and the claim is checked
for each of these. -/
lemma lowerChar_of_isIdentifierStart {c : Char} (h : isIdentifierStart c = true) :
    ∃ d, lowerChar c = [d] ∧ isIdentifierStart d = true := by
  have hascii : c.toNat < 123 := by
    simp only [isIdentifierStart, Bool.or_eq_true, Bool.and_eq_true, decide_eq_true_eq,
      beq_iff_eq] at h
    rcases h with (h | h) | rfl
    · exact Nat.lt_succ_of_le (UInt32.le_iff_toNat_le.1 h.2)
    · exact lt_of_le_of_lt (UInt32.le_iff_toNat_le.1 h.2) (by decide)
    · decide
  have hall : ∀ n < 123, isIdentifierStart (Char.ofNat n) = true →
      (lowerChar (Char.ofNat n)).length = 1 ∧
        (lowerChar (Char.ofNat n)).all isIdentifierStart = true := by
    decide +kernel
  rw [← Char.ofNat_toNat c] at h
  obtain ⟨hone, hstart⟩ := hall c.toNat hascii h
  rw [Char.ofNat_toNat] at hone hstart
  obtain ⟨d, hd⟩ := List.length_eq_one_iff.1 hone
  exact ⟨d, hd, by simpa [hd] using hstart⟩

/-- **An identifier with a small initial is one.** -/
lemma isIdentifier_lowerInitial {s : String} (h : isIdentifier s = true) :
    isIdentifier (lowerInitial s) = true := by
  rw [isIdentifier] at h
  split at h
  · simp at h
  · next c cs hcs =>
    rw [Bool.and_eq_true] at h
    obtain ⟨d, hd, hstart⟩ := lowerChar_of_isIdentifierStart h.1
    have hlower : (lowerInitial s).toList = d :: cs := by
      simp [lowerInitial, hcs, hd]
    rw [isIdentifier, hlower, Bool.and_eq_true]
    exact ⟨hstart, h.2⟩

end Text

namespace Descriptor

variable {d : Descriptor} {l : String}

/-- **A descriptor whose texts are lines**: they have no line feeds, and no carriage returns that could
belong to a line end. -/
structure Unbroken (d : Descriptor) : Prop where
  valueType : OneLine d.valueType
  viewType : ∀ view ∈ d.viewType, OneLine view
  detail : ∀ detail ∈ d.detail, OneLine detail

/-- The type that a write accessor takes is one line. -/
lemma Unbroken.oneLine_writeType (h : d.Unbroken) : OneLine d.writeType := by
  have hconst : OneLine ("const " ++ d.valueType ++ "&") := h.valueType.between (by decide)
  rw [writeType]
  rcases hview : d.viewType with _ | view
  · split_ifs
    · exact h.valueType
    · exact hconst
  · exact h.viewType view hview

/-- What an asynchronous read hands on is one line. -/
lemma Unbroken.oneLine_completionType (h : d.Unbroken) : OneLine d.completionType := by
  rw [completionType]
  split_ifs
  · exact h.valueType.between (by decide)
  · exact h.valueType.between (by decide)

/-! ## Accessors -/

/-- **A line inside of an accessor**: one line that begins with a blank, a closing parenthesis, or one of
the letters of `template` and `inline`. -/
structure InnerLine (l : String) : Prop where
  oneLine : OneLine l
  start : l.toList.head? ∈ [some ' ', some 't', some 'i', some ')']

namespace InnerLine

variable {l k : String} {cs ds : List Char}

/-- A line of the template. -/
lemma fixed (h : ('\n' ∉ cs ∧ cs.getLast? ≠ some '\r') ∧
    cs.head? ∈ [some ' ', some 't', some 'i', some ')']) : InnerLine (String.ofList cs) := by
  refine ⟨oneLine_ofList h.1, ?_⟩
  rw [String.toList_ofList]
  exact h.2

/-- A line inside of an accessor that goes on. -/
lemma append (h : InnerLine l) (hk : OneLine k) : InnerLine (l ++ k) := by
  have hne : l.toList ≠ [] := by
    intro hnil
    have hstart := h.start
    simp [hnil] at hstart
  refine ⟨h.oneLine.append hk, ?_⟩
  rw [String.toList_append, List.head?_append_of_ne_nil _ hne]
  exact h.start

/-- A text behind a part of the template. -/
lemma behind (hl : OneLine l) (h : ('\n' ∉ cs ∧ cs.getLast? ≠ some '\r') ∧
    cs.head? ∈ [some ' ', some 't', some 'i', some ')']) : InnerLine (String.ofList cs ++ l) :=
  (fixed h).append hl

/-- A text between two parts of the template. -/
lemma between (hl : OneLine l) (h : (('\n' ∉ cs ∧ cs.getLast? ≠ some '\r') ∧
    cs.head? ∈ [some ' ', some 't', some 'i', some ')']) ∧ '\n' ∉ ds ∧ ds.getLast? ≠ some '\r') :
    InnerLine (String.ofList cs ++ l ++ String.ofList ds) :=
  (behind hl h.1).append (oneLine_ofList h.2)

end InnerLine

/-- A line of an accessor is one line and no frame line. -/
lemma oneLine_and_noFrameLine {l : String} (h : l ∈ ["/**", "\x7d", ""] ∨ InnerLine l) :
    OneLine l ∧ isFrameLine l = false := by
  rcases h with h | h
  · simp only [List.mem_cons, List.not_mem_nil, or_false] at h
    rcases h with rfl | rfl | rfl <;> decide
  · refine ⟨h.oneLine, ?_⟩
    have hstart := h.start
    simp only [List.mem_cons, List.not_mem_nil, or_false] at hstart
    rcases hstart with hhead | hhead | hhead | hhead <;>
      exact isFrameLine_of_head hhead (by decide)

/-- The comment line for the extra sentence is a line inside. -/
lemma Unbroken.innerLine_detailLine (h : d.Unbroken) : InnerLine d.detailLine := by
  rw [detailLine]
  rcases hdetail : d.detail with _ | detail
  · exact .behind (show OneLine "" by decide) (by decide)
  · exact .behind (h.detail detail hdetail) (by decide)

/-- The documentation of a connection is one line, and so is its declaration. -/
lemma oneLine_connection (connection : Connection) :
    OneLine connection.doc ∧ OneLine connection.declaration := by
  cases connection
  · exact ⟨oneLine_ofList (by decide), oneLine_ofList (by decide)⟩
  · exact ⟨oneLine_ofList (by decide), oneLine_ofList (by decide)⟩

/-- **The lines that read an attribute.**

**Proof sketch.** One line after the other: each is fixed, or stands between or behind texts that hold no
line feed. -/
lemma Unbroken.innerLine_readLines (h : d.Unbroken) (hname : OneLine d.name) :
    ∀ l ∈ d.readLines, l ∈ ["/**", "\x7d", ""] ∨ InnerLine l := by
  obtain ⟨hdoc, hany⟩ := oneLine_connection .any
  obtain ⟨-, hclient⟩ := oneLine_connection .client
  have hdeclaration : InnerLine ("inline Result<" ++ d.valueType ++ "> read" ++ d.name ++ "(" ++
      Connection.any.declaration ++ ", const NodeId& id) noexcept \x7b") :=
    ((((InnerLine.between h.valueType (by decide)).append hname).append
      (oneLine_ofList (by decide))).append hany).append (oneLine_ofList (by decide))
  simp only [readLines, List.forall_mem_cons]
  exact ⟨.inl (by simp), .inr (.between hname (by decide)), .inr h.innerLine_detailLine,
    .inr (.behind hdoc (by decide)), .inr (.fixed (by decide)), .inr (.fixed (by decide)),
    .inr (.fixed (by decide)), .inr (.fixed (by decide)), .inr hdeclaration,
    .inr (.between hname (by decide)), .inl (by simp), .inl (by simp), .inl (by simp),
    .inr (.between hname (by decide)), .inr (.behind hname (by decide)),
    .inr (.between h.oneLine_completionType (by decide)),
    .inr (.between h.valueType (by decide)), .inr (.fixed (by decide)), .inr (.fixed (by decide)),
    .inr (.fixed (by decide)), .inr (.between hname (by decide)),
    .inr (.between hclient (by decide)), .inr (.fixed (by decide)),
    .inr (.between hname (by decide)), .inr (.fixed (by decide)), .inr (.fixed (by decide)),
    .inl (by simp), by simp⟩

/-- **The lines that write an attribute.**

**Proof sketch.** As for the lines that read, with the type and the name of the parameter, which hold no
line feed either. -/
lemma Unbroken.innerLine_writeLines (h : d.Unbroken) (hname : OneLine d.name)
    (hparam : OneLine d.paramName) :
    ∀ l ∈ d.writeLines, l ∈ ["/**", "\x7d", ""] ∨ InnerLine l := by
  obtain ⟨hdoc, hany⟩ := oneLine_connection .any
  obtain ⟨-, hclient⟩ := oneLine_connection .client
  have hblank : OneLine " " := by decide
  have hdeclaration : InnerLine ("inline StatusCode write" ++ d.name ++ "(" ++
      Connection.any.declaration ++ ", const NodeId& id, " ++ d.writeType ++ " " ++ d.paramName ++
        ") noexcept \x7b") :=
    ((((((InnerLine.between hname (by decide)).append hany).append (oneLine_ofList (by decide))).append
      h.oneLine_writeType).append hblank).append hparam).append (oneLine_ofList (by decide))
  have hcall : InnerLine ("    return detail::writeAttributeImpl<AttributeId::" ++ d.name ++
      ">(connection, id, " ++ d.paramName ++ ");") :=
    ((InnerLine.between hname (by decide)).append hparam).append (oneLine_ofList (by decide))
  have htaken : InnerLine ("    " ++ d.writeType ++ " " ++ d.paramName ++ ",") :=
    ((InnerLine.between h.oneLine_writeType (by decide)).append hparam).append
      (oneLine_ofList (by decide))
  simp only [writeLines, List.forall_mem_cons]
  exact ⟨.inl (by simp), .inr (.between hname (by decide)), .inr h.innerLine_detailLine,
    .inr (.behind hdoc (by decide)), .inr (.fixed (by decide)),
    .inr (.between hparam (by decide)), .inr (.fixed (by decide)), .inr (.fixed (by decide)),
    .inr (.fixed (by decide)), .inr hdeclaration, .inr hcall, .inl (by simp), .inl (by simp),
    .inl (by simp), .inr (.between hname (by decide)), .inr (.behind hname (by decide)),
    .inr (.fixed (by decide)), .inr (.fixed (by decide)), .inr (.fixed (by decide)),
    .inr (.fixed (by decide)), .inr (.fixed (by decide)), .inr (.between hname (by decide)),
    .inr (.between hclient (by decide)), .inr (.fixed (by decide)), .inr htaken,
    .inr (.fixed (by decide)), .inr (.fixed (by decide)), .inr (.between hname (by decide)),
    .inr (.between hparam (by decide)), .inr (.fixed (by decide)), .inl (by simp), by simp⟩

/-- **The accessors of an unbroken descriptor** cannot break a frame.

**Proof sketch.** The name is an identifier, and so is the name of the parameter. So each line of a pair
is one line that begins like no frame line, and the first and the last are not empty. -/
lemma Unbroken.forall_fragment (h : d.Unbroken) (hname : isIdentifier d.name = true) :
    ∀ part ∈ d.fragments, Fragment part := by
  have hone := (oneLine_of_isIdentifier hname).1
  have hparam := (oneLine_of_isIdentifier (isIdentifier_lowerInitial hname)).1
  have hread := fun l hl => oneLine_and_noFrameLine (h.innerLine_readLines hone l hl)
  have hwrite := fun l hl => oneLine_and_noFrameLine (h.innerLine_writeLines hone hparam l hl)
  have hreads : Fragment (joinLines d.readLines) :=
    fragment_joinLines (fun l hl => (hread l hl).1) (fun l hl => (hread l hl).2) (a := "/**") rfl
      (by decide) (b := "\x7d") rfl (by decide)
  have hwrites : Fragment (joinLines d.writeLines) :=
    fragment_joinLines (fun l hl => (hwrite l hl).1) (fun l hl => (hwrite l hl).2) (a := "/**") rfl
      (by decide) (b := "\x7d") rfl (by decide)
  rw [fragments, List.forall_mem_cons]
  refine ⟨hreads, ?_⟩
  split_ifs
  · simpa using hwrites
  · simp

end Descriptor

/-! ## Tables -/

namespace DescriptorTable

variable {ds : List Descriptor} {table : DescriptorTable}

/-- **The descriptors of a table that was accepted** are those of the list, and have names. -/
lemma rows_of_ofList (h : ofList ds = .ok table) :
    table.rows = ds ∧ ∀ d ∈ ds, isIdentifier d.name = true := by
  obtain ⟨rfl, -, hds, -⟩ := ofList_eq_ok_iff.1 h
  exact ⟨rfl, fun d hd => isIdentifier_iff.2 (hds d hd).name⟩

/-- **The accessors of a table that was accepted** cannot break a frame, if its texts are lines. -/
lemma fragment_of_ofList (h : ofList ds = .ok table) (hds : ∀ d ∈ ds, d.Unbroken) :
    ∀ part ∈ table.fragments, Fragment part := by
  obtain ⟨hrows, hnames⟩ := rows_of_ofList h
  rw [fragments, List.forall_mem_flatMap, hrows]
  exact fun d hd => (hds d hd).forall_fragment (hnames d hd)

end DescriptorTable

end UaHeaders
