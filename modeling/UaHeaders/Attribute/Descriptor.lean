import UaHeaders.Failure
import UaHeaders.Text.Blank
import UaHeaders.Text.Casing
import UaHeaders.Text.Identifier

/-!
# Attribute descriptors

A descriptor says how one node attribute is read and written. A table of descriptors is kept in the
order in which its accessors are documented, so it is never sorted.

## Main definitions

* `UaHeaders.Descriptor` — one attribute.
* `UaHeaders.Descriptor.writeType`, `paramName`, `completionType` — what its accessors mention.
* `UaHeaders.DescriptorTable.ofList` — a table, if every row is well formed and no name is repeated.
-/

set_option autoImplicit false

namespace UaHeaders

/-- **A node attribute** for which accessors are generated. -/
structure Descriptor where
  /-- The name of the attribute, which is the enumerator of its id too. -/
  name : String
  /-- The type of its value, which the read accessor returns. -/
  valueType : String
  /-- A type that refers to a value without owning it, taken by the write accessor if given. -/
  viewType : Option String := none
  /-- Whether a value is passed by copy. -/
  copied : Bool := false
  /-- Whether there is a write accessor. -/
  writeable : Bool := true
  /-- One more sentence for the documentation. -/
  detail : Option String := none
  deriving DecidableEq, Inhabited

namespace Descriptor

/-- **The parameter type of the write accessor**: the view type if there is one, else the value type
by copy or by constant reference. -/
def writeType (d : Descriptor) : String :=
  match d.viewType with
  | some view => view
  | none => if d.copied then d.valueType else "const " ++ d.valueType ++ "&"

/-- **The parameter name of the write accessor**: the attribute's name with a small initial. -/
def paramName (d : Descriptor) : String := Text.lowerInitial d.name

/-- **What an asynchronous read hands to its completion token.** -/
def completionType (d : Descriptor) : String :=
  "Result<" ++ d.valueType ++ (if d.copied then ">" else ">&")

/-- What is wrong with a row in itself, the first fault in the order name, value type, view type. -/
def fault? (d : Descriptor) : Option DescriptorFault :=
  if !Text.isIdentifier d.name then some .notIdentifier
  else if Text.isBlankText d.valueType then some .noValueType
  else if d.viewType.any Text.isBlankText then some .noViewType
  else none

end Descriptor

/-- **A list of descriptors that has been checked.** -/
structure DescriptorTable where
  rows : List Descriptor
  deriving DecidableEq, Inhabited

namespace DescriptorTable

/-- The first row at fault and its fault, where `seen` are the names of the rows before. A row that is
well formed in itself may still repeat a name. -/
def firstFault? (seen : List String) (row : Nat) :
    List Descriptor → Option (Nat × Descriptor × DescriptorFault)
  | [] => none
  | d :: ds =>
    match d.fault? with
    | some fault => some (row, d, fault)
    | none =>
      if d.name ∈ seen then some (row, d, .repeatedName)
      else firstFault? (d.name :: seen) (row + 1) ds

/-- **The table of some descriptors.** There has to be one, each has to be well formed, and their
names have to differ; else the first row at fault is named. -/
def ofList (ds : List Descriptor) : Except Failure DescriptorTable :=
  if ds.isEmpty then .error (.configuration .emptyTable)
  else
    match firstFault? [] 0 ds with
    | some (row, d, fault) => .error (.configuration (.descriptor row d.name fault))
    | none => .ok ⟨ds⟩

end DescriptorTable

end UaHeaders
