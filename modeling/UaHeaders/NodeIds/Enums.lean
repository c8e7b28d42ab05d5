import UaHeaders.NodeIds.Table

/-!
# Node id enumerations

Some categories of the node id table become enumerations of C++, one each, with the names and ids of
the category in table order. A category without rows becomes an empty enumeration.

## Main definitions

* `UaHeaders.NodeIdTable.selectedCategories` — the categories, in the order of their enumerations.
* `UaHeaders.NodeIdTable.enumLines` — one enumeration.
* `UaHeaders.NodeIdTable.fragments` — all of them.
-/

set_option autoImplicit false

namespace UaHeaders.NodeIdTable

/-- **The categories that become enumerations.** -/
def selectedCategories : List String :=
  ["DataType", "ReferenceType", "ObjectType", "VariableType", "Object", "Variable", "Method"]

/-- The documentation that opens the group of all enumerations. -/
def preamble : String :=
  Text.joinLines
    ["/**",
      " * @defgroup NodeIds Generated NodeIds",
      " * Numeric NodeIds defined by the OPC UA specification.",
      " * @see https://reference.opcfoundation.org/Core/Part6/v105/docs/A.3",
      " */"]

/-- The line of one enumerator. -/
def enumeratorLine (record : NodeIdRecord) : String :=
  "    " ++ record.name ++ " = " ++ toString record.id ++ ","

/-- **The enumeration of one category.** -/
def enumLines (table : NodeIdTable) (category : String) : List String :=
  ["/**",
    " * " ++ category ++ " node ids defined by the OPC UA specification (generated).",
    " * @see https://reference.opcfoundation.org/Core/Part6/v105/docs/A.3",
    " * @ingroup NodeIds",
    " */",
    "enum class " ++ category ++ "Id : uint32_t \x7b"] ++
  (table.category category).map enumeratorLine ++ ["\x7d;"]

/-- **One fragment for each selected category.** -/
def fragments (table : NodeIdTable) : List String :=
  selectedCategories.map fun category => Text.joinLines (table.enumLines category)

end UaHeaders.NodeIdTable
