import UaHeaders.Json.Reader

/-!
# Data in settings files

The formats of settings files differ in what a scalar may be read as: one takes a number for a text
and another does not. A datum keeps the readings that its format allows.

## Main definitions

* `UaHeaders.Scalar` — the readings of a scalar.
* `UaHeaders.Datum` — scalars, lists and tables.
* `UaHeaders.Datum.ofJson` — the datum of a JSON value.
-/

set_option autoImplicit false

namespace UaHeaders

/-- **What a scalar may be read as.** A scalar that says "no value" can have a text all the same. -/
structure Scalar where
  text? : Option String := none
  flag? : Option Bool := none
  isNothing : Bool := false
  deriving DecidableEq, Inhabited

/-- **The data of a settings file.** Tables keep the order and the repetition of their names. -/
inductive Datum where
  | scalar (value : Scalar)
  | list (items : List Datum)
  | table (fields : List (String × Datum))
  deriving Inhabited

namespace Datum

/-- A scalar that is a text and nothing else. -/
def ofText (text : String) : Datum := .scalar { text? := some text }

/-- A scalar that is a truth value and nothing else. -/
def ofFlag (flag : Bool) : Datum := .scalar { flag? := some flag }

/-- A scalar that no setting can be read from. -/
def unreadable : Datum := .scalar {}

mutual

/-- **The datum of a JSON value.** Only a string is read as text. -/
def ofJson : Json → Datum
  | .null => .scalar { isNothing := true }
  | .bool value => ofFlag value
  | .number _ => unreadable
  | .string value => ofText value
  | .array items => .list (ofItems items)
  | .object fields => .table (ofFields fields)

/-- The data of the items of a list. -/
def ofItems : List Json → List Datum
  | [] => []
  | item :: items => ofJson item :: ofItems items

/-- The data of the fields of an object. -/
def ofFields : List (String × Json) → List (String × Datum)
  | [] => []
  | (name, value) :: fields => (name, ofJson value) :: ofFields fields

end

end Datum

end UaHeaders
