/-!
# JSON values

## Main definitions

* `UaHeaders.Json` — the values of the data format. Numbers are kept as they are written, and objects
  keep the order and the repetition of their names.
-/

set_option autoImplicit false

namespace UaHeaders

/-- **A JSON value.** -/
inductive Json where
  | null
  | bool (value : Bool)
  | number (text : String)
  | string (value : String)
  | array (items : List Json)
  | object (fields : List (String × Json))
  deriving Inhabited

end UaHeaders
