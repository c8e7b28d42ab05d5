import UaHeaders.Failure
import UaHeaders.Template.Part
import UaHeaders.Template.Value
import UaHeaders.Text.Lines

/-!
# Rendering templates

Templates are kept by name. A template is filled in with the fields of an object; what comes out has
no line feeds at its ends, so that those who put texts together decide how they are set apart.

## Main definitions

* `UaHeaders.Templates` — templates by name.
* `UaHeaders.Templates.ofSources` — templates from their texts.
* `UaHeaders.Templates.render` — a template filled in.
-/

set_option autoImplicit false

namespace UaHeaders

namespace Template

/-- Names with their values, the innermost first. -/
abbrev Bindings := List (String × Json)

/-- The value that names lead to. -/
def Bindings.find? (bindings : Bindings) : NamePath → Option Json
  | [] => none
  | name :: names => bindings.findSome? fun (bound, value) =>
      if bound == name then value.follow names else none

/-- What a loop knows of the turn it is at. -/
def turn (index count : Nat) : Json :=
  .object [("index", .number (toString (index + 1))), ("index0", .number (toString index)),
    ("first", .bool (index == 0)), ("last", .bool (index + 1 == count))]

mutual

/-- The text of a part. There is none if a place or a loop has no value it could use. -/
def renderPart (bindings : Bindings) : Part → Option String
  | .literal text => some text
  | .place path => (bindings.find? path).map Json.plain
  | .ifTrue path body =>
    if (bindings.find? path).any Json.isTrue then renderParts bindings body else some ""
  | .forEach name path body => do
    let items ← (← bindings.find? path).items?
    let texts ← items.zipIdx.mapM fun (item, index) =>
      renderParts ((name, item) :: ("loop", turn index items.length) :: bindings) body
    return String.join texts

/-- **The text of parts one after the other.** -/
def renderParts (bindings : Bindings) : List Part → Option String
  | [] => some ""
  | part :: parts => do
    let text ← renderPart bindings part
    return text ++ (← renderParts bindings parts)

end

end Template

/-- **Templates by name.** Of two with one name the later counts. -/
structure Templates where
  parts : List (String × List Template.Part)

namespace Templates

/-- **Templates from their texts**, or a failure that names the first one not written by the rules. -/
def ofSources (sources : List (String × String)) : Except Failure Templates :=
  let read := sources.map fun (name, text) => (name, Template.parse text)
  match read.find? (·.2.isNone) with
  | some (bad, _) =>
    .error (.template (", ".intercalate (sources.map Prod.fst)) (.parse bad))
  | none => .ok ⟨(read.filterMap fun (name, parts) => parts.map (name, ·)).reverse⟩

/-- Whether there is a template of the name. -/
def contains (templates : Templates) (name : String) : Bool :=
  (templates.parts.lookup name).isSome

/-- **A template filled in** with the fields of an object. -/
def render (templates : Templates) (name : String) (context : Json) : Except Failure String :=
  match context with
  | .object fields =>
    match templates.parts.lookup name with
    | none => .error (.template name (.unknown name))
    | some parts =>
      match Template.renderParts fields.reverse parts with
      | some text => .ok (Text.trimNewlines text)
      | none => .error (.template name (.render name))
  | _ => .error (.template name .namelessContext)

end Templates

end UaHeaders
