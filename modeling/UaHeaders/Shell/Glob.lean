import UaHeaders.Shell.Pattern
import UaHeaders.Shell.Process

/-!
# Patterns for file names

A field that is a pattern stands for the paths it covers, in byte order, or for itself if there are
none. Each component is compared by itself; a name that starts with a dot is covered only by a
component that does so too.

## Main definitions

* `UaHeaders.Shell.namesIn` — the names in a directory.
* `UaHeaders.Shell.Process.pathsOf` — the paths a field stands for.
-/

set_option autoImplicit false

namespace UaHeaders.Shell

/-- **The names in a directory**, in byte order. -/
def namesIn (t : FileTree) (dir : Path) : List String :=
  match t.locate dir with
  | .error _ => []
  | .ok l =>
    (t.below l).filterMap fun (at_, _) =>
      match at_.drop l.length with
      | [name] => some name
      | _ => none

/-- Whether a field has an unquoted character that makes it a pattern. -/
def isPattern (field : List PatternChar) : Bool :=
  field.any fun (c, quoted) => !quoted && (c == '*' || c == '?' || c == '[')

/-- The text of a field. -/
def fieldText (field : List PatternChar) : String := String.ofList (field.map Prod.fst)

namespace Process

/-- The paths that begin with `done` and go on as the components say. -/
def pathsFrom (p : Process) (t : FileTree) (done : String) :
    List (List PatternChar) → List String
  | [] => [done]
  | component :: rest =>
    let names :=
      if isPattern component then
        (namesIn t (p.pathOf (if done.isEmpty then "." else done))).filter fun name =>
          covers component name &&
            (!name.startsWith "." || component.head?.any fun c => c.1 == '.')
      else [fieldText component]
    names.flatMap fun name =>
      let path := done ++ name
      if rest.isEmpty then (if t.pathExists (p.pathOf path) then [path] else [])
      else p.pathsFrom t (path ++ "/") rest

/-- **The paths a field stands for**, or its text. -/
def pathsOf (p : Process) (t : FileTree) (field : List PatternChar) : List String :=
  if isPattern field then
    match p.pathsFrom t "" (field.splitOnP fun c => c.1 == '/') with
    | [] => [fieldText field]
    | paths => paths.mergeSort fun a b => decide (a ≤ b)
  else [fieldText field]

end Process

end UaHeaders.Shell
