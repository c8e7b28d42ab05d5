/-!
# Paths

A path is the text that names a file or a directory, as a user wrote it. The operations here are
lexical: they look at the text alone, never at a file tree.

## Main definitions

* `UaHeaders.Path` — the text of a path.
* `UaHeaders.Path.join` — a path continued by another.
* `UaHeaders.Path.parent?`, `UaHeaders.Path.ancestors` — the paths of the directories above.
* `UaHeaders.Path.fileName?`, `UaHeaders.Path.extension?` — the last component and what follows its
  last dot.

## Implementation notes

The functions that cut a path at its end work on the reversed characters, so that the end is the
head of a list. A separator or a `/.` at the end does not count as a component.
-/

set_option autoImplicit false

namespace UaHeaders

/-- **The text that names a file or a directory.** -/
structure Path where
  text : String
  deriving DecidableEq, Inhabited

namespace Path

instance : Coe String Path := ⟨Path.mk⟩

/-- Whether the path starts at the root of the tree. -/
def isAbsolute (p : Path) : Bool := p.text.toList.head? == some '/'

/-- What stands between the separators, empty parts included. -/
def segments (p : Path) : List String := (p.text.toList.splitOn '/').map String.ofList

/-- **`p` continued by `rest`.** An absolute `rest` replaces it; else one separator is put between
them unless `p` is empty or ends with one. -/
def join (p : Path) (rest : Path) : Path :=
  if rest.isAbsolute then rest
  else if p.text.isEmpty || p.text.toList.getLast? == some '/' then ⟨p.text ++ rest.text⟩
  else ⟨p.text ++ "/" ++ rest.text⟩

/-! ## Cutting at the end -/

/-- The reversed characters of a path without separators and `/.` at its end. The root and a lone
`.` stay. -/
def trimEnd : List Char → List Char
  | ['/'] => ['/']
  | '/' :: cs => trimEnd cs
  | '.' :: '/' :: cs => trimEnd ('/' :: cs)
  | cs => cs
termination_by cs => cs.length

/-- Trimming drops characters and adds none. -/
theorem length_trimEnd_le (cs : List Char) : (trimEnd cs).length ≤ cs.length := by
  fun_induction trimEnd cs with
  | case1 => simp
  | case2 cs _ ih => simp; omega
  | case3 cs ih => simp at ih ⊢; omega
  | case4 => simp

/-- The reversed characters of the path of the directory above. The empty path and the root have
none. -/
def parentRev? (cs : List Char) : Option (List Char) :=
  match trimEnd cs with
  | [] => none
  | '/' :: _ => none
  | _ :: rest => some (trimEnd (rest.dropWhile (· != '/')))

/-- The path of the directory above is shorter. -/
theorem length_parentRev?_lt {cs up : List Char} (h : parentRev? cs = some up) :
    up.length < cs.length := by
  have hle := length_trimEnd_le cs
  unfold parentRev? at h
  split at h
  · contradiction
  · contradiction
  · next c rest _ heq =>
    rw [heq] at hle
    cases h
    have h1 := length_trimEnd_le (rest.dropWhile (· != '/'))
    have h2 : (rest.dropWhile (· != '/')).length ≤ rest.length :=
      (List.dropWhile_sublist _).length_le
    simp at hle
    omega

/-- The reversed paths above, nearest first. -/
def ancestorsRev (cs : List Char) : List (List Char) :=
  match _up : parentRev? cs with
  | none => []
  | some up => up :: ancestorsRev up
termination_by cs.length
decreasing_by exact length_parentRev?_lt _up

/-- The path with the reversed characters `cs`. -/
def ofRev (cs : List Char) : Path := ⟨String.ofList cs.reverse⟩

/-- **The path of the directory above**, if the path has a component to lose. -/
def parent? (p : Path) : Option Path := (parentRev? p.text.toList.reverse).map ofRev

/-- **The path itself and the paths above it**, nearest first. A relative path ends with the empty
one, an absolute path with the root. -/
def ancestors (p : Path) : List Path := p :: (ancestorsRev p.text.toList.reverse).map ofRev

/-- **The last component**, if it is a name. -/
def fileName? (p : Path) : Option String :=
  let name := ((trimEnd p.text.toList.reverse).takeWhile (· != '/')).reverse
  if name = [] ∨ name = ['.'] ∨ name = ['.', '.'] then none else some (String.ofList name)

/-- **What follows the last dot of the last component.** A name whose only dot is its first character
has no extension. -/
def extension? (p : Path) : Option String :=
  match p.fileName? with
  | none => none
  | some name =>
    let rev := name.toList.reverse
    match rev.dropWhile (· != '.') with
    | [] => none
    | [_] => none
    | _ => some (String.ofList (rev.takeWhile (· != '.')).reverse)

/-- Whether the path is written as a directory, with a separator at its end. -/
def endsWithSeparator (p : Path) : Bool := p.text.toList.getLast? == some '/'

end Path

end UaHeaders
