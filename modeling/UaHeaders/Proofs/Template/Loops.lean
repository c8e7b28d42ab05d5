import UaHeaders.Proofs.Template.Places

/-!
# Templates with loops and conditions

A template that is read as a list of parts is rendered part by part. A place becomes the text of its value, a
condition its body or nothing, and a loop its body once for each item, whatever the turn it is at.

## Main results

* `UaHeaders.Json.plain_number` — a number fills a place with its digits.
* `UaHeaders.Template.renderPart_forEach` — what a loop becomes.
* `UaHeaders.Template.parse_joinLines` — lines are read mark by mark, and then as a tree.
* `UaHeaders.Templates.render_eq_trimNewlines` — what is rendered has no line feeds at its ends.
-/

set_option autoImplicit false

namespace UaHeaders

/-! ## Numbers -/

namespace Json

/-- The digits of a number stand for it. -/
lemma digitsNumber?_toDigits (n : Nat) : digitsNumber? (Nat.toDigits 10 n) = some n := by
  have hdigits : (Nat.toDigits 10 n).all Char.isDigit = true :=
    List.all_eq_true.2 fun c hc => Nat.isDigit_of_mem_toDigits (by decide) (by decide) hc
  simp [digitsNumber?, hdigits]

/-- A number of 64 bits is read back from its digits. -/
lemma wholeNumber?_toString {n : Nat} (h : n < 18446744073709551616) :
    wholeNumber? (toString n) = some (n : Int) := by
  have hchars : (toString n).toList = Nat.toDigits 10 n := by simp [Nat.toString_eq_repr]
  have hsign : ∀ digits, Nat.toDigits 10 n ≠ '-' :: digits := fun digits heq =>
    absurd (Nat.isDigit_of_mem_toDigits (by decide) (by decide) (heq ▸ List.mem_cons_self : '-' ∈ _))
      (by decide)
  have hzero : (toString n != "-0") = true := by
    rw [bne_iff_ne]
    intro heq
    exact hsign ['0'] (by rw [← hchars, heq]; rfl)
  rw [wholeNumber?, hchars]
  split
  · next digits heq => exact absurd heq (hsign digits)
  · rw [digitsNumber?_toDigits, Option.map_some, Option.filter_some, if_pos]
    · rfl
    · simp only [hzero, Bool.true_and, Bool.and_eq_true, decide_eq_true_eq, Int.ofNat_eq_natCast]
      omega

/-- **A number fills a place with its digits.** -/
lemma plain_number {n : Nat} (h : n < 18446744073709551616) : (number (toString n)).plain = toString n := by
  rw [plain, wholeNumber?_toString h]
  rfl

end Json

/-! ## Parts -/

namespace Template

variable {α : Type} {bindings : Bindings} {path : NamePath} {body parts : List Part} {name text out : String}
  {marks : List Mark} {value : Json}

/-- **Lines are read mark by mark**, and then as a tree. The characters are taken line by line, because those of
a long text take long to evaluate. -/
lemma parse_joinLines {ls : List String}
    (hmarks : readMarks ((['\n'].intercalate (ls.map String.toList)).length + 1)
      (['\n'].intercalate (ls.map String.toList)) = some marks)
    (hparts : build marks [] [] = some parts) : parse (Text.joinLines ls) = some parts := by
  have hchars : (Text.joinLines ls).toList = ['\n'].intercalate (ls.map String.toList) :=
    String.toList_intercalate
  rw [← hchars, String.length_toList] at hmarks
  simp only [parse, hmarks, Option.bind_eq_bind, Option.bind_some, hparts]

/-- Nothing becomes nothing. -/
lemma renderParts_nil (bindings : Bindings) : renderParts bindings [] = some "" := by
  rw [renderParts]

/-- Parts are rendered one after the other. -/
lemma renderParts_cons {part : Part} {first : String} (hfirst : renderPart bindings part = some first)
    (hrest : renderParts bindings parts = some out) :
    renderParts bindings (part :: parts) = some (first ++ out) := by
  simp [renderParts, hfirst, hrest]

/-- A text stays as it is. -/
lemma renderPart_literal (bindings : Bindings) (text : String) :
    renderPart bindings (.literal text) = some text := by
  rw [renderPart]

/-- A place becomes the text of its value. -/
lemma renderPart_place (h : bindings.find? path = some value) :
    renderPart bindings (.place path) = some value.plain := by
  rw [renderPart, h, Option.map_some]

/-- A place becomes the text that is its value. -/
lemma renderPart_place_string (h : bindings.find? path = some (.string text)) :
    renderPart bindings (.place path) = some text := by
  rw [renderPart_place h, Json.plain]

/-- **A condition** becomes its body if its value counts as true. -/
lemma renderPart_ifTrue (h : bindings.find? path = some value)
    (hbody : value.isTrue = true → renderParts bindings body = some out) :
    renderPart bindings (.ifTrue path body) = some (if value.isTrue then out else "") := by
  rw [renderPart, h, Option.any_some]
  split_ifs with htrue
  · exact hbody htrue
  · rfl

/-- What a loop becomes, from a turn on. -/
lemma mapM_turns {item : α → Json} {line : α → String} {xs : List α} (count : Nat)
    (hbody : ∀ x ∈ xs, ∀ turn,
      renderParts ((name, item x) :: ("loop", turn) :: bindings) body = some (line x)) (first : Nat) :
    ((xs.map item).zipIdx first).mapM (fun turnItem : Json × Nat =>
      renderParts ((name, turnItem.1) :: ("loop", turn turnItem.2 count) :: bindings) body) =
        some (xs.map line) := by
  induction xs generalizing first with
  | nil => rfl
  | cons x xs ih =>
    rw [List.forall_mem_cons] at hbody
    rw [List.map_cons, List.zipIdx_cons, List.mapM_cons, hbody.1, ih hbody.2]
    rfl

/-- **A loop** becomes what its body becomes for each item, if that does not depend on the turn. -/
theorem renderPart_forEach {item : α → Json} {line : α → String} {xs : List α}
    (h : bindings.find? path = some (.array (xs.map item)))
    (hbody : ∀ x ∈ xs, ∀ turn,
      renderParts ((name, item x) :: ("loop", turn) :: bindings) body = some (line x)) :
    renderPart bindings (.forEach name path body) = some (String.join (xs.map line)) := by
  have hturns := mapM_turns (xs.map item).length hbody 0
  simp only [renderPart, h, Option.bind_eq_bind, Option.bind_some, Json.items?, hturns]
  rfl

end Template

/-! ## Templates -/

namespace Templates

open Template Text

variable {templates : Templates} {name text out : String} {fields : List (String × Json)} {parts : List Part}

/-- One template is kept under its name. -/
lemma ofSources_singleton (name : String) (h : parse text = some parts) :
    ofSources [(name, text)] = .ok ⟨[(name, parts)]⟩ :=
  ofSources_eq_ok (.cons ⟨rfl, h⟩ .nil)

/-- **What is rendered has no line feeds at its ends.** -/
lemma render_eq_trimNewlines (hlookup : templates.parts.lookup name = some parts)
    (h : renderParts fields.reverse parts = some out) :
    templates.render name (.object fields) = .ok (trimNewlines out) := by
  simp only [render, hlookup, h]

end Templates

end UaHeaders
