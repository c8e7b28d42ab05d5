import UaHeaders.Program
import UaHeaders.Proofs.Sweep.Change
import UaHeaders.Proofs.Sweep.Declarations
import UaHeaders.Proofs.Text.Search

/-!
# Includes that are updated again

Old paths are replaced wherever they stand in a text, so updating includes twice is not always updating
them once: where a header moves to a path that begins with its old one, the old path is found again in the
new one. It can also join the end of a new path with the text behind it. Updating is idempotent if no
replacement brings about its own old path, nor one that was replaced before it; old paths that are replaced
after it do no harm, since they are still to come. For a single declaration nothing less will do.

## Main definitions

* `UaHeaders.Sweep.Deprecations.Apart` — deprecations that bring none of their old paths about.

## Main results

* `UaHeaders.Sweep.Deprecations.not_infix_replaceIn` — no old path is left.
* `UaHeaders.Sweep.Deprecations.replaceIn_idempotent_iff` — a single declaration.
* `UaHeaders.Sweep.Deprecations.update_again` — updating texts, files and whole runs again.
* `UaHeaders.Sweep.Deprecations.replaceIn_longer` — a new path that begins with the old one.
-/

set_option autoImplicit false

namespace UaHeaders.Sweep.Deprecations

/-! ## Declared paths -/

/-- The pairs of a build file are declared in it. -/
lemma mem_declarations_of_mem_parse {cmake : String} {p : String × String}
    (h : p ∈ (parse cmake).pairs) : p ∈ declarations cmake.toList := by
  obtain ⟨before, after, hdeclared, -⟩ := ((notes_parse cmake).mem_iff p.1 p.2).1 h
  rw [hdeclared]
  simp

/-- Declared paths start at the include root, so none is empty. -/
lemma ne_nil_of_mem_parse {cmake : String} {p : String × String} (h : p ∈ (parse cmake).pairs) :
    p.1.toList ≠ [] := by
  have hdeclared := mem_declarations_of_mem_parse h
  generalize cmake.toList = cs at hdeclared
  fun_induction declarations cs with
  | case1 cs old new rest hfound ih =>
    rcases List.mem_cons.1 hdeclared with rfl | hlater
    · simp [includeRoot]
    · exact ih hlater
  | case2 => cases hdeclared
  | case3 c cs hfound ih => exact ih hdeclared

/-! ## Old paths that are not brought about -/

/-- **Deprecations that bring none of their old paths about**: neither does a replacement bring about its
own old path, nor one that was replaced before it. -/
structure Apart (d : Deprecations) : Prop where
  own : ∀ p ∈ d.pairs, Text.Apart p.1.toList p.1.toList p.2.toList
  earlier : d.pairs.Pairwise fun p q => Text.Apart p.1.toList q.1.toList q.2.toList

instance (d : Deprecations) : Decidable d.Apart :=
  decidable_of_iff
    ((∀ p ∈ d.pairs, Text.Apart p.1.toList p.1.toList p.2.toList) ∧
      d.pairs.Pairwise fun p q => Text.Apart p.1.toList q.1.toList q.2.toList)
    ⟨fun h => ⟨h.1, h.2⟩, fun h => ⟨h.own, h.earlier⟩⟩

/-- Replacing goes through the pairs one after the other. -/
lemma replaceIn_eq (d : Deprecations) (text : String) :
    d.replaceIn text = d.pairs.foldl (fun text p => Text.replaceAll p.1 p.2 text) text := rfl

/-- A path that no replacement brings about does not come back. -/
lemma not_infix_foldl {sought : List Char} {pairs : List (String × String)} {text : String}
    (hsought : sought ≠ []) (hne : ∀ p ∈ pairs, p.1.toList ≠ [])
    (h : ∀ p ∈ pairs, Text.Apart sought p.1.toList p.2.toList) (htext : ¬ sought <:+: text.toList) :
    ¬ sought <:+: (pairs.foldl (fun text p => Text.replaceAll p.1 p.2 text) text).toList := by
  induction pairs generalizing text with
  | nil => exact htext
  | cons p pairs ih =>
    rw [List.forall_mem_cons] at hne h
    rw [List.foldl_cons]
    refine ih hne.2 h.2 ?_
    rw [Text.replaceAll, String.toList_ofList]
    exact fun hwithin => htext (Text.infix_of_infix_replaceChars h.1 hne.1 hsought hwithin).2

/-- **No old path is left** in a text once they are replaced. -/
lemma not_infix_replaceIn {d : Deprecations} (h : d.Apart) (hne : ∀ p ∈ d.pairs, p.1.toList ≠ [])
    (text : String) : ∀ p ∈ d.pairs, ¬ p.1.toList <:+: (d.replaceIn text).toList := by
  obtain ⟨pairs⟩ := d
  obtain ⟨hown, hearlier⟩ := h
  rw [replaceIn_eq]
  dsimp only at hown hearlier hne ⊢
  induction pairs generalizing text with
  | nil => simp
  | cons p pairs ih =>
    rw [List.forall_mem_cons] at hown hne ⊢
    rw [List.pairwise_cons] at hearlier
    rw [List.foldl_cons]
    refine ⟨not_infix_foldl hne.1 hne.2 hearlier.1 ?_, ih _ hne.2 hown.2 hearlier.2⟩
    rw [Text.replaceAll, String.toList_ofList]
    exact fun hwithin => (Text.infix_of_infix_replaceChars hown.1 hne.1 hne.1 hwithin).1 rfl

/-- **Replacing twice is replacing once** when no old path is brought about. -/
lemma replaceIn_replaceIn {d : Deprecations} (h : d.Apart) (hne : ∀ p ∈ d.pairs, p.1.toList ≠ [])
    (text : String) : d.replaceIn (d.replaceIn text) = d.replaceIn text := by
  rw [replaceIn_eq d (d.replaceIn text)]
  exact Text.foldl_replaceAll_eq_self (not_infix_replaceIn h hne text)

/-- **A single declaration** is idempotent only if its old path is not brought about. -/
lemma replaceIn_idempotent_iff {d : Deprecations} {old new : String} (hd : d.pairs = [(old, new)])
    (hold : old.toList ≠ []) (hne : old ≠ new) :
    (∀ text, d.replaceIn (d.replaceIn text) = d.replaceIn text) ↔ d.Apart := by
  have hchars : old.toList ≠ new.toList := fun h => hne (String.toList_inj.1 h)
  have hapart : d.Apart ↔ Text.Apart old.toList old.toList new.toList := by
    constructor
    · intro h
      exact h.own (old, new) (by simp [hd])
    · intro h
      exact ⟨by simpa [hd] using h, by simp [hd]⟩
  have hreplace : ∀ text, d.replaceIn text =
      String.ofList (Text.replaceChars old.toList new.toList text.toList) := fun text => by
    rw [replaceIn_eq, hd]
    rfl
  rw [hapart, ← Text.replaceChars_idempotent_iff hold hchars]
  constructor
  · intro h cs
    have htext := congrArg String.toList (h (String.ofList cs))
    simpa [hreplace] using htext
  · intro h text
    simp [hreplace, h]

/-! ## Updating again -/

/-- A run of the command with a build file that can be read: the deprecations are printed, and the files
that changed if all could be edited. -/
lemma executeUpdateIncludes_eq {cmakeLists : Path} {cmake : String} {t : FileTree} (files : List Path)
    (h : t.readText cmakeLists = .ok cmake) :
    executeUpdateIncludes cmakeLists files t =
      ⟨((parse cmake).update files t).1.map fun _ => (),
        printed ((parse cmake).pairs.map deprecationLine) ++
          match ((parse cmake).update files t).1 with
          | .error _ => ""
          | .ok changed => printed (changed.map ("updated " ++ ·.text)),
        ((parse cmake).update files t).2⟩ := by
  have hload : load t cmakeLists = .ok (parse cmake) := by simp [load, h]
  simp only [executeUpdateIncludes, hload]
  rcases (parse cmake).update files t with ⟨problem | changed, u⟩
  · simp [Except.map]
  · simp [Except.map]

/-- **Includes are updated once and for all** if no replacement brings about its own old path or an
earlier one: replacing again leaves a text as it is, a second sweep changes no file and ends as the first
one did, and so does a second run of the command, if the build file still reads as it did. For a single
declaration, whose paths differ, the condition is necessary too.

**Proof sketch.** After its own pass an old path is gone, and no later pass brings it back. So the second
time nothing is found. If the condition fails for a single declaration, the old path with a part of itself
in front of it or behind it is a text in which the first pass brings it about. -/
theorem update_again (cmake : String) :
    let d : Deprecations := parse cmake
    (d.Apart →
      (∀ text, d.replaceIn (d.replaceIn text) = d.replaceIn text) ∧
      (∀ files t, d.update files (d.update files t).2 =
        ((d.update files t).1.map fun _ => [], (d.update files t).2)) ∧
      ∀ cmakeLists files t, t.readText cmakeLists = .ok cmake →
        let first := executeUpdateIncludes cmakeLists files t
        first.tree.readText cmakeLists = .ok cmake →
        executeUpdateIncludes cmakeLists files first.tree =
          ⟨first.result, printed (d.pairs.map deprecationLine), first.tree⟩) ∧
    ∀ old new, d.pairs = [(old, new)] → old ≠ new →
      ((∀ text, d.replaceIn (d.replaceIn text) = d.replaceIn text) ↔ d.Apart) := by
  intro d
  have hne : ∀ p ∈ d.pairs, p.1.toList ≠ [] := fun p => ne_nil_of_mem_parse
  constructor
  · intro h
    have htext : ∀ text, d.replaceIn (d.replaceIn text) = d.replaceIn text :=
      replaceIn_replaceIn h hne
    have hfiles : ∀ files t, d.update files (d.update files t).2 =
        ((d.update files t).1.map fun _ => [], (d.update files t).2) :=
      changeAll_again htext
    refine ⟨htext, hfiles, fun cmakeLists files t hread => ?_⟩
    intro first hstill
    have hfirst : first = _ := executeUpdateIncludes_eq files hread
    rw [executeUpdateIncludes_eq files hstill, hfirst]
    simp only
    rw [hfiles]
    rcases (d.update files t).1 with problem | changed
    · simp [Except.map, d]
    · simp [Except.map, printed, d]
  · intro old new hd
    exact replaceIn_idempotent_iff hd (hne (old, new) (by simp [hd]))

/-- A build file with two headers that moved. -/
def movedHeaders : String :=
  "deprecated_header(Client.h client.hpp)\ndeprecated_header(types/Variant.h types.hpp)\n"

/-- A build file with a header whose new path begins with the old one. -/
def longerHeader : String := "deprecated_header(a.h a.hpp)\n"

/-- A project with two headers that moved, and a source that names an old one. -/
def movedTree : FileTree :=
  (FileTree.empty.put ["CMakeLists.txt"] (.file 0o644 movedHeaders.toUTF8)).put ["main.cpp"]
    (.file 0o644 "#include <open62541pp/Client.h>\n".toUTF8)

/-- A project whose includes are updated once and for all, and a declaration for which that fails. -/
theorem update_again_moved :
    (¬ ∀ text, (parse longerHeader).replaceIn ((parse longerHeader).replaceIn text) =
      (parse longerHeader).replaceIn text) ∧
    let first := executeUpdateIncludes ⟨"CMakeLists.txt"⟩ [⟨"main.cpp"⟩] movedTree
    first.tree.readText ⟨"main.cpp"⟩ = .ok "#include <open62541pp/client.hpp>\n" ∧
      executeUpdateIncludes ⟨"CMakeLists.txt"⟩ [⟨"main.cpp"⟩] first.tree =
        ⟨first.result, printed ((parse movedHeaders).pairs.map deprecationLine), first.tree⟩ := by
  constructor
  · have hpairs : (parse longerHeader).pairs = [("open62541pp/a.h", "open62541pp/a.hpp")] := by
      decide +kernel
    have hnot : ¬ (parse longerHeader).Apart := by decide +kernel
    rw [(update_again longerHeader).2 _ _ hpairs (by decide)]
    exact hnot
  · have hapart : (parse movedHeaders).Apart := by decide +kernel
    have hread : movedTree.readText ⟨"CMakeLists.txt"⟩ = .ok movedHeaders := by decide +kernel
    have hstill : (executeUpdateIncludes ⟨"CMakeLists.txt"⟩ [⟨"main.cpp"⟩] movedTree).tree.readText
        ⟨"CMakeLists.txt"⟩ = .ok movedHeaders := by decide +kernel
    exact ⟨by decide +kernel, ((update_again movedHeaders).1 hapart).2.2 _ _ _ hread hstill⟩

/-- **A new path that begins with the old one** is replaced again and again, though it is no old path. -/
theorem replaceIn_longer :
    let d := parse longerHeader
    (∀ p ∈ d.pairs, ∀ q ∈ d.pairs, p.2 ≠ q.1) ∧
      d.replaceIn "open62541pp/a.h" = "open62541pp/a.hpp" ∧
      d.replaceIn (d.replaceIn "open62541pp/a.h") = "open62541pp/a.hpppp" := by
  decide +kernel

end UaHeaders.Sweep.Deprecations
