import UaHeaders.Proofs.Distinct
import UaHeaders.Proofs.Lists
import UaHeaders.Proofs.Text.TerminatedLines
import UaHeaders.Sweep.Includes

/-!
# Declarations that are read back

A build file declares headers that moved, each in lines of its own and among any other lines. Reading it
gives back what was declared: every old path once, in the order in which the paths were declared first,
with the new path that was declared last.

## Main definitions

* `UaHeaders.Sweep.Deprecations.Declares` — the texts that declare some headers.
* `UaHeaders.Sweep.Deprecations.Notes` — the pairs that are noted of some declarations.

## Main results

* `UaHeaders.Sweep.Deprecations.declaration?_eq_some` — a declaration is read up to its end.
* `UaHeaders.Sweep.Deprecations.notes_parse` — what is noted of the declarations in any text.
* `UaHeaders.Sweep.Deprecations.parse_of_declares` — reading undoes writing.
-/

set_option autoImplicit false

namespace UaHeaders.Sweep.Deprecations

open Text (isBlank IsLineEnd)

variable {cs line ending rest : List Char} {old new : String} {text : String}
  {declared pairs : List (String × String)}

/-! ## Texts that declare headers -/

/-- **A path as a declaration writes it**: it is not empty and holds no white space. -/
structure IsPath (cs : List Char) : Prop where
  nonempty : cs ≠ []
  noBlank : ∀ c ∈ cs, isBlank c = false

instance (cs : List Char) : Decidable (IsPath cs) :=
  decidable_of_iff (cs ≠ [] ∧ (cs.all fun c => !isBlank c) = true)
    ⟨fun h => ⟨h.1, by simpa using h.2⟩, fun h => ⟨h.nonempty, by simpa using h.noBlank⟩⟩

/-- **White space between the paths of a declaration.** It may hold line ends. -/
structure IsGap (cs : List Char) : Prop where
  nonempty : cs ≠ []
  blank : ∀ c ∈ cs, isBlank c = true

instance (cs : List Char) : Decidable (IsGap cs) :=
  decidable_of_iff (cs ≠ [] ∧ cs.all isBlank = true)
    ⟨fun h => ⟨h.1, List.all_eq_true.1 h.2⟩, fun h => ⟨h.nonempty, List.all_eq_true.2 h.blank⟩⟩

/-- **The texts that declare headers**, with the old and the new paths in order. A declaration begins and
ends a line; no other line holds what a declaration opens with. -/
inductive Declares : List Char → List (String × String) → Prop
  /-- Lines behind the last declaration. -/
  | last {line : List Char} : ¬ opening <:+: line → Declares line []
  /-- A line that declares nothing. -/
  | other {line ending rest : List Char} {declared : List (String × String)} :
      ¬ opening <:+: line → IsLineEnd ending → Declares rest declared →
      Declares (line ++ (ending ++ rest)) declared
  /-- A declaration. -/
  | declared {old new : String} {gap ending rest : List Char} {declared : List (String × String)} :
      IsPath old.toList → IsGap gap → IsPath new.toList → IsLineEnd ending → Declares rest declared →
      Declares (opening ++ (old.toList ++ (gap ++ (new.toList ++ ')' :: (ending ++ rest)))))
        ((old, new) :: declared)

/-- The paths of a declaration, below the include root. -/
def rooted (p : String × String) : String × String := (includeRoot ++ p.1, includeRoot ++ p.2)

/-! ## Reading declarations -/

/-- A word is split at a closing parenthesis at its end. -/
lemma splitAtLastClose_concat (cs : List Char) : splitAtLastClose (cs ++ [')']) = some (cs, []) := by
  simp [splitAtLastClose]

/-- **A declaration is read up to its end**, whatever its paths hold.

**Proof sketch.** The old path ends where the white space begins, and the new one at the last parenthesis
of its word (`splitAtLastClose_concat`), which the white space behind it ends. So each cut is made where
it was written. -/
lemma declaration?_eq_some {old gap new : List Char} (hold : IsPath old) (hgap : IsGap gap)
    (hnew : IsPath new) (hrest : ∀ c ∈ rest.head?, isBlank c = true) :
    declaration? (opening ++ (old ++ (gap ++ (new ++ ')' :: rest)))) = some (old, new, rest) := by
  -- the old path ends where the white space begins, and that where the new path does
  have hblank : ∀ c ∈ (gap ++ (new ++ ')' :: rest)).head?, (!isBlank c) = false := by
    rw [List.head?_append_of_ne_nil _ hgap.nonempty]
    exact fun c hc => by simp [hgap.blank c (List.mem_of_head? hc)]
  have hword : ∀ c ∈ (new ++ ')' :: rest).head?, isBlank c = false := by
    rw [List.head?_append_of_ne_nil _ hnew.nonempty]
    exact fun c hc => hnew.noBlank c (List.mem_of_head? hc)
  have hgone : ∀ c ∈ rest.head?, (!isBlank c) = false := fun c hc => by simp [hrest c hc]
  have hold' : ∀ c ∈ old, (!isBlank c) = true := fun c hc => by simp [hold.noBlank c hc]
  have hclosed : ∀ c ∈ new ++ [')'], (!isBlank c) = true := by
    rw [List.forall_mem_append, List.forall_mem_singleton]
    exact ⟨fun c hc => by simp [hnew.noBlank c hc], by decide⟩
  have htakeOld := (takeWhile_append_of_stops hold' hblank).1
  have hdropGap := (takeWhile_append_of_stops hgap.blank hword).2
  have htakeWord := (takeWhile_append_of_stops hclosed hgone).1
  rw [List.append_assoc, List.singleton_append] at htakeWord
  obtain ⟨c, new, rfl⟩ := List.exists_cons_of_ne_nil hnew.nonempty
  have hopen : opening.isPrefixOf (opening ++ (old ++ (gap ++ (c :: new ++ ')' :: rest)))) = true :=
    List.isPrefixOf_iff_prefix.2 (List.prefix_append _ _)
  have hfound : (old.isEmpty || (gap ++ (c :: new ++ ')' :: rest)).length ==
      (c :: new ++ ')' :: rest).length) = false := by
    have hlength : gap.length ≠ 0 := by simpa using hgap.nonempty
    simp [hold.nonempty, hlength]
  rw [declaration?, if_pos hopen]
  simp only [List.drop_left, htakeOld, hdropGap, htakeWord, splitAtLastClose_concat, hfound]
  simp

/-- Where no declaration opens, reading goes on behind the character. -/
lemma declarations_cons_of_absent {c : Char} (h : ¬ opening <+: c :: cs) :
    declarations (c :: cs) = declarations cs := by
  have hnone : declaration? (c :: cs) = none := by
    rw [declaration?, if_neg (by rwa [List.isPrefixOf_iff_prefix])]
  rw [declarations]
  split
  · next hfound =>
    rw [hnone] at hfound
    cases hfound
  · rfl

/-- A text that opens no declaration holds none. -/
lemma declarations_eq_nil (h : ¬ opening <:+: cs) : declarations cs = [] := by
  induction cs with
  | nil => rw [declarations]; rfl
  | cons c cs ih =>
    rw [List.infix_cons_iff, not_or] at h
    rw [declarations_cons_of_absent h.1, ih h.2]

/-- A declaration does not open in front of a character that it does not open with. -/
lemma not_prefix_opening {c : Char} (h : ¬ opening <+: cs) (hc : c ∉ opening) :
    ¬ opening <+: cs ++ c :: rest := by
  intro hopen
  rcases List.prefix_or_prefix_of_prefix hopen (List.prefix_append cs (c :: rest)) with
    hwithin | ⟨behind, hbehind⟩
  · exact h hwithin
  · rw [← hbehind, List.prefix_append_right_inj] at hopen
    rcases behind with _ | ⟨d, behind⟩
    · rw [List.append_nil] at hbehind
      exact h ⟨[], by rw [hbehind, List.append_nil]⟩
    · obtain ⟨rfl, -⟩ := List.cons_prefix_cons.1 hopen
      exact hc (by rw [← hbehind]; simp)

/-- A text that opens no declaration is passed over, with a character behind it that none opens with. -/
lemma declarations_append_cons {c : Char} (h : ¬ opening <:+: cs) (hc : c ∉ opening) :
    declarations (cs ++ c :: rest) = declarations rest := by
  induction cs with
  | nil => exact declarations_cons_of_absent (not_prefix_opening (fun h' => h h'.isInfix) hc)
  | cons d cs ih =>
    rw [List.infix_cons_iff, not_or] at h
    have hopen : ¬ opening <+: d :: (cs ++ c :: rest) := not_prefix_opening h.1 hc
    rw [List.cons_append, declarations_cons_of_absent hopen, ih h.2]

/-- **A line that opens no declaration is passed over.** -/
lemma declarations_ended (h : ¬ opening <:+: line) (hending : IsLineEnd ending) :
    declarations (line ++ (ending ++ rest)) = declarations rest := by
  cases hending with
  | feed => exact declarations_append_cons h (by decide)
  | returned => exact declarations_append_cons h (by decide)
  | returnFeed =>
    have hfeed : declarations ([] ++ '\n' :: rest) = declarations rest :=
      declarations_append_cons (by decide) (by decide)
    exact (declarations_append_cons h (by decide)).trans hfeed

/-- Every line end begins with white space. -/
lemma isBlank_of_isLineEnd (hending : IsLineEnd ending) (rest : List Char) :
    ∀ c ∈ (ending ++ rest).head?, isBlank c = true := by
  cases hending <;> simp <;> decide

/-- **The declarations of a text that declares headers** are those that are written in it.

**Proof sketch.** Induction on how the text declares. A line that declares is read up to its end
(`declaration?_eq_some`), and the scan goes on at the line end behind it. -/
lemma declarations_of_declares (h : Declares cs declared) : declarations cs = declared.map rooted := by
  induction h with
  | last hline => exact declarations_eq_nil hline
  | other hline hending _ ih => rw [declarations_ended hline hending, ih]
  | @declared old new gap ending rest declared hold hgap hnew hending _ ih =>
    have hfound := declaration?_eq_some hold hgap hnew (isBlank_of_isLineEnd hending rest)
    have hbehind : declarations (ending ++ rest) = declared.map rooted := by
      rw [← List.nil_append (ending ++ rest), declarations_ended (by decide) hending, ih]
    rw [declarations]
    split
    · next found =>
      rw [hfound] at found
      obtain ⟨rfl, rfl, rfl⟩ : _ ∧ _ ∧ _ := by simpa using found
      rw [hbehind, List.map_cons, rooted, String.ofList_toList, String.ofList_toList]
    · next found =>
      rw [hfound] at found
      cases found

/-! ## Noting declarations -/

/-- What is noted is the pair that is declared, and what is noted of other paths.

**Proof sketch.** By whether the path was noted before. If it was, its pair is changed in place, and no
other pair is; otherwise the pair is put behind. -/
lemma mem_note {o n : String} :
    (o, n) ∈ note pairs old new ↔ (o = old ∧ n = new) ∨ (o ≠ old ∧ (o, n) ∈ pairs) := by
  unfold note
  split_ifs with h
  · obtain ⟨p, hp, hkey⟩ := List.any_eq_true.1 h
    rw [List.mem_map]
    constructor
    · rintro ⟨q, hq, heq⟩
      split_ifs at heq with hold
      · obtain ⟨rfl, rfl⟩ := Prod.mk.inj heq
        exact .inl ⟨rfl, rfl⟩
      · subst heq
        exact .inr ⟨by simpa using hold, hq⟩
    · rintro (⟨rfl, rfl⟩ | ⟨hne, hmem⟩)
      · exact ⟨p, hp, if_pos hkey⟩
      · exact ⟨(o, n), hmem, if_neg (by simpa using hne)⟩
  · have hnot : ∀ p ∈ pairs, p.1 ≠ old := fun p hp hold =>
      h (List.any_eq_true.2 ⟨p, hp, by simpa using hold⟩)
    rw [List.mem_append, List.mem_singleton, Prod.mk.injEq]
    constructor
    · rintro (hmem | heq)
      · exact .inr ⟨hnot _ hmem, hmem⟩
      · exact .inl heq
    · rintro (heq | ⟨-, hmem⟩)
      · exact .inr heq
      · exact .inl hmem

/-- A path that is noted keeps its place, a new one comes last. -/
lemma keys_note : (note pairs old new).map Prod.fst =
    pairs.map Prod.fst ++ if old ∈ pairs.map Prod.fst then [] else [old] := by
  have hiff : (pairs.any fun p => p.1 == old) = true ↔ old ∈ pairs.map Prod.fst := by
    simp
  unfold note
  by_cases h : old ∈ pairs.map Prod.fst
  · have hkeys : ∀ p ∈ pairs, (if p.1 == old then (old, new) else p).1 = p.1 := by
      intro p _
      split_ifs with hp
      · exact (by simpa using hp : p.1 = old).symm
      · rfl
    rw [if_pos (hiff.2 h), if_pos h, List.append_nil, List.map_map]
    exact List.map_congr_left hkeys
  · rw [if_neg (hiff.not.2 h), if_neg h, List.map_append]
    rfl

/-- **What is noted of some declarations**: each old path once, in the order of the first declarations, with
the new path of its last one. -/
structure Notes (declared pairs : List (String × String)) : Prop where
  nodup : (pairs.map Prod.fst).Nodup
  mem_keys : ∀ old, old ∈ pairs.map Prod.fst ↔ old ∈ declared.map Prod.fst
  inOrder : (pairs.map Prod.fst).Pairwise fun old old' =>
    (declared.map Prod.fst).idxOf old < (declared.map Prod.fst).idxOf old'
  mem_iff : ∀ old new, (old, new) ∈ pairs ↔
    ∃ before after, declared = before ++ (old, new) :: after ∧ ∀ p ∈ after, p.1 ≠ old

/-- The paths that are noted are those that were there, and then the declared ones. -/
lemma keys_foldl_note :
    (declared.foldl (fun pairs p => note pairs p.1 p.2) pairs).map Prod.fst =
      pairs.map Prod.fst ++ distinct (pairs.map Prod.fst) (declared.map Prod.fst) := by
  induction declared generalizing pairs with
  | nil => rw [List.foldl_nil, List.map_nil, distinct, List.append_nil]
  | cons p declared ih =>
    rw [List.foldl_cons, ih, keys_note, List.map_cons, distinct]
    split_ifs with h
    · rw [List.append_nil]
    · rw [List.append_assoc, List.singleton_append]
      refine congrArg (fun ks => pairs.map Prod.fst ++ p.1 :: ks) (distinct_congr fun x => ?_)
      rw [List.mem_append, List.mem_singleton, List.mem_cons]
      exact or_comm

/-- The last declaration of a path counts, or what was noted before if there is none.

**Proof sketch.** Induction on the declarations. The first one counts if no other of its path follows. -/
lemma mem_foldl_note {o n : String} :
    (o, n) ∈ declared.foldl (fun pairs p => note pairs p.1 p.2) pairs ↔
      (∃ before after, declared = before ++ (o, n) :: after ∧ ∀ p ∈ after, p.1 ≠ o) ∨
        (∀ p ∈ declared, p.1 ≠ o) ∧ (o, n) ∈ pairs := by
  induction declared generalizing pairs with
  | nil => simp
  | cons q declared ih =>
    rw [List.foldl_cons, ih, mem_note, List.forall_mem_cons]
    constructor
    · rintro (⟨before, after, rfl, hafter⟩ | ⟨hnone, ⟨rfl, rfl⟩ | ⟨hne, hmem⟩⟩)
      · exact .inl ⟨q :: before, after, rfl, hafter⟩
      · exact .inl ⟨[], declared, rfl, hnone⟩
      · exact .inr ⟨⟨Ne.symm hne, hnone⟩, hmem⟩
    · rintro (⟨before, after, heq, hafter⟩ | ⟨⟨hne, hnone⟩, hmem⟩)
      · rcases before with _ | ⟨p, before⟩
        · obtain ⟨rfl, rfl⟩ : q = (o, n) ∧ declared = after := by simpa using heq
          exact .inr ⟨hafter, .inl ⟨rfl, rfl⟩⟩
        · obtain ⟨rfl, rfl⟩ : q = p ∧ declared = before ++ (o, n) :: after := by simpa using heq
          exact .inl ⟨before, after, rfl, hafter⟩
      · exact .inr ⟨hnone, .inr ⟨Ne.symm hne, hmem⟩⟩

/-- **What a text declares is noted.** -/
lemma notes_parse (text : String) : Notes (declarations text.toList) (parse text).pairs := by
  have hkeys : (parse text).pairs.map Prod.fst =
      distinct [] ((declarations text.toList).map Prod.fst) := keys_foldl_note
  constructor
  · rw [hkeys]
    exact nodup_distinct _ _
  · simp [hkeys, mem_distinct]
  · rw [hkeys]
    exact pairwise_distinct _ _
  · intro old new
    exact mem_foldl_note.trans (by simp)

/-- **Reading undoes writing.** From a text that declares headers, in any lines and whatever their paths hold,
each old path is noted once, in the order in which the paths were declared first, with the new path that was
declared last, and nothing else is noted.

**Proof sketch.** Nothing opens in a line that is no declaration, nor across its end, so reading comes to the
first declaration. There the old path ends at the white space, and the last closing parenthesis of the new
path's word is the one behind the new path, since the line ends there. So reading goes on behind the
declaration and never looks into it. -/
theorem parse_of_declares (h : Declares text.toList declared) :
    Notes (declared.map rooted) (parse text).pairs := by
  rw [← declarations_of_declares h]
  exact notes_parse text

/-- A build file whose paths hold parentheses and openings, and in which one header is declared twice. -/
def entangled : String :=
  "# deprecated_header\n" ++ "deprecated_header(a.h deprecated_header(a.hpp)\r\n" ++
    "deprecated_header(deprecated_header(b)\n\t(b)\n" ++ "deprecated_header(a.h a)(.hpp)\n" ++ "endif()"

/-- What the build file declares. -/
def entangledPaths : List (String × String) :=
  [("a.h", "deprecated_header(a.hpp"), ("deprecated_header(b)", "(b"), ("a.h", "a)(.hpp")]

/-- The build file declares its paths. -/
lemma declares_entangled : Declares entangled.toList entangledPaths := by
  have htext : entangled.toList =
      "# deprecated_header".toList ++ (['\n'] ++
        (opening ++ ("a.h".toList ++ ([' '] ++ ("deprecated_header(a.hpp".toList ++ ')' :: (['\r', '\n'] ++
        (opening ++ ("deprecated_header(b)".toList ++ (['\n', '\t'] ++ ("(b".toList ++ ')' :: (['\n'] ++
        (opening ++ ("a.h".toList ++ ([' '] ++ ("a)(.hpp".toList ++ ')' :: (['\n'] ++
        "endif()".toList)))))))))))))))) := by decide +kernel
  rw [htext]
  refine .other (by decide +kernel) .feed
    (.declared (by decide +kernel) (by decide +kernel) (by decide +kernel) .returnFeed
      (.declared (by decide +kernel) (by decide +kernel) (by decide +kernel) .feed
        (.declared (by decide +kernel) (by decide +kernel) (by decide +kernel) .feed
          (.last (by decide +kernel)))))

/-- **Paths that hold parentheses and openings** are read back, and the last declaration of a path counts. -/
theorem parse_of_declares_entangled :
    Declares entangled.toList entangledPaths ∧
      Notes (entangledPaths.map rooted) (parse entangled).pairs ∧
      (parse entangled).pairs = [("open62541pp/a.h", "open62541pp/a)(.hpp"),
        ("open62541pp/deprecated_header(b)", "open62541pp/(b")] :=
  ⟨declares_entangled, parse_of_declares declares_entangled, by decide +kernel⟩

end UaHeaders.Sweep.Deprecations
