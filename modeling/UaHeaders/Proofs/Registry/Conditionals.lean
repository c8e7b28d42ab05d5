import UaHeaders.Proofs.Header.Assembly

/-!
# Conditional lines

How the C preprocessor reads lines as far as `#ifdef` and `#endif` go. A line is active when the symbols
of all conditionals around it are defined. Lines that close every conditional that they open can be read
by themselves, and what is read of several such pieces is what is read of each.

## Main definitions

* `UaHeaders.Preprocessor.step` — reading one line.
* `UaHeaders.Preprocessor.activeLines?` — the active lines, if all conditionals are balanced.
* `UaHeaders.Preprocessor.Reads` — lines that can be read by themselves.

## Main results

* `UaHeaders.Preprocessor.Reads.guarded` — a conditional around lines.
* `UaHeaders.Preprocessor.reads_spaced` — lists of lines with one empty line between.
* `UaHeaders.Preprocessor.Reads.activeLines?_eq` — reading from the beginning.
-/

set_option autoImplicit false

namespace UaHeaders.Preprocessor

open Text

/-! ## Reading -/

/-- **What a line means** to a reader of conditionals. -/
inductive Directive where
  | ifdef (symbol : String)
  | endif
  /-- Any other conditional. It is not read here. -/
  | other
  deriving DecidableEq

/-- **The conditional in a line**, if it is one. The symbol is the rest of the line. -/
def directive? (line : String) : Option Directive :=
  if hasPrefix "#ifdef " line then some (.ifdef (String.ofList (line.toList.drop 7)))
  else if hasPrefix "#endif" line then some .endif
  else if hasPrefix "#if" line || hasPrefix "#el" line then some .other
  else none

/-- **What has been read**: whether the conditions that are open hold, the innermost first, and the lines
that were active. -/
structure State where
  conditions : List Bool
  kept : List String

/-- Whether a line is active now. -/
def State.active (s : State) : Bool := s.conditions.all id

/-- **Reads one line.** A conditional that is not open cannot be closed. -/
def step (defined : String → Bool) (s : State) (line : String) : Option State :=
  match directive? line with
  | some (.ifdef symbol) => some { s with conditions := defined symbol :: s.conditions }
  | some .endif =>
    match s.conditions with
    | [] => none
    | _ :: outer => some { s with conditions := outer }
  | some .other => none
  | none => some (if s.active then { s with kept := s.kept ++ [line] } else s)

/-- **The active lines**, if all conditionals are balanced. -/
def activeLines? (defined : String → Bool) (ls : List String) : Option (List String) :=
  match ls.foldlM (step defined) ⟨[], []⟩ with
  | some ⟨[], kept⟩ => some kept
  | _ => none

/-! ## Lines that can be read by themselves -/

variable {defined : String → Bool} {line symbol : String} {ls ks kept kept' : List String}

/-- **Lines that close what they open**, with those of them that are active when nothing around them is
false. -/
def Reads (defined : String → Bool) (ls kept : List String) : Prop :=
  ∀ s : State, ls.foldlM (step defined) s =
    some (if s.active then { s with kept := s.kept ++ kept } else s)

/-- No lines. -/
lemma reads_nil : Reads defined [] [] := by
  intro s
  simp [pure]

/-- A line that is no conditional. -/
lemma reads_line (h : directive? line = none) : Reads defined [line] [line] := by
  intro s
  simp [step, h]

/-- Lines behind others. -/
lemma Reads.append (h : Reads defined ls kept) (h' : Reads defined ks kept') :
    Reads defined (ls ++ ks) (kept ++ kept') := by
  intro s
  rw [List.foldlM_append, h s, Option.bind_eq_bind, Option.bind_some, h']
  by_cases hs : s.active
  · have hs' : State.active { s with kept := s.kept ++ kept } = true := hs
    rw [if_pos hs, if_pos hs', if_pos hs, List.append_assoc]
  · rw [if_neg hs, if_neg hs, if_neg hs]

/-- Lines that are no conditionals. -/
lemma reads_of_forall (h : ∀ l ∈ ls, directive? l = none) : Reads defined ls ls := by
  induction ls with
  | nil => exact reads_nil
  | cons l ls ih =>
    rw [List.forall_mem_cons] at h
    exact (reads_line h.1).append (ih h.2)

/-- **Pieces with one empty line between.** -/
lemma reads_spaced {p q : List (List String)} (h : List.Forall₂ (Reads defined) p q) :
    Reads defined (spaced p) (spaced q) := by
  induction h with
  | nil => exact reads_nil
  | @cons ls kept p q hfirst hrest ih =>
    cases hrest with
    | nil => simpa [spaced] using hfirst
    | @cons ls' kept' p q _ _ =>
      rw [spaced_cons ls (by simp), spaced_cons kept (by simp)]
      exact hfirst.append ((reads_line (by decide)).append ih)

/-- The directive that opens a conditional. -/
lemma directive?_ifdef (symbol : String) : directive? ("#ifdef " ++ symbol) = some (.ifdef symbol) := by
  have hlist : ("#ifdef " ++ symbol).toList = "#ifdef ".toList ++ symbol.toList :=
    String.toList_append
  have hstart : hasPrefix "#ifdef " ("#ifdef " ++ symbol) = true := by
    rw [hasPrefix, hlist, List.isPrefixOf_iff_prefix]
    exact List.prefix_append _ _
  have hrest : ("#ifdef " ++ symbol).toList.drop 7 = symbol.toList := by
    have hlength : "#ifdef ".toList.length = 7 := by decide
    rw [hlist, ← hlength, List.drop_left]
  rw [directive?, if_pos hstart, hrest, String.ofList_toList]

/-- The directive that closes one, with what is said of it behind. -/
lemma directive?_endif (rest : String) : directive? ("#endif" ++ rest) = some .endif := by
  have hlist : ("#endif" ++ rest).toList = "#endif".toList ++ rest.toList := String.toList_append
  have hstart : hasPrefix "#endif" ("#endif" ++ rest) = true := by
    rw [hasPrefix, hlist, List.isPrefixOf_iff_prefix]
    exact List.prefix_append _ _
  have hother : hasPrefix "#ifdef " ("#endif" ++ rest) = false := by
    rw [hasPrefix, hlist]
    rfl
  rw [directive?, if_neg (by simp [hother]), if_pos hstart]

/-- A line that does not begin with a hash is no conditional. -/
lemma directive?_of_head {c : Char} (hhead : line.toList.head? = some c) (hc : c ≠ '#') :
    directive? line = none := by
  have hifdef := hasPrefix_eq_false (show "#ifdef ".toList.head? = some '#' by decide) hhead hc
  have hendif := hasPrefix_eq_false (show "#endif".toList.head? = some '#' by decide) hhead hc
  have hif := hasPrefix_eq_false (show "#if".toList.head? = some '#' by decide) hhead hc
  have hel := hasPrefix_eq_false (show "#el".toList.head? = some '#' by decide) hhead hc
  simp [directive?, hifdef, hendif, hif, hel]

/-- **A conditional around lines**: they are active when its symbol is defined. -/
lemma Reads.guarded (h : Reads defined ls kept) (symbol : String) {closing : String}
    (hclosing : directive? closing = some .endif) :
    Reads defined (("#ifdef " ++ symbol) :: ls ++ [closing])
      (if defined symbol then kept else []) := by
  intro s
  have hopen : step defined s ("#ifdef " ++ symbol) =
      some { s with conditions := defined symbol :: s.conditions } := by
    rw [step, directive?_ifdef]
  have hactive : State.active { s with conditions := defined symbol :: s.conditions } =
      (defined symbol && s.active) := by
    simp [State.active]
  rw [List.cons_append, List.foldlM_cons, hopen, Option.bind_eq_bind, Option.bind_some,
    List.foldlM_append, h, hactive]
  -- the closing line takes the condition away again, whatever was kept
  rcases hd : defined symbol <;> rcases hs : s.active <;> simp [step, hclosing]

/-- **Reading from the beginning.** -/
lemma Reads.activeLines?_eq (h : Reads defined ls kept) : activeLines? defined ls = some kept := by
  rw [activeLines?, h]
  simp [State.active]

end UaHeaders.Preprocessor
