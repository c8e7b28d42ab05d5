import Mathlib.Tactic
import UaHeaders.Text.Search

/-!
# Replacing texts

Replacing goes through a text once, so what it leaves may hold the text that was looked for: the text put
in may hold it, or may join with what stands before or behind it. Whether that can happen is a matter of
how three texts meet — the one that is sought afterwards, the old one and the new one.

## Main definitions

* `UaHeaders.Text.Agree` — texts of which one begins with the other.
* `UaHeaders.Text.Apart` — a text that no replacement brings about.

## Main results

* `UaHeaders.Text.replaceChars_eq_self_iff` — replacing changes a text exactly if it finds something.
* `UaHeaders.Text.infix_of_infix_replaceChars` — what is apart from a replacement is not brought about.
* `UaHeaders.Text.replaceChars_idempotent_iff` — when replacing twice is replacing once.
-/

set_option autoImplicit false

namespace UaHeaders.Text

variable {old new sought cs u v : List Char}

/-! ## Steps of a replacement -/

/-- Replacing goes on behind an occurrence. -/
lemma replaceChars_append (hold : old ≠ []) (cs : List Char) :
    replaceChars old new (old ++ cs) = new ++ replaceChars old new cs := by
  obtain ⟨a, old, rfl⟩ := List.exists_cons_of_ne_nil hold
  rw [List.cons_append, replaceChars, if_pos (by simp [List.isPrefixOf_iff_prefix])]
  simp

/-- Replacing passes over a character where nothing occurs. -/
lemma replaceChars_cons_of_absent {c : Char} (h : ¬ old <+: c :: cs) :
    replaceChars old new (c :: cs) = c :: replaceChars old new cs := by
  rw [replaceChars, if_neg]
  rw [Bool.and_eq_true, List.isPrefixOf_iff_prefix]
  exact fun h' => h h'.1

/-- Replacing passes over a text in which no occurrence begins. -/
lemma replaceChars_append_of_absent
    (h : ∀ w, w <:+ u → w ≠ [] → ¬ old <+: w ++ cs) :
    replaceChars old new (u ++ cs) = u ++ replaceChars old new cs := by
  induction u with
  | nil => rfl
  | cons c u ih =>
    have hhere : ¬ old <+: c :: (u ++ cs) := h (c :: u) List.suffix_rfl (by simp)
    have hbehind : ∀ w, w <:+ u → w ≠ [] → ¬ old <+: w ++ cs := fun w hw =>
      h w (hw.trans (List.suffix_cons c u))
    rw [List.cons_append, replaceChars_cons_of_absent hhere, ih hbehind, List.cons_append]

/-- Where a text does not occur nothing is replaced. -/
lemma replaceChars_eq_self (h : ¬ old <:+: cs) : replaceChars old new cs = cs := by
  induction cs with
  | nil => rw [replaceChars]
  | cons c cs ih =>
    rw [List.infix_cons_iff, not_or] at h
    rw [replaceChars_cons_of_absent h.1, ih h.2]

/-- Texts that do not occur are not replaced, one after the other. -/
lemma foldl_replaceAll_eq_self {α : Type} {olds news : α → String} {items : List α} {text : String}
    (h : ∀ a ∈ items, ¬ (olds a).toList <:+: text.toList) :
    items.foldl (fun text a => replaceAll (olds a) (news a) text) text = text := by
  induction items with
  | nil => rfl
  | cons a items ih =>
    rw [List.forall_mem_cons] at h
    rw [List.foldl_cons, replaceAll, replaceChars_eq_self h.1, String.ofList_toList, ih h.2]

/-- A text has an occurrence at its beginning, or none there. -/
lemma replaceChars_cases (hold : old ≠ []) (new cs : List Char) :
    cs = [] ∨ (∃ rest, cs = old ++ rest ∧
        replaceChars old new cs = new ++ replaceChars old new rest) ∨
      ∃ c rest, cs = c :: rest ∧ ¬ old <+: c :: rest ∧
        replaceChars old new cs = c :: replaceChars old new rest := by
  rcases cs with _ | ⟨c, cs⟩
  · exact .inl rfl
  · by_cases h : old <+: c :: cs
    · obtain ⟨rest, hrest⟩ := h
      refine .inr (.inl ⟨rest, hrest.symm, ?_⟩)
      rw [← hrest, replaceChars_append hold]
    · exact .inr (.inr ⟨c, cs, rfl, h, replaceChars_cons_of_absent h⟩)

/-- The length of a text changes by the same amount for each occurrence. -/
lemma length_replaceChars (hold : old ≠ []) (new cs : List Char) :
    ∃ k, (replaceChars old new cs).length + k * old.length = cs.length + k * new.length := by
  have hpos : 0 < old.length := List.length_pos_of_ne_nil hold
  induction hn : cs.length using Nat.strong_induction_on generalizing cs with
  | _ n ih =>
    subst hn
    rcases replaceChars_cases hold new cs with rfl | ⟨rest, rfl, hsame⟩ |
      ⟨c, rest, rfl, -, hsame⟩
    · exact ⟨0, by simp [replaceChars]⟩
    · obtain ⟨k, hk⟩ := ih rest.length (by simp; omega) rest rfl
      refine ⟨k + 1, ?_⟩
      rw [hsame, List.length_append, List.length_append, Nat.add_mul, Nat.add_mul]
      omega
    · obtain ⟨k, hk⟩ := ih rest.length (by simp) rest rfl
      refine ⟨k, ?_⟩
      rw [hsame, List.length_cons, List.length_cons]
      omega

/-- **Replacing changes a text exactly if it finds something.**

**Proof sketch.** Suppose that the text is found and nothing changes. By `length_replaceChars`, what
replaces it is as long; and then they are the same, which they are not. -/
lemma replaceChars_eq_self_iff (hold : old ≠ []) (hne : old ≠ new) :
    replaceChars old new cs = cs ↔ ¬ old <:+: cs := by
  refine ⟨fun h hwithin => ?_, replaceChars_eq_self⟩
  induction cs with
  | nil => exact hold (List.infix_nil.1 hwithin)
  | cons c cs ih =>
    rcases replaceChars_cases hold new (c :: cs) with hnil | ⟨rest, heq, hsame⟩ |
      ⟨d, rest, heq, hnot, hsame⟩
    · cases hnil
    · rw [hsame, heq] at h
      -- the rest makes up for no difference in length, so there is none
      obtain ⟨k, hk⟩ := length_replaceChars hold new rest
      have hlength := congrArg List.length h
      rw [List.length_append, List.length_append] at hlength
      have hmul : (k + 1) * new.length = (k + 1) * old.length := by
        rw [Nat.add_mul, Nat.add_mul]
        omega
      have hsize : new.length = old.length := Nat.eq_of_mul_eq_mul_left (Nat.succ_pos k) hmul
      exact hne (List.append_inj_left h hsize).symm
    · obtain ⟨rfl, rfl⟩ : c = d ∧ cs = rest := by simpa using heq
      rw [hsame, List.cons.injEq] at h
      rcases List.infix_cons_iff.1 hwithin with hbegins | hbehind
      · exact hnot hbegins
      · exact ih h.2 hbehind

/-! ## What replacing brings about -/

/-- **Texts of which one begins with the other.** -/
def Agree (v w : List Char) : Prop := v <+: w ∨ w <+: v

instance (v w : List Char) : Decidable (Agree v w) := inferInstanceAs (Decidable (_ ∨ _))

/-- Beginnings of one text agree. -/
lemma agree_of_beginnings {w : List Char} (hv : v <+: cs) (hw : w <+: cs) : Agree v w :=
  List.prefix_or_prefix_of_prefix hv hw

/-- **A text that is not brought about by putting `new` in the place of `old`.** -/
structure Apart (sought old new : List Char) : Prop where
  /-- It does not begin in what is put in. -/
  inside : ∀ v, v <:+ new → v ≠ [] → ¬ Agree sought v
  /-- If it may go on into what is put in, it went on into what stood there before. -/
  before : ∀ v, v <:+ sought → v ≠ [] → v ≠ sought → Agree v new → v <+: old

instance (sought old new : List Char) : Decidable (Apart sought old new) :=
  decidable_of_iff
    ((∀ v ∈ new.tails, v ≠ [] → ¬ Agree sought v) ∧
      ∀ v ∈ sought.tails, v ≠ [] → v ≠ sought → Agree v new → v <+: old)
    (by
      simp only [List.mem_tails]
      exact ⟨fun h => ⟨h.1, h.2⟩, fun h => ⟨h.inside, h.before⟩⟩)

/-- What the end of a text goes on with after a replacement it went on with before.

**Proof sketch.** Induction on the text. If a replacement stands at its beginning, what it goes on with
agrees with the new text, and then it is a beginning of the old one. -/
lemma Apart.prefix_of_prefix_replaceChars (h : Apart sought old new) (hold : old ≠ [])
    (hv : v <:+ sought) (hne : v ≠ sought) (hbegins : v <+: replaceChars old new cs) : v <+: cs := by
  induction cs generalizing v with
  | nil => simpa [replaceChars] using hbegins
  | cons c cs ih =>
    rcases v with _ | ⟨d, v⟩
    · exact List.nil_prefix
    rcases replaceChars_cases hold new (c :: cs) with hnil | ⟨rest, heq, hsame⟩ |
      ⟨e, rest, heq, -, hsame⟩
    · cases hnil
    · rw [hsame] at hbegins
      have hagree : Agree (d :: v) new := agree_of_beginnings hbegins (List.prefix_append _ _)
      rw [heq]
      exact (h.before _ hv (by simp) hne hagree).trans (List.prefix_append _ _)
    · obtain ⟨rfl, rfl⟩ : c = e ∧ cs = rest := by simpa using heq
      rw [hsame, List.cons_prefix_cons] at hbegins
      have hv' : v <:+ sought := (List.suffix_cons d v).trans hv
      have hne' : v ≠ sought := by
        rintro rfl
        simpa using hv.length_le
      rw [List.cons_prefix_cons]
      exact ⟨hbegins.1, ih hv' hne' hbegins.2⟩

/-- **What is apart from a replacement is not brought about**: it was there before, and is not what was
replaced.

**Proof sketch.** Strong induction on the length. An occurrence lies behind what was put in first, for it
can neither lie in it nor reach out of it. Where nothing was put in, it begins as it did before
(`Apart.prefix_of_prefix_replaceChars`), or lies behind. -/
lemma infix_of_infix_replaceChars (h : Apart sought old new) (hold : old ≠ []) (hsought : sought ≠ [])
    (hwithin : sought <:+: replaceChars old new cs) : sought ≠ old ∧ sought <:+: cs := by
  induction hn : cs.length using Nat.strong_induction_on generalizing cs with
  | _ n ih =>
    subst hn
    rcases replaceChars_cases hold new cs with rfl | ⟨rest, rfl, hsame⟩ |
      ⟨c, rest, rfl, hnot, hsame⟩
    · rw [replaceChars, List.infix_nil] at hwithin
      exact absurd hwithin hsought
    · -- it begins in `new`, which it does not, or behind it
      rw [hsame] at hwithin
      have hbehind : sought <:+: replaceChars old new rest := by
        rcases List.infix_append_iff.1 hwithin with hnew | hrest | ⟨v, w, rfl, hv, hw⟩
        · obtain ⟨v, hbegins, hsuffix⟩ := List.infix_iff_prefix_suffix.1 hnew
          refine absurd (.inl hbegins) (h.inside v hsuffix ?_)
          rintro rfl
          exact hsought (List.prefix_nil.1 hbegins)
        · exact hrest
        · rcases eq_or_ne v [] with rfl | hne
          · exact hw.isInfix
          · exact absurd (.inr (List.prefix_append v w)) (h.inside v hv hne)
      have hpos : 0 < old.length := List.length_pos_of_ne_nil hold
      obtain ⟨hne, hrest⟩ := ih rest.length (by simp; omega) hbehind rfl
      exact ⟨hne, hrest.trans (List.suffix_append _ _).isInfix⟩
    · rw [hsame] at hwithin
      rcases List.infix_cons_iff.1 hwithin with hbegins | hbehind
      · have hhere : sought <+: c :: rest := by
          obtain ⟨d, tail, rfl⟩ := List.exists_cons_of_ne_nil hsought
          rw [List.cons_prefix_cons] at hbegins ⊢
          exact ⟨hbegins.1, h.prefix_of_prefix_replaceChars hold (List.suffix_cons _ _) (by simp)
            hbegins.2⟩
        refine ⟨?_, hhere.isInfix⟩
        rintro rfl
        exact hnot hhere
      · obtain ⟨hne, hrest⟩ := ih rest.length (by simp) hbehind rfl
        exact ⟨hne, hrest.trans (List.suffix_cons _ _).isInfix⟩

/-! ## Replacing twice -/

/-- Texts that go on as they begin, after the same first part, begin alike.

**Proof sketch.** Strong induction on the length. A text that is shorter than the first part is a
beginning of it, and the other text begins with it or is one too; otherwise the first part is taken away
from both. -/
lemma prefix_of_prefix_append {w : List Char} (hw : w ≠ []) (hv : v <+: w ++ v) (hu : u <+: w ++ u)
    (hle : v.length ≤ u.length) : v <+: u := by
  induction hn : v.length using Nat.strong_induction_on generalizing u v with
  | _ n ih =>
    subst hn
    rcases Nat.lt_or_ge v.length w.length with hshort | hlong
    · have hvw : v <+: w := List.prefix_of_prefix_length_le hv (List.prefix_append _ _) hshort.le
      rcases agree_of_beginnings hu (List.prefix_append w u) with huw | hwu
      · exact List.prefix_of_prefix_length_le hvw huw hle
      · exact hvw.trans hwu
    · -- both begin with `w`, and what follows is as it was
      obtain ⟨v', rfl⟩ := List.prefix_of_prefix_length_le (List.prefix_append w v) hv hlong
      obtain ⟨u', rfl⟩ :=
        List.prefix_of_prefix_length_le (List.prefix_append w u) hu (hlong.trans hle)
      rw [List.prefix_append_right_inj] at hv hu ⊢
      have hpos : 0 < w.length := List.length_pos_of_ne_nil hw
      exact ih v'.length (by simp; omega) hv hu (by simpa using hle) rfl

/-- A text whose end is no beginning of it occurs at its own place only. -/
lemma not_prefix_append {w : List Char} (hv : ¬ v <+: u ++ v) (hw : w <:+ u) (hne : w ≠ [])
    (cs : List Char) : ¬ u ++ v <+: w ++ (u ++ v ++ cs) := by
  intro h
  have hover : u ++ v <+: w ++ (u ++ v) := by
    rw [← List.append_assoc] at h
    exact List.prefix_of_prefix_length_le h (List.prefix_append _ _) (by simp)
  obtain ⟨u', rfl⟩ := hw
  -- moved by `w`, the whole text meets itself, and so does each end of it
  have hend : v <+: w ++ v := by
    have hmoved := (hover.drop w.length).drop u'.length
    rwa [List.drop_left' rfl, List.drop_drop, List.drop_left' (by simp; omega), List.append_assoc,
      List.drop_left' rfl] at hmoved
  exact hv (prefix_of_prefix_append hne hend hover (by simp; omega))

/-- **Replacing twice is replacing once exactly if the old text is not brought about.**

**Proof sketch.** If replacing twice is replacing once, nothing is found after the first time
(`replaceChars_eq_self_iff`). Each way in which the new text could bring the old one about is shown by a
text in which it would be found: one where the old text stands alone, or next to its own end or
beginning. The other direction is `infix_of_infix_replaceChars`. -/
theorem replaceChars_idempotent_iff (hold : old ≠ []) (hne : old ≠ new) :
    (∀ cs, replaceChars old new (replaceChars old new cs) = replaceChars old new cs) ↔
      Apart old old new := by
  constructor
  · intro h
    have hnone : ∀ cs, ¬ old <:+: replaceChars old new cs := fun cs =>
      (replaceChars_eq_self_iff hold hne).1 (h cs)
    -- what is shorter than the old text stays as it is
    have hshort : ∀ cs : List Char, cs.length < old.length → replaceChars old new cs = cs :=
      fun cs hlt => replaceChars_eq_self fun hwithin => absurd hwithin.length_le (by omega)
    constructor
    · rintro v ⟨x, rfl⟩ hv (⟨w, rfl⟩ | ⟨w, rfl⟩)
      · apply hnone (old ++ [])
        rw [replaceChars_append hold, hshort [] (List.length_pos_of_ne_nil hold)]
        exact ⟨x, w, by simp⟩
      · apply hnone (v ++ w ++ w)
        have hpos : 0 < v.length := List.length_pos_of_ne_nil hv
        rw [replaceChars_append hold, hshort w (by simp; omega)]
        exact ⟨x, [], by simp⟩
    · rintro v ⟨u, rfl⟩ - hproper hagree
      by_contra hnot
      have hu : u ≠ [] := by
        rintro rfl
        exact hproper rfl
      have hpos : 0 < u.length := List.length_pos_of_ne_nil hu
      have hpass : ∀ cs, replaceChars (u ++ v) new (u ++ (u ++ v ++ cs)) =
          u ++ (new ++ replaceChars (u ++ v) new cs) := by
        intro cs
        rw [replaceChars_append_of_absent fun w hw hne => not_prefix_append hnot hw hne cs,
          replaceChars_append hold]
      rcases hagree with ⟨w, rfl⟩ | ⟨w, rfl⟩
      · apply hnone (u ++ (u ++ v ++ []))
        rw [hpass]
        exact ⟨[], w ++ replaceChars (u ++ v) (v ++ w) [], by simp⟩
      · apply hnone (u ++ (u ++ (new ++ w) ++ w))
        rw [hpass, hshort w (by simp; omega)]
  · intro h cs
    exact replaceChars_eq_self fun hwithin =>
      (infix_of_infix_replaceChars h hold hold hwithin).1 rfl

end UaHeaders.Text
