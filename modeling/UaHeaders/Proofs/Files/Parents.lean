import UaHeaders.Proofs.Files.Ancestors
import UaHeaders.Proofs.Files.Operations

/-!
# A path and its parent

The parent of a path is found by its text. Here this is tied to where the two lead: a path whose last
component is a name leads one step further than its parent, along that name. What is trimmed from the
end of a parent, separators and single dots, are steps that stay where they are.

## Main definitions

* `UaHeaders.Path.Trimmed` — nothing is to be trimmed from the end of a path.
* `UaHeaders.Path.Onward`, `UaHeaders.Path.Child` — a path is another one continued by a component, or by a
  name.

## Main results

* `UaHeaders.Path.foldlM_trimEnd` — trimming keeps where a path leads.
* `UaHeaders.Path.onward_of_parent?` — a trimmed path is its parent continued.
* `UaHeaders.Path.child_of_parent?` — by a name, if it has one at its end.
* `UaHeaders.FileTree.Child.reaches_iff` — when such a path is reached.
-/

set_option autoImplicit false

namespace UaHeaders

namespace Path

variable {p q : Path} {cs name : List Char}

/-! ## Segments -/

/-- The segments of a text before and after a separator. -/
lemma segments_append_separator (before : List Char) (h : '/' ∉ name) :
    segments ⟨String.ofList (before ++ '/' :: name)⟩ =
      segments ⟨String.ofList before⟩ ++ [String.ofList name] := by
  simp only [segments, String.toList_ofList]
  rw [List.splitOn_append_cons_self, List.map_append, List.splitOn_eq_singleton h, List.map_cons,
    List.map_nil]

/-- A separator at the end makes an empty segment. -/
lemma segments_ofRev_separator (cs : List Char) :
    (ofRev ('/' :: cs)).segments = (ofRev cs).segments ++ [""] := by
  have h := segments_append_separator cs.reverse (show '/' ∉ [] by simp)
  simpa [ofRev] using h

/-- A dot at the end makes a segment of its own. -/
lemma segments_ofRev_dot (cs : List Char) :
    (ofRev ('.' :: '/' :: cs)).segments = (ofRev cs).segments ++ ["."] := by
  have h := segments_append_separator cs.reverse (show '/' ∉ ['.'] by simp)
  simpa [ofRev] using h

/-! ## Trimming -/

/-- **Nothing is to be trimmed** from the end of a path. -/
def Trimmed (p : Path) : Prop := trimEnd p.text.toList.reverse = p.text.toList.reverse

/-- What is trimmed stays so. -/
lemma trimEnd_trimEnd (cs : List Char) : trimEnd (trimEnd cs) = trimEnd cs := by
  fun_induction trimEnd cs with
  | case1 => simp [trimEnd]
  | case2 _ _ ih => exact ih
  | case3 _ ih => exact ih
  | case4 cs h₁ h₂ h₃ => exact trimEnd.eq_4 cs h₁ h₂ h₃

/-- Trimming takes from the end only. -/
lemma trimEnd_suffix (cs : List Char) : trimEnd cs <:+ cs := by
  fun_induction trimEnd cs with
  | case1 => exact List.suffix_refl _
  | case2 cs _ ih => exact ih.trans (List.suffix_cons _ _)
  | case3 cs ih => exact ih.trans (List.suffix_cons _ _)
  | case4 => exact List.suffix_refl _

/-- Trimming keeps the first character, the last of the reversed ones. -/
lemma getLast?_trimEnd (cs : List Char) : (trimEnd cs).getLast? = cs.getLast? := by
  fun_induction trimEnd cs with
  | case1 => rfl
  | case2 cs h ih =>
    rw [ih]
    cases cs with
    | nil => exact absurd rfl h
    | cons c cs => rw [List.getLast?_cons_cons]
  | case3 cs ih => rw [ih, List.getLast?_cons_cons]
  | case4 => rfl

/-- **Trimming keeps where a path leads**, once a further step is made: for any way of stepping on which
an empty component and a dot stay. -/
lemma foldlM_trimEnd {β : Type} {m : Type → Type} [Monad m] [LawfulMonad m]
    {f : β → String → m β} (h₀ : ∀ l c, (f l "" >>= fun l' => f l' c) = f l c)
    (h₁ : ∀ l c, (f l "." >>= fun l' => f l' c) = f l c) (cs : List Char) (l : β) (c : String) :
    ((ofRev (trimEnd cs)).segments.foldlM f l >>= fun l' => f l' c) =
      (ofRev cs).segments.foldlM f l >>= fun l' => f l' c := by
  fun_induction trimEnd cs with
  | case1 => rfl
  | case2 cs _ ih => simp [ih, segments_ofRev_separator, List.foldlM_append, h₀]
  | case3 cs ih =>
    simp [ih, segments_ofRev_separator, segments_ofRev_dot, List.foldlM_append, h₀, h₁]
  | case4 => rfl

/-! ## Children -/

/-- **`p` is `q` continued by a component**: whatever way there is of stepping along components, `p` leads one
step further than `q`, as long as an empty component and a dot stay. -/
structure Onward (q : Path) (c : String) (p : Path) : Prop where
  isAbsolute : p.isAbsolute = q.isAbsolute
  usable : p.Usable → q.text.isEmpty = false → q.Usable
  walk : ∀ {β : Type} {m : Type → Type} [Monad m] [LawfulMonad m] {f : β → String → m β},
    (∀ l c, (f l "" >>= fun l' => f l' c) = f l c) →
    (∀ l c, (f l "." >>= fun l' => f l' c) = f l c) → ∀ l,
    p.segments.foldlM f l = q.segments.foldlM f l >>= fun l' => f l' c

/-- **`p` is `q` continued by a name**: whatever way there is of stepping along components, `p` leads one
step further than `q`, as long as an empty component and a dot stay. -/
structure Child (q : Path) (name : String) (p : Path) : Prop where
  plain : name ≠ "" ∧ name ≠ "." ∧ name ≠ ".."
  isAbsolute : p.isAbsolute = q.isAbsolute
  usable : p.Usable → q.text.isEmpty = false → q.Usable
  last : p.segments.getLast? = some name
  walk : ∀ {β : Type} {m : Type → Type} [Monad m] [LawfulMonad m] {f : β → String → m β},
    (∀ l c, (f l "" >>= fun l' => f l' c) = f l c) →
    (∀ l c, (f l "." >>= fun l' => f l' c) = f l c) → ∀ l,
    p.segments.foldlM f l = q.segments.foldlM f l >>= fun l' => f l' name

/-- The reversed characters of a path. -/
lemma ofRev_reverse (p : Path) : ofRev p.text.toList.reverse = p := by simp [ofRev]

/-- A path is absolute when the last of its reversed characters is a separator. -/
lemma isAbsolute_eq (p : Path) :
    p.isAbsolute = (p.text.toList.reverse.getLast? == some '/') := by
  rw [isAbsolute, List.getLast?_reverse]

/-- A path that begins a usable one is usable if it is not empty. -/
lemma Usable.of_suffix (h : p.Usable)
    (hs : q.text.toList.reverse <:+ p.text.toList.reverse) (hne : q.text.isEmpty = false) :
    q.Usable := by
  rw [List.reverse_suffix] at hs
  obtain ⟨rest, hrest⟩ := hs
  have htext : p.text = q.text ++ String.ofList rest := by
    rw [← String.toList_inj]
    simp [hrest]
  have hnul := h.noNul
  have hshort := h.short
  rw [htext] at hnul hshort
  refine ⟨hne, ?_, ?_⟩
  · simp at hnul ⊢
    exact hnul.1
  · rw [String.utf8ByteSize_append] at hshort
    omega

/-- A trimmed path with a name at its end, in reversed characters: the name, and what is above it.

**Proof sketch.** The name is what stands behind the last separator, so it has none, and what is left
begins with one in reversed characters. -/
lemma reverse_of_fileName? {name : String} (ht : p.Trimmed) (hn : p.fileName? = some name) :
    ∃ above, p.text.toList.reverse = name.toList.reverse ++ above ∧ '/' ∉ name.toList ∧
      (above = [] ∨ ∃ cs, above = '/' :: cs) ∧ name ≠ "" ∧ name ≠ "." ∧ name ≠ ".." := by
  unfold fileName? at hn
  rw [ht] at hn
  simp only [Option.ite_none_left_eq_some, Option.some.injEq, not_or] at hn
  obtain ⟨⟨h₀, h₁, h₂⟩, rfl⟩ := hn
  refine ⟨p.text.toList.reverse.dropWhile (· != '/'), ?_, ?_, ?_, ?_, ?_, ?_⟩
  · simp [List.takeWhile_append_dropWhile]
  · intro hmem
    simp only [String.toList_ofList, List.mem_reverse] at hmem
    simpa using List.all_eq_true.1 List.all_takeWhile _ hmem
  · rcases hd : p.text.toList.reverse.dropWhile (· != '/') with _ | ⟨c, cs⟩
    · exact .inl rfl
    · have hc := List.head?_dropWhile_not (· != '/') p.text.toList.reverse
      exact .inr ⟨cs, by simpa [hd] using hc⟩
  all_goals
    intro heq
    rw [← String.toList_inj, String.toList_ofList] at heq
  · exact h₀ heq
  · exact h₁ (by simpa using heq)
  · exact h₂ (by simpa using heq)

/-- What is above a name at the end of reversed characters.

**Proof sketch.** Nothing is trimmed from the name, whose first character is no separator. So the name is
dropped up to what is above it. -/
lemma parentRev?_append {above : List Char} (ht : trimEnd (name ++ above) = name ++ above)
    (hne : name ≠ []) (hsep : '/' ∉ name) (habove : above = [] ∨ ∃ cs, above = '/' :: cs) :
    parentRev? (name ++ above) = some (trimEnd above) := by
  obtain ⟨c, cs, rfl⟩ := List.exists_cons_of_ne_nil hne
  simp only [List.mem_cons, not_or] at hsep
  have hdrop : (cs ++ above).dropWhile (· != '/') = above := by
    have hname : ∀ a ∈ cs, (a != '/') = true := by
      intro a ha
      rw [bne_iff_ne]
      rintro rfl
      exact hsep.2 ha
    rw [List.dropWhile_append_of_pos hname]
    rcases habove with rfl | ⟨cs', rfl⟩ <;> simp
  unfold parentRev?
  rw [ht, List.cons_append]
  split
  · next h => simp at h
  · next h => exact absurd (List.cons.inj h).1.symm hsep.1
  · next h =>
    obtain ⟨-, rfl⟩ := List.cons.inj h
    rw [hdrop]

/-- The segments of a path whose last component is a name. -/
lemma segments_of_reverse {name : String} {above : List Char}
    (hp : p.text.toList.reverse = name.toList.reverse ++ above) (hsep : '/' ∉ name.toList) :
    (above = [] → p.segments = [name]) ∧
      ∀ cs, above = '/' :: cs → p.segments = (ofRev cs).segments ++ [name] := by
  have htext : p = ⟨String.ofList (above.reverse ++ name.toList)⟩ := by
    rw [← ofRev_reverse p, hp]
    simp [ofRev]
  constructor
  · rintro rfl
    rw [htext]
    simp [segments, List.splitOn_eq_singleton hsep]
  · rintro cs rfl
    rw [htext, List.reverse_cons, List.append_assoc, List.singleton_append,
      segments_append_separator _ hsep]
    simp [ofRev]

/-- **A path is what stands before its last component, trimmed, and continued by that component.**

**Proof sketch.** What stands before the component is nothing, or ends with a separator. In the first case
the parent is the empty path, whose one segment is empty. In the second case the parent is what stands
before, trimmed, and trimming keeps where it leads. -/
lemma onward_of_reverse {name : String} {above : List Char}
    (hp : p.text.toList.reverse = name.toList.reverse ++ above) (hsep : '/' ∉ name.toList)
    (habove : above = [] ∨ ∃ cs, above = '/' :: cs) : Onward (ofRev (trimEnd above)) name p := by
  obtain ⟨hnil, hcons⟩ := segments_of_reverse hp hsep
  refine ⟨?_, ?_, ?_⟩
  · rw [isAbsolute_eq, isAbsolute_eq, reverse_toList_ofRev, getLast?_trimEnd, hp]
    rcases habove with rfl | ⟨cs, rfl⟩
    · rw [List.append_nil, List.getLast?_reverse]
      have hhead : name.toList.head? ≠ some '/' := fun h => hsep (List.mem_of_head? h)
      simpa using hhead
    · rw [List.getLast?_append]
      rcases hlast : ('/' :: cs).getLast? with _ | c
      · simp at hlast
      · rfl
  · refine fun hu => hu.of_suffix ?_
    rw [reverse_toList_ofRev, hp]
    exact (trimEnd_suffix above).trans (List.suffix_append _ _)
  · intro β m _ _ f h₀ h₁ l
    rw [foldlM_trimEnd h₀ h₁]
    rcases habove with rfl | ⟨cs, rfl⟩
    · rw [hnil rfl]
      simp [ofRev, segments, h₀]
    · rw [hcons cs rfl, segments_ofRev_separator]
      simp [List.foldlM_append, h₀]

/-- **A trimmed path is its parent continued by a component.**

**Proof sketch.** A trimmed path ends with no separator, unless it has no parent. So it is cut where its
last component begins, and what is left is the parent once it is trimmed. -/
lemma onward_of_parent? (ht : p.Trimmed) (hq : p.parent? = some q) : ∃ c, Onward q c p := by
  obtain ⟨up, hup, rfl⟩ := Option.map_eq_some_iff.1 hq
  unfold parentRev? at hup
  rw [ht] at hup
  split at hup
  · simp at hup
  · simp at hup
  · next c rest hslash hrest =>
    obtain rfl : trimEnd (rest.dropWhile (· != '/')) = up := by simpa using hup
    have hc : c ≠ '/' := hslash
    refine ⟨String.ofList (c :: rest.takeWhile (· != '/')).reverse, onward_of_reverse ?_ ?_ ?_⟩
    · rw [hrest, String.toList_ofList, List.reverse_reverse, List.cons_append,
        List.takeWhile_append_dropWhile]
    · rw [String.toList_ofList, List.mem_reverse, List.mem_cons, not_or]
      refine ⟨hc.symm, fun hmem => ?_⟩
      simpa using List.all_eq_true.1 List.all_takeWhile _ hmem
    · rcases hd : rest.dropWhile (· != '/') with _ | ⟨d, ds⟩
      · exact .inl rfl
      · have hhead := List.head?_dropWhile_not (· != '/') rest
        exact .inr ⟨ds, by simpa [hd] using hhead⟩

/-- **A trimmed path with a name at its end is its parent continued by that name.** -/
lemma child_of_parent? {name : String} (ht : p.Trimmed) (hq : p.parent? = some q)
    (hn : p.fileName? = some name) : Child q name p := by
  obtain ⟨above, hp, hsep, habove, hplain⟩ := reverse_of_fileName? ht hn
  have hne : name.toList.reverse ≠ [] := by simpa using hplain.1
  have hup : parentRev? p.text.toList.reverse = some (trimEnd above) := by
    rw [hp]
    exact parentRev?_append (by rw [← hp]; exact ht) hne (by simpa using hsep) habove
  obtain rfl : ofRev (trimEnd above) = q := by simpa [parent?, hup] using hq
  have hon := onward_of_reverse hp hsep habove
  refine ⟨hplain, hon.isAbsolute, hon.usable, ?_, hon.walk⟩
  obtain ⟨hnil, hcons⟩ := segments_of_reverse hp hsep
  rcases habove with rfl | ⟨cs, rfl⟩
  · simp [hnil rfl]
  · simp [hcons cs rfl]

/-- A trimmed path is read as it is when a directory is to be made.

**Proof sketch.** Only separators at the end would be taken away, and a trimmed path has none, unless it
is the root. -/
lemma Trimmed.directoryName (h : p.Trimmed) : FileTree.directoryName p = p := by
  have hself : ∀ c cs, p.text.toList.reverse = c :: cs → ofRev (c :: cs) = p :=
    fun c cs hp => by rw [← hp, ofRev_reverse]
  unfold FileTree.directoryName
  unfold Trimmed at h
  rcases hp : p.text.toList.reverse with _ | ⟨c, cs⟩
  · rfl
  · by_cases hc : c = '/'
    · subst hc
      cases cs with
      | nil => rfl
      | cons d ds =>
        -- a separator behind something would have been trimmed
        have hlen := length_trimEnd_le (d :: ds)
        rw [hp, trimEnd.eq_2 _ (by simp)] at h
        rw [h] at hlen
        simp at hlen
    · rw [List.dropWhile_cons_of_neg (by simpa using hc)]
      exact hself c cs hp

/-- A trimmed path with a name at its end has a parent. -/
lemma exists_parent? {name : String} (ht : p.Trimmed) (hn : p.fileName? = some name) :
    ∃ q, p.parent? = some q := by
  obtain ⟨above, hp, hsep, habove, hplain⟩ := reverse_of_fileName? ht hn
  refine ⟨_, by rw [parent?, hp, parentRev?_append (by rw [← hp]; exact ht) (by simpa using hplain.1)
    (by simpa using hsep) habove]; rfl⟩

/-- The reversed characters of a parent are trimmed. -/
lemma trimEnd_of_parentRev? {up : List Char} (h : parentRev? cs = some up) : trimEnd up = up := by
  unfold parentRev? at h
  split at h
  · simp at h
  · simp at h
  · obtain rfl : trimEnd _ = up := by simpa using h
    rw [trimEnd_trimEnd]

/-- The parent of a path is trimmed. -/
lemma trimmed_of_parent? (hq : p.parent? = some q) : q.Trimmed := by
  obtain ⟨up, hup, rfl⟩ := Option.map_eq_some_iff.1 hq
  rw [Trimmed, reverse_toList_ofRev, trimEnd_of_parentRev? hup]

/-- The paths above a path are trimmed. -/
lemma trimmed_of_mem_tail (hq : q ∈ p.ancestors.tail) : q.Trimmed := by
  obtain ⟨up, hup, rfl⟩ := List.mem_map.1 hq
  rw [Trimmed, reverse_toList_ofRev]
  generalize p.text.toList.reverse = cs at hup
  fun_induction ancestorsRev cs with
  | case1 => simp at hup
  | case2 cs next hnext ih =>
    rcases List.mem_cons.1 hup with rfl | hup
    · exact trimEnd_of_parentRev? hnext
    · exact ih hup

/-! ## Places of children -/

variable {name : String} {w : Location}

/-- Staying where one is makes no difference to the next component. -/
lemma along_stay (l : Location) (c c' : String) (h : c = "" ∨ c = ".") :
    Location.along (Location.along l c) c' = Location.along l c' := by
  have hstay : Location.along l c = l := by rw [Location.along, if_pos h]
  rw [hstay]

/-- The place of a path that is continued by a component. -/
lemma Onward.place {c : String} (h : Onward q c p) (w : Location) : p.place w = (q.place w).along c := by
  have hwalk := h.walk (m := Id) (f := fun l c => Location.along l c)
    (fun l c => along_stay l "" c (.inl rfl)) (fun l c => along_stay l "." c (.inr rfl))
    (if p.isAbsolute then [] else w)
  unfold Path.place
  rw [← h.isAbsolute]
  have hfold := congrArg Id.run hwalk
  simp only [List.idRun_foldlM, Id.run_bind] at hfold
  exact hfold

/-- A name is a component. -/
lemma Child.onward (h : Child q name p) : Onward q name p := ⟨h.isAbsolute, h.usable, h.walk⟩

/-- **A child lies in its parent.** -/
lemma Child.place (h : Child q name p) (w : Location) : p.place w = q.place w ++ [name] := by
  rw [h.onward.place, Location.along_of_name h.plain]

/-- The empty path and the single dot stay where they are. -/
lemma place_stay {p : Path} (h : p.text.isEmpty = true ∨ p = ⟨"."⟩) (w : Location) :
    p.place w = w := by
  have hp : p = ⟨""⟩ ∨ p = ⟨"."⟩ := h.imp_left fun hempty => by
    cases p
    simpa using hempty
  have hempty : segments ⟨""⟩ = [""] := by decide
  have hdot : segments ⟨"."⟩ = ["."] := by decide
  rcases hp with rfl | rfl <;> simp [place, hempty, hdot, isAbsolute, Location.along]

end Path

namespace FileTree

variable {t u : FileTree} {l : Location} {p q : Path} {name : String}

/-- The root is a directory. -/
lemma isDir_root (t : FileTree) : t.isDir ⟨"/"⟩ = true := by
  refine isDir_iff.2 ⟨[], ?_, dirAt_nil t⟩
  have hsegments : Path.segments ⟨"/"⟩ = ["", ""] := by decide
  have hsize : "/".utf8ByteSize ≤ 4095 := by decide
  rw [locate_eq_ok_iff_foldlM, hsegments]
  exact ⟨⟨by decide, by decide, hsize⟩,
    by simp [start, Path.isAbsolute, step, bind, Except.bind, pure, Except.pure]⟩

/-- Staying in a directory makes no difference to the next step. -/
lemma step_stay (t : FileTree) (l : Location) (c c' : String) (h : c = "" ∨ c = ".") :
    (t.step l c >>= fun l' => t.step l' c') = t.step l c' := by
  unfold step
  rcases he : t.entry? l with _ | _ | ⟨mode, content⟩
  · rfl
  · simp only [if_pos h, bind, Except.bind, he]
  · rfl

/-- **The components of a path lead somewhere**, whether or not the system accepts the path. -/
def Walks (t : FileTree) (p : Path) : Prop :=
  p.segments.foldlM t.step (t.start p) = .ok (p.place t.workdir)

instance (t : FileTree) (p : Path) : Decidable (t.Walks p) := inferInstanceAs (Decidable (_ = _))

/-- A path is reached when it is usable and its components lead somewhere. -/
lemma reaches_iff_walks : t.Reaches p ↔ p.Usable ∧ t.Walks p := locate_eq_ok_iff_foldlM

/-- The empty path leads somewhere when there is a working directory. -/
lemma walks_of_isEmpty (h : p.text.isEmpty = true) (hw : t.DirAt t.workdir) : t.Walks p := by
  obtain rfl : p = ⟨""⟩ := by
    cases p
    simpa using h
  have he : t.entry? t.workdir = some .directory := hw
  rw [Walks, Path.place]
  simp [Path.segments, Path.isAbsolute, start, step, he, Location.along]

/-- **Walking along a continued path** is walking along what is continued, and one step more. -/
lemma Onward.foldlM_step {c : String} (h : Path.Onward q c p) :
    p.segments.foldlM t.step (t.start p) =
      q.segments.foldlM t.step (t.start q) >>= fun l => t.step l c := by
  have hstart : t.start p = t.start q := by rw [start, start, h.isAbsolute]
  rw [← hstart]
  exact h.walk (fun l c => step_stay t l "" c (.inl rfl)) (fun l c => step_stay t l "." c (.inr rfl)) _

/-- **A continued path is missing** when what is continued is, or leads to where nothing stands. -/
lemma Onward.locate_eq_notFound_iff {c : String} (h : Path.Onward q c p) (hp : p.Usable) :
    t.locate p = .error .notFound ↔
      q.segments.foldlM t.step (t.start q) = .error .notFound ∨
        ∃ l, q.segments.foldlM t.step (t.start q) = .ok l ∧ t.entry? l = none := by
  rw [locate_of_usable hp, Onward.foldlM_step h]
  rcases q.segments.foldlM t.step (t.start q) with cause | l
  · simp [bind, Except.bind]
  · simp [bind, Except.bind, step_eq_notFound_iff]

/-- **The components of a continued path lead somewhere** when those of what is continued lead to a directory
and the last is not too long. -/
lemma Onward.walks_iff {c : String} (h : Path.Onward q c p) :
    t.Walks p ↔ t.Walks q ∧ t.DirAt (q.place t.workdir) ∧ c.utf8ByteSize ≤ 255 := by
  unfold Walks
  rw [Onward.foldlM_step h, h.place]
  rcases hq : q.segments.foldlM t.step (t.start q) with cause | m
  · simp [bind, Except.bind]
  · obtain rfl : m = q.place t.workdir := by
      simpa only [Path.place, start] using eq_foldl_of_foldlM_step hq
    simp [bind, Except.bind, step_eq_ok_iff]

/-- **The components of a child lead somewhere** when those of its parent lead to a directory and its
name is not too long. -/
lemma Child.walks_iff (h : Path.Child q name p) :
    t.Walks p ↔ t.Walks q ∧ t.DirAt (q.place t.workdir) ∧ name.utf8ByteSize ≤ 255 :=
  Onward.walks_iff h.onward

end FileTree

end UaHeaders
