import UaHeaders.Proofs.Text.Search
import UaHeaders.Sweep.Comments

/-!
# What stripping a header takes away

A documentation block goes from `/**` to the first `*/` that ends a line. That is a whole comment if the
comment is closed there. If it is closed earlier, in the middle of a line, the block goes on over what
follows the comment, and declarations are lost with it. So a header keeps all that is outside of its
comments if its comments are closed and each block is made of whole comments.

## Main definitions

* `UaHeaders.Sweep.uncommented` — a text without its comments.
* `UaHeaders.Sweep.IsComment` — a whole comment.
* `UaHeaders.Sweep.Block` — a documentation block, with what follows it.
* `UaHeaders.Sweep.Dropped` — a text and what is left of it without its blocks.
* `UaHeaders.Sweep.Tidy` — a text whose blocks are made of whole comments.

## Main results

* `UaHeaders.Sweep.dropped_iff` — which blocks are dropped.
* `UaHeaders.Sweep.uncommented_dropBlocks`, `UaHeaders.Sweep.uncommented_promoteComments` — what the two
  passes keep.
* `UaHeaders.Sweep.stripHeader_keeps` — what stripping keeps of a header.
* `UaHeaders.Sweep.stripHeader_midLine` — a header that loses a declaration.
-/

set_option autoImplicit false

namespace UaHeaders.Sweep

variable {b body cs ds rest : List Char} {c : Char}

/-! ## Closing marks -/

/-- What follows the first `*/` with a rest behind it that passes a test. -/
def behind? (ends : List Char → Bool) : List Char → Option (List Char)
  | [] => none
  | c :: cs =>
    if "*/".toList.isPrefixOf (c :: cs) && ends (cs.drop 1) then some (cs.drop 1)
    else behind? ends cs

/-- The search for the end of a block is such a search. -/
lemma behindMark?_eq (cs : List Char) : behindMark? cs = behind? endsLine cs := by
  induction cs with
  | nil => rfl
  | cons c cs ih => rw [behindMark?, behind?, ih]

/-- What follows a mark is shorter. -/
lemma length_behind?_le {ends : List Char → Bool} (h : behind? ends cs = some rest) :
    rest.length ≤ cs.length := by
  induction cs with
  | nil => cases h
  | cons c cs ih =>
    rw [behind?] at h
    split_ifs at h
    · cases h
      simp
      omega
    · have hle := ih h
      simp
      omega

/-- A mark stands where a star stands before a slash. -/
lemma behind?_cons (ends : List Char → Bool) (c : Char) (cs : List Char) : behind? ends (c :: cs) =
    if (c = '*' ∧ cs.head? = some '/') ∧ ends (cs.drop 1) = true then some (cs.drop 1)
    else behind? ends cs := by
  have hmark : "*/".toList.isPrefixOf (c :: cs) = true ↔ c = '*' ∧ cs.head? = some '/' := by
    rw [List.isPrefixOf_iff_prefix]
    constructor
    · rintro ⟨tail, htail⟩
      obtain ⟨rfl, rfl⟩ : '*' = c ∧ '/' :: tail = cs := by simpa using htail
      simp
    · rintro ⟨rfl, hhead⟩
      obtain ⟨tail, rfl⟩ := List.head?_eq_some_iff.1 hhead
      simp
  simp only [behind?, Bool.and_eq_true, hmark]

/-- **A text that is closed at a mark**: the first one with a rest behind it that passes a test. -/
structure ClosedAt (ends : List Char → Bool) (cs body rest : List Char) : Prop where
  eq : cs = body ++ '*' :: '/' :: rest
  passes : ends rest = true
  first : ∀ u v, cs = u ++ '*' :: '/' :: v → ends v = true → body.length ≤ u.length

/-- **The search finds the first mark.**

**Proof sketch.** Induction on the text. If a mark stands at its beginning and the right text behind it,
it is the first one; otherwise every mark stands behind the first character. -/
lemma behind?_eq_some_iff {ends : List Char → Bool} :
    behind? ends cs = some rest ↔ ∃ body, ClosedAt ends cs body rest := by
  induction cs with
  | nil =>
    constructor
    · intro h
      cases h
    · rintro ⟨body, h⟩
      simpa using h.eq
  | cons c cs ih =>
    rw [behind?_cons]
    split_ifs with hhere
    · obtain ⟨⟨rfl, hhead⟩, hends⟩ := hhere
      obtain ⟨v, rfl⟩ := List.head?_eq_some_iff.1 hhead
      constructor
      · intro h
        obtain rfl : v = rest := by simpa using h
        exact ⟨[], rfl, hends, fun u w _ _ => Nat.zero_le _⟩
      · rintro ⟨body, h⟩
        have hlength := h.first [] v rfl hends
        obtain rfl : body = [] := by simpa using hlength
        simpa using h.eq
    · rw [ih]
      -- no mark stands at the beginning, so each stands behind the first character
      have hbehind : ∀ u v, c :: cs = u ++ '*' :: '/' :: v → ends v = true →
          ∃ u', u = c :: u' ∧ cs = u' ++ '*' :: '/' :: v := by
        intro u v hv hends
        rcases u with _ | ⟨d, u⟩
        · refine absurd ?_ hhere
          obtain ⟨rfl, rfl⟩ : c = '*' ∧ cs = '/' :: v := by simpa using hv
          exact ⟨⟨rfl, rfl⟩, hends⟩
        · obtain ⟨rfl, rfl⟩ : c = d ∧ cs = u ++ '*' :: '/' :: v := by simpa using hv
          exact ⟨u, rfl, rfl⟩
      constructor
      · rintro ⟨body, h⟩
        refine ⟨c :: body, by rw [h.eq, List.cons_append], h.passes, fun u v hv hends => ?_⟩
        obtain ⟨u, rfl, hu⟩ := hbehind u v hv hends
        simpa using h.first u v hu hends
      · rintro ⟨body, h⟩
        obtain ⟨body, rfl, hbody⟩ := hbehind body rest h.eq h.passes
        refine ⟨body, hbody, h.passes, fun u v hv hends => ?_⟩
        simpa using h.first (c :: u) v (by rw [hv, List.cons_append]) hends

/-! ## Comments -/

/-- **A text without its comments.** A comment goes from `/*` to the first `*/` behind it; what is not
closed is no comment. -/
def uncommented : List Char → List Char
  | '/' :: '*' :: cs =>
    match _closed : behind? (fun _ => true) cs with
    | some rest => uncommented rest
    | none => '/' :: '*' :: cs
  | c :: cs => c :: uncommented cs
  | [] => []
termination_by cs => cs.length
decreasing_by
  · have hle := length_behind?_le _closed
    simp
    omega
  · simp

/-- **A whole comment**, closed at its end and not before. -/
def IsComment (cs : List Char) : Prop :=
  ∃ body, cs = '/' :: '*' :: (body ++ ['*', '/']) ∧ ¬ ['*', '/'] <:+: body

/-- The first mark closes a comment, whatever follows it. -/
lemma closedAt_of_not_infix (h : ¬ ['*', '/'] <:+: body) (rest : List Char) :
    ClosedAt (fun _ => true) (body ++ '*' :: '/' :: rest) body rest := by
  refine ⟨rfl, rfl, fun u v hv _ => ?_⟩
  by_contra hlt
  rw [not_le] at hlt
  -- a mark in front of the last one would be in the body, or share its star
  obtain ⟨w, hw, hrest⟩ : ∃ w, body = u ++ w ∧ '*' :: '/' :: v = w ++ '*' :: '/' :: rest := by
    rcases List.append_eq_append_iff.1 hv with ⟨w, rfl, hw⟩ | ⟨w, rfl, hw⟩
    · simp at hlt
    · exact ⟨w, rfl, hw⟩
  rcases w with _ | ⟨d, _ | ⟨e, w⟩⟩
  · simp [hw] at hlt
  · simp at hrest
  · obtain ⟨rfl, rfl, -⟩ : '*' = d ∧ '/' = e ∧ v = w ++ '*' :: '/' :: rest := by simpa using hrest
    exact h ⟨u, w, by simp [hw]⟩

/-- Behind its opening mark a comment is closed where it ends. -/
lemma IsComment.exists_append_eq (h : IsComment b) (cs : List Char) : ∃ inside,
    b ++ cs = '/' :: '*' :: inside ∧ behind? (fun _ => true) inside = some cs := by
  obtain ⟨body, rfl, hnot⟩ := h
  exact ⟨body ++ '*' :: '/' :: cs, by simp,
    behind?_eq_some_iff.2 ⟨body, closedAt_of_not_infix hnot cs⟩⟩

/-- What is opened and closed is left out. -/
lemma uncommented_opened (h : behind? (fun _ => true) cs = some rest) :
    uncommented ('/' :: '*' :: cs) = uncommented rest := by
  rw [uncommented]
  split
  · simp_all
  · simp_all

/-- Comments are left out of a text. -/
lemma uncommented_comment (h : IsComment b) (cs : List Char) :
    uncommented (b ++ cs) = uncommented cs := by
  obtain ⟨inside, hinside, hclose⟩ := h.exists_append_eq cs
  rw [hinside, uncommented_opened hclose]

/-- What does not open a comment stays. -/
lemma uncommented_cons (h : ¬ ['/', '*'] <+: c :: cs) :
    uncommented (c :: cs) = c :: uncommented cs := by
  rw [uncommented]
  rintro tail rfl rfl
  exact h ⟨tail, rfl⟩

/-- Comments in a row are left out of a text. -/
lemma uncommented_flatten {bs : List (List Char)} (h : ∀ b ∈ bs, IsComment b) (cs : List Char) :
    uncommented (bs.flatten ++ cs) = uncommented cs := by
  induction bs with
  | nil => rfl
  | cons b bs ih =>
    rw [List.forall_mem_cons] at h
    rw [List.flatten_cons, List.append_assoc, uncommented_comment h.1, ih h.2]

/-! ## Documentation blocks -/

/-- **A documentation block**, and what follows it: at least one character between `/**` and the first
`*/` behind it that ends a line. -/
def Block (b rest : List Char) : Prop :=
  ∃ c body cs, b = '/' :: '*' :: '*' :: c :: (body ++ ['*', '/']) ∧ ClosedAt endsLine cs body rest

/-- What follows a block is found, and no other. -/
lemma behindBlock?_eq_some_iff :
    behindBlock? cs = some rest ↔ ∃ b, Block b rest ∧ cs = b ++ rest := by
  constructor
  · intro h
    unfold behindBlock? at h
    split at h
    · next c cs =>
      rw [behindMark?_eq, behind?_eq_some_iff] at h
      obtain ⟨body, hbody⟩ := h
      exact ⟨_, ⟨c, body, cs, rfl, hbody⟩, by simp [hbody.eq]⟩
    · cases h
  · rintro ⟨b, ⟨c, body, cs, rfl, hbody⟩, rfl⟩
    have hcs : '/' :: '*' :: '*' :: c :: (body ++ ['*', '/']) ++ rest = '/' :: '*' :: '*' :: c :: cs := by
      simp [hbody.eq]
    rw [hcs, behindBlock?, behindMark?_eq, behind?_eq_some_iff]
    exact ⟨body, hbody⟩

/-- A block is told by what is found behind it. -/
lemma block_iff : Block b rest ↔ behindBlock? (b ++ rest) = some rest := by
  rw [behindBlock?_eq_some_iff]
  constructor
  · intro h
    exact ⟨b, h, rfl⟩
  · rintro ⟨d, hd, hsame⟩
    rwa [List.append_cancel_right hsame]

instance (b rest : List Char) : Decidable (Block b rest) := decidable_of_iff _ block_iff.symm

/-- A text that does not begin with a block. -/
def NoBlock (cs : List Char) : Prop := ∀ b rest, Block b rest → cs ≠ b ++ rest

/-- Where no block begins nothing is found behind one. -/
lemma noBlock_iff : NoBlock cs ↔ behindBlock? cs = none := by
  rw [Option.eq_none_iff_forall_ne_some]
  constructor
  · intro h rest hrest
    obtain ⟨b, hb, hcs⟩ := behindBlock?_eq_some_iff.1 hrest
    exact h b rest hb hcs
  · intro h b rest hb hcs
    exact h rest (behindBlock?_eq_some_iff.2 ⟨b, hb, hcs⟩)

instance (cs : List Char) : Decidable (NoBlock cs) := decidable_of_iff _ noBlock_iff.symm

/-- **A text and what is left of it without its blocks**, which are found from left to right. -/
inductive Dropped : List Char → List Char → Prop
  | none : Dropped [] []
  | kept {c : Char} {cs ds : List Char} :
      NoBlock (c :: cs) → Dropped cs ds → Dropped (c :: cs) (c :: ds)
  | block {b cs ds : List Char} : Block b cs → Dropped cs ds → Dropped (b ++ cs) ds

/-- A block is dropped. -/
lemma dropBlocks_block (h : Block b cs) : dropBlocks (b ++ cs) = dropBlocks cs := by
  have hfound : behindBlock? (b ++ cs) = some cs := behindBlock?_eq_some_iff.2 ⟨b, h, rfl⟩
  rw [dropBlocks]
  split
  · simp_all
  · simp_all

/-- A character at which no block begins is kept. -/
lemma dropBlocks_cons (h : NoBlock (c :: cs)) : dropBlocks (c :: cs) = c :: dropBlocks cs := by
  rw [noBlock_iff] at h
  rw [dropBlocks]
  split
  · simp_all
  · rfl

/-- **The blocks are dropped**, and nothing else is.

**Proof sketch.** One direction is by induction on how the blocks are dropped, the other one along the
function: each of its cases is one of the rules. -/
theorem dropped_iff : Dropped cs ds ↔ dropBlocks cs = ds := by
  constructor
  · intro h
    induction h with
    | none =>
      rw [dropBlocks]
      rfl
    | kept hnone _ ih => rw [dropBlocks_cons hnone, ih]
    | block hb _ ih => rw [dropBlocks_block hb, ih]
  · rintro rfl
    fun_induction dropBlocks cs with
    | case1 cs rest hfound ih =>
      obtain ⟨b, hb, rfl⟩ := behindBlock?_eq_some_iff.1 hfound
      exact .block hb ih
    | case2 hnone => exact .none
    | case3 c cs hnone ih => exact .kept (noBlock_iff.2 hnone) ih

/-! ## Texts whose comments are closed -/

/-- **A text in which every comment is closed.** -/
inductive Closed : List Char → Prop
  | none : Closed []
  | plain {c : Char} {cs : List Char} : ¬ ['/', '*'] <+: c :: cs → Closed cs → Closed (c :: cs)
  | comment {b cs : List Char} : IsComment b → Closed cs → Closed (b ++ cs)

/-- **A text whose blocks are made of whole comments.** Every comment is closed, and no block begins in
a comment that stays. -/
inductive Tidy : List Char → Prop
  | none : Tidy []
  | plain {c : Char} {cs : List Char} : ¬ ['/', '*'] <+: c :: cs → Tidy cs → Tidy (c :: cs)
  | comment {b cs : List Char} : IsComment b →
      (∀ v ∈ b.tails, v ≠ [] → NoBlock (v ++ cs)) → Tidy cs → Tidy (b ++ cs)
  | block {bs : List (List Char)} {cs : List Char} :
      (∀ b ∈ bs, IsComment b) → Block bs.flatten cs → Tidy cs → Tidy (bs.flatten ++ cs)

/-- A text without slashes opens no comment. -/
lemma Tidy.plainText (h : Tidy cs) (ds : List Char) (hplain : '/' ∉ ds) : Tidy (ds ++ cs) := by
  induction ds with
  | nil => exact h
  | cons d ds ih =>
    rw [List.mem_cons, not_or] at hplain
    refine .plain (fun hopen => ?_) (ih hplain.2)
    obtain ⟨tail, htail⟩ := hopen
    exact hplain.1 (List.cons.inj htail).1

/-- A block opens a comment. -/
lemma noBlock_of_unopened (h : ¬ ['/', '*'] <+: cs) : NoBlock cs := by
  rintro b rest ⟨c, body, ds, rfl, -⟩ rfl
  exact h (by simp)

/-- A text in which no block begins is kept. -/
lemma dropBlocks_append (h : ∀ v ∈ b.tails, v ≠ [] → NoBlock (v ++ cs)) :
    dropBlocks (b ++ cs) = b ++ dropBlocks cs := by
  induction b with
  | nil => rfl
  | cons c b ih =>
    rw [List.tails, List.forall_mem_cons] at h
    have hhere : NoBlock (c :: (b ++ cs)) := h.1 (by simp)
    rw [List.cons_append, dropBlocks_cons hhere, ih h.2, List.cons_append]

/-- A line end stays where it is. -/
lemma dropBlocks_of_endsLine (h : endsLine cs = true) :
    dropBlocks cs = [] ∨ ∃ rest, dropBlocks cs = '\n' :: rest := by
  rcases cs with _ | ⟨c, cs⟩
  · exact .inl (dropped_iff.1 .none)
  · obtain rfl : c = '\n' := by simpa [endsLine] using h
    exact .inr ⟨dropBlocks cs, dropBlocks_cons (noBlock_of_unopened (by simp))⟩

/-- What is left of a text begins as the text does, or there is a line end behind a block. -/
lemma dropBlocks_cases (cs : List Char) :
    dropBlocks cs = [] ∨ (∃ rest, dropBlocks cs = '\n' :: rest) ∨
      ∃ c rest, cs = c :: rest ∧ dropBlocks cs = c :: dropBlocks rest := by
  rcases hfound : behindBlock? cs with _ | rest
  · rcases cs with _ | ⟨c, cs⟩
    · exact .inl (dropped_iff.1 .none)
    · exact .inr (.inr ⟨c, cs, rfl, dropBlocks_cons (noBlock_iff.2 hfound)⟩)
  · obtain ⟨b, hb, rfl⟩ := behindBlock?_eq_some_iff.1 hfound
    rw [dropBlocks_block hb]
    obtain ⟨_, _, _, -, hbody⟩ := hb
    exact (dropBlocks_of_endsLine hbody.passes).imp_right .inl

/-- **Dropping blocks keeps what is outside of the comments** of a tidy text, and the comments that stay
are closed.

**Proof sketch.** Induction on how the text is tidy. A character outside of comments opens none even when
the blocks behind it are dropped, for what then follows begins no comment either (`dropBlocks_cases`). -/
lemma uncommented_dropBlocks (h : Tidy cs) :
    Closed (dropBlocks cs) ∧ uncommented (dropBlocks cs) = uncommented cs := by
  induction h with
  | none =>
    rw [dropped_iff.1 .none]
    exact ⟨.none, rfl⟩
  | @plain c cs hopen _ ih =>
    rw [dropBlocks_cons (noBlock_of_unopened hopen)]
    -- a block that is dropped leaves no star behind a slash
    have hstill : ¬ ['/', '*'] <+: c :: dropBlocks cs := by
      rintro ⟨tail, htail⟩
      obtain ⟨rfl, hstar⟩ : '/' = c ∧ '*' :: tail = dropBlocks cs := by simpa using htail
      rcases dropBlocks_cases cs with hnil | ⟨rest, hline⟩ | ⟨d, rest, rfl, hsame⟩
      · simp [hnil] at hstar
      · simp [hline] at hstar
      · rw [hsame, List.cons.injEq] at hstar
        apply hopen
        simp [← hstar.1]
    exact ⟨.plain hstill ih.1, by rw [uncommented_cons hstill, uncommented_cons hopen, ih.2]⟩
  | comment hb hfree _ ih =>
    rw [dropBlocks_append hfree]
    exact ⟨.comment hb ih.1, by rw [uncommented_comment hb, uncommented_comment hb, ih.2]⟩
  | block hbs hblock _ ih =>
    rw [dropBlocks_block hblock]
    exact ⟨ih.1, by rw [uncommented_flatten hbs, ih.2]⟩

/-! ## Plain comments made documentation -/

/-- A character stays at its place. -/
lemma promoteFrom_cons {start : Bool} (h : start = true → ¬ ['/', '*', ' '] <+: c :: cs) :
    promoteFrom start (c :: cs) = c :: promoteFrom (c == '\n') cs := by
  rw [promoteFrom]
  rintro tail rfl rfl rfl
  exact h rfl (by simp)

/-- A text begins with the same character as before. -/
lemma head?_promoteFrom (start : Bool) (cs : List Char) :
    (promoteFrom start cs).head? = cs.head? := by
  fun_induction promoteFrom start cs with
  | case1 => rfl
  | case2 => rfl
  | case3 => rfl

/-- A comment is closed at the same mark as before.

**Proof sketch.** Along the function. It adds a star behind the opening marks only, which closes nothing,
and changes no first character. -/
lemma behind?_promoteFrom {start : Bool} (h : behind? (fun _ => true) cs = some rest) :
    behind? (fun _ => true) (promoteFrom start cs) = some (promoteFrom false rest) := by
  fun_induction promoteFrom start cs with
  | case1 => cases h
  | case2 cs ih =>
    apply ih
    simpa [behind?] using h
  | case3 start c cs hplain ih =>
    rw [behind?_cons, head?_promoteFrom]
    rw [behind?_cons] at h
    split_ifs at h ⊢ with hmark
    · obtain ⟨⟨rfl, hhead⟩, -⟩ := hmark
      obtain ⟨tail, rfl⟩ := List.head?_eq_some_iff.1 hhead
      obtain rfl : tail = rest := by simpa using h
      rw [promoteFrom_cons (by simp)]
      rfl
    · exact ih h

/-- A comment may be made documentation, and is closed at the same mark.

**Proof sketch.** What opens the comment opens it still, with a star more if it becomes documentation.
The mark that closes it is the same (`behind?_promoteFrom`), and what stands behind is begun inside of a
line. -/
lemma uncommented_promoteFrom_comment (h : IsComment b) (start : Bool) (cs : List Char) :
    uncommented (promoteFrom start (b ++ cs)) = uncommented (promoteFrom false cs) := by
  obtain ⟨inside, hinside, hclose⟩ := h.exists_append_eq cs
  rw [hinside]
  -- what stands behind the opening marks is closed where it was, a star more or less
  obtain ⟨opened, hopened, hrest⟩ : ∃ opened,
      promoteFrom start ('/' :: '*' :: inside) = '/' :: '*' :: opened ∧
        behind? (fun _ => true) opened = some (promoteFrom false cs) := by
    by_cases hpromote : start = true ∧ inside.head? = some ' '
    · obtain ⟨rfl, hhead⟩ := hpromote
      obtain ⟨tail, rfl⟩ := List.head?_eq_some_iff.1 hhead
      refine ⟨'*' :: ' ' :: promoteFrom false tail, by rw [promoteFrom], ?_⟩
      rw [behind?_cons, if_neg (by simp), behind?_cons, if_neg (by simp)]
      apply behind?_promoteFrom
      simpa [behind?_cons] using hclose
    · refine ⟨promoteFrom false inside, ?_, behind?_promoteFrom hclose⟩
      rw [promoteFrom_cons, promoteFrom_cons]
      · rfl
      · simp
      · rintro rfl ⟨tail, htail⟩
        apply hpromote
        obtain rfl : ' ' :: tail = inside := by simpa using htail
        simp
  rw [hopened, uncommented_opened hrest]

/-- **Making comments documentation keeps what is outside of them**, if they are closed.

**Proof sketch.** Induction on how the comments are closed. Outside of them nothing is promoted, and
nothing that is opens a comment where there was none. -/
lemma uncommented_promoteFrom (h : Closed cs) (start : Bool) :
    uncommented (promoteFrom start cs) = uncommented cs := by
  induction h generalizing start with
  | none => rw [promoteFrom]
  | @plain c cs hopen _ ih =>
    have hplain : start = true → ¬ ['/', '*', ' '] <+: c :: cs := fun _ hbegins =>
      hopen (List.IsPrefix.trans (by simp) hbegins)
    have hstill : ¬ ['/', '*'] <+: c :: promoteFrom (c == '\n') cs := by
      rintro ⟨tail, htail⟩
      obtain ⟨rfl, hstar⟩ : '/' = c ∧ '*' :: tail = promoteFrom (c == '\n') cs := by
        simpa using htail
      have hhead := head?_promoteFrom ('/' == '\n') cs
      rw [← hstar, List.head?_cons] at hhead
      obtain ⟨rest, rfl⟩ := List.head?_eq_some_iff.1 hhead.symm
      exact hopen (by simp)
    rw [promoteFrom_cons hplain, uncommented_cons hstill, uncommented_cons hopen, ih]
  | comment hb _ ih => rw [uncommented_promoteFrom_comment hb, ih, uncommented_comment hb]

/-! ## Macros -/

variable {removed : List Char}

/-- What a text without blocks begins with, it began with before, up to the end of the line. -/
lemma prefix_of_prefix_dropBlocks (hfeed : '\n' ∉ removed) (h : removed <+: dropBlocks cs) :
    removed <+: cs := by
  induction removed generalizing cs with
  | nil => exact List.nil_prefix
  | cons d removed ih =>
    rw [List.mem_cons, not_or] at hfeed
    rcases dropBlocks_cases cs with hnil | ⟨rest, hline⟩ | ⟨c, rest, rfl, hsame⟩
    · simp [hnil] at h
    · rw [hline, List.cons_prefix_cons] at h
      exact absurd h.1.symm hfeed.1
    · rw [hsame, List.cons_prefix_cons] at h
      rw [List.cons_prefix_cons]
      exact ⟨h.1, ih hfeed.2 h.2⟩

/-- Dropping blocks brings no word about. -/
lemma infix_of_infix_dropBlocks (hfeed : '\n' ∉ removed) (h : removed <:+: dropBlocks cs) :
    removed <:+: cs := by
  fun_induction dropBlocks cs with
  | case1 cs rest hfound ih =>
    obtain ⟨b, -, rfl⟩ := behindBlock?_eq_some_iff.1 hfound
    exact (ih h).trans (List.suffix_append b rest).isInfix
  | case2 => exact h
  | case3 c cs hnone ih =>
    rcases List.infix_cons_iff.1 h with hbegins | hwithin
    · rw [← dropBlocks_cons (noBlock_iff.2 hnone)] at hbegins
      exact (prefix_of_prefix_dropBlocks hfeed hbegins).isInfix
    · exact List.infix_cons_iff.2 (.inr (ih hwithin))

/-- What a text begins with it began with before, unless a comment was made documentation there. -/
lemma prefix_of_prefix_promoteFrom {start : Bool} (hslash : '/' ∉ removed)
    (h : removed <+: promoteFrom start cs) : removed <+: cs := by
  fun_induction promoteFrom start cs generalizing removed with
  | case1 => exact h
  | case2 cs ih =>
    rcases removed with _ | ⟨d, removed⟩
    · exact List.nil_prefix
    · rw [List.cons_prefix_cons] at h
      simp [h.1] at hslash
  | case3 start c cs hplain ih =>
    rcases removed with _ | ⟨d, removed⟩
    · exact List.nil_prefix
    · rw [List.mem_cons, not_or] at hslash
      rw [List.cons_prefix_cons] at h ⊢
      exact ⟨h.1, ih hslash.2 h.2⟩

/-- The same behind one more character. -/
lemma prefix_cons_of_prefix_promoteFrom {start : Bool} (hslash : '/' ∉ removed)
    (h : removed <+: c :: promoteFrom start cs) : removed <+: c :: cs := by
  rcases removed with _ | ⟨d, removed⟩
  · exact List.nil_prefix
  · rw [List.mem_cons, not_or] at hslash
    rw [List.cons_prefix_cons] at h ⊢
    exact ⟨h.1, prefix_of_prefix_promoteFrom hslash.2 h.2⟩

/-- Making comments documentation brings no word about.

**Proof sketch.** Along the function. Where a star is added, the word begins behind it or before it,
since it has no star and no slash. -/
lemma infix_of_infix_promoteFrom {start : Bool} (hslash : '/' ∉ removed) (hstar : '*' ∉ removed)
    (h : removed <:+: promoteFrom start cs) : removed <:+: cs := by
  fun_induction promoteFrom start cs with
  | case1 => exact h
  | case2 cs ih =>
    rcases removed with _ | ⟨d, removed⟩
    · exact List.nil_infix
    · rw [List.mem_cons, not_or] at hslash hstar
      -- the word is none of the marks, so it stands behind them
      have hbehind : d :: removed <:+: ' ' :: promoteFrom false cs := by
        simpa [List.infix_cons_iff, Ne.symm hslash.1, Ne.symm hstar.1] using h
      refine List.IsInfix.trans ?_ (List.suffix_append ['/', '*'] (' ' :: cs)).isInfix
      rcases List.infix_cons_iff.1 hbehind with hbegins | hwithin
      · exact (prefix_cons_of_prefix_promoteFrom (by simp [hslash]) hbegins).isInfix
      · exact List.infix_cons_iff.2 (.inr (ih hwithin))
  | case3 start c cs hplain ih =>
    rcases List.infix_cons_iff.1 h with hbegins | hwithin
    · exact (prefix_cons_of_prefix_promoteFrom hslash hbegins).isInfix
    · exact List.infix_cons_iff.2 (.inr (ih hwithin))

/-- The words that are taken out of a header hold neither marks nor line ends. -/
lemma plain_of_mem_removedTexts :
    ∀ removed ∈ removedTexts, '/' ∉ removed.toList ∧ '*' ∉ removed.toList ∧ '\n' ∉ removed.toList := by
  decide

/-- **A header without the words that are taken out** loses its blocks, and its plain comments are made
documentation. -/
lemma toList_stripHeader {text : String}
    (h : ∀ removed ∈ removedTexts, ¬ removed.toList <:+: text.toList) :
    (stripHeader text).toList = promoteComments (dropBlocks text.toList) := by
  rw [stripHeader, Text.foldl_replaceAll_eq_self, String.toList_ofList]
  intro removed hremoved hwithin
  obtain ⟨hslash, hstar, hfeed⟩ := plain_of_mem_removedTexts removed hremoved
  rw [String.toList_ofList] at hwithin
  apply h removed hremoved
  exact infix_of_infix_dropBlocks hfeed (infix_of_infix_promoteFrom hslash hstar hwithin)

/-! ## Headers -/

/-- **What stripping takes away from a header** that has none of the words taken out: the documentation
blocks, each from `/**` to the first `*/` behind it that ends a line. If the comments are closed and each
block is made of whole comments, all that is outside of the comments stays as it is.

**Proof sketch.** Blocks end at line ends, and plain comments are changed behind their opening mark only.
So neither pass makes a mark where there was none, and reading a comment from its opening mark finds the
same closing mark before and after. -/
theorem stripHeader_keeps {text : String}
    (h : ∀ removed ∈ removedTexts, ¬ removed.toList <:+: text.toList) :
    (∃ kept, Dropped text.toList kept ∧ (stripHeader text).toList = promoteComments kept) ∧
      (Tidy text.toList → uncommented (stripHeader text).toList = uncommented text.toList) := by
  rw [toList_stripHeader h]
  refine ⟨⟨_, dropped_iff.2 rfl, rfl⟩, fun htidy => ?_⟩
  obtain ⟨hclosed, hsame⟩ := uncommented_dropBlocks htidy
  rw [promoteComments, uncommented_promoteFrom hclosed, hsame]

/-- A header with blocks, comments that stay, and comments that are made documentation. -/
theorem stripHeader_keeps_mixed :
    let text := "/** a *//** b */\nint x; /* c */\n/* d */ int y;\n"
    (∀ removed ∈ removedTexts, ¬ removed.toList <:+: text.toList) ∧ Tidy text.toList ∧
      uncommented (stripHeader text).toList = "\nint x; \n int y;\n".toList := by
  have hwords : ∀ removed ∈ removedTexts, ¬ removed.toList <:+:
      "/** a *//** b */\nint x; /* c */\n/* d */ int y;\n".toList := by decide
  have hy : Tidy " int y;\n".toList := Tidy.none.plainText " int y;\n".toList (by decide)
  have hd : Tidy "/* d */ int y;\n".toList :=
    .comment (b := "/* d */".toList) ⟨" d ".toList, rfl, by decide⟩ (by decide) hy
  have hc : Tidy "/* c */\n/* d */ int y;\n".toList :=
    .comment (b := "/* c */".toList) ⟨" c ".toList, rfl, by decide⟩ (by decide)
      (hd.plainText "\n".toList (by decide))
  have hcomments : ∀ b ∈ ["/** a */".toList, "/** b */".toList], IsComment b := by
    rw [List.forall_mem_cons, List.forall_mem_singleton]
    exact ⟨⟨"* a ".toList, rfl, by decide⟩, ⟨"* b ".toList, rfl, by decide⟩⟩
  have htidy : Tidy "/** a *//** b */\nint x; /* c */\n/* d */ int y;\n".toList :=
    .block hcomments (by decide) (hc.plainText "\nint x; ".toList (by decide))
  exact ⟨hwords, htidy, ((stripHeader_keeps hwords).2 htidy).trans (by cbv)⟩

/-- **A header that loses a declaration.** The first comment is closed in the middle of its line, so the
block goes on to the end of the second one. -/
theorem stripHeader_midLine :
    let text := "/** a */ int x;\n/** b */\nint y;\n"
    (∀ removed ∈ removedTexts, ¬ removed.toList <:+: text.toList) ∧
      uncommented text.toList = " int x;\n\nint y;\n".toList ∧
      uncommented (stripHeader text).toList = "\nint y;\n".toList :=
  ⟨by decide, by cbv, by cbv⟩

end UaHeaders.Sweep
