import UaHeaders.CommandLine.Matches
import UaHeaders.Proofs.Lists

/-!
# Variables that stand in for arguments

Arguments that were left out are taken from variables one after the other. What a variable does depends on
whether its own argument was found and on nothing else, so that two environments lead to the same arguments
if they differ in variables of arguments that were found. If they differ in one more variable, the argument
of that variable is found as well and all others are as before.

## Main definitions

* `UaHeaders.Matching.AgreeOff` — matchings in which the same was found, but for some arguments.
* `UaHeaders.CommandSpec.SameVariable` — an argument for which two environments make no difference.

## Main results

* `UaHeaders.CommandSpec.find?_applyVariables` — an argument without a variable is found as before.
* `UaHeaders.CommandSpec.exists_applyVariables` — two environments that make no difference.
* `UaHeaders.CommandSpec.exists_complete` — two matches that are completed alike.
* `UaHeaders.CommandSpec.complete_of_excludes` — two arguments that exclude each other.
-/

set_option autoImplicit false

namespace UaHeaders

/-! ## Matchings -/

namespace Matching

variable {m m' n : Matching} {arg : ArgSpec} {f : Found} {id : String} {source : Source}
  {values : List String} {hidden : List String}

/-- What was noted is found. -/
lemma find?_note_self (m : Matching) (f : Found) : (m.note f).find? f.id = some f := by
  rw [find?, note, List.find?_append, List.find?_eq_none.2, Option.none_or]
  · simp
  · intro g hg
    simpa using (List.mem_filter.1 hg).2

/-- All else is found as before. -/
lemma find?_note_of_ne (m : Matching) (h : id ≠ f.id) : (m.note f).find? id = m.find? id := by
  have hf : (f.id == id) = false := by simpa using h.symm
  rw [find?, find?, note, List.find?_append, List.find?_cons, hf, List.find?_nil, Option.or_none,
    List.find?_filter]
  refine congrFun (congrArg List.find? (funext fun g => ?_)) m.found
  rw [Bool.eq_iff_iff]
  simp only [bne_iff_ne, beq_iff_eq, decide_eq_true_eq]
  exact ⟨fun hg => hg.2, fun hg => ⟨hg ▸ h, hg⟩⟩

/-- **Matchings in which the same was found**, but for some arguments. -/
def AgreeOff (hidden : List String) (m m' : Matching) : Prop := ∀ id ∉ hidden, m'.find? id = m.find? id

/-- A matching agrees with itself. -/
lemma AgreeOff.refl (hidden : List String) (m : Matching) : AgreeOff hidden m m := fun _ _ => rfl

/-- They still agree when the same is noted in both. -/
lemma AgreeOff.note (h : AgreeOff hidden m m') (f : Found) : AgreeOff hidden (m.note f) (m'.note f) := by
  intro id hid
  rcases eq_or_ne id f.id with rfl | hne
  · rw [find?_note_self, find?_note_self]
  · rw [find?_note_of_ne m hne, find?_note_of_ne m' hne, h id hid]

/-- What was found is still found when something is noted. -/
lemma isSome_find?_note (h : (m.find? id).isSome = true) (f : Found) :
    ((m.note f).find? id).isSome = true := by
  rcases eq_or_ne id f.id with rfl | hne
  · rw [find?_note_self]
    rfl
  · rwa [find?_note_of_ne m hne]

/-- **An argument that is taken in is noted**, and what is noted depends on what was found for it alone.

**Proof sketch.** By cases on what the argument does. All that it reads of what was found is whether it
was found itself. -/
lemma exists_take (h : m.take arg source values = .ok n) (hfind : m'.find? arg.id = m.find? arg.id) :
    ∃ f, f.id = arg.id ∧ n = m.note f ∧ m'.take arg source values = .ok (m'.note f) := by
  rw [take] at h ⊢
  rw [hfind]
  split at h
  · simp at h
  · simp at h
  · split_ifs at h ⊢ with hfound
    exact ⟨_, rfl, (Except.ok.inj h).symm, rfl⟩
  · exact ⟨_, rfl, (Except.ok.inj h).symm, rfl⟩
  · next kind _ =>
    rcases hempty : values.isEmpty with _ | _
    · rcases hfound : (m.find? arg.id).isSome with _ | _
      · rcases hcheck : values.forM kind.check with error | checked
        · simp [hempty, hfound, hcheck, bind, Except.bind] at h
        · simp only [hempty, hfound, hcheck, bind, Except.bind, pure, Except.pure] at h ⊢
          exact ⟨_, rfl, (Except.ok.inj h).symm, rfl⟩
      · simp [hempty, hfound, bind, Except.bind, throw, throwThe, MonadExceptOf.throw] at h
    · simp [hempty, bind, Except.bind, throw, throwThe, MonadExceptOf.throw] at h
  · next kind separator _ =>
    rcases hempty : values.isEmpty with _ | _
    · rcases hcheck : (splitValues separator values).forM kind.check with error | checked
      · simp [hempty, hcheck, bind, Except.bind] at h
      · simp only [hempty, hcheck, bind, Except.bind, pure, Except.pure] at h ⊢
        exact ⟨_, rfl, (Except.ok.inj h).symm, rfl⟩
    · simp [hempty, bind, Except.bind, throw, throwThe, MonadExceptOf.throw] at h

/-- **An argument with one value** is noted if it was not found and its value passes the check. -/
lemma take_set {kind : ValueKind} (haction : arg.action = .set kind) (hfree : m.find? arg.id = none)
    (source : Source) (value : String) :
    m.take arg source [value] = (kind.check value).map fun _ => m.note ⟨arg.id, source, [value]⟩ := by
  rw [take, haction]
  rcases hcheck : kind.check value with error | checked <;>
    simp [hfree, hcheck, bind, Except.bind, Except.map, pure, Except.pure]

end Matching

namespace CommandSpec

open Matching

variable {m m' n : Matching} {arg : ArgSpec} {args : List ArgSpec} {env env' : String → Option String}
  {id : String} {hidden : List String} {command : CommandSpec} {found : List Found}

/-! ## Variables -/

/-- The variable of an argument that was found is not looked at. -/
lemma applyVariables_cons_of_found (h : (m.find? arg.id).isSome = true) :
    applyVariables env m (arg :: args) = applyVariables env m args := by
  rw [applyVariables]
  rcases arg.variableName.bind env with _ | value
  · rfl
  · exact if_pos h

/-- An argument whose variable is not set is left out. -/
lemma applyVariables_cons_of_unset (h : arg.variableName.bind env = none) :
    applyVariables env m (arg :: args) = applyVariables env m args := by
  rw [applyVariables, h]

/-- **A variable stands in for its argument.** -/
lemma applyVariables_cons_of_set {value : String} (h : arg.variableName.bind env = some value)
    (hfree : m.find? arg.id = none) :
    applyVariables env m (arg :: args) =
      (m.take arg .environment [value]).bind fun n => applyVariables env n args := by
  rw [applyVariables, h, hfree]
  rfl

/-- Variables are applied one after the other. -/
lemma applyVariables_append (m : Matching) (args args' : List ArgSpec) :
    applyVariables env m (args ++ args') =
      (applyVariables env m args).bind fun n => applyVariables env n args' := by
  induction args generalizing m with
  | nil => rfl
  | cons arg args ih =>
    rw [List.cons_append]
    rcases hfind : m.find? arg.id with _ | f
    · rcases hvalue : arg.variableName.bind env with _ | value
      · rw [applyVariables_cons_of_unset hvalue, applyVariables_cons_of_unset hvalue, ih]
      · rw [applyVariables_cons_of_set hvalue hfind, applyVariables_cons_of_set hvalue hfind]
        rcases m.take arg .environment [value] with error | n
        · rfl
        · exact ih n
    · have hfound : (m.find? arg.id).isSome = true := by simp [hfind]
      rw [applyVariables_cons_of_found hfound, applyVariables_cons_of_found hfound, ih]

/-- **An argument that was found, or has no variable that is set**, is found as before.

**Proof sketch.** Induction on the arguments. One that is taken from its variable was not found and its
variable is set, so it is another one, and noting it changes nothing else. -/
lemma find?_applyVariables (h : applyVariables env m args = .ok n)
    (hid : (m.find? id).isSome = true ∨ ∀ arg ∈ args, arg.id = id → arg.variableName.bind env = none) :
    n.find? id = m.find? id := by
  induction args generalizing m with
  | nil =>
    obtain rfl := Except.ok.inj h
    rfl
  | cons arg args ih =>
    have hid' := hid.imp_right fun hunset => (List.forall_mem_cons.1 hunset).2
    rcases hvalue : arg.variableName.bind env with _ | value
    · rw [applyVariables_cons_of_unset hvalue] at h
      exact ih h hid'
    rcases hfind : m.find? arg.id with _ | f
    · rw [applyVariables_cons_of_set hvalue hfind] at h
      obtain ⟨k, htake, hrest⟩ := exists_of_bind_eq_ok h
      obtain ⟨f, hf, rfl, -⟩ := exists_take htake rfl
      have hne : id ≠ f.id := by
        rintro rfl
        rcases hid with hsome | hunset
        · simp [hf, hfind] at hsome
        · simp [hunset arg List.mem_cons_self hf.symm] at hvalue
      rw [ih hrest (by rwa [find?_note_of_ne m hne]), find?_note_of_ne m hne]
    · rw [applyVariables_cons_of_found (by simp [hfind])] at h
      exact ih h hid'

/-- **An argument for which two environments make no difference**: it was found, or its variable is the same
in both. -/
def SameVariable (env env' : String → Option String) (m : Matching) (arg : ArgSpec) : Prop :=
  (m.find? arg.id).isSome = true ∨ arg.variableName.bind env' = arg.variableName.bind env

/-- **Environments that make no difference** lead to matchings that still agree. What is hidden is found as
before.

**Proof sketch.** By induction on the arguments. Either an argument is found in both matchings and its
variable is not looked at, or the variable is the same, and what it adds depends on what was found for its
own argument alone. -/
theorem exists_applyVariables (hagree : AgreeOff hidden m m')
    (hargs : ∀ arg ∈ args, arg.id ∉ hidden ∧ SameVariable env env' m arg)
    (h : applyVariables env m args = .ok n) :
    ∃ n', applyVariables env' m' args = .ok n' ∧ AgreeOff hidden n n' ∧
      ∀ id ∈ hidden, n'.find? id = m'.find? id := by
  induction args generalizing m m' with
  | nil =>
    obtain rfl := Except.ok.inj h
    exact ⟨m', rfl, hagree, fun _ _ => rfl⟩
  | cons arg args ih =>
    rw [List.forall_mem_cons] at hargs
    obtain ⟨⟨hshown, hsame⟩, hrest⟩ := hargs
    have hfind : m'.find? arg.id = m.find? arg.id := hagree arg.id hshown
    rcases hm : m.find? arg.id with _ | f
    case some =>
      have hfound : (m.find? arg.id).isSome = true := by simp [hm]
      rw [applyVariables_cons_of_found hfound] at h
      rw [applyVariables_cons_of_found (hfind ▸ hfound)]
      exact ih hagree hrest h
    case none =>
      have hvariable : arg.variableName.bind env' = arg.variableName.bind env :=
        hsame.resolve_left (by simp [hm])
      rcases hvalue : arg.variableName.bind env with _ | value
      · rw [applyVariables_cons_of_unset hvalue] at h
        rw [applyVariables_cons_of_unset (hvariable.trans hvalue)]
        exact ih hagree hrest h
      · rw [applyVariables_cons_of_set hvalue hm] at h
        rw [applyVariables_cons_of_set (hvariable.trans hvalue) (hfind.trans hm)]
        obtain ⟨k, htake, hlater⟩ := exists_of_bind_eq_ok h
        obtain ⟨f, hf, rfl, htake'⟩ := exists_take htake hfind
        rw [htake']
        have hrest' : ∀ a ∈ args, a.id ∉ hidden ∧ SameVariable env env' (m.note f) a := fun a ha =>
          ⟨(hrest a ha).1, (hrest a ha).2.imp_left fun hsome => isSome_find?_note hsome f⟩
        obtain ⟨n', hn', hagree', hkept⟩ := ih (hagree.note f) hrest' hlater
        refine ⟨n', hn', hagree', fun id hid => ?_⟩
        have hne : id ≠ f.id := by
          rintro rfl
          exact hshown (hf ▸ hid)
        rw [hkept id hid, find?_note_of_ne m' hne]

/-- **A variable that is set in one environment only** adds its argument, and nothing else changes; or its
value does not pass the check.

**Proof sketch.** Up to the argument the matchings are the same. Behind it the one with the variable has the
argument and agrees on all others, so that the remaining variables are taken in alike. -/
theorem applyVariables_of_set {before after : List ArgSpec} {kind : ValueKind} {value : String}
    (haction : arg.action = .set kind) (hunset : arg.variableName.bind env = none)
    (hset : arg.variableName.bind env' = some value)
    (hargs : ∀ a ∈ before ++ after, a.id ≠ arg.id ∧ SameVariable env env' m a)
    (h : applyVariables env m (before ++ arg :: after) = .ok n) (hfree : n.find? arg.id = none) :
    (∀ error, kind.check value = .error error →
      applyVariables env' m (before ++ arg :: after) = .error error) ∧
    (kind.check value = .ok () →
      ∃ n', applyVariables env' m (before ++ arg :: after) = .ok n' ∧ AgreeOff [arg.id] n n' ∧
        (n'.find? arg.id).isSome = true) := by
  obtain ⟨hargsBefore, hargsAfter⟩ := List.forall_mem_append.1 hargs
  rw [applyVariables_append] at h
  obtain ⟨k, hbefore, hafter⟩ := exists_of_bind_eq_ok h
  rw [applyVariables_cons_of_unset hunset] at hafter
  obtain ⟨k', hbefore', hagree, -⟩ := exists_applyVariables (AgreeOff.refl [] m)
    (fun a ha => ⟨by simp, (hargsBefore a ha).2⟩) hbefore
  have hsame : k'.find? = k.find? := funext fun id => hagree id (by simp)
  have hfree' : k'.find? arg.id = none := by
    rw [hsame, ← hfree]
    exact (find?_applyVariables hafter (.inr fun a ha heq => absurd heq (hargsAfter a ha).1)).symm
  simp only [applyVariables_append, hbefore', Except.bind]
  rw [applyVariables_cons_of_set hset hfree', take_set haction hfree']
  refine ⟨fun error hcheck => by rw [hcheck]; rfl, fun hcheck => ?_⟩
  have hnoted : AgreeOff [arg.id] k (k'.note ⟨arg.id, .environment, [value]⟩) := by
    intro id hid
    rw [find?_note_of_ne k' (by simpa using hid), hsame]
  have hlater : ∀ a ∈ after, a.id ∉ [arg.id] ∧ SameVariable env env' k a := by
    intro a ha
    refine ⟨by simpa using (hargsAfter a ha).1, (hargsAfter a ha).2.imp_left fun hsome => ?_⟩
    rwa [find?_applyVariables hbefore (.inl hsome)]
  obtain ⟨n', hafter', hagree', hkept⟩ := exists_applyVariables hnoted hlater hafter
  refine ⟨n', by rw [hcheck]; exact hafter', hagree', ?_⟩
  rw [hkept arg.id (by simp), find?_note_self k' ⟨arg.id, .environment, [value]⟩]
  rfl

/-! ## The whole -/

/-- **The checks of a match** to which nothing more is added. -/
def checked (command : CommandSpec) (hasSubcommand : Bool) (n : Matching) :
    Except UsageError (List Found) :=
  if !command.subcommands.isEmpty && !hasSubcommand then
    .error (if n.found.isEmpty then .helpOnMissing else .missingSubcommand)
  else if command.hasConflict n then .error .argumentConflict
  else if command.lacksRequired n then .error .missingRequired
  else .ok n.found

/-- A match is completed in three steps: the pending argument, the variables and the checks. -/
lemma complete_eq (command : CommandSpec) (env : String → Option String) (m : Matching)
    (hasSubcommand : Bool) :
    command.complete env m hasSubcommand =
      m.resolve.bind fun k => (applyVariables env k command.args).bind (command.checked hasSubcommand) := by
  rw [complete]
  rcases m.resolve with error | k
  · rfl
  rcases hvariables : applyVariables env k command.args with error | n
  · simp [hvariables, bind, Except.bind]
  · simp only [hvariables, bind, Except.bind, checked, throw, throwThe, MonadExceptOf.throw, pure,
      Except.pure]

/-- **A match that was completed**: the pending argument and the variables were taken in, and no check
failed. -/
lemma complete_eq_ok {hasSubcommand : Bool} (h : command.complete env m hasSubcommand = .ok found) :
    ∃ k n, m.resolve = .ok k ∧ applyVariables env k command.args = .ok n ∧
      command.checked hasSubcommand n = .ok found := by
  rw [complete_eq] at h
  obtain ⟨k, hresolve, hrest⟩ := exists_of_bind_eq_ok h
  obtain ⟨n, hvariables, hchecked⟩ := exists_of_bind_eq_ok hrest
  exact ⟨k, n, hresolve, hvariables, hchecked⟩

/-- **Checks that passed**: all that was matched is found, and no two arguments exclude each other. -/
lemma checked_eq_ok {hasSubcommand : Bool} (h : command.checked hasSubcommand n = .ok found) :
    found = n.found ∧ command.hasConflict n = false := by
  rw [checked] at h
  split_ifs at h with hsub hconflict
  exact ⟨(Except.ok.inj h).symm, by simpa using hconflict⟩

/-- **An argument without a variable that is set** is found if it is among the words. -/
lemma find?_complete {hasSubcommand : Bool} {k : Matching}
    (h : command.complete env m hasSubcommand = .ok found) (hresolve : m.resolve = .ok k)
    (hunset : ∀ arg ∈ command.args, arg.id = id → arg.variableName.bind env = none) :
    found.find? (fun f => f.id == id) = k.find? id := by
  obtain ⟨k', n, hresolve', hvariables, hchecked⟩ := complete_eq_ok h
  obtain rfl := Except.ok.inj (hresolve.symm.trans hresolve')
  obtain ⟨rfl, -⟩ := checked_eq_ok hchecked
  exact find?_applyVariables hvariables (.inr hunset)

/-- **A match is completed alike in two environments** that make no difference for its arguments.

**Proof sketch.** Where the variables make no difference, the same arguments are noted. The checks behind
look at what was found only, so they come out alike. -/
theorem exists_complete {hasSubcommand : Bool}
    (hargs : ∀ k, m.resolve = .ok k → ∀ arg ∈ command.args, SameVariable env env' k arg)
    (h : command.complete env m hasSubcommand = .ok found) :
    ∃ found', command.complete env' m hasSubcommand = .ok found' ∧
      ∀ id, found'.find? (fun f => f.id == id) = found.find? fun f => f.id == id := by
  obtain ⟨k, n, hresolve, hvariables, hchecked⟩ := complete_eq_ok h
  obtain ⟨n', hvariables', hagree, -⟩ := exists_applyVariables (AgreeOff.refl [] k)
    (fun arg harg => ⟨by simp, hargs k hresolve arg harg⟩) hvariables
  have hfind : n'.find? = n.find? := funext fun id => hagree id (by simp)
  obtain ⟨rfl, -⟩ := checked_eq_ok hchecked
  refine ⟨n'.found, ?_, congrFun hfind⟩
  have hconflict : command.hasConflict n' = command.hasConflict n := by
    simp only [hasConflict, hfind]
  have hlacks : command.lacksRequired n' = command.lacksRequired n := by
    simp only [lacksRequired, hfind]
  rw [complete_eq, hresolve]
  simp only [Except.bind, hvariables']
  rw [checked] at hchecked ⊢
  rw [hconflict, hlacks]
  split_ifs at hchecked ⊢
  rfl

/-- **An argument that comes from a variable counts as given**: if it excludes one that was found, or is
excluded by it, the match fails; and it fails before that if the value does not pass its check.

**Proof sketch.** The argument was not found before, for otherwise the match had a conflict already. So
its variable is read in the new environment: either the value does not pass its check, or the argument is
noted beside the one that it excludes. -/
theorem complete_of_excludes {hasSubcommand : Bool} {before after : List ArgSpec} {kind : ValueKind}
    {value : String} (hsplit : command.args = before ++ arg :: after) (haction : arg.action = .set kind)
    (hunset : arg.variableName.bind env = none) (hset : arg.variableName.bind env' = some value)
    (hother : id ≠ arg.id)
    (hexcludes : ∀ n : Matching, (n.find? arg.id).isSome = true → (n.find? id).isSome = true →
      command.hasConflict n = true)
    (h : command.complete env m hasSubcommand = .ok found)
    (hargs : ∀ k, m.resolve = .ok k →
      ∀ a ∈ before ++ after, a.id ≠ arg.id ∧ SameVariable env env' k a)
    (hfound : (found.find? fun f => f.id == id).isSome = true) :
    command.complete env' m hasSubcommand = (kind.check value).bind fun _ => .error .argumentConflict := by
  obtain ⟨k, n, hresolve, hvariables, hchecked⟩ := complete_eq_ok h
  obtain ⟨rfl, hconflict⟩ := checked_eq_ok hchecked
  have hfree : n.find? arg.id = none := by
    rw [← Option.not_isSome_iff_eq_none]
    intro hsome
    simp [hexcludes n hsome hfound] at hconflict
  rw [hsplit] at hvariables
  obtain ⟨herror, hok⟩ :=
    applyVariables_of_set haction hunset hset (hargs k hresolve) hvariables hfree
  rw [complete_eq, hresolve, hsplit]
  simp only [Except.bind]
  rcases hcheck : kind.check value with error | passed
  · rw [herror error hcheck]
  obtain ⟨n', hvariables', hagree, hgiven⟩ := hok hcheck
  have hboth : command.hasConflict n' = true :=
    hexcludes n' hgiven (by rwa [hagree id (by simpa using hother)])
  have hsub : ¬ (!command.subcommands.isEmpty && !hasSubcommand) = true := by
    intro hsub
    simp [checked, hsub] at hchecked
  rw [hvariables']
  simp only [checked, if_neg hsub, if_pos hboth]

end CommandSpec

end UaHeaders
