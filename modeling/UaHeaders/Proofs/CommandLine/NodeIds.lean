import UaHeaders.CommandLine.Invocation
import UaHeaders.Proofs.CommandLine.Variables
import UaHeaders.Proofs.Settings.Resolve

/-!
# The source of the node ids and the environment

The source of the node ids is an address or a file, and each of the two has an option, a variable and a
setting in a file. An option on the command line is stronger than its own variable and than both settings of
the file. It is no stronger than the variable of the other option: that variable counts as the other option,
and the two exclude each other. So a command line with one of the options is read alike whatever its own
variable is, and is refused in every environment where the other variable is set.

## Main definitions

* `UaHeaders.NodeIdOption` — the two options.
* `UaHeaders.Invocation.Matched` — what is matched before the environment is looked at.

## Main results

* `UaHeaders.Invocation.parse_of_matched` — a command line is matched, then completed.
* `UaHeaders.NodeIdOption.resolve_nodeIds` — an option on the command line names the source.
* `UaHeaders.Invocation.parse_of_isGiven` — a command line with one of the options, in two environments.
-/

set_option autoImplicit false

namespace UaHeaders

/-! ## The options -/

/-- **The two options that name the source of the node ids.** -/
inductive NodeIdOption where
  | url
  | file
  deriving DecidableEq, Inhabited

namespace NodeIdOption

variable {option : NodeIdOption} {args : GenerateArgs}

/-- The option that excludes this one. -/
def other : NodeIdOption → NodeIdOption
  | url => file
  | file => url

/-- The options exclude each other. -/
@[simp] lemma other_other (option : NodeIdOption) : option.other.other = option := by cases option <;> rfl

/-- What the value of an option is read as. -/
def kind : NodeIdOption → ValueKind
  | url => .text
  | file => .path

/-- The name of an option among what was found. -/
def id : NodeIdOption → String
  | url => "node_ids_url"
  | file => "node_ids_file"

/-- The variable that stands in for an option. -/
def variableName : NodeIdOption → String
  | url => "OPCUA_HEADERGEN_NODE_IDS_URL"
  | file => "OPCUA_HEADERGEN_NODE_IDS_FILE"

/-- Whether an option is given. -/
def isGiven (args : GenerateArgs) : NodeIdOption → Bool
  | url => args.nodeIdsUrl.isSome
  | file => args.nodeIdsFile.isSome

/-- **Whether a source of the node ids is the one that an option names.** -/
def Names (args : GenerateArgs) (source : NodeIdSource) : NodeIdOption → Prop
  | url => ∃ address agent, args.nodeIdsUrl = some address ∧ source = .url address agent
  | file => ∃ path, args.nodeIdsFile = some path ∧ source = .file path

/-- **An option on the command line names the source**, whatever the settings file says, if the other one is
not given. -/
lemma resolve_nodeIds {settings : Option Path} {t : FileTree} {config : RunConfig}
    (hgiven : option.isGiven args = true) (hother : option.other.isGiven args = false)
    (h : args.resolve settings t = .ok config) : option.Names args config.nodeIds := by
  obtain ⟨file, hfile⟩ := GenerateArgs.exists_resolveWith h
  have hsource := (GenerateArgs.resolveWith_eq_ok hfile).2.2.1
  cases option with
  | url =>
    obtain ⟨address, hurl⟩ := Option.isSome_iff_exists.1 hgiven
    have hnone : args.nodeIdsFile = none := by simpa [isGiven, other] using hother
    simp only [GenerateArgs.resolveNodeIds, hurl, hnone] at hsource
    exact ⟨address, _, hurl, (Except.ok.inj hsource).symm⟩
  | file =>
    obtain ⟨path, hpath⟩ := Option.isSome_iff_exists.1 hgiven
    have hnone : args.nodeIdsUrl = none := by simpa [isGiven, other] using hother
    simp only [GenerateArgs.resolveNodeIds, hpath, hnone] at hsource
    exact ⟨path, hpath, (Except.ok.inj hsource).symm⟩

/-! ## The command -/

/-- The command that generates headers. -/
def command : CommandSpec := { args := generateArgs ++ sharedArgs }

/-- An option among the arguments of the command. -/
def arg (option : NodeIdOption) : ArgSpec where
  id := option.id
  action := .set option.kind
  long := match option with
    | url => some "node-ids-url"
    | file => some "node-ids-file"
  variableName := some option.variableName
  excludes := match option with
    | url => none
    | file => some "node_ids_url"

/-- The arguments in front of an option. -/
def before : NodeIdOption → List ArgSpec
  | url => generateArgs.take 3
  | file => generateArgs.take 4

/-- The arguments behind an option. -/
def after : NodeIdOption → List ArgSpec
  | url => generateArgs.drop 4 ++ sharedArgs
  | file => generateArgs.drop 5 ++ sharedArgs

/-- The place of an option among the arguments. -/
lemma args_command (option : NodeIdOption) :
    command.args = option.before ++ option.arg :: option.after := by
  cases option <;> decide +kernel

/-- No other argument has the name of an option. -/
lemma id_ne (option : NodeIdOption) : ∀ a ∈ option.before ++ option.after, a.id ≠ option.id := by
  cases option <;> decide +kernel

/-- Every other argument is the other option, or has another variable than both. -/
lemma eq_or_variableName_ne (option : NodeIdOption) :
    ∀ a ∈ option.before ++ option.after, a.id = option.other.id ∨
      a.variableName ≠ some url.variableName ∧ a.variableName ≠ some file.variableName := by
  cases option <;> decide +kernel

/-- **The two options exclude each other.** -/
lemma hasConflict_of_both {n : Matching} (hthis : (n.find? option.id).isSome = true)
    (hother : (n.find? option.other.id).isSome = true) : command.hasConflict n = true := by
  have hboth : (n.find? url.id).isSome = true ∧ (n.find? file.id).isSome = true := by
    cases option with
    | url => exact ⟨hthis, hother⟩
    | file => exact ⟨hother, hthis⟩
  rw [CommandSpec.hasConflict, List.any_eq_true]
  refine ⟨file.arg, by rw [args_command file]; simp, ?_⟩
  rw [Bool.and_eq_true]
  exact hboth.symm

/-- An option that is given was found. -/
lemma isSome_of_isGiven {found : List Found}
    (h : option.isGiven (GenerateArgs.ofFound found) = true) :
    (found.find? fun f => f.id == option.id).isSome = true := by
  have hvalue : (value? found option.id).isSome = true := by
    cases option with
    | url => exact h
    | file =>
      rw [isGiven, GenerateArgs.ofFound, Option.isSome_map] at h
      exact h
  by_contra hnone
  rw [Option.not_isSome_iff_eq_none] at hnone
  simp [value?, values?, hnone] at hvalue

/-! ## Two environments -/

section TwoEnvironments

open CommandSpec

variable {env env' : String → Option String} {m k : Matching} {found : List Found}

/-- Environments that differ in the variables of the two options make no difference for an argument with
another variable. -/
lemma bind_eq_of_ne {a : ArgSpec}
    (henv : ∀ name, name ≠ url.variableName → name ≠ file.variableName → env' name = env name)
    (hurl : a.variableName ≠ some url.variableName) (hfile : a.variableName ≠ some file.variableName) :
    a.variableName.bind env' = a.variableName.bind env := by
  rcases hname : a.variableName with _ | name
  · rfl
  · refine henv name ?_ ?_
    · rintro rfl
      exact hurl hname
    · rintro rfl
      exact hfile hname

/-- **An option that is found, but has no variable**, is among the words. -/
lemma find?_option (hunset : env option.variableName = none)
    (h : command.complete env m false = .ok found) (hresolve : m.resolve = .ok k) :
    found.find? (fun f => f.id == option.id) = k.find? option.id := by
  refine find?_complete h hresolve fun a ha hid => ?_
  have hmem : a = option.arg := by
    rw [args_command option, List.mem_append, List.mem_cons] at ha
    by_contra hne
    exact option.id_ne a (List.mem_append.2 (ha.imp_right fun h => h.resolve_left hne)) hid
  rw [hmem]
  exact hunset

/-- The environments make no difference for the arguments other than the other option. -/
lemma forall_sameVariable
    (henv : ∀ name, name ≠ url.variableName → name ≠ file.variableName → env' name = env name)
    (hfound : (k.find? option.id).isSome = true) :
    ∀ a ∈ option.other.before ++ option.other.after,
      a.id ≠ option.other.id ∧ SameVariable env env' k a := by
  intro a ha
  refine ⟨option.other.id_ne a ha, ?_⟩
  rcases option.other.eq_or_variableName_ne a ha with hid | ⟨hurl, hfile⟩
  · left
    rw [other_other] at hid
    rwa [hid]
  · exact .inr (bind_eq_of_ne henv hurl hfile)

/-- **An option that is found hides its own variable**: if the variable of the other option is not set, the
command is completed alike. -/
lemma exists_complete_of_unset
    (henv : ∀ name, name ≠ url.variableName → name ≠ file.variableName → env' name = env name)
    (hunset : ∀ option : NodeIdOption, env option.variableName = none)
    (h : command.complete env m false = .ok found)
    (hfound : (found.find? fun f => f.id == option.id).isSome = true)
    (hother : env' option.other.variableName = none) :
    ∃ found', command.complete env' m false = .ok found' ∧
      ∀ id, found'.find? (fun f => f.id == id) = found.find? fun f => f.id == id := by
  refine exists_complete (fun k hresolve a ha => ?_) h
  rw [find?_option (hunset option) h hresolve] at hfound
  rw [args_command option.other, List.mem_append, List.mem_cons] at ha
  by_cases hmem : a = option.other.arg
  · right
    rw [hmem]
    exact hother.trans (hunset option.other).symm
  · exact (forall_sameVariable henv hfound a
      (List.mem_append.2 (ha.imp_right fun h => h.resolve_left hmem))).2

/-- **The variable of the other option counts as that option**, so that the command is refused. -/
lemma complete_of_set {value : String}
    (henv : ∀ name, name ≠ url.variableName → name ≠ file.variableName → env' name = env name)
    (hunset : ∀ option : NodeIdOption, env option.variableName = none)
    (h : command.complete env m false = .ok found)
    (hfound : (found.find? fun f => f.id == option.id).isSome = true)
    (hother : env' option.other.variableName = some value) :
    command.complete env' m false =
      (option.other.kind.check value).bind fun _ => .error .argumentConflict := by
  refine complete_of_excludes (args_command option.other) rfl (hunset option.other) hother ?_
    (fun n hthis hthat => ?_) h (fun k hresolve => ?_) hfound
  · cases option <;> decide
  · exact hasConflict_of_both hthat hthis
  · rw [find?_option (hunset option) h hresolve] at hfound
    exact forall_sameVariable henv hfound

end TwoEnvironments

end NodeIdOption

/-! ## Command lines -/

namespace Invocation

open NodeIdOption

variable {words : List String} {env env' : String → Option String} {name : String}
  {command : CommandSpec} {upper lower : Matching} {invocation : Invocation}

/-- **What is matched before the environment is looked at**: the words in front of the name of a command with
the shared arguments, and those behind it with its own. -/
structure Matched (words : List String) (name : String) (command : CommandSpec)
    (upper lower : Matching) : Prop where
  command_eq : commandSpec? name = some command
  words_eq : ∃ rest sub, programSpec.matchWords {} words = .ok (upper, some (name, rest)) ∧
    command.matchWords {} rest = .ok (lower, sub)

/-- The invocation with what was found on both levels. -/
def ofFound (name : String) (upper lower : List Found) : Invocation where
  settings := ((sharedFound upper lower "config").bind fun f => f.values.head?).map Path.mk
  verbosity := min (((sharedFound upper lower "verbose").map fun f => f.values.length).getD 0) maxVerbosity
  command := Command.ofFound name lower

/-- **A command line is matched, then completed**: what the words are matched with does not depend on the
environment. -/
lemma parse_of_matched (h : Matched words name command upper lower) (env : String → Option String) :
    parse words env =
      (command.complete env lower false).bind fun lower =>
        (programSpec.complete env upper true).bind fun upper => .ok (ofFound name upper lower) := by
  obtain ⟨rest, sub, hupper, hlower⟩ := h.words_eq
  simp only [parse, hupper, hlower, h.command_eq, bind, Except.bind]
  rfl

/-- A command line that is read was matched. -/
lemma exists_matched (h : parse words env = .ok invocation) :
    ∃ name command upper lower, Matched words name command upper lower := by
  obtain ⟨⟨upper, _ | ⟨name, rest⟩⟩, hupper, hbehind⟩ := exists_of_bind_eq_ok h
  · obtain ⟨_, -, hmissing⟩ := exists_of_bind_eq_ok hbehind
    simp [throw, throwThe, MonadExceptOf.throw] at hmissing
  rcases hcommand : commandSpec? name with _ | command
  · simp [hcommand, throw, throwThe, MonadExceptOf.throw] at hbehind
  simp only [hcommand] at hbehind
  obtain ⟨⟨lower, sub⟩, hlower, -⟩ := exists_of_bind_eq_ok hbehind
  exact ⟨name, command, upper, lower, hcommand, rest, sub, hupper, hlower⟩

/-- **An invocation depends on what is found for each argument alone.** -/
lemma ofFound_congr {upperFound upperFound' lowerFound lowerFound' : List Found}
    (hupper : ∀ id, upperFound'.find? (fun f => f.id == id) = upperFound.find? fun f => f.id == id)
    (hlower : ∀ id, lowerFound'.find? (fun f => f.id == id) = lowerFound.find? fun f => f.id == id) :
    ofFound name upperFound' lowerFound' = ofFound name upperFound lowerFound := by
  have hvalues : values? lowerFound' = values? lowerFound := by
    funext id
    rw [values?, values?, hlower]
  simp only [ofFound, sharedFound, hupper, hlower, Command.ofFound, GenerateArgs.ofFound, value?, hasFlag,
    time, hvalues]

/-- The command with the arguments of the generator is its own. -/
lemma eq_of_generate {args : GenerateArgs} {found : List Found} (hcommand : commandSpec? name = some command)
    (h : Command.ofFound name found = .generate args) :
    command = NodeIdOption.command ∧ GenerateArgs.ofFound found = args := by
  unfold commandSpec? at hcommand
  split at hcommand
  case h_1 => exact ⟨(Option.some.inj hcommand).symm, by simpa [Command.ofFound] using h⟩
  case h_6 => simp at hcommand
  all_goals simp [Command.ofFound] at h

/-- **A command line with one of the two options**, in an environment where neither variable is set and in
another one that differs from it in these variables alone. The other option is not given. If the variable of
the other option is not set, the command line is read alike, whatever the variable of the option is; if it is
set, the command line is refused. The source of the node ids in every configuration is the one that the
option names.

**Proof sketch.** What the words are matched with does not depend on the environment, and as its variable is
not set the option is among the words. So the first variable is not looked at, and the second one counts as
the other option. -/
theorem parse_of_isGiven {settings : Option Path} {verbosity : Nat} {args : GenerateArgs}
    {option : NodeIdOption}
    (henv : ∀ name, name ≠ url.variableName → name ≠ file.variableName → env' name = env name)
    (hurl : env url.variableName = none) (hfile : env file.variableName = none)
    (hparse : parse words env = .ok ⟨settings, verbosity, .generate args⟩)
    (hgiven : option.isGiven args = true) :
    option.other.isGiven args = false ∧
    (env' option.other.variableName = none →
      parse words env' = .ok ⟨settings, verbosity, .generate args⟩) ∧
    (∀ value, env' option.other.variableName = some value →
      parse words env' = (option.other.kind.check value).bind fun _ => .error .argumentConflict) ∧
    ∀ t config, args.resolve settings t = .ok config → option.Names args config.nodeIds := by
  obtain ⟨name, command, upper, lower, hmatched⟩ := exists_matched hparse
  rw [parse_of_matched hmatched] at hparse
  obtain ⟨lowerFound, hlower, hbehind⟩ := exists_of_bind_eq_ok hparse
  obtain ⟨upperFound, hupper, hread⟩ := exists_of_bind_eq_ok hbehind
  obtain ⟨rfl, rfl⟩ := eq_of_generate hmatched.command_eq
    (congrArg Invocation.command (Except.ok.inj hread))
  have hunset : ∀ option : NodeIdOption, env option.variableName = none := by
    rintro (_ | _)
    · exact hurl
    · exact hfile
  have hfound := isSome_of_isGiven hgiven
  have hother : option.other.isGiven (GenerateArgs.ofFound lowerFound) = false := by
    rw [← Bool.not_eq_true]
    intro hboth
    obtain ⟨k, n, -, -, hchecked⟩ := CommandSpec.complete_eq_ok hlower
    obtain ⟨rfl, hconflict⟩ := CommandSpec.checked_eq_ok hchecked
    have hexcluded := hasConflict_of_both hfound (isSome_of_isGiven hboth)
    simp [hexcluded] at hconflict
  refine ⟨hother, fun hnone => ?_, fun value hsome => ?_, fun t config h =>
    resolve_nodeIds hgiven hother h⟩
  · obtain ⟨lowerFound', hlower', hsameLower⟩ :=
      exists_complete_of_unset henv hunset hlower hfound hnone
    have hshared : ∀ a ∈ programSpec.args,
        a.variableName ≠ some url.variableName ∧ a.variableName ≠ some file.variableName := by
      decide +kernel
    obtain ⟨upperFound', hupper', hsameUpper⟩ := CommandSpec.exists_complete
      (fun _ _ a ha => .inr (bind_eq_of_ne henv (hshared a ha).1 (hshared a ha).2)) hupper
    rw [parse_of_matched hmatched, hlower']
    simp only [Except.bind, hupper']
    rw [ofFound_congr hsameUpper hsameLower, hread]
  · rw [parse_of_matched hmatched, complete_of_set henv hunset hlower hfound hsome]
    rcases option.other.kind.check value with error | passed <;> rfl

/-- A command line that names an address. -/
def addressWords : List String := ["generate", "--node-ids-url", "http://cli"]

/-- What it asks for. -/
def addressInvocation : Invocation := ⟨none, 0, .generate { nodeIdsUrl := some "http://cli" }⟩

/-- An environment with one variable. -/
def onlyVariable (name value : String) : String → Option String :=
  fun other => if other = name then some value else none

/-- **An address on the command line** hides the address in the environment, and is refused beside the file in
the environment. -/
theorem parse_of_isGiven_address :
    parse addressWords (onlyVariable url.variableName "http://env") = .ok addressInvocation ∧
    parse addressWords (onlyVariable file.variableName "env.csv") = .error .argumentConflict := by
  have hnone : parse addressWords (fun _ => none) = .ok addressInvocation := by decide +kernel
  have hown : ∀ name, name ≠ url.variableName → name ≠ file.variableName →
      onlyVariable url.variableName "http://env" name = none := fun name hurl _ => if_neg hurl
  have hother : ∀ name, name ≠ url.variableName → name ≠ file.variableName →
      onlyVariable file.variableName "env.csv" name = none := fun name _ hfile => if_neg hfile
  have hgiven : NodeIdOption.url.isGiven { nodeIdsUrl := some "http://cli" } = true := rfl
  exact ⟨(parse_of_isGiven hown rfl rfl hnone hgiven).2.1 (by decide),
    (parse_of_isGiven hother rfl rfl hnone hgiven).2.2.1 "env.csv" (by decide)⟩

/-- **An option on the command line does not win over the variable of the other option**: what is read and
resolved where no variable is set is refused where that one is. -/
theorem parse_addressWords_refused :
    parse addressWords (fun _ => none) = .ok addressInvocation ∧
    (GenerateArgs.resolve { nodeIdsUrl := some "http://cli" } none .empty).isOk = true ∧
    parse addressWords (onlyVariable file.variableName "env.csv") = .error .argumentConflict := by
  refine ⟨by decide +kernel, ?_, by decide +kernel⟩
  simp only [GenerateArgs.resolve, GenerateArgs.resolveWith, GenerateArgs.resolveTargets,
    Target.normalize_eq_filter]
  decide +kernel

end Invocation

end UaHeaders
