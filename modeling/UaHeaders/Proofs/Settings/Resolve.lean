import Mathlib.Data.List.Sort
import UaHeaders.Proofs.Lists
import UaHeaders.Settings.Resolve

/-!
# Settings in a file and on the command line

A setting means the same wherever it stands. A settings file without lists of schema files can be left out,
if the command line is filled in with what the file says: each setting where the command line has none, and
the two that name the source of the node ids only together. Of the targets that are selected only the set
matters, and what a run is configured with has passed the check that is made before the run.

## Main definitions

* `UaHeaders.GenerateArgs.filledFrom` — arguments filled in with the settings in a file.
* `UaHeaders.GenerateArgs.selected` — the targets that two layers select.

## Main results

* `UaHeaders.GenerateArgs.resolveWith_eq_filledFrom` — the file can be left out.
* `UaHeaders.GenerateArgs.resolveWith_congr` — only the set of the targets matters.
* `UaHeaders.GenerateArgs.resolve_layers` — what a configuration is resolved to.
-/

set_option autoImplicit false

namespace UaHeaders

/-! ## Targets -/

namespace Target

variable {ts us : List Target} {target : Target}

/-- No two targets have one place. -/
lemma rank_injective : Function.Injective rank := by
  rintro (_ | _) (_ | _) h <;> first | rfl | exact absurd h (by decide)

/-- What repeats the element in front of it is still there. -/
lemma mem_dropRepeats : target ∈ dropRepeats ts ↔ target ∈ ts := by
  fun_induction dropRepeats ts with
  | case1 next ts ih => simp [ih]
  | case2 first next ts _ ih => rw [List.mem_cons, ih, ← List.mem_cons]
  | case3 => rfl

/-- **A list in order is strictly increasing** without its repetitions.

**Proof sketch.** Along the cases of the function. An element that stays differs from the next one, so it
comes strictly before it (`rank_injective`). -/
lemma pairwise_dropRepeats (h : ts.Pairwise fun a b => a.rank ≤ b.rank) :
    (dropRepeats ts).Pairwise fun a b => a.rank < b.rank := by
  fun_induction dropRepeats ts with
  | case1 next ts ih => exact ih h.of_cons
  | case2 first next ts hne ih =>
    refine List.pairwise_cons.2 ⟨fun target htarget => ?_, ih h.of_cons⟩
    -- the next element comes later, and everything behind it no sooner
    have hnext : first.rank < next.rank :=
      lt_of_le_of_ne (List.rel_of_pairwise_cons h List.mem_cons_self) fun heq =>
        hne (rank_injective heq)
    rcases List.mem_cons.1 (mem_dropRepeats.1 htarget) with rfl | hmem
    · exact hnext
    · exact hnext.trans_le (List.rel_of_pairwise_cons h.of_cons hmem)
  | case3 ts hshort =>
    rcases ts with _ | ⟨first, _ | ⟨next, ts⟩⟩
    · exact .nil
    · exact List.pairwise_singleton _ _
    · exact absurd rfl (hshort first next ts)

/-- **A selection that was brought in order** is strictly increasing. -/
lemma pairwise_normalize (ts : List Target) : (normalize ts).Pairwise fun a b => a.rank < b.rank := by
  have hsorted : (ts.mergeSort fun a b => decide (a.rank ≤ b.rank)).Pairwise fun a b =>
      decide (a.rank ≤ b.rank) = true :=
    List.pairwise_mergeSort
      (fun a b c hab hbc => decide_eq_true ((of_decide_eq_true hab).trans (of_decide_eq_true hbc)))
      (fun a b => by simpa using le_total a.rank b.rank) ts
  exact pairwise_dropRepeats (hsorted.imp of_decide_eq_true)

/-- **A selection brought in order** is what is selected of all targets. -/
lemma normalize_eq_filter (ts : List Target) :
    normalize ts = all.filter fun target => ts.contains target := by
  have hfilter : (all.filter fun target => ts.contains target).Pairwise fun a b => a.rank < b.rank :=
    List.Pairwise.sublist List.filter_sublist (by decide)
  have hnodup : ∀ {us : List Target}, (us.Pairwise fun a b => a.rank < b.rank) → us.Nodup :=
    fun hus => hus.imp fun hab => by
      rintro rfl
      exact lt_irrefl _ hab
  have hmem : ∀ target, target ∈ normalize ts ↔ target ∈ all.filter fun target => ts.contains target := by
    intro target
    have hall : target ∈ all := by cases target <;> decide
    simp [normalize, mem_dropRepeats, hall]
  have hperm := (List.perm_ext_iff_of_nodup (hnodup (pairwise_normalize ts)) (hnodup hfilter)).2 hmem
  exact hperm.eq_of_pairwise (fun a b _ _ hab hba => absurd hba (lt_asymm hab)) (pairwise_normalize ts)
    hfilter

/-- Of a selection only the set matters. -/
lemma normalize_congr (h : ∀ target, target ∈ ts ↔ target ∈ us) : normalize ts = normalize us := by
  rw [normalize_eq_filter, normalize_eq_filter]
  refine List.filter_congr fun target _ => ?_
  rw [Bool.eq_iff_iff, List.contains_iff_mem, List.contains_iff_mem]
  exact h target

end Target

/-! ## Layers -/

namespace GenerateArgs

variable {args : GenerateArgs} {file : FileSettings} {t : FileTree} {config : RunConfig}

/-- Whether the command line names a source of the node ids. -/
def namesNodeIds (args : GenerateArgs) : Bool := args.nodeIdsUrl.isSome || args.nodeIdsFile.isSome

/-- **Arguments filled in with the settings in a file**: each of them where it is left out, the two that
name the source of the node ids if both are left out, and no formatting if the file switches it off. -/
def filledFrom (args : GenerateArgs) (file : FileSettings) : GenerateArgs :=
  { args with
    outputRoot := args.outputRoot <|> file.outputRoot
    schemaDir := args.schemaDir <|> file.schemaDir
    targets := args.targets <|> file.targets
    nodeIdsUrl := if args.namesNodeIds then args.nodeIdsUrl else file.nodeIdsUrl
    nodeIdsFile := if args.namesNodeIds then args.nodeIdsFile else file.nodeIdsFile
    userAgent := args.userAgent <|> file.userAgent
    formatter := args.formatter <|> file.formatter
    noFormat := args.noFormat || file.format == some false }

/-- **The targets that two layers select**, the upper one first. -/
def selected (upper lower : Option (List Target)) : List Target := (upper <|> lower).getD Target.defaults

/-- A layer without a value below another one counts for nothing. -/
lemma orElse_none {α : Type} (value : Option α) : (value <|> none) = value := by
  cases value <;> rfl

/-- The targets are those of the arguments that are filled in. -/
lemma resolveTargets_filledFrom (args : GenerateArgs) (file : FileSettings) :
    (args.filledFrom file).resolveTargets {} = args.resolveTargets file := by
  simp only [resolveTargets, filledFrom, orElse_none]

/-- **The source of the node ids** is that of the arguments that are filled in: if the command line names
one, both settings of the file are hidden, and else both are taken over. -/
lemma resolveNodeIds_filledFrom (args : GenerateArgs) (file : FileSettings) :
    (args.filledFrom file).resolveNodeIds {} = args.resolveNodeIds file := by
  have hagent : ((args.userAgent <|> file.userAgent) <|> none) = (args.userAgent <|> file.userAgent) :=
    orElse_none _
  rcases hnamed : args.namesNodeIds with _ | _
  · have hnames := hnamed
    rw [namesNodeIds] at hnames
    simp only [resolveNodeIds, filledFrom, hnamed, hnames, Bool.false_eq_true, if_false, hagent]
    rcases file.nodeIdsUrl with _ | url <;> rcases file.nodeIdsFile with _ | path <;> rfl
  · have hnames := hnamed
    rw [namesNodeIds] at hnames
    simp only [resolveNodeIds, filledFrom, hnamed, hnames, if_true, hagent]

/-- The formatter is that of the arguments that are filled in. -/
lemma resolveFormatter_filledFrom (args : GenerateArgs) (file : FileSettings) :
    (args.filledFrom file).resolveFormatter {} = args.resolveFormatter file := by
  have hused : (!(args.noFormat || file.format == some false) && (none : Option Bool).getD true) =
      (!args.noFormat && file.format.getD true) := by
    rcases args.noFormat with _ | _ <;> rcases file.format with _ | _ | _ <;> rfl
  simp only [resolveFormatter, filledFrom, hused, orElse_none]

/-- **A settings file without lists of schema files can be left out** if the arguments are filled in with
it. Each of the settings is resolved alike, failures included, and in the same order. -/
theorem resolveWith_eq_filledFrom (hregistry : file.typeRegistrySchemas = none)
    (hconverter : file.typeConverterSchemas = none) (args : GenerateArgs) (t : FileTree) :
    args.resolveWith file t = (args.filledFrom file).resolveWith {} t := by
  rw [resolveWith, resolveWith, resolveTargets_filledFrom, resolveNodeIds_filledFrom,
    resolveFormatter_filledFrom, hregistry, hconverter]
  simp only [filledFrom, orElse_none]
  rfl

/-! ## Selections -/

/-- **Only the set of the targets matters**: layers that differ in their targets alone are resolved alike if
they select the same ones. -/
theorem resolveWith_congr (args : GenerateArgs) (file : FileSettings) (t : FileTree)
    (ts us ts' us' : Option (List Target))
    (h : ∀ target, target ∈ selected ts us ↔ target ∈ selected ts' us') :
    { args with targets := ts }.resolveWith { file with targets := us } t =
      { args with targets := ts' }.resolveWith { file with targets := us' } t := by
  have htargets : { args with targets := ts }.resolveTargets { file with targets := us } =
      { args with targets := ts' }.resolveTargets { file with targets := us' } := by
    have hnormal := Target.normalize_congr h
    rw [selected, selected] at hnormal
    simp only [resolveTargets, hnormal]
  rw [resolveWith, resolveWith, htargets]
  rfl

/-! ## Configurations -/

/-- **A configuration that two layers are resolved to** has the targets that they select and the source of the
node ids that they name, and has passed its check. -/
lemma resolveWith_eq_ok (h : args.resolveWith file t = .ok config) :
    config.targets = Target.normalize (selected args.targets file.targets) ∧ config.targets ≠ [] ∧
      args.resolveNodeIds file = .ok config.nodeIds ∧ config.validate t = .ok () := by
  obtain ⟨targets, htargets, hrest⟩ := exists_of_bind_eq_ok h
  obtain ⟨nodeIds, hnodeIds, hbehind⟩ := exists_of_bind_eq_ok hrest
  obtain ⟨formatter, -, hchecked⟩ := exists_of_bind_eq_ok hbehind
  have hselected : targets = Target.normalize (selected args.targets file.targets) ∧ targets ≠ [] := by
    rw [resolveTargets] at htargets
    split at htargets
    · simp at htargets
    · next hne =>
      obtain rfl := Except.ok.inj htargets
      exact ⟨rfl, hne⟩
  simp only at hchecked
  split at hchecked
  · next hvalid =>
    obtain rfl := Except.ok.inj hchecked
    exact ⟨hselected.1, hselected.2, hnodeIds, hvalid⟩
  · simp at hchecked

/-- A configuration is resolved from the arguments and some settings of a file. -/
lemma exists_resolveWith {settings : Option Path} (h : args.resolve settings t = .ok config) :
    ∃ file, args.resolveWith file t = .ok config := by
  rcases settings with _ | path
  · exact ⟨{}, h⟩
  · obtain ⟨file, -, hfile⟩ := exists_of_bind_eq_ok h
    exact ⟨file, hfile⟩

/-- **What a run is configured with.** A settings file that was loaded and has no lists of schema files can be
left out if the arguments are filled in with it; the result is the same, and so is what is wrong. Of the
targets that are selected, on the command line or in the file, only the set matters. The targets of every
configuration are strictly increasing and not empty, and it has passed its check. -/
theorem resolve_layers (args : GenerateArgs) (t : FileTree) :
    (∀ path file, FileSettings.load t path = .ok file → file.typeRegistrySchemas = none →
      file.typeConverterSchemas = none →
      args.resolve (some path) t = (args.filledFrom file).resolve none t) ∧
    (∀ settings (ts us : List Target), (∀ target, target ∈ ts ↔ target ∈ us) →
      { args with targets := some ts }.resolve settings t =
        { args with targets := some us }.resolve settings t) ∧
    (∀ path path' (file : FileSettings) (ts us : List Target), (∀ target, target ∈ ts ↔ target ∈ us) →
      FileSettings.load t path = .ok { file with targets := some ts } →
      FileSettings.load t path' = .ok { file with targets := some us } →
      args.resolve (some path) t = args.resolve (some path') t) ∧
    ∀ settings config, args.resolve settings t = .ok config →
      config.targets ≠ [] ∧ (config.targets.Pairwise fun a b => a.rank < b.rank) ∧
        config.validate t = .ok () := by
  refine ⟨?_, ?_, ?_, ?_⟩
  · intro path file hload hregistry hconverter
    rw [resolve, resolve, hload]
    exact resolveWith_eq_filledFrom hregistry hconverter args t
  · intro settings ts us h
    have hsame : ∀ file : FileSettings, { args with targets := some ts }.resolveWith file t =
        { args with targets := some us }.resolveWith file t :=
      fun file => resolveWith_congr args file t (some ts) file.targets (some us) file.targets h
    rcases settings with _ | path
    · exact hsame {}
    · simp only [resolve, hsame]
  · intro path path' file ts us h hload hload'
    rw [resolve, resolve, hload, hload']
    refine resolveWith_congr args file t args.targets (some ts) args.targets (some us) fun target => ?_
    rcases hargs : args.targets with _ | selection
    · exact h target
    · exact Iff.rfl
  · intro settings config h
    obtain ⟨file, hfile⟩ := exists_resolveWith h
    obtain ⟨htargets, hne, -, hvalid⟩ := resolveWith_eq_ok hfile
    exact ⟨hne, htargets ▸ Target.pairwise_normalize _, hvalid⟩

/-- Settings that select two targets, one of them twice, and switch formatting off. -/
def layerSettings : FileSettings where
  targets := some [.nodeIds, .attributes, .nodeIds]
  nodeIdsFile := some ⟨"ids.csv"⟩
  format := some false

/-- A tree with two settings files, which differ in the order of the targets. -/
def layerTree : FileTree :=
  (FileTree.empty.put ["a.toml"] (.file 0o644
    "targets=['node-ids','attributes','node-ids']\nnode_ids_file='ids.csv'\nformat=false".toUTF8)).put
      ["b.toml"] (.file 0o644
        "targets=['attributes','node-ids']\nnode_ids_file='ids.csv'\nformat=false".toUTF8)

/-- **Two files that select the same targets** configure a run alike, and so does a command line that is filled
in with one of them. -/
theorem resolve_layers_toml :
    FileSettings.load layerTree ⟨"a.toml"⟩ = .ok layerSettings ∧
    ({ check := true } : GenerateArgs).resolve (some ⟨"a.toml"⟩) layerTree =
      (({ check := true } : GenerateArgs).filledFrom layerSettings).resolve none layerTree ∧
    ({ check := true } : GenerateArgs).resolve (some ⟨"a.toml"⟩) layerTree =
      ({ check := true } : GenerateArgs).resolve (some ⟨"b.toml"⟩) layerTree ∧
    ∃ config, ({ check := true } : GenerateArgs).resolve (some ⟨"b.toml"⟩) layerTree = .ok config ∧
      config.targets ≠ [] ∧ (config.targets.Pairwise fun a b => a.rank < b.rank) ∧
        config.validate layerTree = .ok () := by
  have hload : FileSettings.load layerTree ⟨"a.toml"⟩ = .ok layerSettings := by decide +kernel
  have hload' : FileSettings.load layerTree ⟨"b.toml"⟩ =
      .ok { layerSettings with targets := some [.attributes, .nodeIds] } := by decide +kernel
  have hsame : ∀ target, target ∈ [Target.nodeIds, .attributes, .nodeIds] ↔
      target ∈ [Target.attributes, .nodeIds] := by
    rintro (_ | _) <;> decide
  obtain ⟨hfilled, -, hfiles, hchecked⟩ := resolve_layers { check := true } layerTree
  have hresolve : ({ check := true } : GenerateArgs).resolve (some ⟨"b.toml"⟩) layerTree =
      .ok { outputRoot := RunConfig.defaultOutputRoot, targets := [.attributes, .nodeIds]
            nodeIds := .file ⟨"ids.csv"⟩, mode := .check } := by
    simp only [resolve, hload', resolveWith, resolveTargets, Target.normalize_eq_filter]
    decide +kernel
  exact ⟨hload, hfilled _ _ hload rfl rfl, hfiles _ _ layerSettings _ _ hsame hload hload', _, hresolve,
    hchecked _ _ hresolve⟩

end GenerateArgs

end UaHeaders
