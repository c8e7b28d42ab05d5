import UaHeaders.Proofs.Examples.Shown

/-!
# Runs of examples

Pairs are tried in order, each on the tree that the one before has left, and the first that fails is the last
that is tried. What a user is shown follows the same order: an announcement of each pair that was tried, with
what is known of its processes behind it. Nothing that the processes write can be taken for an announcement.

## Main definitions

* `UaHeaders.ExamplePair.ComesTo` — what a pair comes to.
* `UaHeaders.Tries` — pairs that are tried one after the other.

## Main results

* `UaHeaders.runPair_eq_ok_iff` — a run of one pair.
* `UaHeaders.exists_tries` — a run is a run of the pairs up to the first that fails.
* `UaHeaders.runExamples_stops` — a run stops there, and its announcements are its own.
-/

set_option autoImplicit false

namespace UaHeaders

open Text

variable {playing : Playing} {dir : Path} {timings : Timings} {pair : ExamplePair}
  {pairs tried rest : List ExamplePair} {outcome : PairOutcome} {outcomes : List PairOutcome}
  {problem : Problem} {t u v : FileTree}

/-! ## One pair -/

/-- The executables of a pair, the server first. -/
def ExamplePair.launches (pair : ExamplePair) (dir : Path) : List Launch :=
  pair.serverLaunch dir :: (pair.clientLaunch dir).toList

/-- **What a pair comes to**: it is passed over at the first executable that is missing, or its processes end
in some way, and this is known of them then. -/
inductive ExamplePair.ComesTo (playing : Playing) (dir : Path) (timings : Timings) (pair : ExamplePair)
    (t : FileTree) : PairOutcome → FileTree → Prop
  | skipped {missing : Launch} :
      ((pair.launches dir).find? fun launch => !t.pathExists launch.path) = some missing →
        ComesTo playing dir timings pair t (.skipped missing.path) t
  | ran {server : Ending} {client : Option Ending} {u : FileTree} :
      (∀ launch ∈ pair.launches dir, t.pathExists launch.path = true) →
      playing timings (pair.serverLaunch dir) (pair.clientLaunch dir) t = (.ok (server, client), u) →
        ComesTo playing dir timings pair t
          (.ran (.ofEnding pair.server server)
            (pair.client.bind fun name => client.map fun ending => .ofEnding name ending)) u

/-- A run of one pair looks for a missing executable first. -/
lemma runPair_eq :
    runPair playing dir timings pair t =
      match (pair.launches dir).find? fun launch => !t.pathExists launch.path with
      | some missing => (.ok (.skipped missing.path), t)
      | none =>
        match playing timings (pair.serverLaunch dir) (pair.clientLaunch dir) t with
        | (.error path, u) => (.error (.notStarted path), u)
        | (.ok (server, client), u) =>
          (.ok (.ran (.ofEnding pair.server server) (match pair.client, client with
            | some name, some ending => some (.ofEnding name ending)
            | _, _ => none)), u) := by
  delta runPair
  rfl

/-- **A run of one pair** succeeds with what the pair comes to.

**Proof sketch.** By whether an executable is missing, and by how the playing ends. In both directions
the cases of the run are those of what a pair comes to. -/
lemma runPair_eq_ok_iff :
    runPair playing dir timings pair t = (.ok outcome, u) ↔
      pair.ComesTo playing dir timings t outcome u := by
  rw [runPair_eq]
  constructor
  · intro h
    split at h
    · next missing hmissing =>
      cases h
      exact .skipped hmissing
    · next hnone =>
      have hall : ∀ launch ∈ pair.launches dir, t.pathExists launch.path = true := by
        simpa using hnone
      rcases hplayed : playing timings (pair.serverLaunch dir) (pair.clientLaunch dir) t with
        ⟨path | ⟨server, client⟩, v⟩
      · simp [hplayed] at h
      · have hran := ExamplePair.ComesTo.ran hall hplayed
        simp only [hplayed, Prod.mk.injEq, Except.ok.injEq] at h
        obtain ⟨rfl, rfl⟩ := h
        rcases hclient : pair.client with _ | name <;> rcases client with _ | ending <;>
          simpa [hclient] using hran
  · intro h
    cases h with
    | skipped hmissing => simp [hmissing]
    | @ran server client u hall hplayed =>
      have hnone : ((pair.launches dir).find? fun launch => !t.pathExists launch.path) = none := by
        simpa using hall
      simp only [hnone, hplayed]
      rcases pair.client with _ | name <;> rcases client with _ | ending <;> rfl

/-- The names that are shown of a pair have no line feed if its executables and their directory have none.

**Proof sketch.** What is shown of a pair that is skipped is the path of an executable in the directory,
and of a pair that ran the names of its executables. -/
lemma ExamplePair.ComesTo.feed_notMem_names (h : pair.ComesTo playing dir timings t outcome u)
    (hdir : '\n' ∉ dir.text.toList)
    (hnames : ∀ name ∈ pair.server :: pair.client.toList, '\n' ∉ name.toList) :
    ∀ name ∈ outcome.names, '\n' ∉ name.toList := by
  rw [List.forall_mem_cons] at hnames
  cases h with
  | @skipped missing hmissing =>
    have hmem : missing ∈ pair.launches dir := List.mem_of_find?_eq_some hmissing
    have hjoin : ∀ name : String, '\n' ∉ name.toList → '\n' ∉ (dir.join name).text.toList :=
      fun name hname => Path.notMem_join (by decide) hdir hname
    simp only [PairOutcome.names, List.forall_mem_singleton]
    rcases List.mem_cons.1 hmem with rfl | hclient
    · exact hjoin _ hnames.1
    · rcases hname : pair.client with _ | name
      · simp [ExamplePair.clientLaunch, hname] at hclient
      · obtain rfl : missing = ⟨dir.join name, pair.clientArgs⟩ := by
          simpa [ExamplePair.clientLaunch, hname] using hclient
        exact hjoin _ (hnames.2 name (by simp [hname]))
  | @ran server client u hall hplayed =>
    simp only [PairOutcome.names, List.map_cons, List.forall_mem_cons]
    refine ⟨hnames.1, fun name hname => ?_⟩
    rcases hclient : pair.client with _ | other
    · simp [hclient] at hname
    · rcases client with _ | ending
      · simp [hclient] at hname
      · obtain rfl : name = other := by simpa [hclient, ProcessOutcome.ofEnding] using hname
        exact hnames.2 name (by simp [hclient])

/-- **A pair failed exactly if one of its processes ended without success**, and not because its time was
over. -/
lemma PairOutcome.failed_iff :
    outcome.failed = true ↔
      ∃ p ∈ outcome.processes, p.status.success = false ∧ p.terminated = false := by
  cases outcome with
  | skipped missing => simp [failed, processes]
  | ran server client =>
    rcases client with _ | client <;>
      simp [failed, processes, ProcessOutcome.failed, and_comm]

/-! ## Runs -/

/-- **Pairs that are tried one after the other**, each on the tree that is left by the one before. -/
inductive Tries (playing : Playing) (dir : Path) (timings : Timings) :
    List ExamplePair → FileTree → List PairOutcome → FileTree → Prop
  | none {t : FileTree} : Tries playing dir timings [] t [] t
  | pair {pair : ExamplePair} {rest : List ExamplePair} {outcome : PairOutcome}
      {outcomes : List PairOutcome} {t u v : FileTree} :
      pair.ComesTo playing dir timings t outcome u → Tries playing dir timings rest u outcomes v →
        Tries playing dir timings (pair :: rest) t (outcome :: outcomes) v

/-- **The lines that are shown of pairs that were tried.** -/
def shownOf (tried : List ExamplePair) (outcomes : List PairOutcome) : List String :=
  (tried.zip outcomes).flatMap fun (pair, outcome) => pair.announcementLine :: outcome.shown

/-- **No pair is tried behind one that failed**, and all are tried if none did. -/
structure Stopped (outcomes : List PairOutcome) (rest : List ExamplePair) : Prop where
  passed : ∀ outcome ∈ outcomes.dropLast, outcome.failed = false
  failed : rest ≠ [] → ∃ last ∈ outcomes.getLast?, last.failed = true

/-- What is shown of one more pair. -/
lemma printed_shownOf_cons :
    printed (shownOf (pair :: tried) (outcome :: outcomes)) =
      pair.announcement ++ outcome.echo ++ printed (shownOf tried outcomes) := by
  have hline : pair.announcementLine ++ "\n" = pair.announcement := by
    rw [ExamplePair.announcementLine, ExamplePair.announcement]
  have hcons : shownOf (pair :: tried) (outcome :: outcomes) =
      pair.announcementLine :: (outcome.shown ++ shownOf tried outcomes) := by
    simp [shownOf]
  rw [hcons, printed_cons, printed_append, hline, outcome.echo_eq, String.append_assoc]

/-- A run of one more pair. -/
lemma runExamples_cons :
    runExamples playing dir timings (pair :: rest) t =
      match runPair playing dir timings pair t with
      | (.error problem, t) => ⟨.error problem, pair.announcement, t⟩
      | (.ok outcome, t) =>
        if outcome.failed then ⟨.ok [outcome], pair.announcement ++ outcome.echo, t⟩
        else
          ⟨(runExamples playing dir timings rest t).outcomes.map (outcome :: ·),
            pair.announcement ++ outcome.echo ++ (runExamples playing dir timings rest t).output,
            (runExamples playing dir timings rest t).tree⟩ := by
  delta runExamples
  rfl

/-- A run ends with the first pair that fails. -/
lemma runExamples_cons_of_failed (h : runPair playing dir timings pair t = (.ok outcome, u))
    (hfailed : outcome.failed = true) :
    runExamples playing dir timings (pair :: rest) t =
      ⟨.ok [outcome], pair.announcement ++ outcome.echo, u⟩ := by
  rw [runExamples_cons, h]
  exact if_pos hfailed

/-- A run goes on behind a pair that does not fail. -/
lemma runExamples_cons_of_passed (h : runPair playing dir timings pair t = (.ok outcome, u))
    (hpassed : outcome.failed = false) :
    runExamples playing dir timings (pair :: rest) t =
      ⟨(runExamples playing dir timings rest u).outcomes.map (outcome :: ·),
        pair.announcement ++ outcome.echo ++ (runExamples playing dir timings rest u).output,
        (runExamples playing dir timings rest u).tree⟩ := by
  rw [runExamples_cons, h]
  exact if_neg (Bool.not_eq_true _ ▸ hpassed)

/-- A run has no outcomes if a pair cannot be started. -/
lemma runExamples_cons_of_error (h : runPair playing dir timings pair t = (.error problem, u)) :
    runExamples playing dir timings (pair :: rest) t = ⟨.error problem, pair.announcement, u⟩ := by
  rw [runExamples_cons, h]

/-- **A run tries the pairs up to the first that fails**, and shows what they come to.

**Proof sketch.** Induction on the pairs. One that fails is the last. Behind one that does not, the run goes on
with the others on the tree that is left, and what is tried of them is tried behind this one. -/
lemma exists_tries (h : (runExamples playing dir timings pairs t).outcomes = .ok outcomes) :
    ∃ tried rest, pairs = tried ++ rest ∧
      Tries playing dir timings tried t outcomes (runExamples playing dir timings pairs t).tree ∧
      Stopped outcomes rest ∧
      (runExamples playing dir timings pairs t).output = printed (shownOf tried outcomes) := by
  induction pairs generalizing t outcomes with
  | nil =>
    obtain rfl : [] = outcomes := Except.ok.inj h
    exact ⟨[], [], rfl, .none, ⟨by simp, by simp⟩, rfl⟩
  | cons pair pairs ih =>
    rcases hpair : runPair playing dir timings pair t with ⟨problem | outcome, u⟩
    · rw [runExamples_cons_of_error hpair] at h
      cases h
    have hcomes := runPair_eq_ok_iff.1 hpair
    rcases hfailed : outcome.failed with _ | _
    · rw [runExamples_cons_of_passed hpair hfailed] at h ⊢
      rcases hrest : (runExamples playing dir timings pairs u).outcomes with problem | others
      · simp [hrest, Except.map] at h
      obtain rfl : outcome :: others = outcomes := by simpa [hrest, Except.map] using h
      obtain ⟨tried, rest, rfl, htries, hstopped, hshown⟩ := ih hrest
      refine ⟨pair :: tried, rest, rfl, .pair hcomes htries, ⟨?_, fun hne => ?_⟩, ?_⟩
      · rcases others with _ | ⟨next, others⟩
        · simp
        · rw [List.dropLast_cons_of_ne_nil (by simp), List.forall_mem_cons]
          exact ⟨hfailed, hstopped.passed⟩
      · obtain ⟨last, hlast, hlastFailed⟩ := hstopped.failed hne
        refine ⟨last, ?_, hlastFailed⟩
        rw [Option.mem_def] at hlast ⊢
        rw [List.getLast?_cons, hlast, Option.getD_some]
      · rw [printed_shownOf_cons, ← hshown]
    · rw [runExamples_cons_of_failed hpair hfailed] at h ⊢
      obtain rfl : [outcome] = outcomes := by simpa using h
      refine ⟨[pair], pairs, rfl, .pair hcomes .none, ⟨by simp, fun _ => ⟨outcome, by simp, hfailed⟩⟩, ?_⟩
      rw [printed_shownOf_cons]
      simp [shownOf, printed]

/-! ## What is shown -/

/-- Lines that are shown of pairs have no line feed if the names have none. -/
lemma Tries.feed_notMem_shownOf (h : Tries playing dir timings tried t outcomes u)
    (hdir : '\n' ∉ dir.text.toList)
    (hnames : ∀ pair ∈ tried, ∀ name ∈ pair.server :: pair.client.toList, '\n' ∉ name.toList) :
    ∀ l ∈ shownOf tried outcomes, '\n' ∉ l.toList := by
  induction h with
  | none => simp [shownOf]
  | @pair pair rest outcome outcomes t u v hcomes _ ih =>
    rw [List.forall_mem_cons] at hnames
    intro l hl
    obtain rfl | hshown | hlater : l = pair.announcementLine ∨ l ∈ outcome.shown ∨ l ∈ shownOf rest outcomes := by
      simpa [shownOf] using hl
    · exact ExamplePair.feed_notMem_announcementLine hnames.1
    · exact PairOutcome.feed_notMem_of_mem_shown (hcomes.feed_notMem_names hdir hnames.1) hshown
    · exact ih hnames.2 l hlater

/-- **The announcements among the lines that are shown** are those of the pairs, in order. -/
lemma Tries.filter_shownOf (h : Tries playing dir timings tried t outcomes u) :
    (shownOf tried outcomes).filter (hasPrefix "[RUN] ") = tried.map ExamplePair.announcementLine := by
  induction h with
  | none => rfl
  | @pair pair rest outcome outcomes t u v _ _ ih =>
    have hcons : shownOf (pair :: rest) (outcome :: outcomes) =
        pair.announcementLine :: (outcome.shown ++ shownOf rest outcomes) := by
      simp [shownOf]
    rw [hcons, List.filter_cons_of_pos pair.hasPrefix_announcementLine, List.filter_append,
      outcome.filter_shown, List.nil_append, ih, List.map_cons]

/-! ## The run as a whole -/

/-- Pairs that were tried have one outcome each. -/
lemma Tries.length_eq (h : Tries playing dir timings tried t outcomes u) :
    outcomes.length = tried.length := by
  induction h with
  | none => rfl
  | pair _ _ ih => rw [List.length_cons, List.length_cons, ih]

/-- **A run of examples stops at the first that fails, and its announcements are its own.** Its outcomes are
those of the pairs at the front, in order, each on the tree that the one before has left. All but the last did
not fail, and if pairs are left the last did; a pair failed exactly if one of its processes ended without success
before its time was over. What a user is shown is the lines of these pairs. Among them the announcements are one
of each pair that was tried, in order, whatever its processes have written, and no line of their output that
opens as a logger's does is shown. -/
theorem runExamples_stops
    (hok : (runExamples playing dir timings pairs t).outcomes = .ok outcomes)
    (hdir : '\n' ∉ dir.text.toList)
    (hnames : ∀ pair ∈ pairs, ∀ name ∈ pair.server :: pair.client.toList, '\n' ∉ name.toList) :
    let run := runExamples playing dir timings pairs t
    ∃ tried rest, pairs = tried ++ rest ∧ outcomes.length = tried.length ∧
      Tries playing dir timings tried t outcomes run.tree ∧
      (∀ outcome ∈ outcomes.dropLast, outcome.failed = false) ∧
      (rest ≠ [] → ∃ last ∈ outcomes.getLast?, last.failed = true) ∧
      (∀ outcome ∈ outcomes, outcome.failed = true ↔
        ∃ p ∈ outcome.processes, p.status.success = false ∧ p.terminated = false) ∧
      run.output = printed (shownOf tried outcomes) ∧
      (fields '\n' run.output).filter (hasPrefix "[RUN] ") = tried.map ExamplePair.announcementLine ∧
      ∀ outcome ∈ outcomes, ∀ p ∈ outcome.processes, ∀ line, hasPrefix "[" line = true →
        "    " ++ line ∉ p.shownOut := by
  intro run
  obtain ⟨tried, rest, rfl, htries, hstopped, hshown⟩ := exists_tries hok
  refine ⟨tried, rest, rfl, htries.length_eq, htries, hstopped.passed, hstopped.failed,
    fun outcome _ => outcome.failed_iff, hshown, ?_, fun _ _ p _ _ hline => p.notMem_shownOut hline⟩
  have hfeed : ∀ l ∈ shownOf tried outcomes, '\n' ∉ l.toList :=
    htries.feed_notMem_shownOf hdir fun pair hpair => hnames pair (List.mem_append_left _ hpair)
  have hempty : [""].filter (hasPrefix "[RUN] ") = [] := by decide
  rw [show run.output = printed (shownOf tried outcomes) from hshown, fields_printed hfeed,
    List.filter_append, htries.filter_shownOf, hempty, List.append_nil]

/-- Two executables that are there. -/
def exampleTree : FileTree :=
  ((FileTree.empty.put ["bin"] .directory).put ["bin", "noisy"] (.file 0o755 .empty)).put ["bin", "broken"]
    (.file 0o755 .empty)

/-- The one writes an announcement and a line of a logger, the other leaves with an exit code. -/
def noisyPlaying : Playing := fun _ server _ t =>
  if server.path = ⟨"bin/noisy"⟩ then
    (.ok (⟨.ofCode 0, false, "[RUN] broken [] / None []\n[info] up\nready\n".toUTF8, .empty⟩, none), t)
  else (.ok (⟨.ofCode 3, false, .empty, "[RUN] lost\n".toUTF8⟩, none), t)

/-- Four servers, of which one is missing and one is never tried. -/
def noisyPairs : List ExamplePair := ["noisy", "missing", "broken", "noisy"].map ExamplePair.alone

/-- **Announcements that processes write** are not shown as such. -/
theorem runExamples_stops_noisy :
    let run := runExamples noisyPlaying ⟨"bin"⟩ .standard noisyPairs exampleTree
    run.outcomes.toOption.map List.length = some 3 ∧
    run.output =
      "[RUN] noisy [] / None []\nCaptured output noisy:\n    ready\n" ++
      "[RUN] missing [] / None []\nSkip: bin/missing not found\n" ++
      "[RUN] broken [] / None []\nError broken (exit status: 3):\n    [RUN] lost\n" ∧
    (fields '\n' run.output).filter (hasPrefix "[RUN] ") =
      (noisyPairs.take 3).map ExamplePair.announcementLine := by
  intro run
  have hthree : run.outcomes.toOption.map List.length = some 3 := by decide +kernel
  rcases hok : run.outcomes with problem | outcomes
  · simp [hok, Except.toOption] at hthree
  have hlength : outcomes.length = 3 := by simpa [hok, Except.toOption] using hthree
  obtain ⟨tried, rest, hpairs, htried, -, -, -, -, -, hannounced, -⟩ :=
    runExamples_stops hok (by decide) (by decide)
  have htake : tried = noisyPairs.take 3 := by
    rw [hpairs, List.take_left' (by omega)]
  exact ⟨congrArg some hlength, by decide +kernel, htake ▸ hannounced⟩

end UaHeaders
