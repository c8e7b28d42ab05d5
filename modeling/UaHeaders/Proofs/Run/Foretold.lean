import UaHeaders.Proofs.Run.Again

/-!
# What a check foretells

A check reads the same as a run that writes, and stages the same headers. So it foretells which headers that
run would write, and with which digests, and it leaves the tree as it was. On the tree that a run has written
a check finds no header out of date, if there is room to stage the headers once more.

## Main results

* `UaHeaders.check_foretells_write` — a check and a run that writes.
* `UaHeaders.check_foretells_write_far` — a check that fails on what a run has written.
-/

set_option autoImplicit false

namespace UaHeaders

open FileTree

variable {outside : Outside} {config : RunConfig} {inputs : Inputs} {t : FileTree}
  {result : ByteArray → Except Fault Finished × ByteArray}

/-- **A check leaves the tree as it was**, whether or not it succeeds. If a run that writes succeeds, then so
does the check, about the same headers with the same digests, and it says of each whether it would be written.
On the tree that the run leaves a check reports no header as out of date. It succeeds there where there is
room to stage the headers. In a tree that is not larger than there are temporary names, that is where no path
of a temporary file beside a header is too long.

**Proof sketch.** The two runs differ only after their headers are staged. The run that writes leaves a
settled tree, since its input lies apart from its headers. -/
theorem check_foretells_write
    (hf : ∀ command ∈ config.formatter, command.Rewrites outside.programs result) :
    t.Same (generate outside (config.inMode .check) inputs t).2 ∧
      ∀ report t', generate outside (config.inMode .write) inputs t = (.ok report, t') →
        (∃ checked, (generate outside (config.inMode .check) inputs t).1 = .ok checked ∧
          checked.mode = .check ∧ List.Forall₂ Foretells checked.targets report.targets) ∧
        (config.InputsApart t.workdir →
          (∀ again, (generate outside (config.inMode .check) inputs t').1 = .ok again →
            again = report.found .check ∧ again.stale = []) ∧
          (config.Roomy t' →
            (generate outside (config.inMode .check) inputs t').1 = .ok (report.found .check)) ∧
          (t'.Grounded → t'.entries.size + config.targets.length ≤ 62 ^ 6 →
            ((generate outside (config.inMode .check) inputs t').1 = .ok (report.found .check) ↔
              ∀ target ∈ config.targets, ¬ t'.Cramped (config.targetPath target)))) := by
  have hcheck : ∀ command ∈ (config.inMode .check).formatter,
      command.Rewrites outside.programs result := hf
  have hwrite : ∀ command ∈ (config.inMode .write).formatter,
      command.Rewrites outside.programs result := hf
  refine ⟨same_generate_check hcheck rfl, fun report t' h => ⟨foretells_of_generate h, fun hapart => ?_⟩⟩
  have hapart' : (config.inMode .write).InputsApart t.workdir := hapart
  obtain ⟨-, hreport, hroomy⟩ := generate_after rfl hwrite hapart' h .check
  refine ⟨fun again hagain => ?_, hroomy, generate_after_iff rfl hwrite hapart' h .check⟩
  rw [hreport again hagain]
  exact ⟨rfl, report.stale_found .check⟩

/-- **A check of a run that makes one header twice** foretells it, and finds both up to date afterwards. -/
theorem check_foretells_write_pragma :
    ∃ report checked,
      generate pragmaOutside (pragmaConfig.inMode .write) pragmaInputs .empty = (.ok report, pragmaTree) ∧
        (generate pragmaOutside (pragmaConfig.inMode .check) pragmaInputs .empty).1 = .ok checked ∧
        List.Forall₂ Foretells checked.targets report.targets ∧
        (generate pragmaOutside (pragmaConfig.inMode .check) pragmaInputs pragmaTree).1 =
          .ok (report.found .check) := by
  obtain ⟨report, h, hapart, hg, hsize, hfree⟩ := exists_generate_pragma
  have hself : pragmaConfig.inMode .write = pragmaConfig := RunConfig.inMode_self rfl
  rw [← hself] at h
  obtain ⟨-, hwrite⟩ := @check_foretells_write pragmaOutside pragmaConfig pragmaInputs .empty
    pragmaLeft fun command _ => rewrites_pragmaPrograms command
  obtain ⟨⟨checked, hchecked, -, hforetells⟩, hafter⟩ := hwrite report pragmaTree h
  obtain ⟨-, -, hiff⟩ := hafter hapart
  exact ⟨report, checked, h, hchecked, hforetells, (hiff hg hsize).2 hfree⟩

/-- **A check that fails on what a run has written**: the run succeeds, and then there is no room for the
temporary file of its header. -/
theorem check_foretells_write_far :
    (rowConfig 4073).formatter = none ∧ (rowConfig 4073).InputsApart tableTree.workdir ∧
      ∃ report t',
        generate bareOutside ((rowConfig 4073).inMode .write) .standard tableTree = (.ok report, t') ∧
        ∃ failure, (generate bareOutside ((rowConfig 4073).inMode .check) .standard t').1 =
          .error failure := by
  obtain ⟨report, t', h⟩ := exists_generate_row (show 4073 ≤ 4077 by decide)
  have hself : (rowConfig 4073).inMode .write = rowConfig 4073 := RunConfig.inMode_self rfl
  rw [hself]
  exact ⟨rfl, inputsApart_row 4073, report, t', h, exists_generate_row_error (by omega) h .check⟩

end UaHeaders
