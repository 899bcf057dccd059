import FormScript.Proofs.Run.StoredStatus

/-! What a completed run says is left to do: nothing, or open gaps. The one exception is data that
hold mapped procedures without the extracted ones. A run skips extraction on them, and yet reports
that extraction comes next, now and after every later run. -/
namespace FormScript

/-- Procedures have been mapped, and those they were mapped from are not there. -/
def ModuleData.IsMappedOnly (d : ModuleData) : Prop :=
  d.procedures = none ∧ d.mapped ≠ none

namespace Follows

variable {ctx : Context} {config : Config} {d : ModuleData} {held : Option Mapped}
  {asked : List String} {results : List StepResult} {ending : Ending}

theorem steps_of_complete {planned : List Step}
    (h : Follows ctx config planned d asked results ending) (hcomplete : ending.status = .complete) :
    results.map StepResult.step = planned := by
  rcases h.outcome with ⟨-, hsteps⟩ | ⟨hfailed, -⟩
  · exact hsteps
  · rw [hcomplete] at hfailed
    contradiction

theorem mapped_of_complete (h : Follows ctx config (plannedSteps d held) d asked results ending)
    (hcomplete : ending.status = .complete) : ending.data.mapped.isNone = false := by
  by_cases hmapped : d.mapped = none
  · apply h.mapped_isNone
    rw [h.steps_of_complete hcomplete]
    simp [plannedSteps, hmapped]
  · apply h.keeps (P := fun d => d.mapped.isNone = false)
      (fun d output _ => ModuleData.mapped_merge_isNone output)
    simpa [Option.isSome_iff_ne_none] using hmapped

theorem generatedSource_of_complete
    (h : Follows ctx config (plannedSteps d held) d asked results ending)
    (hcomplete : ending.status = .complete) : ending.data.generatedSource.isNone = false := by
  have hgenerate : .generate ∈ results.map StepResult.step := by
    rw [h.steps_of_complete hcomplete]
    simp [plannedSteps]
  refine h.reaches (P := fun d => d.generatedSource.isNone = false) hgenerate ?_ ?_
  · intro d output houtput
    cases output with
    | generated source stats => rfl
    | _ => contradiction
  · intro d output hd
    by_cases hstep : output.step = .generate
    · cases output with
      | generated source stats => rfl
      | _ => contradiction
    · rw [ModuleData.generatedSource_merge hstep, hd]

theorem procedures_of_mapped (h : Follows ctx config (plannedSteps d held) d asked results ending)
    (hmapped : d.mapped ≠ none) : ending.data.procedures = d.procedures := by
  refine h.keeps (P := fun e => e.procedures = d.procedures) ?_ rfl
  intro e output hstep he
  rw [ModuleData.procedures_merge, he]
  intro hextract
  rw [hextract] at hstep
  exact hmapped (mapped_of_planned (h.steps_begin.subset hstep) (by decide))

theorem procedures_of_complete (h : Follows ctx config (plannedSteps d held) d asked results ending)
    (hcomplete : ending.status = .complete) (hd : ¬d.IsMappedOnly) :
    ending.data.procedures.isNone = false := by
  by_cases hmapped : d.mapped = none
  · apply h.procedures_isNone
    rw [h.steps_of_complete hcomplete]
    simp [plannedSteps, hmapped]
  · rw [h.procedures_of_mapped hmapped, Option.isNone_eq_false_iff, Option.isSome_iff_ne_none]
    exact fun hprocedures => hd ⟨hprocedures, hmapped⟩

end Follows

/-- What a completed run reports is settled by the open gaps of the procedures it ends with, unless
these were mapped already and came without the extracted ones. -/
theorem completed_status_eq_iff {d : ModuleData} {ctx : Context} {config : Config} {run : RunResult}
    {prompts : List String} (h : runPipeline d ctx config = .ok (run, prompts))
    (hcomplete : run.status = .complete) :
    ∃ m, run.data.mapped = some m ∧
      (run.moduleStatus = (if m.hasOpenGaps then .pending .resolveGaps else .complete) ↔
        ¬d.IsMappedOnly) ∧
      (d.IsMappedOnly → run.moduleStatus = .pending .extract ∧ run.data.IsMappedOnly) := by
  obtain ⟨hstatus, hfollows⟩ := follows_of_runPipeline h
  have hmapped : run.data.mapped.isNone = false := hfollows.mapped_of_complete hcomplete
  have hgenerated : run.data.generatedSource.isNone = false :=
    hfollows.generatedSource_of_complete hcomplete
  obtain ⟨m, hm⟩ := Option.isSome_iff_exists.mp (Option.isNone_eq_false_iff.mp hmapped)
  refine ⟨m, hm, ?_⟩
  have hopen : run.data.hasOpenGaps = m.hasOpenGaps := by
    rw [ModuleData.hasOpenGaps, hm, Option.any_some]
  rw [hstatus, ModuleData.status_eq, hmapped, hgenerated, hopen]
  by_cases hd : d.IsMappedOnly
  · have hprocedures : run.data.procedures = none :=
      (hfollows.procedures_of_mapped hd.2).trans hd.1
    have hkept : run.data.IsMappedOnly := ⟨hprocedures, by simp [hm]⟩
    have hne : ModuleStatus.pending .extract ≠
        if m.hasOpenGaps then .pending .resolveGaps else .complete := by
      split <;> decide
    simp [hprocedures, hd, hne, hkept]
  · rw [hfollows.procedures_of_complete hcomplete hd]
    simp [hd]

def mappedOnly : ModuleData where
  mapped := some {}

def mappedOnlyRun : RunResult :=
  let script := Emission.generate {} "orders"
  { status := .complete
    results := [⟨.generate, .mechanical, script.output, .zero⟩]
    moduleStatus := .pending .extract
    error := none
    data := mappedOnly.merge script.output }

theorem runPipeline_mappedOnly :
    runPipeline mappedOnly
      { moduleName := "orders", agent := none, answers := [],
        now := ⟨fun _ => ⟨2024, 2, 29, 0, 0, 0, 0, rfl, rfl⟩⟩ }
      [("generate", "mechanical")] = .ok (mappedOnlyRun, []) :=
  rfl

theorem completed_status_eq_iff_mappedOnly :
    ∃ m, mappedOnlyRun.data.mapped = some m ∧
      (mappedOnlyRun.moduleStatus =
        (if m.hasOpenGaps then .pending .resolveGaps else .complete) ↔ ¬mappedOnly.IsMappedOnly) ∧
      (mappedOnly.IsMappedOnly →
        mappedOnlyRun.moduleStatus = .pending .extract ∧ mappedOnlyRun.data.IsMappedOnly) :=
  completed_status_eq_iff runPipeline_mappedOnly rfl

/-- A completed run may still ask for an extraction that no run will make. -/
theorem completed_status_not_always :
    ¬∀ d ctx config run prompts, runPipeline d ctx config = .ok (run, prompts) →
      run.status = .complete →
      run.moduleStatus = if run.data.hasOpenGaps then .pending .resolveGaps else .complete := by
  intro h
  have heq := h _ _ _ _ _ runPipeline_mappedOnly rfl
  exact absurd heq (by decide)

end FormScript
