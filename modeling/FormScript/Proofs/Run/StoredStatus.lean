import FormScript.Proofs.Run.Answering

/-! The status that a record stores beside its data. A completed run stores the status of the data it
stores; a failed run stores the status of data that are thrown away, which is ahead of the data that
stay if the run had mapped the procedures or answered the last open gap. -/
namespace FormScript

namespace ModuleData

def hasOpenGaps (d : ModuleData) : Bool :=
  d.mapped.any Mapped.hasOpenGaps

theorem status_eq (d : ModuleData) : d.status =
    if d.procedures.isNone then .pending .extract
    else if d.mapped.isNone then .pending .map
    else if d.hasOpenGaps then .pending .resolveGaps
    else if d.generatedSource.isNone then .pending .generate
    else .complete := by
  unfold status hasOpenGaps
  cases d.mapped <;> rfl

theorem replay_keeps {P : ModuleData → Prop} {d : ModuleData} {results : List StepResult}
    (hkeeps : ∀ d, ∀ r ∈ results, P d → P (d.merge r.output)) (hd : P d) :
    P (d.replay results) := by
  induction results generalizing d with
  | nil => exact hd
  | cons r results ih =>
    rw [replay_cons]
    exact ih (fun d q hq => hkeeps d q (List.mem_cons_of_mem r hq))
      (hkeeps d r List.mem_cons_self hd)

theorem replay_append (d : ModuleData) (a b : List StepResult) :
    d.replay (a ++ b) = (d.replay a).replay b :=
  List.foldl_append

theorem replay_reaches {P : ModuleData → Prop} {d : ModuleData} {results : List StepResult}
    {r : StepResult} (hr : r ∈ results) (hreach : ∀ d : ModuleData, P (d.merge r.output))
    (hkeeps : ∀ d, ∀ q ∈ results, P d → P (d.merge q.output)) : P (d.replay results) := by
  obtain ⟨before, after, rfl⟩ := List.append_of_mem hr
  rw [replay_append, replay_cons]
  apply replay_keeps _ (hreach _)
  intro d q hq
  exact hkeeps d q (List.mem_append_right before (List.mem_cons_of_mem r hq))

theorem procedures_merge {d : ModuleData} {output : StepOutput} (h : output.step ≠ .extract) :
    (d.merge output).procedures = d.procedures := by
  cases output with
  | extracted ps => exact absurd rfl h
  | resolved m changed => cases changed <;> rfl
  | mapped m => rfl
  | questions qs => rfl
  | generated source stats => rfl

theorem generatedSource_merge {d : ModuleData} {output : StepOutput}
    (h : output.step ≠ .generate) : (d.merge output).generatedSource = d.generatedSource := by
  cases output with
  | generated source stats => exact absurd rfl h
  | resolved m changed => cases changed <;> rfl
  | extracted ps => rfl
  | mapped m => rfl
  | questions qs => rfl

theorem procedures_merge_isNone {d : ModuleData} (output : StepOutput)
    (h : d.procedures.isNone = false) : (d.merge output).procedures.isNone = false := by
  by_cases hstep : output.step = .extract
  · cases output with
    | extracted ps => rfl
    | _ => contradiction
  · rw [procedures_merge hstep, h]

theorem mapped_merge_isNone {d : ModuleData} (output : StepOutput)
    (h : d.mapped.isNone = false) : (d.merge output).mapped.isNone = false := by
  cases output with
  | mapped m => rfl
  | resolved m changed =>
    cases changed
    · exact h
    · rfl
  | extracted ps => exact h
  | questions qs => exact h
  | generated source stats => exact h

end ModuleData

theorem execute_map {config : Config} {method : Method} (hmethod : config.IsChosen .map method)
    (d : ModuleData) (ctx : Context) (asked : List String) :
    ∃ r, Step.map.execute method d ctx asked = (.ok r, asked) := by
  have hmem := (Step.of_resolve hmethod).1
  rw [Step.methods, List.mem_singleton] at hmem
  subst hmem
  exact ⟨_, rfl⟩

theorem hasOpenGaps_of_answered {d : ModuleData} {ctx : Context} {m : Mapped}
    (hm : d.mapped = some m) (h : (d.merge (answered d ctx m)).hasOpenGaps = true) :
    d.hasOpenGaps = true := by
  rw [ModuleData.merge_answered hm] at h
  have hopen : m.hasOpenGaps = true := Mapped.hasOpenGaps_of_resolve h
  rw [ModuleData.hasOpenGaps, hm, Option.any_some, hopen]

theorem hasOpenGaps_of_execute {step : Step} {method : Method} {d : ModuleData} {ctx : Context}
    {asked asked' : List String} {r : StepResult} (hmem : method ∈ step.methods)
    (hstep : step.execute method d ctx asked = (.ok r, asked')) (hmap : step ≠ .map)
    (h : (d.merge r.output).hasOpenGaps = true) : d.hasOpenGaps = true := by
  have houtput := (Step.of_execute hmem hstep).2.2
  by_cases hresolve : step = .resolveGaps
  · subst hresolve
    unfold Step.execute at hstep
    split at hstep
    · rename_i output asked'' hperform
      cases hstep
      obtain ⟨m, hm, hanswered | hkept⟩ := perform_resolveGaps hmem hperform
      · exact hasOpenGaps_of_answered hm (hanswered ▸ h)
      · subst hkept
        exact h
    · cases hstep
  · rw [ModuleData.hasOpenGaps, ModuleData.mapped_merge] at h
    · exact h
    · rw [houtput]
      exact hmap
    · rw [houtput]
      exact hresolve

theorem Follows.hasOpenGaps {ctx : Context} {config : Config} {planned : List Step} {d : ModuleData}
    {asked : List String} {results : List StepResult} {ending : Ending}
    (h : Follows ctx config planned d asked results ending)
    (hmap : .map ∉ results.map StepResult.step) (hopen : ending.data.hasOpenGaps = true) :
    d.hasOpenGaps = true := by
  induction h with
  | complete d asked => exact hopen
  | taken hmethod hstep hlater ih =>
    have hmem := (Step.of_resolve hmethod).1
    rw [List.map_cons, List.mem_cons, not_or, (Step.of_execute hmem hstep).1] at hmap
    exact hasOpenGaps_of_execute hmem hstep (Ne.symm hmap.1) (ih hmap.2 hopen)
  | failed later hmethod hstep => exact hopen

/-- A failed run that got so far that its status is not the one of the data it started with: it had
mapped the procedures, or answered the last open gap. -/
def RunsAhead (d : ModuleData) (run : RunResult) : Prop :=
  run.status = .failed ∧ (.map ∈ run.steps ∨
    d.procedures.isSome = true ∧ d.hasOpenGaps = true ∧ run.data.hasOpenGaps = false)

section Planned

variable {d : ModuleData} {held : Option Mapped}

theorem mapped_of_planned {s : Step} (h : s ∈ plannedSteps d held)
    (hs : s.isBefore .gapQuestions = true) : d.mapped = none := by
  by_cases hnone : d.mapped = none
  · exact hnone
  · rw [plannedSteps, if_neg fun hboth => hnone hboth.2, if_neg hnone, List.nil_append,
      List.nil_append] at h
    rw [not_mem_gapSteps held s h] at hs
    contradiction

theorem plannedSteps_of_none (hprocedures : d.procedures = none) (hmapped : d.mapped = none) :
    plannedSteps d held = .extract :: .map :: (gapSteps held ++ [.generate]) := by
  rw [plannedSteps, if_pos ⟨hprocedures, hmapped⟩, if_pos hmapped]
  rfl

theorem plannedSteps_of_procedures (hprocedures : d.procedures ≠ none) (hmapped : d.mapped = none) :
    plannedSteps d held = .map :: (gapSteps held ++ [.generate]) := by
  rw [plannedSteps, if_neg fun hboth => hprocedures hboth.1, if_pos hmapped]
  rfl

theorem plannedSteps_eq_append (d : ModuleData) (held : Option Mapped) :
    ∃ front, plannedSteps d held = front ++ [.generate] ∧ .generate ∉ front := by
  refine ⟨(if d.procedures = none ∧ d.mapped = none then [.extract] else []) ++
    ((if d.mapped = none then [.map] else []) ++ gapSteps held), ?_, ?_⟩
  · rw [plannedSteps, List.append_assoc, List.append_assoc]
  · unfold gapSteps
    split <;> split <;> split <;> decide

theorem generate_not_mem {steps later : List Step} {step : Step}
    (h : plannedSteps d held = steps ++ step :: later) : .generate ∉ steps := by
  obtain ⟨front, hfront, hnot⟩ := plannedSteps_eq_append d held
  have hdrop := congrArg List.dropLast (hfront.symm.trans h)
  rw [List.dropLast_concat, List.dropLast_append_of_ne_nil (List.cons_ne_nil step later)] at hdrop
  intro hmem
  apply hnot
  rw [hdrop]
  exact List.mem_append_left _ hmem

end Planned

namespace Follows

variable {ctx : Context} {config : Config} {d : ModuleData} {held : Option Mapped}
  {asked : List String} {results : List StepResult} {ending : Ending}

theorem reaches {planned : List Step} (h : Follows ctx config planned d asked results ending)
    {s : Step} (hs : s ∈ results.map StepResult.step) {P : ModuleData → Prop}
    (hreach : ∀ (d : ModuleData) (output : StepOutput), output.step = s → P (d.merge output))
    (hkeeps : ∀ (d : ModuleData) (output : StepOutput), P d → P (d.merge output)) :
    P ending.data := by
  obtain ⟨r, hr, hstep⟩ := List.mem_map.mp hs
  have houtput := (h.output_step r hr).trans hstep
  rw [h.data_eq]
  exact ModuleData.replay_reaches hr (fun d => hreach d r.output houtput)
    fun d q _ => hkeeps d q.output

theorem keeps {planned : List Step} (h : Follows ctx config planned d asked results ending)
    {P : ModuleData → Prop}
    (hkeeps : ∀ (d : ModuleData) (output : StepOutput),
      output.step ∈ results.map StepResult.step → P d → P (d.merge output))
    (hd : P d) : P ending.data := by
  rw [h.data_eq]
  refine ModuleData.replay_keeps ?_ hd
  intro d r hr
  apply hkeeps
  rw [h.output_step r hr]
  exact List.mem_map_of_mem hr

theorem mapped_isNone {planned : List Step} (h : Follows ctx config planned d asked results ending)
    (hmap : .map ∈ results.map StepResult.step) : ending.data.mapped.isNone = false := by
  refine h.reaches (P := fun d => d.mapped.isNone = false) hmap ?_
    fun d output => ModuleData.mapped_merge_isNone output
  intro d output houtput
  cases output with
  | mapped m => rfl
  | _ => contradiction

theorem procedures_isNone (h : Follows ctx config (plannedSteps d held) d asked results ending)
    (hmap : .map ∈ results.map StepResult.step) : ending.data.procedures.isNone = false := by
  by_cases hprocedures : d.procedures = none
  · have hmapped := mapped_of_planned (h.steps_begin.subset hmap) (by decide)
    have hbegin := h.steps_begin
    rw [plannedSteps_of_none hprocedures hmapped, List.prefix_cons_iff] at hbegin
    rcases hbegin with hnil | ⟨rest, hsteps, -⟩
    · rw [hnil] at hmap
      exact absurd hmap List.not_mem_nil
    · have hextract : .extract ∈ results.map StepResult.step := by
        rw [hsteps]
        exact List.mem_cons_self
      refine h.reaches (P := fun d => d.procedures.isNone = false) hextract ?_
        fun d output => ModuleData.procedures_merge_isNone output
      intro d output houtput
      cases output with
      | extracted ps => rfl
      | _ => contradiction
  · exact h.keeps (P := fun d => d.procedures.isNone = false)
      (fun d output _ => ModuleData.procedures_merge_isNone output)
      (Option.isNone_eq_false_iff.mpr (Option.isSome_iff_ne_none.mpr hprocedures))

theorem status_ne (h : Follows ctx config (plannedSteps d held) d asked results ending)
    (hmap : .map ∈ results.map StepResult.step) : ending.data.status ≠ d.status := by
  have hbefore : d.status = .pending .extract ∨ d.status = .pending .map := by
    rw [ModuleData.status_eq, mapped_of_planned (h.steps_begin.subset hmap) (by decide)]
    split
    · exact Or.inl rfl
    · exact Or.inr rfl
  have hafter : ending.data.status ≠ .pending .extract ∧ ending.data.status ≠ .pending .map := by
    rw [ModuleData.status_eq, h.procedures_isNone hmap, h.mapped_isNone hmap,
      if_neg Bool.false_ne_true, if_neg Bool.false_ne_true]
    split
    · decide
    · split <;> decide
  intro heq
  rcases hbefore with hextract | hmapStep
  · exact hafter.1 (heq.trans hextract)
  · exact hafter.2 (heq.trans hmapStep)

/-- Nothing is lost before the procedures are mapped: mapping never fails. -/
theorem results_eq_nil (h : Follows ctx config (plannedSteps d held) d asked results ending)
    (hfailed : ending.status = .failed) (hmapped : d.mapped = none)
    (hmap : .map ∉ results.map StepResult.step) : results = [] := by
  rcases h.outcome with ⟨hcomplete, -⟩ | ⟨-, step, later, hplanned, method, asked', e, hmethod,
    hstep, -⟩
  · rw [hfailed] at hcomplete
    contradiction
  · have hne : step ≠ .map := by
      rintro rfl
      obtain ⟨r, hr⟩ := execute_map hmethod ending.data ctx asked'
      rw [hstep] at hr
      cases hr
    cases results with
    | nil => rfl
    | cons r rest =>
      by_cases hprocedures : d.procedures = none
      · rw [plannedSteps_of_none hprocedures hmapped, List.map_cons, List.cons_append,
          List.cons.injEq] at hplanned
        cases rest with
        | nil => exact absurd (List.cons.inj hplanned.2).1.symm hne
        | cons q rest =>
          have hq : q.step = .map := (List.cons.inj hplanned.2).1.symm
          exact absurd (by simp [hq]) hmap
      · rw [plannedSteps_of_procedures hprocedures hmapped, List.map_cons, List.cons_append,
          List.cons.injEq] at hplanned
        exact absurd (by simp [hplanned.1]) hmap

theorem status_eq_iff (h : Follows ctx config (plannedSteps d held) d asked results ending)
    (hfailed : ending.status = .failed) (hmap : .map ∉ results.map StepResult.step) :
    ending.data.status = d.status ↔
      ¬(d.procedures.isSome = true ∧ d.hasOpenGaps = true ∧ ending.data.hasOpenGaps = false) := by
  by_cases hmapped : d.mapped = none
  · have hresults := h.results_eq_nil hfailed hmapped hmap
    have hdata : ending.data = d := by
      rw [h.data_eq, hresults]
      rfl
    have hopen : d.hasOpenGaps = false := by
      rw [ModuleData.hasOpenGaps, hmapped]
      rfl
    simp [hdata, hopen]
  · have hextract : .extract ∉ results.map StepResult.step :=
      fun hmem => hmapped (mapped_of_planned (h.steps_begin.subset hmem) (by decide))
    have hgenerate : .generate ∉ results.map StepResult.step := by
      rcases h.outcome with ⟨hcomplete, -⟩ | ⟨-, step, later, hplanned, -⟩
      · rw [hfailed] at hcomplete
        contradiction
      · exact generate_not_mem hplanned
    have hprocedures : ending.data.procedures = d.procedures := by
      refine h.keeps (P := fun e => e.procedures = d.procedures) ?_ rfl
      intro e output hstep he
      rw [ModuleData.procedures_merge fun heq => hextract (heq ▸ hstep), he]
    have hsource : ending.data.generatedSource = d.generatedSource := by
      refine h.keeps (P := fun e => e.generatedSource = d.generatedSource) ?_ rfl
      intro e output hstep he
      rw [ModuleData.generatedSource_merge fun heq => hgenerate (heq ▸ hstep), he]
    have hsome : d.mapped.isNone = false :=
      Option.isNone_eq_false_iff.mpr (Option.isSome_iff_ne_none.mpr hmapped)
    have hsome' : ending.data.mapped.isNone = false :=
      h.keeps (P := fun d => d.mapped.isNone = false)
        (fun d output _ => ModuleData.mapped_merge_isNone output) hsome
    have hopen := h.hasOpenGaps hmap
    rw [ModuleData.status_eq, ModuleData.status_eq d, hprocedures, hsource, hsome, hsome']
    cases hp : d.procedures with
    | none => simp
    | some ps =>
      cases hbefore : d.hasOpenGaps <;> cases hafter : ending.data.hasOpenGaps
      · simp
      · exact absurd (hopen hafter) (by simp [hbefore])
      · cases d.generatedSource <;> simp [ModuleStatus.pending, ModuleStatus.complete]
      · simp

end Follows

/-- The records that come of a new one by runs on their data, with the last run and the data it
started with. -/
inductive Reached : ModuleRecord → Option (ModuleData × RunResult) → Prop
  | new (name : String) (d : ModuleData) : Reached { name, data := d } none
  | ran {r r' : ModuleRecord} {last : Option (ModuleData × RunResult)} {ctx : Context}
    {config : Config} {run : RunResult} {prompts : List String} (hr : Reached r last)
    (hrun : runPipeline r.data ctx config = .ok (run, prompts)) (happly : r.apply? run = some r') :
    Reached r' (some (r.data, run))

theorem ModuleRecord.status_of_applied {r r' : ModuleRecord} {run : RunResult}
    (h : r.apply? run = some r') :
    r'.status = some run.moduleStatus ∧
      r'.data.status = if run.status = .complete then run.data.status else r.data.status := by
  unfold ModuleRecord.apply? RunResult.isComplete at h
  by_cases hcomplete : run.status = .complete
  · rw [if_pos (beq_iff_eq.mpr hcomplete)] at h
    rw [if_pos hcomplete]
    split at h
    · cases h
      exact ⟨rfl, rfl⟩
    · contradiction
  · rw [if_neg fun heq => hcomplete (beq_iff_eq.mp heq)] at h
    rw [if_neg hcomplete]
    cases h
    exact ⟨rfl, rfl⟩

theorem Follows.runsAhead_iff {ctx : Context} {config : Config} {d : ModuleData} {run : RunResult}
    {held : Option Mapped} {prompts : List String}
    (h : Follows ctx config (plannedSteps d held) d [] run.results
      ⟨run.status, run.error, run.data, prompts⟩) (hfailed : run.status = .failed) :
    run.data.status = d.status ↔ ¬RunsAhead d run := by
  unfold RunsAhead
  by_cases hmap : .map ∈ run.steps
  · have hne : run.data.status ≠ d.status := h.status_ne hmap
    simp [hne, hfailed, hmap]
  · have hiff := h.status_eq_iff hfailed hmap
    rw [hiff]
    simp [hfailed, hmap]

/-- A stored status is the one of the stored data unless the last run failed after it had run ahead
of them. -/
theorem stored_status_eq_iff {r : ModuleRecord} {last : Option (ModuleData × RunResult)}
    (h : Reached r last) :
    match last with
    | none => r.status = none
    | some (d, run) => ∃ s, r.status = some s ∧ (s = r.data.status ↔ ¬RunsAhead d run) := by
  cases h with
  | new name d => rfl
  | @ran before _ _ ctx config run prompts hr hrun happly =>
    obtain ⟨hstatus, hfollows⟩ := follows_of_runPipeline hrun
    obtain ⟨hstored, hdata⟩ := ModuleRecord.status_of_applied happly
    refine ⟨run.moduleStatus, hstored, ?_⟩
    rw [hdata, hstatus]
    by_cases hcomplete : run.status = .complete
    · rw [if_pos hcomplete]
      have hnot : ¬RunsAhead before.data run := by
        rintro ⟨hfailed, -⟩
        rw [hcomplete] at hfailed
        contradiction
      exact iff_of_true rfl hnot
    · have hfailed : run.status = .failed := by
        cases hrunStatus : run.status with
        | complete => exact absurd hrunStatus hcomplete
        | failed => rfl
      rw [if_neg hcomplete]
      exact hfollows.runsAhead_iff hfailed

def hourglass : List Procedure :=
  [⟨"Form_Load", "load", [.openGap "DoCmd.Hourglass True" "statement has no mechanical mapping"]⟩]

def hourglassRun : RunResult where
  status := .failed
  results := [⟨.map, .deterministic, .mapped (.classify hourglass), .zero⟩]
  moduleStatus := .pending .resolveGaps
  error := some "step 'gap-questions' failed with strategy 'llm': no agent command configured"
  data := { procedures := some hourglass, mapped := some (.classify hourglass) }

def hourglassRecord : ModuleRecord where
  name := "orders"
  status := some (.pending .resolveGaps)
  data := { procedures := some hourglass }

theorem reached_hourglass : Reached hourglassRecord (some (hourglassRecord.data, hourglassRun)) := by
  let fresh : ModuleRecord := { name := "orders", data := hourglassRecord.data }
  let ctx : Context :=
    { moduleName := "orders", agent := none, answers := []
      now := ⟨fun _ => ⟨2024, 2, 29, 0, 0, 0, 0, rfl, rfl⟩⟩ }
  have hrun : runPipeline fresh.data ctx [] = .ok (hourglassRun, []) := rfl
  have happly : fresh.apply? hourglassRun = some hourglassRecord := rfl
  have hreached := Reached.ran (.new "orders" hourglassRecord.data) hrun happly
  exact hreached

theorem stored_status_eq_iff_hourglass :
    Reached hourglassRecord (some (hourglassRecord.data, hourglassRun)) ∧
      ∃ s, hourglassRecord.status = some s ∧
        (s = hourglassRecord.data.status ↔ ¬RunsAhead hourglassRecord.data hourglassRun) :=
  ⟨reached_hourglass, stored_status_eq_iff reached_hourglass⟩

/-- The record says that gaps are to be resolved next, and its data that they are to be mapped. -/
theorem stored_status_not_always :
    ¬∀ r last, Reached r last → ∀ s, r.status = some s → s = r.data.status := by
  intro h
  have heq := h _ _ reached_hourglass _ rfl
  exact absurd heq (by decide)

end FormScript
