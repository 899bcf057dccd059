import FormScript.Proofs.Run.Instalments

/-! Runs that need no agent. Where there is no gap in the tree, no step turns to the agent,
whichever strategy it is taken by and whatever the summary and the questions beside the tree say.
Such a run is settled by the name of the module alone, but for the time that its steps take. -/
namespace FormScript

/-- Whether a run over some data comes to a step that asks the agent, be there one or not. -/
def asksAgent (ctx : Context) (d : ModuleData) : List (Step × Method) → Bool
  | [] => false
  | (step, method) :: rest =>
    if step.isNeeded d then
      match method.start d ctx with
      | .error _ => false
      | .ok (.finished output) => asksAgent ctx (d.merge output) rest
      | .ok (.ask _ _) => true
    else asksAgent ctx d rest

def StepResult.timed (took : Step → Duration) (r : StepResult) : StepResult :=
  { r with duration := took r.step }

def RunResult.timed (took : Step → Duration) (run : RunResult) : RunResult :=
  { run with results := run.results.map (.timed took) }

namespace Mapped

variable {m : Mapped} (h : m.gapNodes = [])

include h

theorem openGaps_of_gapless : m.openGaps = [] := by
  simp [openGaps, openIds, h]

theorem canResolve_of_gapless (propose : String → Option Proposal) :
    m.canResolve propose = false := by
  rw [canResolve, h, List.any_nil]

theorem gapCount_of_gapless (moduleName : String) :
    (Emission.generate m moduleName).stats.gapCount = 0 := by
  rw [Emission.generate, h, List.length_nil]

end Mapped

theorem answered_of_gapless {m : Mapped} (h : m.gapNodes = []) (d : ModuleData) (ctx : Context) :
    answered d ctx m = .resolved m false := by
  have hcan := Mapped.canResolve_of_gapless h (ctx.proposals d)
  rw [answered_eq, Mapped.resolve_eq_self hcan, hcan]

theorem ModuleData.gapNodes_of_mappedOf {d : ModuleData} {m : Mapped} (h : d.tree.gapNodes = [])
    (hm : d.mappedOf = .ok m) : m.gapNodes = [] := by
  unfold mappedOf at hm
  split at hm
  · rename_i held hheld
    cases hm
    rwa [tree, hheld, Option.getD_some] at h
  · contradiction

namespace Method

/-- What a method comes to where there is neither a gap nor an agent. -/
def alone (method : Method) (d : ModuleData) (moduleName : String) : Except Failure StepOutput :=
  match method with
  | askForProcedures => .error .noAgent
  | recognizeProcedures => d.sourceOf.map fun source => .extracted (Source.recognize source)
  | classifyIntents => .ok (.mapped (.classify (d.procedures.getD [])))
  | askForQuestions => d.mappedOf.map fun _ => .questions []
  | noQuestions => .ok (.questions [])
  | answerGaps | keepGaps => d.mappedOf.map fun m => .resolved m false
  | askForScript | emitScript => d.mappedOf.map fun m => (Emission.generate m moduleName).output

theorem start_eq_alone {method : Method} {d : ModuleData} (hmethod : method ≠ .askForProcedures)
    (hgaps : d.tree.gapNodes = []) (ctx : Context) :
    method.start d ctx = (method.alone d ctx.moduleName).map .finished := by
  cases method with
  | askForProcedures => contradiction
  | recognizeProcedures => cases hs : d.sourceOf <;> simp only [start, alone, hs] <;> rfl
  | classifyIntents => rfl
  | askForQuestions =>
    cases hm : d.mappedOf with
    | error e => simp only [start, alone, hm]; rfl
    | ok m =>
      have hopen := Mapped.openGaps_of_gapless (ModuleData.gapNodes_of_mappedOf hgaps hm)
      simp only [start, alone, hm]
      change (if m.openGaps.isEmpty then Except.ok _ else _) = _
      rw [hopen]
      rfl
  | noQuestions => rfl
  | answerGaps =>
    cases hm : d.mappedOf with
    | error e => simp only [start, alone, hm]; rfl
    | ok m =>
      have hanswered := answered_of_gapless (ModuleData.gapNodes_of_mappedOf hgaps hm) d ctx
      simp only [start, alone, hm]
      change Except.ok (Turn.finished (answered d ctx m)) = _
      rw [hanswered]
      rfl
  | keepGaps => cases hm : d.mappedOf <;> simp only [start, alone, hm] <;> rfl
  | askForScript =>
    cases hm : d.mappedOf with
    | error e => simp only [start, alone, hm]; rfl
    | ok m =>
      have hcount := Mapped.gapCount_of_gapless (ModuleData.gapNodes_of_mappedOf hgaps hm)
        ctx.moduleName
      simp only [start, alone, hm]
      change (if (Emission.generate m ctx.moduleName).stats.gapCount = 0 then Except.ok _
        else _) = _
      rw [if_pos hcount]
      rfl
  | emitScript => cases hm : d.mappedOf <;> simp only [start, alone, hm] <;> rfl

end Method

theorem exists_of_map_ok {x : Except ε α} {f : α → β} {b : β} (h : x.map f = .ok b) :
    ∃ a, x = .ok a ∧ b = f a := by
  cases x with
  | error e => contradiction
  | ok a =>
    cases h
    exact ⟨a, rfl, rfl⟩

namespace ModuleData

theorem tree_extracted {d : ModuleData} {source : String}
    (hneeded : Step.isNeeded d .extract = true) (hsource : d.sourceOf = .ok source) :
    (d.merge (.extracted (Source.recognize source))).tree = d.tree := by
  rw [Step.isNeeded, Bool.and_eq_true, Option.isNone_iff_eq_none, Option.isNone_iff_eq_none]
    at hneeded
  have hs : d.source = some source := by
    unfold sourceOf at hsource
    split at hsource
    · rename_i held hheld
      cases hsource
      exact hheld
    · contradiction
  simp [tree, knownProcedures, merge, hneeded, hs]

theorem gapNodes_mapped {d : ModuleData} (hneeded : Step.isNeeded d .map = true)
    (h : d.tree.gapNodes = []) : (Mapped.classify (d.procedures.getD [])).gapNodes = [] := by
  rw [Step.isNeeded, Option.isNone_iff_eq_none] at hneeded
  cases hps : d.procedures with
  | none => rfl
  | some ps => simpa [tree, knownProcedures, hneeded, hps] using h

end ModuleData

theorem gapNodes_merge_alone {step : Step} {method : Method} {d : ModuleData} {moduleName : String}
    {output : StepOutput} (hmethod : method ∈ step.methods) (hneeded : step.isNeeded d = true)
    (hgaps : d.tree.gapNodes = []) (h : method.alone d moduleName = .ok output) :
    (d.merge output).tree.gapNodes = [] := by
  obtain rfl := step.step_of_mem_methods method hmethod
  cases method with
  | askForProcedures => contradiction
  | recognizeProcedures =>
    obtain ⟨source, hsource, rfl⟩ := exists_of_map_ok h
    rw [ModuleData.tree_extracted hneeded hsource]
    exact hgaps
  | classifyIntents =>
    cases h
    exact ModuleData.gapNodes_mapped hneeded hgaps
  | noQuestions =>
    cases h
    exact hgaps
  | askForQuestions | answerGaps | keepGaps | askForScript | emitScript =>
    obtain ⟨m, -, rfl⟩ := exists_of_map_ok h
    exact hgaps

theorem isNeeded_extract_merge {d : ModuleData} {output : StepOutput}
    (h : Step.isNeeded (d.merge output) .extract = true) : Step.isNeeded d .extract = true := by
  cases output with
  | resolved m changed => cases changed <;> simp_all [Step.isNeeded, ModuleData.merge]
  | extracted ps | mapped m | questions qs | generated source stats =>
    simp_all [Step.isNeeded, ModuleData.merge]

section Step

variable {ctx : Context} {d : ModuleData} {step : Step} {method : Method}

theorem asksAgent_skipped (hneeded : step.isNeeded d = false) (rest : List (Step × Method)) :
    asksAgent ctx d ((step, method) :: rest) = asksAgent ctx d rest := by
  rw [asksAgent, if_neg (Bool.eq_false_iff.mp hneeded)]

theorem asksAgent_taken {output : StepOutput} (hneeded : step.isNeeded d = true)
    (hstart : method.start d ctx = .ok (.finished output)) (rest : List (Step × Method)) :
    asksAgent ctx d ((step, method) :: rest) = asksAgent ctx (d.merge output) rest := by
  rw [asksAgent, if_pos hneeded, hstart]

theorem asksAgent_failed {e : Failure} (hneeded : step.isNeeded d = true)
    (hstart : method.start d ctx = .error e) (rest : List (Step × Method)) :
    asksAgent ctx d ((step, method) :: rest) = false := by
  rw [asksAgent, if_pos hneeded, hstart]

theorem runPlan_failed {e : Failure} (hneeded : step.isNeeded d = true)
    (hstart : method.start d ctx = .error e) (rest : List (Step × Method))
    (results : List StepResult) (asked : List String) :
    runPlan ctx results d asked ((step, method) :: rest) =
      (⟨.failed, results, d.status, some (PipelineError.failed step method.strategy e).message, d⟩,
        asked) := by
  simp only [runPlan, hneeded, if_true, Step.execute, Method.perform, hstart]

end Step

/-- A run over a tree without gaps asks nothing and comes to the same in all contexts of a name. -/
theorem runPlan_of_gapless {plan : List (Step × Method)} {d : ModuleData}
    (hmethods : ∀ e ∈ plan, e.2 ∈ e.1.methods)
    (hextract : Step.isNeeded d .extract = true → ∀ e ∈ plan, e.2 ≠ .askForProcedures)
    (hgaps : d.tree.gapNodes = []) (moduleName : String) :
    ∃ run : RunResult, ∀ ctx : Context, ctx.moduleName = moduleName →
      asksAgent ctx d plan = false ∧ ∀ results asked,
        runPlan ctx results d asked plan =
          ({ run with results := results ++ (run.timed ctx.took).results }, asked) := by
  induction plan generalizing d with
  | nil =>
    refine ⟨⟨.complete, [], d.status, none, d⟩, ?_⟩
    intro ctx _
    refine ⟨rfl, ?_⟩
    intro results asked
    simp [runPlan, RunResult.timed]
  | cons e rest ih =>
    obtain ⟨step, method⟩ := e
    have hmethod : method ∈ step.methods := hmethods _ List.mem_cons_self
    have hrest : ∀ e ∈ rest, e.2 ∈ e.1.methods :=
      fun e he => hmethods e (List.mem_cons_of_mem _ he)
    by_cases hneeded : step.isNeeded d = true
    · have hbyItself : method ≠ .askForProcedures := by
        rintro rfl
        obtain rfl := step.step_of_mem_methods _ hmethod
        exact hextract hneeded _ List.mem_cons_self rfl
      cases halone : method.alone d moduleName with
      | error e =>
        refine ⟨⟨.failed, [], d.status,
          some (PipelineError.failed step method.strategy e).message, d⟩, ?_⟩
        rintro ctx rfl
        have hstart := Method.start_eq_alone hbyItself hgaps ctx
        rw [halone] at hstart
        refine ⟨asksAgent_failed hneeded hstart rest, ?_⟩
        intro results asked
        rw [runPlan_failed hneeded hstart]
        simp [RunResult.timed]
      | ok output =>
        have hlater : Step.isNeeded (d.merge output) .extract = true →
            ∀ e ∈ rest, e.2 ≠ .askForProcedures :=
          fun h e he => hextract (isNeeded_extract_merge h) e (List.mem_cons_of_mem _ he)
        obtain ⟨run, hrun⟩ :=
          ih hrest hlater (gapNodes_merge_alone hmethod hneeded hgaps halone)
        refine ⟨{ run with results := ⟨step, method.strategy, output, .zero⟩ :: run.results }, ?_⟩
        rintro ctx rfl
        obtain ⟨hasks, hplan⟩ := hrun ctx rfl
        have hstart := Method.start_eq_alone hbyItself hgaps ctx
        rw [halone] at hstart
        refine ⟨(asksAgent_taken hneeded hstart rest).trans hasks, ?_⟩
        intro results asked
        have hperform : method.perform d ctx asked = (.ok output, asked) := by
          rw [Method.perform, hstart]
          rfl
        rw [runPlan_taken hneeded hperform, hplan]
        simp [RunResult.timed, StepResult.timed]
    · have hskip : step.isNeeded d = false := Bool.eq_false_iff.mpr hneeded
      obtain ⟨run, hrun⟩ :=
        ih hrest (fun h e he => hextract h e (List.mem_cons_of_mem _ he)) hgaps
      refine ⟨run, ?_⟩
      rintro ctx rfl
      obtain ⟨hasks, hplan⟩ := hrun ctx rfl
      refine ⟨(asksAgent_skipped hskip rest).trans hasks, ?_⟩
      intro results asked
      rw [runPlan_skipped hskip, hplan]

theorem Config.isChosen_of_plan {config : Config} {plan : List (Step × Method)}
    (h : config.plan = .ok plan) : ∀ e ∈ plan, config.IsChosen e.1 e.2 := by
  by_cases hunknown : ∃ entry ∈ config, IsUnknown entry
  · obtain ⟨e, hcheck, -⟩ := check_eq_error hunknown
    rw [Config.plan, hcheck] at h
    contradiction
  · have hknown : ∀ entry ∈ config, ¬IsUnknown entry :=
      fun entry hentry hbad => hunknown ⟨entry, hentry, hbad⟩
    obtain ⟨method, hmethod⟩ := Classical.axiomOfChoice (exists_isChosen hknown)
    rw [plan_eq (check_eq_ok hknown) hmethod] at h
    cases h
    intro e he
    obtain ⟨step, -, rfl⟩ := List.mem_map.mp he
    exact hmethod step

/-- Over a tree without gaps the agent has no influence: a run that is not refused never turns to
it, and comes to one and the same result in all contexts with a module name, whatever agent, answers
and clock are in them, but for the time that each step takes. Only the extraction must not be left
to the agent. -/
theorem agent_has_no_influence {d : ModuleData} {config : Config} (hgaps : d.tree.gapNodes = [])
    (moduleName : String) :
    match config.plan with
    | .error e => ∀ ctx : Context, runPipeline d ctx config = .error e
    | .ok plan =>
      (Step.isNeeded d .extract = true →
        config.lookup Step.extract.name = some Strategy.mock.name) →
      ∃ run : RunResult, ∀ ctx : Context, ctx.moduleName = moduleName →
        asksAgent ctx d plan = false ∧
        runPipeline d ctx config = .ok (run.timed ctx.took, []) := by
  cases hplan : config.plan with
  | error e =>
    intro ctx
    rw [runPipeline, hplan]
    rfl
  | ok plan =>
    intro hextract
    have hchosen := Config.isChosen_of_plan hplan
    have hmock : Step.isNeeded d .extract = true → ∀ e ∈ plan, e.2 ≠ .askForProcedures := by
      intro hneeded e he hask
      obtain ⟨hmethod, hname⟩ := Step.of_resolve (hchosen e he)
      rw [hask] at hmethod hname
      rw [← e.1.step_of_mem_methods _ hmethod] at hname
      change Strategy.llm.name = (config.lookup Step.extract.name).getD _ at hname
      rw [hextract hneeded, Option.getD_some] at hname
      exact absurd hname (by decide)
    obtain ⟨run, hrun⟩ := runPlan_of_gapless
      (fun e he => (Step.of_resolve (hchosen e he)).1) hmock hgaps moduleName
    refine ⟨run, ?_⟩
    intro ctx hctx
    obtain ⟨hasks, hruns⟩ := hrun ctx hctx
    refine ⟨hasks, ?_⟩
    rw [runPipeline, hplan]
    change Except.ok (runPlan ctx [] d [] plan) = _
    rw [hruns, List.nil_append]
    rfl

/-- A tree without gaps, and beside it a summary and a question that speak of one. -/
def staleSummary : ModuleData where
  mapped := some {
    procedures := [⟨"Form_Load", "load", [.branch .newRecord [.act .requery none] [] none none]⟩]
    stats := ⟨1, 0, 3⟩
    gaps := [⟨"Form_Load", "Form_Load:0", "DoCmd.Hourglass True", "no mapping"⟩] }
  questions := some [⟨"Form_Load", "Form_Load:0", "Which cursor?", some "a busy one"⟩]

def agentConfig : Config :=
  [("gap-questions", "llm"), ("generate", "full")]

def agentPlan : List (Step × Method) :=
  [(.extract, .askForProcedures), (.map, .classifyIntents), (.gapQuestions, .askForQuestions),
    (.resolveGaps, .answerGaps), (.generate, .askForScript)]

theorem agent_has_no_influence_staleSummary :
    staleSummary.tree.gapNodes = [] ∧ Step.isNeeded staleSummary .extract = false ∧
      Step.isNeeded staleSummary .gapQuestions = true ∧
      ∃ run : RunResult, ∀ ctx : Context, ctx.moduleName = "orders" →
        asksAgent ctx staleSummary agentPlan = false ∧
        runPipeline staleSummary ctx agentConfig = .ok (run.timed ctx.took, []) := by
  have hplan : agentConfig.plan = .ok agentPlan := rfl
  have hextract : Step.isNeeded staleSummary .extract = true →
      agentConfig.lookup Step.extract.name = some Strategy.mock.name :=
    fun hneeded => absurd hneeded (by decide)
  have hgaps : staleSummary.tree.gapNodes = [] := rfl
  have hrun := @agent_has_no_influence _ agentConfig hgaps "orders"
  rw [hplan] at hrun
  exact ⟨hgaps, rfl, rfl, hrun hextract⟩

end FormScript
