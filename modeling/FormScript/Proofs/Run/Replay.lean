import FormScript.Proofs.Run.Plan

/-! A run is the replay of its results. The steps it takes can be told from the data it starts with
and the mapped procedures it holds when it comes to the gaps; it takes them one by one, each on what
the steps before have left, until one of them fails. -/
namespace FormScript

def StepOutput.step : StepOutput → Step
  | extracted _ => .extract
  | mapped _ => .map
  | questions _ => .gapQuestions
  | resolved _ _ => .resolveGaps
  | generated _ _ => .generate

def Method.step : Method → Step
  | askForProcedures | recognizeProcedures => .extract
  | classifyIntents => .map
  | askForQuestions | noQuestions => .gapQuestions
  | answerGaps | keepGaps => .resolveGaps
  | askForScript | emitScript => .generate

theorem Step.step_of_mem_methods (s : Step) : ∀ m ∈ s.methods, m.step = s := by
  cases s <;> decide

theorem exists_of_bind_ok {x : Except ε α} {f : α → Except ε β} {b : β} (h : x >>= f = .ok b) :
    ∃ a, x = .ok a ∧ f a = .ok b := by
  cases x with
  | error e => contradiction
  | ok a => exact ⟨a, rfl, h⟩

def Turn.Yields (s : Step) : Turn → Prop
  | .finished output => output.step = s
  | .ask _ finish => ∀ reply output, finish reply = .ok output → output.step = s

theorem Method.yields_of_start {m : Method} {d : ModuleData} {ctx : Context} {turn : Turn}
    (h : m.start d ctx = .ok turn) : turn.Yields m.step := by
  cases m with
  | askForProcedures =>
    obtain ⟨source, -, hturn⟩ := exists_of_bind_ok h
    cases hturn
    intro reply output hreply
    obtain ⟨ps, -, hps⟩ := exists_of_bind_ok hreply
    cases hps
    rfl
  | recognizeProcedures =>
    obtain ⟨source, -, hturn⟩ := exists_of_bind_ok h
    cases hturn
    rfl
  | classifyIntents =>
    cases h
    rfl
  | askForQuestions =>
    obtain ⟨m, -, hturn⟩ := exists_of_bind_ok h
    dsimp only at hturn
    split at hturn
    · cases hturn
      rfl
    · cases hturn
      intro reply output hreply
      obtain ⟨qs, -, hqs⟩ := exists_of_bind_ok hreply
      cases hqs
      rfl
  | noQuestions =>
    cases h
    rfl
  | answerGaps =>
    obtain ⟨m, -, hturn⟩ := exists_of_bind_ok h
    cases hturn
    change (answered d ctx m).step = _
    unfold answered
    dsimp only
    split
    · rfl
    · split <;> rfl
  | keepGaps =>
    obtain ⟨m, -, hturn⟩ := exists_of_bind_ok h
    cases hturn
    rfl
  | askForScript =>
    obtain ⟨m, -, hturn⟩ := exists_of_bind_ok h
    dsimp only at hturn
    split at hturn
    · cases hturn
      rfl
    · cases hturn
      intro reply output hreply
      obtain ⟨source, -, hsource⟩ := exists_of_bind_ok hreply
      split at hsource
      · contradiction
      · cases hsource
        rfl
  | emitScript =>
    obtain ⟨m, -, hturn⟩ := exists_of_bind_ok h
    cases hturn
    rfl

theorem Method.step_of_perform {m : Method} {d : ModuleData} {ctx : Context}
    {asked asked' : List String} {output : StepOutput}
    (h : m.perform d ctx asked = (.ok output, asked')) : output.step = m.step := by
  unfold perform at h
  split at h
  · cases h
  · rename_i output' hstart
    cases h
    exact yields_of_start hstart
  · rename_i prompt finish hstart
    obtain ⟨reply, -, hreply⟩ := exists_of_bind_ok (congrArg Prod.fst h)
    exact yields_of_start hstart reply output hreply

theorem Step.of_execute {s : Step} {m : Method} {d : ModuleData} {ctx : Context}
    {asked asked' : List String} {r : StepResult} (hm : m ∈ s.methods)
    (h : s.execute m d ctx asked = (.ok r, asked')) :
    r.step = s ∧ r.strategy = m.strategy ∧ r.output.step = s := by
  unfold execute at h
  split at h
  · rename_i output asked'' hperform
    cases h
    exact ⟨rfl, rfl, (Method.step_of_perform hperform).trans (s.step_of_mem_methods m hm)⟩
  · cases h

def ModuleData.replay (d : ModuleData) (results : List StepResult) : ModuleData :=
  results.foldl (fun d r => d.merge r.output) d

def Step.isBefore (a b : Step) : Bool :=
  Step.all.idxOf a < Step.all.idxOf b

/-- The mapped procedures that a run with these results holds when it comes to a step. -/
def heldAt (s : Step) (d : ModuleData) (results : List StepResult) : Option Mapped :=
  (d.replay (results.filter (·.step.isBefore s))).mapped

def gapSteps (held : Option Mapped) : List Step :=
  if held.any fun m => m.countsGaps || m.hasOpenGaps then [.gapQuestions, .resolveGaps] else []

/-- The steps that a run over some data has before it. -/
def plannedSteps (d : ModuleData) (held : Option Mapped) : List Step :=
  (if d.procedures = none ∧ d.mapped = none then [.extract] else []) ++
    ((if d.mapped = none then [.map] else []) ++ (gapSteps held ++ [.generate]))

structure Ending where
  status : RunStatus
  error : Option String
  data : ModuleData
  prompts : List String

/-- Steps are taken one by one, each by its chosen method on the data and with the prompts that the
ones before have left, until none is left or one fails. -/
inductive Follows (ctx : Context) (config : Config) :
    List Step → ModuleData → List String → List StepResult → Ending → Prop
  | complete (d : ModuleData) (asked : List String) :
    Follows ctx config [] d asked [] ⟨.complete, none, d, asked⟩
  | taken {step : Step} {later : List Step} {method : Method} {d : ModuleData}
    {asked asked' : List String} {r : StepResult} {results : List StepResult} {ending : Ending}
    (hmethod : config.IsChosen step method)
    (hstep : step.execute method d ctx asked = (.ok r, asked'))
    (hlater : Follows ctx config later (d.merge r.output) asked' results ending) :
    Follows ctx config (step :: later) d asked (r :: results) ending
  | failed {step : Step} (later : List Step) {method : Method} {d : ModuleData}
    {asked asked' : List String} {e : PipelineError}
    (hmethod : config.IsChosen step method)
    (hstep : step.execute method d ctx asked = (.error e, asked')) :
    Follows ctx config (step :: later) d asked [] ⟨.failed, some e.message, d, asked'⟩

namespace Follows

variable {ctx : Context} {config : Config} {planned : List Step} {d : ModuleData}
  {asked : List String} {results : List StepResult} {ending : Ending}

theorem data_eq (h : Follows ctx config planned d asked results ending) :
    ending.data = d.replay results := by
  induction h with
  | complete d asked => rfl
  | taken hmethod hstep hlater ih => exact ih
  | failed later hmethod hstep => rfl

theorem error_isSome_iff (h : Follows ctx config planned d asked results ending) :
    ending.error.isSome = true ↔ ending.status = .failed := by
  induction h with
  | complete d asked => simp
  | taken hmethod hstep hlater ih => exact ih
  | failed later hmethod hstep => exact ⟨fun _ => rfl, fun _ => rfl⟩

theorem strategy_name (h : Follows ctx config planned d asked results ending) :
    ∀ r ∈ results, r.strategy.name =
      (config.lookup r.step.name).getD r.step.defaultStrategy.name := by
  induction h with
  | complete d asked => exact fun r hr => absurd hr List.not_mem_nil
  | taken hmethod hstep hlater ih =>
    intro r hr
    rcases List.mem_cons.mp hr with rfl | hr
    · obtain ⟨hmem, hname⟩ := Step.of_resolve hmethod
      obtain ⟨hstep, hstrategy, -⟩ := Step.of_execute hmem hstep
      rw [hstrategy, hstep, hname]
    · exact ih r hr
  | failed later hmethod hstep => exact fun r hr => absurd hr List.not_mem_nil

theorem outcome (h : Follows ctx config planned d asked results ending) :
    ending.status = .complete ∧ results.map StepResult.step = planned ∨
    ending.status = .failed ∧ ∃ step later, planned = results.map StepResult.step ++ step :: later ∧
      ∃ method asked' e, config.IsChosen step method ∧
        step.execute method ending.data ctx asked' = (.error e, ending.prompts) ∧
        ending.error = some e.message := by
  induction h with
  | complete d asked => exact Or.inl ⟨rfl, rfl⟩
  | taken hmethod hstep hlater ih =>
    have hname := (Step.of_execute (Step.of_resolve hmethod).1 hstep).1
    rcases ih with ⟨hstatus, hsteps⟩ | ⟨hstatus, step, later, hplanned, hfailed⟩
    · refine Or.inl ⟨hstatus, ?_⟩
      rw [List.map_cons, hsteps, hname]
    · refine Or.inr ⟨hstatus, step, later, ?_, hfailed⟩
      rw [hplanned, List.map_cons, hname]
      rfl
  | failed later hmethod hstep =>
    exact Or.inr ⟨rfl, _, later, rfl, _, _, _, hmethod, hstep, rfl⟩

theorem steps_begin (h : Follows ctx config planned d asked results ending) :
    results.map StepResult.step <+: planned := by
  rcases h.outcome with ⟨-, hsteps⟩ | ⟨-, step, later, hplanned, -⟩
  · exact hsteps ▸ List.prefix_refl planned
  · rw [hplanned]
    exact List.prefix_append _ _

theorem output_step (h : Follows ctx config planned d asked results ending) :
    ∀ r ∈ results, r.output.step = r.step := by
  induction h with
  | complete d asked => exact fun r hr => absurd hr List.not_mem_nil
  | taken hmethod hstep hlater ih =>
    intro r hr
    rcases List.mem_cons.mp hr with rfl | hr
    · obtain ⟨hname, -, houtput⟩ := Step.of_execute (Step.of_resolve hmethod).1 hstep
      rw [houtput, hname]
    · exact ih r hr
  | failed later hmethod hstep => exact fun r hr => absurd hr List.not_mem_nil

end Follows

theorem ModuleData.mapped_merge {d : ModuleData} {output : StepOutput}
    (hmap : output.step ≠ .map) (hresolve : output.step ≠ .resolveGaps) :
    (d.merge output).mapped = d.mapped := by
  cases output with
  | mapped m => exact absurd rfl hmap
  | resolved m changed => exact absurd rfl hresolve
  | extracted ps => rfl
  | questions qs => rfl
  | generated source stats => rfl

theorem Step.mapped_of_execute {s : Step} {m : Method} {d : ModuleData} {ctx : Context}
    {asked asked' : List String} {r : StepResult} (hm : m ∈ s.methods)
    (h : s.execute m d ctx asked = (.ok r, asked')) (hmap : s ≠ .map)
    (hresolve : s ≠ .resolveGaps) : (d.merge r.output).mapped = d.mapped := by
  have houtput := (Step.of_execute hm h).2.2
  apply ModuleData.mapped_merge
  · rwa [houtput]
  · rwa [houtput]

theorem ModuleData.mapped_merge_congr {d d' : ModuleData} (h : d.mapped = d'.mapped)
    (output : StepOutput) : (d.merge output).mapped = (d'.merge output).mapped := by
  cases output with
  | mapped m => rfl
  | resolved m changed => cases changed <;> simp [merge, h]
  | extracted ps => exact h
  | questions qs => exact h
  | generated source stats => exact h

theorem ModuleData.replay_cons (d : ModuleData) (r : StepResult) (results : List StepResult) :
    d.replay (r :: results) = (d.merge r.output).replay results :=
  rfl

theorem mapped_replay_filter {d d' : ModuleData} {results : List StepResult}
    (hmapped : d.mapped = d'.mapped) (h : ∀ r ∈ results, r.output.step = r.step) :
    (d.replay (results.filter (·.step.isBefore .resolveGaps))).mapped =
      (d'.replay (results.filter (·.step.isBefore .gapQuestions))).mapped := by
  induction results generalizing d d' with
  | nil => exact hmapped
  | cons r results ih =>
    have hrest := fun q hq => h q (List.mem_cons_of_mem r hq)
    by_cases hgap : r.step = .gapQuestions
    · have hleft : r.step.isBefore .resolveGaps = true := by rw [hgap]; decide
      have hright : r.step.isBefore .gapQuestions = false := by rw [hgap]; decide
      have hoff : (d.merge r.output).mapped = d'.mapped := by
        rw [ModuleData.mapped_merge, hmapped]
        all_goals
          rw [h r List.mem_cons_self, hgap]
          decide
      rw [List.filter_cons, if_pos hleft, List.filter_cons, if_neg (Bool.eq_false_iff.mp hright),
        ModuleData.replay_cons]
      exact ih hoff hrest
    · have hsame : r.step.isBefore .resolveGaps = r.step.isBefore .gapQuestions := by
        revert hgap
        cases r.step <;> decide
      rw [List.filter_cons, List.filter_cons, hsame]
      split
      · exact ih (ModuleData.mapped_merge_congr hmapped r.output) hrest
      · exact ih hmapped hrest

theorem heldAt_resolveGaps (d : ModuleData) {results : List StepResult}
    (h : ∀ r ∈ results, r.output.step = r.step) :
    heldAt .resolveGaps d results = heldAt .gapQuestions d results :=
  mapped_replay_filter rfl h

/-- A run that takes these steps, which may depend on how some of them turn out. -/
def Ran (ctx : Context) (config : Config) (planned : List StepResult → List Step) (d : ModuleData)
    (asked : List String) (results : List StepResult) (out : RunResult × List String) : Prop :=
  ∃ new, out.1.results = results ++ new ∧ out.1.moduleStatus = out.1.data.status ∧
    Follows ctx config (planned new) d asked new ⟨out.1.status, out.1.error, out.1.data, out.2⟩

section Stages

variable {ctx : Context} {config : Config} {d : ModuleData} {asked : List String}
  {results : List StepResult}

theorem ran_nil : Ran ctx config (fun _ => []) d asked results (runPlan ctx results d asked []) :=
  ⟨[], (List.append_nil results).symm, rfl, .complete d asked⟩

theorem runPlan_skipped {step : Step} (h : step.isNeeded d = false) (method : Method)
    (rest : List (Step × Method)) :
    runPlan ctx results d asked ((step, method) :: rest) = runPlan ctx results d asked rest := by
  rw [runPlan, if_neg (Bool.eq_false_iff.mp h)]

theorem ran_needed {step : Step} {method : Method} {rest : List (Step × Method)}
    {later : List StepResult → List Step} (hneeded : step.isNeeded d = true)
    (hmethod : config.IsChosen step method)
    (hnext : ∀ r asked', step.execute method d ctx asked = (.ok r, asked') →
      Ran ctx config (fun new => later (r :: new)) (d.merge r.output) asked' (results ++ [r])
        (runPlan ctx (results ++ [r]) (d.merge r.output) asked' rest)) :
    Ran ctx config (fun new => step :: later new) d asked results
      (runPlan ctx results d asked ((step, method) :: rest)) := by
  rw [runPlan, if_pos hneeded]
  split
  · rename_i r asked' hstep
    obtain ⟨new, hresults, hstatus, hfollows⟩ := hnext r asked' hstep
    refine ⟨r :: new, ?_, hstatus, .taken hmethod hstep hfollows⟩
    rw [hresults, List.append_assoc, List.singleton_append]
  · rename_i e asked' hstep
    exact ⟨[], (List.append_nil results).symm, rfl, .failed (later []) hmethod hstep⟩

theorem ran_generate {method : Method} (hmethod : config.IsChosen .generate method) :
    Ran ctx config (fun _ => [.generate]) d asked results
      (runPlan ctx results d asked [(.generate, method)]) :=
  ran_needed rfl hmethod fun _ _ _ => ran_nil

theorem ran_gaps {method : Step → Method} (hmethod : ∀ s, config.IsChosen s (method s)) :
    Ran ctx config (fun _ => gapSteps d.mapped ++ [.generate]) d asked results
      (runPlan ctx results d asked [(.gapQuestions, method .gapQuestions),
        (.resolveGaps, method .resolveGaps), (.generate, method .generate)]) := by
  by_cases hneeded : Step.isNeeded d .gapQuestions = true
  · have hsteps : gapSteps d.mapped = [.gapQuestions, .resolveGaps] := if_pos hneeded
    rw [hsteps]
    refine ran_needed hneeded (hmethod _) ?_
    intro r asked' hstep
    have hmapped : (d.merge r.output).mapped = d.mapped :=
      Step.mapped_of_execute (Step.of_resolve (hmethod _)).1 hstep (by decide) (by decide)
    have hagain : Step.isNeeded (d.merge r.output) .resolveGaps = true := by
      rw [Step.isNeeded, hmapped]
      exact hneeded
    exact ran_needed hagain (hmethod _) fun _ _ _ => ran_generate (hmethod _)
  · have hskip : Step.isNeeded d .gapQuestions = false := Bool.eq_false_iff.mpr hneeded
    have hskip' : Step.isNeeded d .resolveGaps = false := hskip
    have hsteps : gapSteps d.mapped = [] := if_neg hneeded
    rw [hsteps, runPlan_skipped hskip, runPlan_skipped hskip']
    exact ran_generate (hmethod _)

theorem Ran.of_eq {planned planned' : List StepResult → List Step} {out : RunResult × List String}
    (h : Ran ctx config planned d asked results out)
    (heq : ∀ new, new.map StepResult.step <+: planned new → planned new = planned' new) :
    Ran ctx config planned' d asked results out := by
  obtain ⟨new, hresults, hstatus, hfollows⟩ := h
  refine ⟨new, hresults, hstatus, ?_⟩
  rw [← heq new hfollows.steps_begin]
  exact hfollows

theorem not_mem_gapSteps (held : Option Mapped) :
    ∀ s ∈ gapSteps held ++ [.generate], s.isBefore .gapQuestions = false := by
  unfold gapSteps
  split <;> decide

theorem heldAt_of_begins {held : Option Mapped} {new : List StepResult}
    (h : new.map StepResult.step <+: gapSteps held ++ [.generate]) :
    heldAt .gapQuestions d new = d.mapped := by
  have hfilter : new.filter (·.step.isBefore .gapQuestions) = [] := by
    rw [List.filter_eq_nil_iff]
    intro r hr
    have hmem := h.subset (List.mem_map_of_mem hr)
    rw [not_mem_gapSteps held _ hmem]
    exact Bool.false_ne_true
  rw [heldAt, hfilter]
  rfl

theorem heldAt_cons {r : StepResult} (h : r.step.isBefore .gapQuestions = true)
    (new : List StepResult) :
    heldAt .gapQuestions d (r :: new) = heldAt .gapQuestions (d.merge r.output) new := by
  rw [heldAt, List.filter_cons, if_pos h]
  rfl

theorem ran_map {method : Step → Method} (hmethod : ∀ s, config.IsChosen s (method s)) :
    Ran ctx config (fun new => (if d.mapped = none then [.map] else []) ++
        (gapSteps (heldAt .gapQuestions d new) ++ [.generate])) d asked results
      (runPlan ctx results d asked [(.map, method .map), (.gapQuestions, method .gapQuestions),
        (.resolveGaps, method .resolveGaps), (.generate, method .generate)]) := by
  by_cases hnone : d.mapped = none
  · have hneeded : Step.isNeeded d .map = true := by rw [Step.isNeeded, hnone]; rfl
    simp only [if_pos hnone, List.singleton_append]
    refine ran_needed hneeded (hmethod _) ?_
    intro r asked' hstep
    apply (ran_gaps hmethod).of_eq
    intro new hbegins
    have hbefore : r.step.isBefore .gapQuestions = true := by
      rw [(Step.of_execute (Step.of_resolve (hmethod _)).1 hstep).1]
      decide
    rw [heldAt_cons hbefore, heldAt_of_begins hbegins]
  · have hskip : Step.isNeeded d .map = false := by
      rw [Step.isNeeded, Option.isNone_eq_false_iff, Option.isSome_iff_ne_none]
      exact hnone
    simp only [if_neg hnone, List.nil_append]
    rw [runPlan_skipped hskip]
    apply (ran_gaps hmethod).of_eq
    intro new hbegins
    rw [heldAt_of_begins hbegins]

theorem ran_all {method : Step → Method} (hmethod : ∀ s, config.IsChosen s (method s)) :
    Ran ctx config (fun new => plannedSteps d (heldAt .gapQuestions d new)) d asked results
      (runPlan ctx results d asked (Step.all.map fun s => (s, method s))) := by
  unfold plannedSteps
  change Ran _ _ _ _ _ _ (runPlan ctx results d asked ((.extract, method .extract) :: _))
  by_cases hnone : d.procedures = none ∧ d.mapped = none
  · have hneeded : Step.isNeeded d .extract = true := by
      rw [Step.isNeeded, hnone.1, hnone.2]
      rfl
    simp only [if_pos hnone, List.singleton_append]
    refine ran_needed hneeded (hmethod _) ?_
    intro r asked' hstep
    have hmem := (Step.of_resolve (hmethod .extract)).1
    have hbefore : r.step.isBefore .gapQuestions = true := by
      rw [(Step.of_execute hmem hstep).1]
      decide
    have hmapped : (d.merge r.output).mapped = d.mapped :=
      Step.mapped_of_execute hmem hstep (by decide) (by decide)
    simp only [heldAt_cons hbefore, ← hmapped]
    exact ran_map hmethod
  · have hskip : Step.isNeeded d .extract = false := by
      rw [Step.isNeeded, Bool.and_eq_false_iff, Option.isNone_eq_false_iff,
        Option.isNone_eq_false_iff, Option.isSome_iff_ne_none, Option.isSome_iff_ne_none]
      exact Decidable.not_and_iff_or_not.mp hnone
    simp only [if_neg hnone, List.nil_append]
    rw [runPlan_skipped hskip]
    exact ran_map hmethod

end Stages

theorem runPipeline_follows (d : ModuleData) (ctx : Context) {config : Config}
    (hknown : ∀ entry ∈ config, ¬Config.IsUnknown entry) :
    ∃ run prompts, runPipeline d ctx config = .ok (run, prompts) ∧
      run.moduleStatus = run.data.status ∧
      Follows ctx config (plannedSteps d (heldAt .gapQuestions d run.results)) d [] run.results
        ⟨run.status, run.error, run.data, prompts⟩ := by
  obtain ⟨method, hmethod⟩ := Classical.axiomOfChoice (Config.exists_isChosen hknown)
  have hran : Ran ctx config (fun new => plannedSteps d (heldAt .gapQuestions d new)) d [] []
      (runPlan ctx [] d [] (Step.all.map fun s => (s, method s))) :=
    ran_all hmethod
  obtain ⟨new, hresults, hstatus, hfollows⟩ := hran
  rw [List.nil_append] at hresults
  rw [← hresults] at hfollows
  refine ⟨_, _, ?_, hstatus, hfollows⟩
  rw [runPipeline, Config.plan_eq (Config.check_eq_ok hknown) hmethod]
  rfl

theorem runPipeline_refused {config : Config} (h : ∃ entry ∈ config, Config.IsUnknown entry) :
    ∃ e, e.isBadRequest = true ∧ ∀ d ctx, runPipeline d ctx config = .error e := by
  obtain ⟨e, hcheck, hbad⟩ := Config.check_eq_error h
  refine ⟨e, hbad, ?_⟩
  intro d ctx
  rw [runPipeline, Config.plan, hcheck]
  rfl

theorem follows_of_runPipeline {d : ModuleData} {ctx : Context} {config : Config} {run : RunResult}
    {prompts : List String} (h : runPipeline d ctx config = .ok (run, prompts)) :
    run.moduleStatus = run.data.status ∧
      Follows ctx config (plannedSteps d (heldAt .gapQuestions d run.results)) d [] run.results
        ⟨run.status, run.error, run.data, prompts⟩ := by
  by_cases hunknown : ∃ entry ∈ config, Config.IsUnknown entry
  · obtain ⟨e, -, hrefused⟩ := runPipeline_refused hunknown
    rw [hrefused] at h
    contradiction
  · obtain ⟨run', prompts', hrun, hfollows⟩ :=
      runPipeline_follows d ctx fun entry hentry hbad => hunknown ⟨entry, hentry, hbad⟩
    rw [h] at hrun
    cases hrun
    exact hfollows

/-- What a finished run says about itself is what its results say, replayed on the data that it
started with. -/
structure Replays (d : ModuleData) (ctx : Context) (config : Config) (run : RunResult)
    (prompts : List String) : Prop where
  follows : Follows ctx config (plannedSteps d (heldAt .gapQuestions d run.results)) d []
    run.results ⟨run.status, run.error, run.data, prompts⟩
  held_eq : heldAt .resolveGaps d run.results = heldAt .gapQuestions d run.results
  outcome :
    run.status = .complete ∧ run.steps = plannedSteps d (heldAt .gapQuestions d run.results) ∨
    run.status = .failed ∧ ∃ step later,
      plannedSteps d (heldAt .gapQuestions d run.results) = run.steps ++ step :: later ∧
      ∃ method asked e, config.IsChosen step method ∧
        step.execute method run.data ctx asked = (.error e, prompts) ∧ run.error = some e.message
  error_iff : run.error.isSome = true ↔ run.status = .failed
  strategies : ∀ r ∈ run.results, r.strategy.name =
    (config.lookup r.step.name).getD r.step.defaultStrategy.name
  data_eq : run.data = d.replay run.results
  status_eq : run.moduleStatus = run.data.status

/-- A run is refused for a name in its configuration that means nothing, whatever the data and the
agent are; any other run is the replay of its results. -/
theorem runPipeline_replays (d : ModuleData) (ctx : Context) (config : Config) :
    match runPipeline d ctx config with
    | .error e => (∃ entry ∈ config, Config.IsUnknown entry) ∧ e.isBadRequest = true ∧
        ∀ d' ctx', runPipeline d' ctx' config = .error e
    | .ok (run, prompts) =>
      (∀ entry ∈ config, ¬Config.IsUnknown entry) ∧ Replays d ctx config run prompts := by
  by_cases hunknown : ∃ entry ∈ config, Config.IsUnknown entry
  · obtain ⟨e, hbad, hrefused⟩ := runPipeline_refused hunknown
    rw [hrefused]
    exact ⟨hunknown, hbad, hrefused⟩
  · have hknown : ∀ entry ∈ config, ¬Config.IsUnknown entry :=
      fun entry hentry h => hunknown ⟨entry, hentry, h⟩
    obtain ⟨run, prompts, hrun, hstatus, hfollows⟩ := runPipeline_follows d ctx hknown
    rw [hrun]
    exact ⟨hknown, hfollows, heldAt_resolveGaps d hfollows.output_step, hfollows.outcome,
      hfollows.error_isSome_iff, hfollows.strategy_name, hfollows.data_eq, hstatus⟩

end FormScript
