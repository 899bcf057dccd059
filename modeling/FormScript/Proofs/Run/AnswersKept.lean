import FormScript.Proofs.Mapped.Gaps
import FormScript.Proofs.Run.Instalments
import FormScript.Proofs.Store.Reload

/-! Answers are kept. Once there are mapped procedures no run maps again, so that all a run can do to
them is to answer gaps that are open; and loading what was saved does nothing to them at all. -/
namespace FormScript

theorem Step.perform_of_execute {step : Step} {method : Method} {d : ModuleData} {ctx : Context}
    {asked asked' : List String} {r : StepResult}
    (h : step.execute method d ctx asked = (.ok r, asked')) :
    method.perform d ctx asked = (.ok r.output, asked') := by
  unfold execute at h
  split at h
  · rename_i output asked'' hperform
    cases h
    exact hperform
  · cases h

/-- What a step can do to the mapped procedures: it maps, it answers some gaps, or it leaves them. -/
theorem Step.mapped_cases {step : Step} {method : Method} {d : ModuleData} {ctx : Context}
    {asked asked' : List String} {r : StepResult} (hmem : method ∈ step.methods)
    (h : step.execute method d ctx asked = (.ok r, asked')) :
    step = .map ∧ (d.merge r.output).mapped = some (.classify (d.procedures.getD [])) ∨
    (∃ m propose, d.mapped = some m ∧
      (d.merge r.output).mapped = some (m.resolve propose ctx.now)) ∨
    (d.merge r.output).mapped = d.mapped := by
  have hperform := Step.perform_of_execute h
  by_cases hmap : step = .map
  · subst hmap
    rw [Step.methods, List.mem_singleton] at hmem
    subst hmem
    have houtput : .mapped (.classify (d.procedures.getD [])) = r.output :=
      Except.ok.inj (congrArg Prod.fst hperform)
    rw [← houtput]
    exact Or.inl ⟨rfl, rfl⟩
  · by_cases hresolve : step = .resolveGaps
    · subst hresolve
      obtain ⟨m, hm, hanswered | hkept⟩ := perform_resolveGaps hmem hperform
      · rw [hanswered, ModuleData.merge_answered hm]
        exact Or.inr (Or.inl ⟨m, _, hm, rfl⟩)
      · rw [hkept]
        exact Or.inr (Or.inr rfl)
    · exact Or.inr (Or.inr (Step.mapped_of_execute hmem h hmap hresolve))

theorem Step.grows_of_execute {step : Step} {method : Method} {d : ModuleData} {ctx : Context}
    {asked asked' : List String} {r : StepResult} {m : Mapped} (hmem : method ∈ step.methods)
    (h : step.execute method d ctx asked = (.ok r, asked')) (hmap : step ≠ .map)
    (hm : d.mapped = some m) : ∃ m', (d.merge r.output).mapped = some m' ∧ m.Grows m' := by
  rcases Step.mapped_cases hmem h with ⟨hstep, -⟩ | ⟨n, propose, hn, hmerge⟩ | hmerge
  · exact absurd hstep hmap
  · rw [hm] at hn
    cases hn
    exact ⟨_, hmerge, m.grows_resolve propose ctx.now⟩
  · exact ⟨m, hmerge.trans hm, .refl m⟩

theorem Follows.grows {ctx : Context} {config : Config} {planned : List Step} {d : ModuleData}
    {asked : List String} {results : List StepResult} {ending : Ending} {m : Mapped}
    (h : Follows ctx config planned d asked results ending)
    (hmap : .map ∉ results.map StepResult.step) (hm : d.mapped = some m) :
    ∃ m', ending.data.mapped = some m' ∧ m.Grows m' := by
  induction h generalizing m with
  | complete d asked => exact ⟨m, hm, .refl m⟩
  | taken hmethod hstep hlater ih =>
    have hmem := (Step.of_resolve hmethod).1
    rw [List.map_cons, List.mem_cons, not_or, (Step.of_execute hmem hstep).1] at hmap
    obtain ⟨m', hm', hgrows⟩ := Step.grows_of_execute hmem hstep (Ne.symm hmap.1) hm
    obtain ⟨m'', hm'', hgrows'⟩ := ih hmap.2 hm'
    exact ⟨m'', hm'', hgrows.trans hgrows'⟩
  | failed later hmethod hstep => exact ⟨m, hm, .refl m⟩

theorem grows_of_runPipeline {d : ModuleData} {ctx : Context} {config : Config} {run : RunResult}
    {prompts : List String} {m : Mapped} (h : runPipeline d ctx config = .ok (run, prompts))
    (hm : d.mapped = some m) : ∃ m', run.data.mapped = some m' ∧ m.Grows m' := by
  have hfollows := (follows_of_runPipeline h).2
  refine hfollows.grows ?_ hm
  intro hmap
  have hnone := mapped_of_planned (hfollows.steps_begin.subset hmap) (by decide)
  rw [hm] at hnone
  contradiction

theorem ModuleRecord.mapped_of_applied {r r' : ModuleRecord} {run : RunResult}
    (h : r.apply? run = some r') :
    r'.data.mapped = run.data.mapped ∨ r'.data.mapped = r.data.mapped := by
  unfold ModuleRecord.apply? at h
  split at h
  · split at h
    · cases h
      exact Or.inl rfl
    · contradiction
  · cases h
    exact Or.inr rfl

/-- What becomes of a record by runs that are applied to it, complete or not, and by being saved and
loaded again. -/
inductive ModuleRecord.Later (r : ModuleRecord) : ModuleRecord → Prop
  | same : Later r r
  | ran {r' r'' : ModuleRecord} {ctx : Context} {config : Config} {run : RunResult}
    {prompts : List String} (hr : Later r r')
    (hrun : runPipeline r'.data ctx config = .ok (run, prompts))
    (happly : r'.apply? run = some r'') : Later r r''
  | reloaded {r' r'' : ModuleRecord} (hr : Later r r')
    (hload : Store.load (Store.save r').toUTF8 = .ok r'') : Later r r''

/-- The mapped procedures of a record stay what they are for good, but for answers to gaps that had
none. -/
theorem answers_kept {r r' : ModuleRecord} {m : Mapped} (h : r.Later r')
    (hm : r.data.mapped = some m) : ∃ m', r'.data.mapped = some m' ∧ m.Grows m' := by
  induction h with
  | same => exact ⟨m, hm, .refl m⟩
  | ran hr hrun happly ih =>
    obtain ⟨m', hm', hgrows⟩ := ih
    rcases ModuleRecord.mapped_of_applied happly with hrunData | hkept
    · obtain ⟨m'', hm'', hgrows'⟩ := grows_of_runPipeline hrun hm'
      exact ⟨m'', hrunData.trans hm'', hgrows.trans hgrows'⟩
    · exact ⟨m', hkept.trans hm', hgrows⟩
  | reloaded hr hload ih =>
    obtain ⟨rfl, -⟩ := Store.load_save_eq_ok_iff.mp hload
    exact ih

def busyRecord : ModuleRecord where
  name := "orders"
  data := { procedures := some hourglass, mapped := some (.classify hourglass) }

def busyContext : Context :=
  ordersContext cursorAnswer

def busyTree : Mapped :=
  (Mapped.classify hourglass).resolve (propose? busyContext.answers []) busyContext.now

def busyAnswered : ModuleRecord where
  name := "orders"
  version := 1
  status := some .complete
  data :=
    { procedures := some hourglass
      mapped := some busyTree
      questions := some []
      generatedSource := some (Emission.generate busyTree "orders").source
      generateStats := some (Emission.generate busyTree "orders").stats }

theorem fits_busyAnswered : busyAnswered.data.Fits := by
  constructor
  · intro m hm
    cases hm
    unfold MapStats.Fits
    decide
  · intro s hs
    cases hs
    unfold GenerateStats.Fits
    decide

theorem later_busyAnswered : busyRecord.Later busyAnswered := by
  obtain ⟨run, prompts, hrun, happly⟩ : ∃ run prompts,
      runPipeline busyRecord.data busyContext
        [("gap-questions", "skip"), ("generate", "mechanical")] = .ok (run, prompts) ∧
      busyRecord.apply? run = some busyAnswered :=
    ⟨_, _, rfl, rfl⟩
  exact .reloaded (.ran .same hrun happly)
    (Store.load_save_eq_ok_iff.mpr ⟨rfl, fits_busyAnswered, by decide⟩)

theorem answers_kept_busy :
    busyRecord.Later busyAnswered ∧
      ∃ m, busyAnswered.data.mapped = some m ∧ (Mapped.classify hourglass).Grows m :=
  ⟨later_busyAnswered, answers_kept later_busyAnswered rfl⟩

end FormScript
