import FormScript.Proofs.Mapped.Summary
import FormScript.Proofs.Run.AnswersKept
import FormScript.Session

/-! Sessions. From a new record on, whatever is done to it and whatever is kept in its file, the
summary of mapped procedures is the one that building it anew would give. -/
namespace FormScript

def ModuleData.IsSummed (d : ModuleData) : Prop :=
  ∀ m ∈ d.mapped, m.IsSummed

namespace ModuleData.IsSummed

theorem of_none {d : ModuleData} (h : d.mapped = none) : d.IsSummed := by
  intro m hm
  rw [h] at hm
  contradiction

theorem of_mapped {d d' : ModuleData} (h : d.IsSummed) (hmapped : d'.mapped = d.mapped) :
    d'.IsSummed := by
  rw [IsSummed, hmapped]
  exact h

theorem of_some {d : ModuleData} {m : Mapped} (h : m.IsSummed) (hmapped : d.mapped = some m) :
    d.IsSummed := by
  intro n hn
  rw [hmapped] at hn
  cases hn
  exact h

theorem merge {step : Step} {method : Method} {d : ModuleData} {ctx : Context}
    {asked asked' : List String} {r : StepResult} (h : d.IsSummed) (hmem : method ∈ step.methods)
    (hstep : step.execute method d ctx asked = (.ok r, asked')) : (d.merge r.output).IsSummed := by
  rcases Step.mapped_cases hmem hstep with ⟨-, hmerge⟩ | ⟨m, propose, hm, hmerge⟩ | hmerge
  · exact of_some (Mapped.isSummed_classify _) hmerge
  · exact of_some ((h m hm).grows (m.grows_resolve propose ctx.now)) hmerge
  · exact h.of_mapped hmerge

theorem follows {ctx : Context} {config : Config} {planned : List Step} {d : ModuleData}
    {asked : List String} {results : List StepResult} {ending : Ending} (h : d.IsSummed)
    (hfollows : Follows ctx config planned d asked results ending) : ending.data.IsSummed := by
  induction hfollows with
  | complete d asked => exact h
  | taken hmethod hstep hlater ih => exact ih (h.merge (Step.of_resolve hmethod).1 hstep)
  | failed later hmethod hstep => exact h

theorem runStep {name : String} {strategy : Option String} {d : ModuleData} {ctx : Context}
    {result : StepResult} {prompts : List String} (h : d.IsSummed)
    (hrun : runStep name strategy d ctx = (.ok result, prompts)) :
    (d.merge result.output).IsSummed := by
  unfold FormScript.runStep at hrun
  split at hrun
  · cases hrun
  · split at hrun
    · cases hrun
    · rename_i method hresolve
      exact h.merge (Step.of_resolve hresolve).1 hrun

theorem applied {r r' : ModuleRecord} {ctx : Context} {config : Config} {run : RunResult}
    {prompts : List String} (h : r.data.IsSummed)
    (hrun : runPipeline r.data ctx config = .ok (run, prompts)) (happly : r.apply? run = some r') :
    r'.data.IsSummed := by
  rcases ModuleRecord.mapped_of_applied happly with hran | hkept
  · exact (h.follows (follows_of_runPipeline hrun).2).of_mapped hran
  · exact h.of_mapped hkept

end ModuleData.IsSummed

/-- Actions that take nothing from outside but answers and replies. -/
def SessionAction.isWork : SessionAction → Bool
  | create _ _ | normalize _ | merge _ | apply _ => false
  | rename _ | fresh | run _ _ _ | step _ _ _ _ | recount | save | load => true

namespace Session

/-- What may be done in a session: runs and single steps with any agent and any answers, changes of
the record that keep to its data, and saving and loading. -/
inductive Works : Session → Session → Prop
  | ran {s s' : Session} {ctx : Context} {config : Config} {run : RunResult} {prompts : List String}
    (hrun : runPipeline s.record.data ctx config = .ok (run, prompts))
    (happly : s.applyRun run = .ok s') : Works s s'
  | stepped {s : Session} {name : String} {strategy : Option String} {ctx : Context}
    {result : StepResult} {prompts : List String}
    (hstep : runStep name strategy s.record.data ctx = (.ok result, prompts)) :
    Works s (s.withData (s.record.data.merge result.output))
  | renamed (s : Session) (name : String) : Works s (s.withRecord (s.record.rename name))
  | emptied (s : Session) : Works s (s.withRecord s.record.fresh)
  | recounted (s : Session) : Works s (s.withRecord s.record.recount)
  | saved (s : Session) : Works s { s with file := some (Store.save s.record).toUTF8 }
  | loaded {s : Session} {bytes : ByteArray} {r : ModuleRecord} (hfile : s.file = some bytes)
    (hload : Store.load bytes = .ok r) : Works s (s.withRecord r)

/-- Whatever such an action does is work. -/
theorem works_of_perform {s s' : Session} {now : Timestamp} {action : SessionAction}
    {report : SessionReport} (hwork : action.isWork = true)
    (h : s.perform now action = .ok (s', report)) : s.Works s' := by
  cases action with
  | create name source => contradiction
  | normalize v => contradiction
  | merge output => contradiction
  | apply run => contradiction
  | rename name =>
    cases h
    exact .renamed s name
  | fresh =>
    cases h
    exact .emptied s
  | recount =>
    cases h
    exact .recounted s
  | save =>
    cases h
    exact .saved s
  | load =>
    rw [perform] at h
    split at h
    · cases h
    · rename_i bytes hfile
      split at h
      · rename_i r hload
        cases h
        exact .loaded hfile hload
      · cases h
  | run config answers agent =>
    rw [perform] at h
    split at h
    · cases h
    · rename_i run prompts hrun
      obtain ⟨applied, happly, hreturn⟩ := exists_of_bind_ok h
      cases hreturn
      exact .ran hrun happly
  | step step strategy answers agent =>
    rw [perform] at h
    split at h
    · cases h
    · rename_i result prompts hstep
      cases h
      exact .stepped hstep

/-- The record has its summary, and so has any record that the file was made from. -/
structure IsSummed (s : Session) : Prop where
  record : s.record.data.IsSummed
  file : ∀ bytes ∈ s.file, ∃ r : ModuleRecord, bytes = (Store.save r).toUTF8 ∧ r.data.IsSummed

theorem IsSummed.works {s s' : Session} (h : s.IsSummed) (hworks : s.Works s') : s'.IsSummed := by
  cases hworks with
  | ran hrun happly =>
    unfold applyRun at happly
    split at happly
    · rename_i r happlied
      cases happly
      exact ⟨h.record.applied hrun happlied, h.file⟩
    · cases happly
  | stepped hstep => exact ⟨h.record.runStep hstep, h.file⟩
  | renamed name => exact ⟨h.record, h.file⟩
  | emptied => exact ⟨.of_none rfl, h.file⟩
  | recounted =>
    refine ⟨?_, h.file⟩
    intro m hm
    obtain ⟨n, -, rfl⟩ := Option.map_eq_some_iff.mp hm
    exact n.isSummed_recount
  | saved =>
    refine ⟨h.record, ?_⟩
    intro bytes hbytes
    cases hbytes
    exact ⟨s.record, rfl, h.record⟩
  | loaded hfile hload =>
    -- The file may be older than the record, but some record with its summary was saved in it.
    obtain ⟨r, rfl, hr⟩ := h.file _ hfile
    obtain ⟨rfl, -⟩ := Store.load_save_eq_ok_iff.mp hload
    exact ⟨hr, h.file⟩

/-- The sessions that come of a new record by any work. -/
inductive Reached (name source : String) : Session → Prop
  | new : Reached name source ⟨.new name source, none⟩
  | worked {s s' : Session} (h : Reached name source s) (hworks : s.Works s') :
    Reached name source s'

theorem Reached.isSummed {name source : String} {s : Session} (h : Reached name source s) :
    s.IsSummed := by
  induction h with
  | new => exact ⟨.of_none rfl, fun bytes hbytes => by contradiction⟩
  | worked h hworks ih => exact ih.works hworks

end Session

/-- Over whole sessions the summary says what the procedures say: building it anew changes nothing,
the counts add up, the list holds every gap in order, every gap has an id, and one of them is open
exactly if one is listed as open. -/
theorem summary_consistent {name source : String} {s : Session} {m : Mapped}
    (h : Session.Reached name source s) (hm : s.record.data.mapped = some m) :
    m.recount = m ∧
      m.stats.mechanical + m.stats.gap = m.stats.total ∧
      m.gaps = m.procedures.flatMap Procedure.entries ∧
      (∀ g ∈ m.gapNodes, g.id.isSome = true) ∧
      (m.hasOpenGaps = true ↔ m.openGaps ≠ []) := by
  have hsummed := h.isSummed.record m hm
  exact ⟨Mapped.recount_eq_self_iff.mpr hsummed, hsummed.mechanical_add_gap, hsummed.gaps,
    hsummed.ids, hsummed.hasOpenGaps_iff⟩

def busySource : String := "Private Sub Form_Load()\nDoCmd.Hourglass True\nEnd Sub\n"

theorem recognize_busySource : Source.recognize busySource = hourglass := by
  decide +kernel

def busySourced : ModuleRecord :=
  { busyAnswered with data := { busyAnswered.data with source := some busySource } }

theorem reached_busySourced :
    Session.Reached "orders" busySource ⟨busySourced, some (Store.save busySourced).toUTF8⟩ := by
  have hextract : runStep "extract" (some "mock") (.ofSource busySource) busyContext =
      (.ok ⟨.extract, .mock, .extracted hourglass, .zero⟩, []) := by
    rw [← recognize_busySource]
    rfl
  obtain ⟨run, prompts, hrun, happly⟩ : ∃ run prompts,
      runPipeline { source := some busySource, procedures := some hourglass } busyContext
        [("gap-questions", "skip"), ("generate", "mechanical")] = .ok (run, prompts) ∧
      Session.applyRun ⟨{ name := "orders", data :=
        { source := some busySource, procedures := some hourglass } }, none⟩ run =
        .ok ⟨busySourced, none⟩ :=
    ⟨_, _, rfl, rfl⟩
  have hfits : busySourced.data.Fits := ⟨fits_busyAnswered.mapped, fits_busyAnswered.generateStats⟩
  have hload : Store.load (Store.save busySourced).toUTF8 = .ok busySourced :=
    Store.load_save_eq_ok_iff.mpr ⟨rfl, hfits, by decide⟩
  exact .worked (.worked (.worked (.worked .new (.stepped hextract)) (.ran hrun happly))
    (.saved _)) (.loaded rfl hload)

theorem summary_consistent_busy :
    Session.Reached "orders" busySource ⟨busySourced, some (Store.save busySourced).toUTF8⟩ ∧
      busyTree.recount = busyTree ∧
      busyTree.stats.mechanical + busyTree.stats.gap = busyTree.stats.total ∧
      busyTree.gaps = busyTree.procedures.flatMap Procedure.entries ∧
      (∀ g ∈ busyTree.gapNodes, g.id.isSome = true) ∧
      (busyTree.hasOpenGaps = true ↔ busyTree.openGaps ≠ []) :=
  ⟨reached_busySourced, summary_consistent reached_busySourced rfl⟩

end FormScript
