import FormScript.Proofs.Mapped.Gaps
import FormScript.Proofs.Mapped.Nodes
import FormScript.Proofs.Run.StoredStatus

/-! Answering in instalments. Without an agent a run comes to data that can be written down: the
tree it starts with, answered as far as the answers go, and the script of that tree. From this form
it follows that two runs with some answers each come to what one run with all of them comes to, but
for the times at which the answers were attached. -/
namespace FormScript

namespace Emission

mutual

theorem intentLines_mapGapsIdx {f f' : Nat → Gap → Gap}
    (h : ∀ k g, gapLines (f k g) = gapLines (f' k g)) (position : Nat) (i : Intent) :
    intentLines (i.mapGapsIdx f position) = intentLines (i.mapGapsIdx f' position) := by
  match i with
  | .act _ _ => rfl
  | .gap g _ => exact h position g
  | .branch _ thenArm elseArm _ _ =>
    simp only [Intent.mapGapsIdx, intentLines]
    rw [intentsLines_mapGapsIdxOf h _ thenArm, intentsLines_mapGapsIdxOf h _ elseArm]

theorem intentsLines_mapGapsIdxOf {f f' : Nat → Gap → Gap}
    (h : ∀ k g, gapLines (f k g) = gapLines (f' k g)) (position : Nat) (is : List Intent) :
    intentsLines (Intent.mapGapsIdxOf f position is) =
      intentsLines (Intent.mapGapsIdxOf f' position is) := by
  match is with
  | [] => rfl
  | i :: rest =>
    simp only [Intent.mapGapsIdxOf, intentsLines]
    rw [intentLines_mapGapsIdx h _ i, intentsLines_mapGapsIdxOf h _ rest]

end

theorem map_procedureLines_mapGapsIdxOf {f f' : Nat → Gap → Gap}
    (h : ∀ k g, gapLines (f k g) = gapLines (f' k g)) (position : Nat) (ps : List Procedure) :
    (Procedure.mapGapsIdxOf f position ps).map procedureLines =
      (Procedure.mapGapsIdxOf f' position ps).map procedureLines := by
  induction ps generalizing position with
  | nil => rfl
  | cons p rest ih =>
    simp only [Procedure.mapGapsIdxOf, List.map_cons, ih, procedureLines,
      intentsLines_mapGapsIdxOf h]
    rfl

theorem actionCountOf_flatMap_mapGapsIdxOf (f : Nat → Gap → Gap) (position : Nat)
    (ps : List Procedure) :
    actionCountOf ((Procedure.mapGapsIdxOf f position ps).flatMap Procedure.intents) =
      actionCountOf (ps.flatMap Procedure.intents) := by
  induction ps generalizing position with
  | nil => rfl
  | cons p rest ih =>
    have hp : actionCountOf (Intent.mapGapsIdxOf f position p.intents) =
        actionCountOf p.intents := by
      rw [Intent.actionCountOf_eq, Intent.rolesOf_mapGapsIdxOf, Intent.actionCountOf_eq]
    rw [Procedure.mapGapsIdxOf, List.flatMap_cons, List.flatMap_cons, actionCountOf_append,
      actionCountOf_append, ih, hp]

/-- A script shows nothing of a gap but its lines. -/
theorem generate_mapGapsIdx {f f' : Nat → Gap → Gap}
    (h : ∀ k g, gapLines (f k g) = gapLines (f' k g)) (m : Mapped) (name : String) :
    generate (m.mapGapsIdx f) name = generate (m.mapGapsIdx f') name := by
  have hempty (f : Nat → Gap → Gap) :
      (m.mapGapsIdx f).procedures.isEmpty = m.procedures.isEmpty := by
    cases hps : m.procedures <;> simp [Mapped.mapGapsIdx, Procedure.mapGapsIdxOf, hps]
  have hsections : sections (m.mapGapsIdx f) name = sections (m.mapGapsIdx f') name := by
    simp only [sections, hempty]
    rw [Mapped.mapGapsIdx, Mapped.mapGapsIdx, map_procedureLines_mapGapsIdxOf h]
  simp only [generate, hsections, Mapped.gapNodes_mapGapsIdx, List.length_mapIdx]
  simp only [Mapped.mapGapsIdx, Procedure.length_mapGapsIdxOf, actionCountOf_flatMap_mapGapsIdxOf]

end Emission

def offline : Config :=
  [("extract", "mock"), ("gap-questions", "skip"), ("resolve-gaps", "auto"),
    ("generate", "mechanical")]

def offlinePlan : List (Step × Method) :=
  [(.extract, .recognizeProcedures), (.map, .classifyIntents), (.gapQuestions, .noQuestions),
    (.resolveGaps, .answerGaps), (.generate, .emitScript)]

theorem runPipeline_offline (d : ModuleData) (ctx : Context) :
    runPipeline d ctx offline = .ok (runPlan ctx [] d [] offlinePlan) :=
  rfl

namespace ModuleData

def knownProcedures (d : ModuleData) : Option (List Procedure) :=
  if d.mapped.isSome then d.procedures else d.procedures.or (d.source.map Source.recognize)

/-- The mapped procedures that a run without an agent answers gaps in. -/
def tree (d : ModuleData) : Mapped :=
  d.mapped.getD (.classify (d.knownProcedures.getD []))

/-- What a run without an agent ends with, once the answers are attached to the tree. -/
def withTree (d : ModuleData) (name : String) (m : Mapped) : ModuleData where
  source := d.source
  procedures := d.knownProcedures
  mapped := some m
  questions := if d.tree.countsGaps || d.tree.hasOpenGaps then some [] else d.questions
  generatedSource := some (Emission.generate m name).source
  generateStats := some (Emission.generate m name).stats

def CanStart (d : ModuleData) : Prop :=
  d.source ≠ none ∨ d.procedures ≠ none ∨ d.mapped ≠ none

end ModuleData

def Context.attach (ctx : Context) (m : Mapped) : Mapped :=
  m.resolve (propose? ctx.answers []) ctx.now

def Ends (out : RunResult × List String) (e : ModuleData) : Prop :=
  out.1.status = .complete ∧ out.1.data = e

section Offline

variable {ctx : Context} {results : List StepResult} {asked : List String} {d : ModuleData}

theorem runPlan_taken {step : Step} {method : Method} {output : StepOutput}
    (hneeded : step.isNeeded d = true) (h : method.perform d ctx asked = (.ok output, asked))
    (rest : List (Step × Method)) :
    runPlan ctx results d asked ((step, method) :: rest) =
      runPlan ctx (results ++ [⟨step, method.strategy, output, ctx.took step⟩]) (d.merge output)
        asked rest := by
  simp only [runPlan, hneeded, if_true, Step.execute, h]

theorem ends_generate {m : Mapped} (hm : d.mapped = some m) :
    Ends (runPlan ctx results d asked [(.generate, .emitScript)])
      (d.merge (Emission.generate m ctx.moduleName).output) := by
  have hperform : Method.emitScript.perform d ctx asked =
      (.ok (Emission.generate m ctx.moduleName).output, asked) := by
    simp only [Method.perform, Method.start, ModuleData.mappedOf, hm]
    rfl
  rw [runPlan_taken rfl hperform]
  exact ⟨rfl, rfl⟩

theorem ends_resolve {m : Mapped} (hm : d.mapped = some m) (hquestions : d.questions = some [])
    (hneeded : Step.isNeeded d .resolveGaps = true) :
    Ends (runPlan ctx results d asked [(.resolveGaps, .answerGaps), (.generate, .emitScript)])
      ({ d with mapped := some (ctx.attach m) }.merge
        (Emission.generate (ctx.attach m) ctx.moduleName).output) := by
  have hperform : Method.answerGaps.perform d ctx asked = (.ok (answered d ctx m), asked) := by
    simp only [Method.perform, Method.start, ModuleData.mappedOf, hm]
    rfl
  have hmerge : d.merge (answered d ctx m) = { d with mapped := some (ctx.attach m) } := by
    rw [ModuleData.merge_answered hm, Context.attach, Context.proposals, hquestions,
      Option.getD_some]
  rw [runPlan_taken hneeded hperform, hmerge]
  exact ends_generate rfl

theorem ends_gaps {m : Mapped} (hm : d.mapped = some m) :
    Ends (runPlan ctx results d asked [(.gapQuestions, .noQuestions), (.resolveGaps, .answerGaps),
      (.generate, .emitScript)]) (d.withTree ctx.moduleName (ctx.attach m)) := by
  have htree : d.tree = m := by simp [ModuleData.tree, hm]
  have hknown : d.knownProcedures = d.procedures := by simp [ModuleData.knownProcedures, hm]
  have hiff : Step.isNeeded d .gapQuestions = (m.countsGaps || m.hasOpenGaps) := by
    simp [Step.isNeeded, hm]
  unfold ModuleData.withTree
  rw [htree, hknown, ← hiff]
  cases hneeded : Step.isNeeded d .gapQuestions with
  | true =>
    have hperform : Method.noQuestions.perform d ctx asked = (.ok (.questions []), asked) := rfl
    rw [runPlan_taken hneeded hperform]
    exact ends_resolve hm rfl hneeded
  | false =>
    have hskip : Step.isNeeded d .resolveGaps = false := hneeded
    have hclosed : m.hasOpenGaps = false := (Bool.or_eq_false_iff.mp (hiff.symm.trans hneeded)).2
    have hsame : ctx.attach m = m :=
      Mapped.resolve_eq_self (Mapped.canResolve_eq_false hclosed _) ctx.now
    rw [runPlan_skipped hneeded, runPlan_skipped hskip, hsame, ← hm]
    exact ends_generate hm

theorem ends_map (h : d.procedures ≠ none ∨ d.mapped ≠ none) :
    Ends (runPlan ctx results d asked [(.map, .classifyIntents), (.gapQuestions, .noQuestions),
      (.resolveGaps, .answerGaps), (.generate, .emitScript)])
      (d.withTree ctx.moduleName (ctx.attach d.tree)) := by
  cases hm : d.mapped with
  | some m =>
    have hskip : Step.isNeeded d .map = false := by simp [Step.isNeeded, hm]
    have htree : d.tree = m := by simp [ModuleData.tree, hm]
    rw [runPlan_skipped hskip, htree]
    exact ends_gaps hm
  | none =>
    obtain ⟨ps, hps⟩ : ∃ ps, d.procedures = some ps := by
      simpa [hm, Option.ne_none_iff_exists'] using h
    have hneeded : Step.isNeeded d .map = true := by simp [Step.isNeeded, hm]
    have hperform : Method.classifyIntents.perform d ctx asked =
        (.ok (.mapped (.classify ps)), asked) := by
      simp [Method.perform, Method.start, hps]
    have hsame : d.withTree ctx.moduleName (ctx.attach d.tree) =
        (d.merge (.mapped (.classify ps))).withTree ctx.moduleName (ctx.attach (.classify ps)) := by
      simp [ModuleData.withTree, ModuleData.tree, ModuleData.knownProcedures, ModuleData.merge, hm,
        hps]
    rw [runPlan_taken hneeded hperform, hsame]
    exact ends_gaps rfl

theorem ends_all (h : d.CanStart) :
    Ends (runPlan ctx results d asked offlinePlan)
      (d.withTree ctx.moduleName (ctx.attach d.tree)) := by
  unfold offlinePlan
  by_cases hknown : d.procedures ≠ none ∨ d.mapped ≠ none
  · have hskip : Step.isNeeded d .extract = false := by
      simpa [Step.isNeeded, Option.isSome_iff_ne_none, Decidable.imp_iff_not_or] using hknown
    rw [runPlan_skipped hskip]
    exact ends_map hknown
  · obtain ⟨hprocedures, hmapped⟩ : d.procedures = none ∧ d.mapped = none := by
      simpa using hknown
    obtain ⟨source, hsource⟩ : ∃ s, d.source = some s := by
      simpa [ModuleData.CanStart, hprocedures, hmapped, Option.ne_none_iff_exists'] using h
    have hneeded : Step.isNeeded d .extract = true := by
      simp [Step.isNeeded, hprocedures, hmapped]
    have hperform : Method.recognizeProcedures.perform d ctx asked =
        (.ok (.extracted (Source.recognize source)), asked) := by
      simp only [Method.perform, Method.start, ModuleData.sourceOf, hsource]
      rfl
    let extracted := d.merge (.extracted (Source.recognize source))
    have hsame : d.withTree ctx.moduleName (ctx.attach d.tree) =
        extracted.withTree ctx.moduleName (ctx.attach extracted.tree) := by
      simp [extracted, ModuleData.withTree, ModuleData.tree, ModuleData.knownProcedures,
        ModuleData.merge, hprocedures, hmapped, hsource]
    rw [runPlan_taken hneeded hperform, hsame]
    exact ends_map (Or.inl (by simp [ModuleData.merge]))

end Offline

/-- A run without an agent completes with these data. -/
def Completes (ctx : Context) (d e : ModuleData) : Prop :=
  ∃ run prompts, runPipeline d ctx offline = .ok (run, prompts) ∧ run.status = .complete ∧
    run.data = e

/-- Such a run completes wherever there is something to begin with. -/
theorem completes_iff {ctx : Context} {d e : ModuleData} :
    Completes ctx d e ↔ d.CanStart ∧ e = d.withTree ctx.moduleName (ctx.attach d.tree) := by
  constructor
  · rintro ⟨run, prompts, h, hcomplete, rfl⟩
    rw [runPipeline_offline, Except.ok.injEq] at h
    by_cases hstart : d.CanStart
    · have hends : Ends (run, prompts) _ := h ▸ ends_all hstart
      exact ⟨hstart, hends.2⟩
    · obtain ⟨hsource, hprocedures, hmapped⟩ :
          d.source = none ∧ d.procedures = none ∧ d.mapped = none := by
        simpa [ModuleData.CanStart, not_or] using hstart
      have hneeded : Step.isNeeded d .extract = true := by
        simp [Step.isNeeded, hprocedures, hmapped]
      have hperform : Method.recognizeProcedures.perform d ctx [] =
          (.error (.missingInput .source), []) := by
        simp only [Method.perform, Method.start, ModuleData.sourceOf, hsource]
        rfl
      rw [offlinePlan, runPlan, if_pos hneeded] at h
      simp only [Step.execute, hperform, Prod.mk.injEq] at h
      rw [← h.1] at hcomplete
      contradiction
  · rintro ⟨hstart, rfl⟩
    exact ⟨_, _, runPipeline_offline d ctx, ends_all hstart⟩

def Answers.union (a b : Answers) : Answers :=
  a ++ b.filter fun entry => (a.lookup entry.1).isNone

theorem Answers.lookup_union (a b : Answers) (id : String) :
    (a.union b).lookup id = (a.lookup id).or (b.lookup id) := by
  rw [union, List.lookup_append]
  cases ha : a.lookup id with
  | some answer => rfl
  | none =>
    simp only [Option.none_or]
    induction b with
    | nil => rfl
    | cons entry rest ih =>
      obtain ⟨key, answer⟩ := entry
      by_cases hkey : id = key
      · subst hkey
        simp [ha]
      · have hbeq : (id == key) = false := beq_eq_false_iff_ne.mpr hkey
        rw [List.filter_cons, List.lookup_cons, hbeq]
        split
        · rw [List.lookup_cons, hbeq]
          exact ih
        · exact ih

namespace Gap

/-- Two gaps that come of one: the same, or answered alike where it was open, though perhaps not at
the same time. -/
def SameAnswer (g a b : Gap) : Prop :=
  a = b ∨ g.isOpen = true ∧ ∃ r t, a = { g with resolution := some r } ∧
    b = { g with resolution := some { r with resolvedAt := t } }

theorem sameAnswer_resolve (propose : String → Option Proposal) (t t' : Timestamp) (g : Gap) :
    g.SameAnswer (g.resolve propose t) (g.resolve propose t') := by
  unfold resolve
  split
  · rename_i p hp
    by_cases hopen : g.isOpen = true
    · exact Or.inr ⟨hopen, _, t', rfl, rfl⟩
    · simp [proposal?, hopen] at hp
  · exact Or.inl rfl

theorem gapLines_of_sameAnswer {g a b : Gap} (h : g.SameAnswer a b) :
    Emission.gapLines a = Emission.gapLines b := by
  rcases h with rfl | ⟨-, r, t, rfl, rfl⟩
  · rfl
  · rfl

theorem resolve_congr {propose propose' : String → Option Proposal} {g : Gap}
    (h : g.proposal? propose = g.proposal? propose') (t : Timestamp) :
    g.resolve propose t = g.resolve propose' t := by
  simp only [resolve, h]

theorem proposal?_union {a b u : Answers}
    (hu : ∀ id, u.lookup id = (a.lookup id).or (b.lookup id)) (g : Gap) :
    g.proposal? (propose? u []) =
      (g.proposal? (propose? a [])).or (g.proposal? (propose? b [])) := by
  by_cases hopen : g.isOpen = true
  · cases hid : g.id with
    | none => simp [proposal?, hid]
    | some id =>
      simp only [proposal?, hopen, if_true, hid, Option.bind_some, propose?_eq, hu id]
      cases a.lookup id <;> rfl
  · simp [proposal?, hopen]

theorem resolve_resolve {a b u : Answers}
    (hu : ∀ id, u.lookup id = (a.lookup id).or (b.lookup id)) (t t' : Timestamp) (g : Gap) :
    ∃ t'', (g.resolve (propose? a []) t).resolve (propose? b []) t' =
      g.resolve (propose? u []) t'' := by
  have hunion := proposal?_union hu g
  cases hfirst : g.proposal? (propose? a []) with
  | none =>
    refine ⟨t', ?_⟩
    rw [hfirst, Option.none_or] at hunion
    rw [resolve_of_proposal hfirst, resolve_congr hunion]
  | some p =>
    refine ⟨t, ?_⟩
    rw [hfirst, Option.some_or, ← hfirst] at hunion
    rw [resolve_congr hunion, resolve_of_proposal]
    have hclosed : (g.resolve (propose? a []) t).isOpen = false := by
      simp only [resolve, hfirst, isOpen]
      rfl
    simp [proposal?, hclosed]

theorem proposal?_resolve (propose : String → Option Proposal) (t : Timestamp) (g : Gap) :
    (g.resolve propose t).proposal? propose = none := by
  unfold resolve
  split
  · simp [proposal?, isOpen]
  · assumption

end Gap

namespace Mapped

/-- Two trees that come of one: the same but for answers to its open gaps, and these the same but
for their times. -/
structure SameAnswers (m a b : Mapped) : Prop where
  gaps : List.Forall₂ (fun g pair => g.SameAnswer pair.1 pair.2) m.gapNodes
    (a.gapNodes.zip b.gapNodes)
  left : a.mapGaps Gap.withoutAnswer = m.mapGaps Gap.withoutAnswer
  right : b.mapGaps Gap.withoutAnswer = m.mapGaps Gap.withoutAnswer

theorem sameAnswers_mapGapsIdx {f f' : Nat → Gap → Gap} {propose : String → Option Proposal}
    (h : ∀ k (g : Gap), ∃ t t', f k g = g.resolve propose t ∧ f' k g = g.resolve propose t')
    (m : Mapped) : m.SameAnswers (m.mapGapsIdx f) (m.mapGapsIdx f') where
  gaps := by
    have hzip : (m.gapNodes.mapIdx f).zip (m.gapNodes.mapIdx f') =
        m.gapNodes.mapIdx fun k g => (f k g, f' k g) := by
      apply List.ext_getElem <;> simp
    rw [gapNodes_mapGapsIdx, gapNodes_mapGapsIdx, hzip]
    apply Gap.forall₂_mapIdx
    intro k g
    obtain ⟨t, t', hf, hf'⟩ := h k g
    rw [hf, hf']
    exact g.sameAnswer_resolve propose t t'
  left := by
    apply mapGaps_mapGapsIdx
    intro k g
    obtain ⟨t, -, hf, -⟩ := h k g
    rw [hf, Gap.withoutAnswer_resolve]
  right := by
    apply mapGaps_mapGapsIdx
    intro k g
    obtain ⟨-, t', -, hf'⟩ := h k g
    rw [hf', Gap.withoutAnswer_resolve]

end Mapped

namespace ModuleData

/-- The same data, but for the times at which gaps of `m` that were open have been answered. -/
def SameButTimes (m : Mapped) (d e : ModuleData) : Prop :=
  ∃ a b, d.mapped = some a ∧ e.mapped = some b ∧ m.SameAnswers a b ∧
    d = { e with mapped := d.mapped }

theorem sameButTimes_withTree (d : ModuleData) (name : String) {f f' : Nat → Gap → Gap}
    {propose : String → Option Proposal}
    (h : ∀ k (g : Gap), ∃ t t', f k g = g.resolve propose t ∧ f' k g = g.resolve propose t')
    (m : Mapped) :
    SameButTimes m (d.withTree name (m.mapGapsIdx f)) (d.withTree name (m.mapGapsIdx f')) := by
  refine ⟨_, _, rfl, rfl, Mapped.sameAnswers_mapGapsIdx h m, ?_⟩
  have hlines (k : Nat) (g : Gap) : Emission.gapLines (f k g) = Emission.gapLines (f' k g) := by
    obtain ⟨t, t', hf, hf'⟩ := h k g
    rw [hf, hf']
    exact Gap.gapLines_of_sameAnswer (g.sameAnswer_resolve propose t t')
  have hscript := Emission.generate_mapGapsIdx hlines m name
  simp only [withTree, hscript]

/-- A later run finds the answered tree in place of its own, and has the same questions to ask. -/
theorem withTree_withTree (d : ModuleData) (name : String) (ctx : Context) (m : Mapped) :
    (d.withTree name (ctx.attach d.tree)).withTree name m = d.withTree name m := by
  have hneeded : ((ctx.attach d.tree).countsGaps || (ctx.attach d.tree).hasOpenGaps) = true →
      (d.tree.countsGaps || d.tree.hasOpenGaps) = true := by
    intro h
    rcases Bool.or_eq_true_iff.mp h with hcounts | hopen
    · exact Bool.or_eq_true_iff.mpr (Or.inl hcounts)
    · exact Bool.or_eq_true_iff.mpr (Or.inr (Mapped.hasOpenGaps_of_resolve hopen))
  have hquestions : ((d.withTree name (ctx.attach d.tree)).withTree name m).questions =
      (d.withTree name m).questions := by
    change (if ((ctx.attach d.tree).countsGaps || (ctx.attach d.tree).hasOpenGaps) = true
      then some [] else (d.withTree name m).questions) = _
    split
    · rename_i h
      exact (if_pos (hneeded h)).symm
    · rfl
  calc (d.withTree name (ctx.attach d.tree)).withTree name m
      = { d.withTree name m with
          questions := ((d.withTree name (ctx.attach d.tree)).withTree name m).questions } := rfl
    _ = d.withTree name m := by rw [hquestions]

theorem canStart_withTree (d : ModuleData) (name : String) (m : Mapped) :
    (d.withTree name m).CanStart :=
  Or.inr (Or.inr (Option.some_ne_none m))

end ModuleData

/-- A run for the module of this name, given these answers at whatever time. -/
structure Context.IsFor (ctx : Context) (name : String) (answers : Answers) : Prop where
  name_eq : ctx.moduleName = name
  answers_eq : ctx.answers = answers

namespace Context.IsFor

variable {ctx later once again first second : Context} {name : String} {a b : Answers}

theorem attach_eq (h : ctx.IsFor name a) (m : Mapped) :
    ctx.attach m = m.mapGapsIdx fun k => .resolve (propose? a []) (ctx.now.time k) := by
  rw [attach, h.answers_eq, Mapped.resolve_eq]

theorem completes (h : ctx.IsFor name a) {d : ModuleData} (hstart : d.CanStart) :
    Completes ctx d (d.withTree name (ctx.attach d.tree)) :=
  completes_iff.mpr ⟨hstart, by rw [h.name_eq]⟩

theorem completes_later (h : later.IsFor name b) (d : ModuleData) (ctx : Context) :
    Completes later (d.withTree name (ctx.attach d.tree))
      (d.withTree name (later.attach (ctx.attach d.tree))) := by
  have hcompletes := h.completes (d.canStart_withTree name (ctx.attach d.tree))
  rwa [ModuleData.withTree_withTree] at hcompletes

theorem attach_again (h : ctx.IsFor name a) (hagain : again.IsFor name a) (m : Mapped) :
    again.attach (ctx.attach m) = ctx.attach m := by
  rw [h.attach_eq, hagain.attach_eq, Mapped.mapGapsIdx_mapGapsIdx]
  congr 1
  funext k g
  exact Gap.resolve_of_proposal (g.proposal?_resolve _ (ctx.now.time k)) (again.now.time k)

theorem sameButTimes_once (h : ctx.IsFor name a) (hlater : later.IsFor name b)
    (honce : once.IsFor name (a.union b)) (d : ModuleData) :
    (d.withTree name (later.attach (ctx.attach d.tree))).SameButTimes d.tree
      (d.withTree name (once.attach d.tree)) := by
  rw [h.attach_eq, hlater.attach_eq, honce.attach_eq, Mapped.mapGapsIdx_mapGapsIdx]
  apply ModuleData.sameButTimes_withTree
  intro k g
  obtain ⟨t, ht⟩ :=
    g.resolve_resolve (Answers.lookup_union a b) (ctx.now.time k) (later.now.time k)
  exact ⟨t, once.now.time k, ht, rfl⟩

theorem sameButTimes_swapped (h : ctx.IsFor name a) (hlater : later.IsFor name b)
    (hfirst : first.IsFor name b) (hsecond : second.IsFor name a)
    (hapart : ∀ id, a.lookup id = none ∨ b.lookup id = none) (d : ModuleData) :
    (d.withTree name (later.attach (ctx.attach d.tree))).SameButTimes d.tree
      (d.withTree name (second.attach (first.attach d.tree))) := by
  have hswap : ∀ id, (a.union b).lookup id = (b.lookup id).or (a.lookup id) := by
    intro id
    rw [Answers.lookup_union]
    rcases hapart id with hnone | hnone <;> simp [hnone]
  rw [h.attach_eq, hlater.attach_eq, hfirst.attach_eq, hsecond.attach_eq,
    Mapped.mapGapsIdx_mapGapsIdx, Mapped.mapGapsIdx_mapGapsIdx]
  apply ModuleData.sameButTimes_withTree
  intro k g
  obtain ⟨t, ht⟩ :=
    g.resolve_resolve (Answers.lookup_union a b) (ctx.now.time k) (later.now.time k)
  obtain ⟨t', ht'⟩ := g.resolve_resolve hswap (first.now.time k) (second.now.time k)
  exact ⟨t, t', ht, ht'⟩

end Context.IsFor

/-- Answers in two instalments come to what they come to at once; answers that have been given
change nothing any more; and of answers about different gaps either part may come first. -/
theorem answering_in_instalments {name : String} {a b : Answers} {d d' : ModuleData} {ctx : Context}
    (hctx : ctx.IsFor name a) (h : Completes ctx d d') :
    (∀ later once : Context, later.IsFor name b → once.IsFor name (a.union b) →
      ∃ e e', Completes later d' e ∧ Completes once d e' ∧ e.SameButTimes d.tree e') ∧
    (∀ again : Context, again.IsFor name a → Completes again d' d') ∧
    ((∀ id, a.lookup id = none ∨ b.lookup id = none) →
      ∀ later first second : Context, later.IsFor name b → first.IsFor name b →
        second.IsFor name a →
      ∃ e e' e'', Completes later d' e ∧ Completes first d e' ∧ Completes second e' e'' ∧
        e.SameButTimes d.tree e'') := by
  obtain ⟨hstart, rfl⟩ := completes_iff.mp h
  rw [hctx.name_eq]
  refine ⟨?_, ?_, ?_⟩
  · intro later once hlater honce
    exact ⟨_, _, hlater.completes_later d ctx, honce.completes hstart,
      hctx.sameButTimes_once hlater honce d⟩
  · intro again hagain
    have hcompletes := hagain.completes_later d ctx
    rwa [hctx.attach_again hagain] at hcompletes
  · intro hapart later first second hlater hfirst hsecond
    exact ⟨_, _, _, hlater.completes_later d ctx, hfirst.completes hstart,
      hsecond.completes_later d first, hctx.sameButTimes_swapped hlater hfirst hsecond hapart d⟩

def ordersContext (answers : Answers) : Context where
  moduleName := "orders"
  agent := none
  answers := answers
  now := ⟨fun _ => ⟨2024, 2, 29, 0, 0, 0, 0, rfl, rfl⟩⟩

def cursorAnswer : Answers := [("Form_Load:0", "show a busy cursor")]

def exportAnswer : Answers := [("btnExport_Click:0", "download the rows")]

def ordersData : ModuleData where
  procedures := some (hourglass ++ [⟨"btnExport_Click", "click", [.openGap "Export" "no mapping"]⟩])

def ordersAnswered : ModuleData :=
  ordersData.withTree "orders" ((ordersContext cursorAnswer).attach ordersData.tree)

theorem answering_in_instalments_orders :
    Completes (ordersContext cursorAnswer) ordersData ordersAnswered ∧
      ∃ e e', Completes (ordersContext exportAnswer) ordersAnswered e ∧
        Completes (ordersContext (cursorAnswer.union exportAnswer)) ordersData e' ∧
        e.SameButTimes ordersData.tree e' := by
  have hfirst : Completes (ordersContext cursorAnswer) ordersData ordersAnswered :=
    ⟨_, _, rfl, rfl, rfl⟩
  have hboth := answering_in_instalments (b := exportAnswer) ⟨rfl, rfl⟩ hfirst
  exact ⟨hfirst, hboth.1 _ _ ⟨rfl, rfl⟩ ⟨rfl, rfl⟩⟩

end FormScript
