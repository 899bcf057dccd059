import FormScript.Proofs.Run.AnswersKept
import Mathlib.Data.List.Forall2

/-! What answering attaches. Of the answers that a gap could get, the caller's own comes first and
the last suggestion that is not blank comes next; a gap that has an answer keeps it, and one without
an id gets none. A step that answers says so exactly if it has answered a gap, so that the data take
its tree over when there is something new in it. -/
namespace FormScript

namespace Gap

/-- What becomes of a gap, given the caller's answers and the questions with their suggestions. -/
inductive Answered (a : Answers) (qs : List GapQuestion) (t : Timestamp) : Gap → Gap → Prop
  | kept {g : Gap} {r : Resolution} (hanswer : g.resolution = some r) : Answered a qs t g g
  | byCaller {g : Gap} {id answer : String} (hopen : g.resolution = none) (hid : g.id = some id)
    (hanswer : a.lookup id = some answer) :
    Answered a qs t g { g with resolution := some ⟨answer, "user", t⟩ }
  | bySuggestion {g : Gap} {id answer : String} (hopen : g.resolution = none)
    (hid : g.id = some id) (hcaller : a.lookup id = none)
    (hanswer : IsLastSuggestion qs id answer) :
    Answered a qs t g { g with resolution := some ⟨answer, "auto", t⟩ }
  | unknown {g : Gap} {id : String} (hopen : g.resolution = none) (hid : g.id = some id)
    (hcaller : a.lookup id = none) (hnone : ∀ q ∈ qs, ∀ answer, ¬ q.Suggests id answer) :
    Answered a qs t g g
  | nameless {g : Gap} (hopen : g.resolution = none) (hid : g.id = none) : Answered a qs t g g

theorem proposal?_of_open {g : Gap} {id : String} (hopen : g.resolution = none)
    (hid : g.id = some id) (propose : String → Option Proposal) :
    g.proposal? propose = propose id := by
  simp [proposal?, isOpen, hopen, hid]

theorem answered_resolve (answers : Answers) (questions : List GapQuestion) (now : Timestamp)
    (g : Gap) : g.Answered answers questions now (g.resolve (propose? answers questions) now) := by
  cases hanswer : g.resolution with
  | some r =>
    have hnone : g.proposal? (propose? answers questions) = none := by
      simp [proposal?, isOpen, hanswer]
    rw [resolve_of_proposal hnone]
    exact .kept hanswer
  | none =>
    cases hid : g.id with
    | none =>
      have hnone : g.proposal? (propose? answers questions) = none := by simp [proposal?, hid]
      rw [resolve_of_proposal hnone]
      exact .nameless hanswer hid
    | some id =>
      have hpropose := proposal?_of_open hanswer hid (propose? answers questions)
      rw [propose?_eq] at hpropose
      cases hcaller : answers.lookup id with
      | some answer =>
        rw [hcaller] at hpropose
        rw [resolve, hpropose]
        exact .byCaller hanswer hid hcaller
      | none =>
        rw [hcaller] at hpropose
        cases hsuggested : suggested? questions id with
        | some answer =>
          rw [hsuggested] at hpropose
          rw [resolve, hpropose]
          exact .bySuggestion hanswer hid hcaller (suggested?_eq_some_iff.mp hsuggested)
        | none =>
          rw [hsuggested] at hpropose
          rw [resolve_of_proposal hpropose]
          exact .unknown hanswer hid hcaller (suggested?_eq_none_iff.mp hsuggested)

theorem isSome_proposal?_iff (propose : String → Option Proposal) (now : Timestamp) (g : Gap) :
    (g.proposal? propose).isSome = true ↔
      g.isOpen = true ∧ (g.resolve propose now).isOpen = false := by
  cases hproposal : g.proposal? propose with
  | none => simp [resolve_of_proposal hproposal]
  | some p =>
    have hopen : g.isOpen = true := by
      by_contra hclosed
      simp [proposal?, hclosed] at hproposal
    have hclosed : (g.resolve propose now).isOpen = false := by
      simp [resolve, hproposal, isOpen]
    simp [hopen, hclosed]

end Gap

/-- The tree `m'` is `m` with the answers that there are, and `changed` says whether it has got
any. -/
structure Attached (d : ModuleData) (ctx : Context) (m m' : Mapped) (changed : Bool) : Prop where
  gaps : List.Forall₂ (fun place => place.1.Answered ctx.answers (d.questions.getD [])
    (ctx.now.time place.2)) m.gapNodes.zipIdx m'.gapNodes
  rest : m'.mapGaps Gap.withoutAnswer = m.mapGaps Gap.withoutAnswer
  changed_iff : changed = true ↔
    ∃ pair ∈ m.gapNodes.zip m'.gapNodes, pair.1.isOpen = true ∧ pair.2.isOpen = false
  unchanged : changed = false → m' = m
  merged : d.merge (.resolved m' changed) = { d with mapped := some m' }

theorem Mapped.canResolve_iff (propose : String → Option Proposal) (now : Clock) (m : Mapped) :
    m.canResolve propose = true ↔
      ∃ pair ∈ m.gapNodes.zip (m.resolve propose now).gapNodes,
        pair.1.isOpen = true ∧ pair.2.isOpen = false := by
  have hzip : m.gapNodes.zip (m.resolve propose now).gapNodes =
      m.gapNodes.mapIdx fun k g => (g, g.resolve propose (now.time k)) := by
    rw [resolve_eq, gapNodes_mapGapsIdx]
    apply List.ext_getElem <;> simp
  rw [hzip, canResolve, List.any_eq_true]
  constructor
  · rintro ⟨g, hg, hproposal⟩
    obtain ⟨k, hk, rfl⟩ := List.mem_iff_getElem.mp hg
    exact ⟨_, List.mem_mapIdx.mpr ⟨k, hk, rfl⟩, (Gap.isSome_proposal?_iff ..).mp hproposal⟩
  · rintro ⟨_, hpair, hanswered⟩
    obtain ⟨k, hk, rfl⟩ := List.mem_mapIdx.mp hpair
    exact ⟨_, List.getElem_mem hk, (Gap.isSome_proposal?_iff ..).mpr hanswered⟩

theorem attached_resolve {d : ModuleData} {m : Mapped} (hm : d.mapped = some m) (ctx : Context) :
    Attached d ctx m (m.resolve (ctx.proposals d) ctx.now) (m.canResolve (ctx.proposals d)) where
  gaps := by
    rw [Mapped.resolve_eq, Mapped.gapNodes_mapGapsIdx, List.mapIdx_eq_zipIdx_map,
      List.forall₂_map_right_iff, List.forall₂_same]
    intro place _
    exact place.1.answered_resolve ctx.answers _ (ctx.now.time place.2)
  rest := (m.grows_resolve _ ctx.now).rest
  changed_iff := m.canResolve_iff _ ctx.now
  unchanged hnone := Mapped.resolve_eq_self hnone ctx.now
  merged := by rw [← answered_eq, ModuleData.merge_answered hm]

/-- Answering the gaps of mapped procedures always succeeds and attaches the answers that there are,
to the gaps that they are for and to nothing else. -/
theorem answers_attached {d : ModuleData} {m : Mapped} (hm : d.mapped = some m) (ctx : Context) :
    ∃ (m' : Mapped) (changed : Bool),
      runStep "resolve-gaps" (some "auto") d ctx =
        (.ok ⟨.resolveGaps, .auto, .resolved m' changed, ctx.took .resolveGaps⟩, []) ∧
      Attached d ctx m m' changed := by
  refine ⟨_, _, ?_, attached_resolve hm ctx⟩
  rw [← answered_eq]
  change Step.execute .resolveGaps .answerGaps d ctx [] = _
  simp only [Step.execute, Method.perform, Method.start, ModuleData.mappedOf, hm]
  rfl

/-- Three gaps, and guesses at two of them: one that the caller knows better, and several of which
the last is blank. -/
def guessedTree : Mapped :=
  .classify [⟨"Form_Load", "load",
    [.openGap "DoCmd.Hourglass True" "no mapping",
      .branch .newRecord [.openGap "Call Audit" "no mapping"] [.openGap "Beep" "no mapping"]
        none none]⟩]

def guessedData : ModuleData where
  mapped := some guessedTree
  questions := some
    [⟨"Form_Load", "Form_Load:1", "What is audited?", some "log the record"⟩,
      ⟨"Form_Load", "Form_Load:0", "What is shown?", some "nothing"⟩,
      ⟨"Form_Load", "Form_Load:1", "And then?", some "log the user"⟩,
      ⟨"Form_Load", "Form_Load:1", "Anything else?", some " "⟩]

theorem answers_attached_guessed :
    guessedData.mapped = some guessedTree ∧
    ∃ (m' : Mapped) (changed : Bool),
      (runStep "resolve-gaps" (some "auto") guessedData (ordersContext cursorAnswer)).1 =
        .ok ⟨.resolveGaps, .auto, .resolved m' changed, .zero⟩ ∧
      Attached guessedData (ordersContext cursorAnswer) guessedTree m' changed ∧
      m'.gapNodes.map (·.resolution.map fun r => (r.answer, r.resolvedBy)) =
        [some ("show a busy cursor", "user"), some ("log the user", "auto"), none] := by
  refine ⟨rfl, ?_⟩
  obtain ⟨m', changed, hrun, hattached⟩ :=
    answers_attached (d := guessedData) rfl (ordersContext cursorAnswer)
  refine ⟨m', changed, congrArg Prod.fst hrun, hattached, ?_⟩
  cases hrun
  decide

end FormScript
