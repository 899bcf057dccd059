import FormScript.Answering

/-! What is proposed for a gap. The proposals are put in one after the other and looked up by their
ids; what is found is the caller's answer, or else the last suggestion that is not blank. -/
namespace FormScript

namespace GapQuestion

/-- The question suggests an answer for a gap, and not a blank one. -/
def Suggests (q : GapQuestion) (id answer : String) : Prop :=
  q.gapId = id ∧ q.suggestedAnswer = some answer ∧ Text.isBlankText answer = false

def suggestionFor? (id : String) (q : GapQuestion) : Option String :=
  if q.gapId = id then q.suggestion? else none

theorem suggestionFor?_eq_some_iff {q : GapQuestion} {id answer : String} :
    q.suggestionFor? id = some answer ↔ q.Suggests id answer := by
  simp [suggestionFor?, suggestion?, Suggests, Option.filter_eq_some_iff]

theorem suggestionFor?_eq_none_iff {q : GapQuestion} {id : String} :
    q.suggestionFor? id = none ↔ ∀ answer, ¬ q.Suggests id answer := by
  simp only [Option.eq_none_iff_forall_ne_some, ne_eq, suggestionFor?_eq_some_iff]

end GapQuestion

/-- An answer is suggested for a gap, and no later question suggests another. -/
def IsLastSuggestion (questions : List GapQuestion) (id answer : String) : Prop :=
  ∃ before q after, questions = before ++ q :: after ∧ q.Suggests id answer ∧
    ∀ q' ∈ after, ∀ answer', ¬ q'.Suggests id answer'

def suggested? (questions : List GapQuestion) (id : String) : Option String :=
  ((questions.filter (·.gapId = id)).filterMap GapQuestion.suggestion?).getLast?

theorem suggested?_cons (q : GapQuestion) (rest : List GapQuestion) (id : String) :
    suggested? (q :: rest) id = (suggested? rest id).or (q.suggestionFor? id) := by
  unfold suggested? GapQuestion.suggestionFor?
  rw [List.filter_cons]
  by_cases hid : q.gapId = id
  · rw [if_pos (by simpa using hid), if_pos hid, List.filterMap_cons]
    cases q.suggestion? with
    | none => simp
    | some answer =>
      rw [List.getLast?_cons]
      cases List.getLast? _ <;> rfl
  · rw [if_neg (by simpa using hid), if_neg hid, Option.or_none]

theorem suggested?_eq_none_iff {questions : List GapQuestion} {id : String} :
    suggested? questions id = none ↔ ∀ q ∈ questions, ∀ answer, ¬ q.Suggests id answer := by
  induction questions with
  | nil => simp [suggested?]
  | cons q rest ih =>
    rw [suggested?_cons, Option.or_eq_none_iff, ih, List.forall_mem_cons,
      GapQuestion.suggestionFor?_eq_none_iff]
    exact and_comm

theorem suggested?_eq_some_iff {questions : List GapQuestion} {id answer : String} :
    suggested? questions id = some answer ↔ IsLastSuggestion questions id answer := by
  induction questions with
  | nil => simp [suggested?, IsLastSuggestion]
  | cons q rest ih =>
    rw [suggested?_cons, Option.or_eq_some_iff, ih, suggested?_eq_none_iff,
      GapQuestion.suggestionFor?_eq_some_iff]
    constructor
    · rintro (⟨before, q', after, rfl, hlast⟩ | ⟨hnone, hq⟩)
      · exact ⟨q :: before, q', after, rfl, hlast⟩
      · exact ⟨[], q, rest, rfl, hq, hnone⟩
    · rintro ⟨before, q', after, hsplit, hq', hnone⟩
      cases before with
      | nil =>
        cases hsplit
        exact Or.inr ⟨hnone, hq'⟩
      | cons _ before =>
        cases hsplit
        exact Or.inl ⟨before, q', after, rfl, hq', hnone⟩

def propose? (answers : Answers) (questions : List GapQuestion) (id : String) : Option Proposal :=
  (answers.proposals questions).lookup id

theorem Proposals.lookup_insert (known : Proposals) (id id' : String) (p : Proposal) :
    (known.insert id' p).lookup id = if id = id' then some p else known.lookup id := by
  rw [insert, List.lookup_cons]
  by_cases hid : id = id'
  · subst hid
    simp
  · rw [beq_eq_false_iff_ne.mpr hid, if_neg hid]

theorem GapQuestion.lookup_suggest (known : Proposals) (q : GapQuestion) (id : String) :
    (q.suggest known).lookup id =
      ((q.suggestionFor? id).map (⟨·, "auto"⟩)).or (known.lookup id) := by
  unfold suggest suggestionFor?
  cases q.suggestion? with
  | none => simp
  | some answer =>
    rw [Proposals.lookup_insert]
    by_cases hid : id = q.gapId
    · simp [hid]
    · simp [hid, Ne.symm hid]

theorem lookup_foldl_suggest (questions : List GapQuestion) (known : Proposals) (id : String) :
    (questions.foldl GapQuestion.suggest known).lookup id =
      ((suggested? questions id).map (⟨·, "auto"⟩)).or (known.lookup id) := by
  induction questions generalizing known with
  | nil => rfl
  | cons q rest ih =>
    rw [List.foldl_cons, ih, GapQuestion.lookup_suggest, suggested?_cons]
    cases suggested? rest id <;> rfl

/-- The caller's answer comes before any suggestion. -/
theorem propose?_eq (answers : Answers) (questions : List GapQuestion) (id : String) :
    propose? answers questions id =
      ((answers.lookup id).map (⟨·, "user"⟩)).or ((suggested? questions id).map (⟨·, "auto"⟩)) := by
  rw [propose?, Answers.proposals]
  induction answers with
  | nil => simpa using lookup_foldl_suggest questions [] id
  | cons entry rest ih =>
    rw [List.foldr_cons, Proposals.lookup_insert, ih, List.lookup_cons]
    by_cases hid : id = entry.1
    · subst hid
      simp
    · rw [if_neg hid, beq_eq_false_iff_ne.mpr hid]

end FormScript
