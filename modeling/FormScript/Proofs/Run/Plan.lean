import FormScript.Run

/-! What is decided before a run: a strategy for every step. Only an entry that names no step, or no
strategy of its step, stands in the way. -/
namespace FormScript

theorem Strategy.ofName?_name (s : Strategy) : ofName? s.name = some s := by
  cases s <;> rfl

theorem Strategy.name_of_ofName? {name : String} {s : Strategy} (h : ofName? name = some s) :
    s.name = name := by
  simpa using List.find?_some h

namespace Step

theorem get_name (s : Step) : get s.name = .ok s := by
  cases s <;> rfl

theorem name_of_get {name : String} {s : Step} (h : get name = .ok s) : s.name = name := by
  unfold get at h
  split at h
  · rename_i found hfound
    cases h
    simpa using List.find?_some hfound
  · contradiction

theorem method?_strategy (s : Step) : ∀ m ∈ s.methods, s.method? m.strategy = some m := by
  cases s <;> decide

theorem of_resolve {s : Step} {name : Option String} {method : Method}
    (h : s.resolve name = .ok method) :
    method ∈ s.methods ∧ method.strategy.name = name.getD s.defaultStrategy.name := by
  have hfind {strategy : Strategy} (hs : s.method? strategy = some method) :
      method ∈ s.methods ∧ method.strategy = strategy :=
    ⟨List.mem_of_find?_eq_some hs, by simpa using List.find?_some hs⟩
  cases name with
  | none =>
    cases hmethod : s.method? s.defaultStrategy with
    | none => simp [resolve, hmethod] at h
    | some found =>
      simp only [resolve, Option.bind_some, hmethod, Except.ok.injEq] at h
      subst h
      exact ⟨(hfind hmethod).1, congrArg Strategy.name (hfind hmethod).2⟩
  | some n =>
    cases hfound : (Strategy.ofName? n).bind s.method? with
    | none => simp [resolve, hfound] at h
    | some found =>
      simp only [resolve, hfound, Except.ok.injEq] at h
      subst h
      obtain ⟨strategy, hstrategy, hmethod⟩ := Option.bind_eq_some_iff.mp hfound
      refine ⟨(hfind hmethod).1, ?_⟩
      rw [(hfind hmethod).2, Strategy.name_of_ofName? hstrategy, Option.getD_some]

theorem resolve_none (s : Step) : ∃ method, s.resolve none = .ok method := by
  cases s <;> exact ⟨_, rfl⟩

theorem resolve_strategy {s : Step} {strategy : Strategy} (h : strategy ∈ s.strategies) :
    ∃ method, s.resolve (some strategy.name) = .ok method := by
  obtain ⟨method, hmethod, rfl⟩ := List.mem_map.mp h
  refine ⟨method, ?_⟩
  simp only [resolve, Strategy.ofName?_name, Option.bind_some, method?_strategy s method hmethod]

theorem isBadRequest_of_resolve {s : Step} {name : Option String} {e : PipelineError}
    (h : s.resolve name = .error e) : e.isBadRequest = true := by
  simp only [resolve] at h
  split at h
  · contradiction
  · cases h
    rfl

theorem isBadRequest_of_get {name : String} {e : PipelineError} (h : get name = .error e) :
    e.isBadRequest = true := by
  unfold get at h
  split at h
  · contradiction
  · cases h
    rfl

end Step

namespace Config

/-- An entry that names no step, or a strategy that its step does not have. -/
def IsUnknown (entry : String × String) : Prop :=
  (∀ step : Step, step.name ≠ entry.1) ∨
    ∃ step : Step, step.name = entry.1 ∧ ∀ strategy ∈ step.strategies, strategy.name ≠ entry.2

theorem not_isUnknown {step : Step} {strategy : String} {method : Method}
    (h : step.resolve (some strategy) = .ok method) : ¬IsUnknown (step.name, strategy) := by
  obtain ⟨hmem, hname⟩ := Step.of_resolve h
  rintro (hstep | ⟨other, hother, hstrategies⟩)
  · exact hstep step rfl
  · have heq : other = step := by
      have hget := Step.get_name other
      rw [hother, Step.get_name] at hget
      cases hget
      rfl
    subst heq
    exact hstrategies method.strategy (List.mem_map_of_mem hmem) hname

theorem isUnknown_of_get {name : String} {e : PipelineError} (h : Step.get name = .error e)
    (strategy : String) : IsUnknown (name, strategy) := by
  refine Or.inl ?_
  rintro step rfl
  rw [Step.get_name] at h
  contradiction

theorem isUnknown_of_resolve {step : Step} {strategy : String} {e : PipelineError}
    (h : step.resolve (some strategy) = .error e) : IsUnknown (step.name, strategy) := by
  refine Or.inr ⟨step, rfl, ?_⟩
  rintro other hother rfl
  obtain ⟨method, hmethod⟩ := Step.resolve_strategy hother
  rw [hmethod] at h
  contradiction

theorem check_cons {name strategy : String} {step : Step} (h : Step.get name = .ok step)
    (rest : Config) :
    check ((name, strategy) :: rest) = (step.resolve (some strategy)).bind fun _ => check rest := by
  rw [check, h]
  rfl

theorem check_eq_ok {config : Config} (h : ∀ entry ∈ config, ¬IsUnknown entry) :
    config.check = .ok () := by
  induction config with
  | nil => rfl
  | cons entry rest ih =>
    obtain ⟨name, strategy⟩ := entry
    have hentry := h _ List.mem_cons_self
    cases hget : Step.get name with
    | error e => exact absurd (isUnknown_of_get hget strategy) hentry
    | ok step =>
      obtain rfl := Step.name_of_get hget
      cases hresolve : step.resolve (some strategy) with
      | error e => exact absurd (isUnknown_of_resolve hresolve) hentry
      | ok method =>
        rw [check_cons hget, hresolve]
        exact ih fun entry hmem => h entry (List.mem_cons_of_mem _ hmem)

theorem check_eq_error {config : Config} (h : ∃ entry ∈ config, IsUnknown entry) :
    ∃ e, config.check = .error e ∧ e.isBadRequest = true := by
  induction config with
  | nil =>
    obtain ⟨entry, hmem, -⟩ := h
    exact absurd hmem List.not_mem_nil
  | cons entry rest ih =>
    obtain ⟨name, strategy⟩ := entry
    cases hget : Step.get name with
    | error e =>
      refine ⟨e, ?_, Step.isBadRequest_of_get hget⟩
      rw [check, hget]
      rfl
    | ok step =>
      obtain rfl := Step.name_of_get hget
      rw [check_cons hget]
      cases hresolve : step.resolve (some strategy) with
      | error e => exact ⟨e, rfl, Step.isBadRequest_of_resolve hresolve⟩
      | ok method =>
        apply ih
        obtain ⟨entry, hmem, hunknown⟩ := h
        rcases List.mem_cons.mp hmem with rfl | hmem
        · exact absurd hunknown (not_isUnknown hresolve)
        · exact ⟨entry, hmem, hunknown⟩

theorem mem_of_lookup {config : Config} {name strategy : String}
    (h : config.lookup name = some strategy) : (name, strategy) ∈ config := by
  obtain ⟨before, after, rfl, -⟩ := List.lookup_eq_some_iff.mp h
  exact List.mem_append_right before List.mem_cons_self

def IsChosen (config : Config) (step : Step) (method : Method) : Prop :=
  step.resolve (config.lookup step.name) = .ok method

theorem exists_isChosen {config : Config} (h : ∀ entry ∈ config, ¬IsUnknown entry) (step : Step) :
    ∃ method, config.IsChosen step method := by
  unfold IsChosen
  cases hlookup : config.lookup step.name with
  | none => exact step.resolve_none
  | some strategy =>
    cases hresolve : step.resolve (some strategy) with
    | error e => exact absurd (isUnknown_of_resolve hresolve) (h _ (mem_of_lookup hlookup))
    | ok method => exact ⟨method, rfl⟩

theorem plan_eq {config : Config} (hcheck : config.check = .ok ()) {method : Step → Method}
    (h : ∀ step, config.IsChosen step (method step)) :
    config.plan = .ok (Step.all.map fun step => (step, method step)) := by
  unfold IsChosen at h
  simp only [plan, hcheck, Step.all, List.mapM_cons, List.mapM_nil, h]
  rfl

end Config

end FormScript
