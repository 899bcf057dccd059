import FormScript.Proofs.Mapped.Gaps
import FormScript.Proofs.Mapped.Proposals
import FormScript.Proofs.Run.Replay

/-! The step that answers gaps. It stops early where nothing is proposed at all, and otherwise goes
through the gaps and counts those that it answers; in the end it says whether any gap could be
answered, and the data take over a tree with all the answers there are. -/
namespace FormScript

theorem Gap.isOpen_of_resolve {propose : String → Option Proposal} {now : Timestamp} {g : Gap}
    (h : (g.resolve propose now).isOpen = true) : g.isOpen = true := by
  unfold resolve at h
  split at h
  · contradiction
  · exact h

theorem Mapped.hasOpenGaps_of_resolve {propose : String → Option Proposal} {now : Clock}
    {m : Mapped} (h : (m.resolve propose now).hasOpenGaps = true) : m.hasOpenGaps = true := by
  unfold hasOpenGaps at h ⊢
  rw [resolve_eq, gapNodes_mapGapsIdx, List.any_eq_true] at h
  obtain ⟨g', hg', hopen⟩ := h
  obtain ⟨k, hk, rfl⟩ := List.mem_mapIdx.mp hg'
  exact List.any_eq_true.mpr ⟨_, List.getElem_mem hk, Gap.isOpen_of_resolve hopen⟩

def Context.proposals (ctx : Context) (d : ModuleData) : String → Option Proposal :=
  propose? ctx.answers (d.questions.getD [])

/-- Where nothing is proposed the step stops early, and it counts what it attaches: both come to
whether anything could be answered. -/
theorem answered_eq (d : ModuleData) (ctx : Context) (m : Mapped) :
    answered d ctx m =
      .resolved (m.resolve (ctx.proposals d) ctx.now) (m.canResolve (ctx.proposals d)) := by
  have hkept (h : m.canResolve (ctx.proposals d) = false) :
      .resolved m false =
        StepOutput.resolved (m.resolve (ctx.proposals d) ctx.now)
          (m.canResolve (ctx.proposals d)) := by
    rw [Mapped.resolve_eq_self h, h]
  unfold answered
  dsimp only
  split
  · rename_i hempty
    apply hkept
    apply Mapped.canResolve_of_none
    intro id
    rw [Context.proposals, propose?, List.isEmpty_iff.mp hempty]
    rfl
  · split
    · rename_i hzero
      exact hkept (Mapped.attach_eq_zero_iff.mp hzero)
    · rename_i hsome
      have hcan : m.canResolve (ctx.proposals d) = true :=
        Bool.of_not_eq_false fun h => hsome (Mapped.attach_eq_zero_iff.mpr h)
      rw [hcan]
      rfl

theorem ModuleData.merge_answered {d : ModuleData} {m : Mapped} (hm : d.mapped = some m)
    (ctx : Context) :
    d.merge (answered d ctx m) =
      { d with mapped := some (m.resolve (ctx.proposals d) ctx.now) } := by
  rw [answered_eq]
  cases hcan : m.canResolve (ctx.proposals d) with
  | true => rfl
  | false =>
    rw [Mapped.resolve_eq_self hcan, ← hm]
    rfl

theorem perform_resolveGaps {method : Method} {d : ModuleData} {ctx : Context}
    {asked asked' : List String} {output : StepOutput} (hmethod : method ∈ Step.resolveGaps.methods)
    (h : method.perform d ctx asked = (.ok output, asked')) :
    ∃ m, d.mapped = some m ∧ (output = answered d ctx m ∨ output = .resolved m false) := by
  rw [Step.methods, List.mem_cons, List.mem_singleton] at hmethod
  cases hm : d.mapped with
  | none =>
    have hstart : method.start d ctx = .error (.missingInput .mapped) := by
      rcases hmethod with rfl | rfl
      all_goals
        rw [Method.start, ModuleData.mappedOf, hm]
        rfl
    rw [Method.perform, hstart] at h
    cases h
  | some m =>
    refine ⟨m, rfl, ?_⟩
    rcases hmethod with rfl | rfl
    · have hstart : Method.answerGaps.start d ctx = .ok (.finished (answered d ctx m)) := by
        rw [Method.start, ModuleData.mappedOf, hm]
        rfl
      rw [Method.perform, hstart] at h
      cases h
      exact Or.inl rfl
    · have hstart : Method.keepGaps.start d ctx = .ok (.finished (.resolved m false)) := by
        rw [Method.start, ModuleData.mappedOf, hm]
        rfl
      rw [Method.perform, hstart] at h
      cases h
      exact Or.inr rfl

end FormScript
