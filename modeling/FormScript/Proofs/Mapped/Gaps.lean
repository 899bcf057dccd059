import FormScript.Answering
import Mathlib.Data.List.Forall2

/-! Changing the gaps of a tree, each by its place. Two changes one after the other are one change,
a change that leaves every gap alone leaves the tree alone, and a walk over the gaps is a change
beside what it carries along. Answering is such a walk: it touches open gaps only, and gives them
nothing but an answer. -/
namespace FormScript

/-- A visit that changes a gap by its place and goes on to the next place. -/
structure KeepsPlace {σ : Type} (visit : Gap → σ → Gap × σ) (place : σ → Nat)
    (f : Nat → Gap → Gap) (step : σ → Gap → σ) : Prop where
  visit_eq : ∀ g s, visit g s = (f (place s) g, step s g)
  place_step : ∀ s g, place (step s g) = place s + 1

namespace KeepsPlace

variable {σ : Type} {visit : Gap → σ → Gap × σ} {place : σ → Nat} {f : Nat → Gap → Gap}
  {step : σ → Gap → σ}

theorem place_foldl (h : KeepsPlace visit place f step) (gs : List Gap) (s : σ) :
    place (gs.foldl step s) = place s + gs.length := by
  induction gs generalizing s with
  | nil => rfl
  | cons g rest ih =>
    rw [List.foldl_cons, ih, h.place_step, List.length_cons]
    omega

end KeepsPlace

namespace Intent

section Walk

variable {σ : Type} {visit : Gap → σ → Gap × σ} {place : σ → Nat} {f : Nat → Gap → Gap}
  {step : σ → Gap → σ}

mutual

theorem walk_eq (h : KeepsPlace visit place f step) (i : Intent) (s : σ) :
    walk visit i s = (i.mapGapsIdx f (place s), i.gaps.foldl step s) := by
  match i with
  | act _ _ => rfl
  | gap g _ => simp only [walk, h.visit_eq, mapGapsIdx, gaps, List.foldl_cons, List.foldl_nil]
  | branch _ thenArm elseArm _ _ =>
    simp only [walk, walkAll_eq h thenArm s, walkAll_eq h elseArm, mapGapsIdx, gaps,
      h.place_foldl, List.foldl_append]

theorem walkAll_eq (h : KeepsPlace visit place f step) (is : List Intent) (s : σ) :
    walkAll visit is s = (mapGapsIdxOf f (place s) is, (gapsOf is).foldl step s) := by
  match is with
  | [] => rfl
  | i :: rest =>
    simp only [walkAll, walk_eq h i s, walkAll_eq h rest, mapGapsIdxOf, gapsOf, h.place_foldl,
      List.foldl_append]

end

end Walk

theorem length_gaps_mapGapsIdx (f : Nat → Gap → Gap) (position : Nat) (i : Intent) :
    (i.mapGapsIdx f position).gaps.length = i.gaps.length := by
  rw [gaps_mapGapsIdx, List.length_mapIdx]

theorem length_gapsOf_mapGapsIdxOf (f : Nat → Gap → Gap) (position : Nat) (is : List Intent) :
    (gapsOf (mapGapsIdxOf f position is)).length = (gapsOf is).length := by
  rw [gapsOf_mapGapsIdxOf, List.length_mapIdx]

mutual

theorem mapGapsIdx_mapGapsIdx (f f' : Nat → Gap → Gap) (position : Nat) (i : Intent) :
    (i.mapGapsIdx f position).mapGapsIdx f' position =
      i.mapGapsIdx (fun k g => f' k (f k g)) position := by
  match i with
  | act _ _ => rfl
  | gap _ _ => rfl
  | branch _ thenArm elseArm _ _ =>
    simp only [mapGapsIdx, length_gapsOf_mapGapsIdxOf, mapGapsIdxOf_mapGapsIdxOf f f' _ thenArm,
      mapGapsIdxOf_mapGapsIdxOf f f' _ elseArm]

theorem mapGapsIdxOf_mapGapsIdxOf (f f' : Nat → Gap → Gap) (position : Nat) (is : List Intent) :
    mapGapsIdxOf f' position (mapGapsIdxOf f position is) =
      mapGapsIdxOf (fun k g => f' k (f k g)) position is := by
  match is with
  | [] => rfl
  | i :: rest =>
    simp only [mapGapsIdxOf, length_gaps_mapGapsIdx, mapGapsIdx_mapGapsIdx f f' _ i,
      mapGapsIdxOf_mapGapsIdxOf f f' _ rest]

end

mutual

theorem mapGapsIdx_eq_self {f : Nat → Gap → Gap} (position : Nat) {i : Intent}
    (h : ∀ k, ∀ g ∈ i.gaps, f k g = g) : i.mapGapsIdx f position = i := by
  match i with
  | act _ _ => rfl
  | gap g _ => rw [mapGapsIdx, h position g (by simp [gaps])]
  | branch _ thenArm elseArm _ _ =>
    rw [mapGapsIdx, mapGapsIdxOf_eq_self _ fun k g hg => h k g (by simp [gaps, hg]),
      mapGapsIdxOf_eq_self _ fun k g hg => h k g (by simp [gaps, hg])]

theorem mapGapsIdxOf_eq_self {f : Nat → Gap → Gap} (position : Nat) {is : List Intent}
    (h : ∀ k, ∀ g ∈ gapsOf is, f k g = g) : mapGapsIdxOf f position is = is := by
  match is with
  | [] => rfl
  | i :: rest =>
    rw [mapGapsIdxOf, mapGapsIdx_eq_self _ fun k g hg => h k g (by simp [gapsOf, hg]),
      mapGapsIdxOf_eq_self _ fun k g hg => h k g (by simp [gapsOf, hg])]

end

theorem mapGapsOf_mapGapsIdxOf {e : Gap → Gap} {f : Nat → Gap → Gap} (h : ∀ k g, e (f k g) = e g)
    (position : Nat) (is : List Intent) :
    mapGapsOf e (mapGapsIdxOf f position is) = mapGapsOf e is := by
  rw [mapGapsOf_eq e position, mapGapsOf_eq e position, mapGapsIdxOf_mapGapsIdxOf]
  simp only [h]

end Intent

namespace Procedure

def mapGapsIdxOf (f : Nat → Gap → Gap) (position : Nat) : List Procedure → List Procedure
  | [] => []
  | p :: rest =>
    { p with intents := Intent.mapGapsIdxOf f position p.intents } ::
      mapGapsIdxOf f (position + p.gaps.length) rest

theorem walkAll_eq {σ : Type} {visit : Gap → σ → Gap × σ} {place : σ → Nat}
    {f : Nat → Gap → Gap} {step : σ → Gap → σ} (h : KeepsPlace visit place f step)
    (ps : List Procedure) (s : σ) :
    walkAll visit ps s = (mapGapsIdxOf f (place s) ps, (ps.flatMap gaps).foldl step s) := by
  induction ps generalizing s with
  | nil => rfl
  | cons p rest ih =>
    simp only [walkAll, walk, Intent.walkAll_eq h, ih, mapGapsIdxOf, h.place_foldl,
      List.flatMap_cons, List.foldl_append]
    rfl

theorem flatMap_gaps_mapGapsIdxOf (f : Nat → Gap → Gap) (position : Nat) (ps : List Procedure) :
    (mapGapsIdxOf f position ps).flatMap gaps =
      (ps.flatMap gaps).mapIdx fun k => f (position + k) := by
  induction ps generalizing position with
  | nil => rfl
  | cons p rest ih =>
    rw [mapGapsIdxOf, List.flatMap_cons, List.flatMap_cons, ih, List.mapIdx_append, gaps,
      Intent.gapsOf_mapGapsIdxOf]
    simp only [Nat.add_left_comm, Nat.add_comm]
    rfl

theorem mapGapsIdxOf_mapGapsIdxOf (f f' : Nat → Gap → Gap) (position : Nat)
    (ps : List Procedure) :
    mapGapsIdxOf f' position (mapGapsIdxOf f position ps) =
      mapGapsIdxOf (fun k g => f' k (f k g)) position ps := by
  induction ps generalizing position with
  | nil => rfl
  | cons p rest ih =>
    simp only [mapGapsIdxOf, gaps, Intent.length_gapsOf_mapGapsIdxOf,
      Intent.mapGapsIdxOf_mapGapsIdxOf, ih]

theorem mapGapsIdxOf_eq_self {f : Nat → Gap → Gap} (position : Nat) {ps : List Procedure}
    (h : ∀ k, ∀ g ∈ ps.flatMap gaps, f k g = g) : mapGapsIdxOf f position ps = ps := by
  induction ps generalizing position with
  | nil => rfl
  | cons p rest ih =>
    rw [List.flatMap_cons] at h
    rw [mapGapsIdxOf, ih _ fun k g hg => h k g (List.mem_append_right _ hg),
      Intent.mapGapsIdxOf_eq_self _ fun k g hg => h k g (List.mem_append_left _ hg)]

theorem length_mapGapsIdxOf (f : Nat → Gap → Gap) (position : Nat) (ps : List Procedure) :
    (mapGapsIdxOf f position ps).length = ps.length := by
  induction ps generalizing position with
  | nil => rfl
  | cons p rest ih => rw [mapGapsIdxOf, List.length_cons, List.length_cons, ih]

theorem map_mapGaps_mapGapsIdxOf {e : Gap → Gap} {f : Nat → Gap → Gap}
    (h : ∀ k g, e (f k g) = e g) (position : Nat) (ps : List Procedure) :
    (mapGapsIdxOf f position ps).map (mapGaps e) = ps.map (mapGaps e) := by
  induction ps generalizing position with
  | nil => rfl
  | cons p rest ih =>
    simp only [mapGapsIdxOf, List.map_cons, mapGaps, Intent.mapGapsOf_mapGapsIdxOf h]
    exact congrArg (_ :: ·) (ih _)

end Procedure

namespace Mapped

/-- Changes every gap by its place among all gaps, and nothing else. -/
def mapGapsIdx (f : Nat → Gap → Gap) (m : Mapped) : Mapped :=
  { m with procedures := Procedure.mapGapsIdxOf f 0 m.procedures }

theorem gapNodes_mapGapsIdx (f : Nat → Gap → Gap) (m : Mapped) :
    (m.mapGapsIdx f).gapNodes = m.gapNodes.mapIdx f := by
  rw [gapNodes, mapGapsIdx, Procedure.flatMap_gaps_mapGapsIdxOf]
  simp only [Nat.zero_add]
  rfl

theorem gapNodes_mapGaps (f : Gap → Gap) (m : Mapped) :
    (m.mapGaps f).gapNodes = m.gapNodes.map f := by
  unfold gapNodes mapGaps
  rw [List.flatMap_map, List.map_flatMap]
  congr 1
  funext p
  exact Intent.gapsOf_mapGapsOf f p.intents

theorem mapGapsIdx_mapGapsIdx (f f' : Nat → Gap → Gap) (m : Mapped) :
    (m.mapGapsIdx f).mapGapsIdx f' = m.mapGapsIdx fun k g => f' k (f k g) := by
  simp only [mapGapsIdx, Procedure.mapGapsIdxOf_mapGapsIdxOf]

theorem mapGapsIdx_eq_self {f : Nat → Gap → Gap} {m : Mapped}
    (h : ∀ k, ∀ g ∈ m.gapNodes, f k g = g) : m.mapGapsIdx f = m := by
  rw [mapGapsIdx, Procedure.mapGapsIdxOf_eq_self 0 h]

theorem mapGaps_mapGapsIdx {e : Gap → Gap} {f : Nat → Gap → Gap} (h : ∀ k g, e (f k g) = e g)
    (m : Mapped) : (m.mapGapsIdx f).mapGaps e = m.mapGaps e := by
  simp only [mapGaps, mapGapsIdx, Procedure.map_mapGaps_mapGapsIdxOf h]

end Mapped

namespace Gap

def resolve (propose : String → Option Proposal) (t : Timestamp) (g : Gap) : Gap :=
  match g.proposal? propose with
  | some p => { g with resolution := some ⟨p.answer, p.source, t⟩ }
  | none => g

theorem resolve_of_proposal {propose : String → Option Proposal} {g : Gap}
    (h : g.proposal? propose = none) (t : Timestamp) : g.resolve propose t = g := by
  simp only [resolve, h]

def withoutAnswer (g : Gap) : Gap :=
  { g with resolution := none }

/-- The same gap, or the same one with an answer that it did not have. -/
def Grows (g g' : Gap) : Prop :=
  g' = g ∨ g.isOpen = true ∧ ∃ r, g' = { g with resolution := some r }

theorem Grows.withoutAnswer_eq {g g' : Gap} (h : g.Grows g') :
    g'.withoutAnswer = g.withoutAnswer := by
  rcases h with rfl | ⟨-, r, rfl⟩ <;> rfl

theorem Grows.trans {g g' g'' : Gap} (h : g.Grows g') (h' : g'.Grows g'') : g.Grows g'' := by
  rcases h with rfl | ⟨hopen, r, rfl⟩
  · exact h'
  · rcases h' with rfl | ⟨hclosed, -⟩
    · exact Or.inr ⟨hopen, r, rfl⟩
    · simp [isOpen] at hclosed

theorem grows_resolve (propose : String → Option Proposal) (t : Timestamp) (g : Gap) :
    g.Grows (g.resolve propose t) := by
  unfold resolve
  split
  · rename_i p hp
    by_cases hopen : g.isOpen = true
    · exact Or.inr ⟨hopen, _, rfl⟩
    · simp [proposal?, hopen] at hp
  · exact Or.inl rfl

theorem withoutAnswer_resolve (propose : String → Option Proposal) (t : Timestamp) (g : Gap) :
    (g.resolve propose t).withoutAnswer = g.withoutAnswer :=
  (g.grows_resolve propose t).withoutAnswer_eq

def Progress.next (propose : String → Option Proposal) (s : Progress) (g : Gap) : Progress :=
  ⟨s.visited + 1, s.attached + if (g.proposal? propose).isSome then 1 else 0⟩

theorem keepsPlace_attach (propose : String → Option Proposal) (now : Clock) :
    KeepsPlace (attach propose now) Progress.visited (fun k => resolve propose (now.time k))
      (Progress.next propose) where
  visit_eq g s := by
    unfold attach resolve Progress.next
    cases g.proposal? propose <;> rfl
  place_step _ _ := rfl

theorem attached_foldl_next (propose : String → Option Proposal) (gs : List Gap) (s : Progress) :
    (gs.foldl (Progress.next propose) s).attached =
      s.attached + gs.countP fun g => (g.proposal? propose).isSome := by
  induction gs generalizing s with
  | nil => rfl
  | cons g rest ih =>
    rw [List.foldl_cons, ih, List.countP_cons, Nat.add_comm (List.countP _ _), ← Nat.add_assoc]
    rfl

theorem forall₂_mapIdx {α : Type} {R : Gap → α → Prop} {f : Nat → Gap → α}
    (h : ∀ k g, R g (f k g)) (gs : List Gap) : List.Forall₂ R gs (gs.mapIdx f) := by
  induction gs generalizing f with
  | nil => exact .nil
  | cons g rest ih =>
    rw [List.mapIdx_cons]
    exact .cons (h 0 g) (ih fun k => h (k + 1))

end Gap

namespace Mapped

def resolve (propose : String → Option Proposal) (now : Clock) (m : Mapped) : Mapped :=
  (m.attach propose now).1

def canResolve (propose : String → Option Proposal) (m : Mapped) : Bool :=
  m.gapNodes.any fun g => (g.proposal? propose).isSome

theorem attach_eq (propose : String → Option Proposal) (now : Clock) (m : Mapped) :
    m.attach propose now = (m.mapGapsIdx fun k => .resolve propose (now.time k),
      m.gapNodes.countP fun g => (g.proposal? propose).isSome) := by
  simp only [attach, walk, Procedure.walkAll_eq (Gap.keepsPlace_attach propose now),
    Gap.attached_foldl_next, Nat.zero_add]
  rfl

theorem resolve_eq (propose : String → Option Proposal) (now : Clock) (m : Mapped) :
    m.resolve propose now = m.mapGapsIdx fun k => .resolve propose (now.time k) := by
  rw [resolve, attach_eq]

theorem resolve_eq_self {propose : String → Option Proposal} {m : Mapped}
    (h : m.canResolve propose = false) (now : Clock) : m.resolve propose now = m := by
  rw [resolve_eq]
  apply mapGapsIdx_eq_self
  intro k g hg
  apply Gap.resolve_of_proposal
  simpa using List.any_eq_false.mp h g hg

theorem canResolve_eq_false {m : Mapped} (h : m.hasOpenGaps = false)
    (propose : String → Option Proposal) : m.canResolve propose = false := by
  apply List.any_eq_false.mpr
  intro g hg
  have hclosed := List.any_eq_false.mp h g hg
  simp [Gap.proposal?, hclosed]

theorem canResolve_of_none {propose : String → Option Proposal} (h : ∀ id, propose id = none)
    (m : Mapped) : m.canResolve propose = false := by
  apply List.any_eq_false.mpr
  intro g _
  simp [Gap.proposal?, h]

/-- Nothing is attached exactly where nothing can be answered. -/
theorem attach_eq_zero_iff {propose : String → Option Proposal} {now : Clock} {m : Mapped} :
    (m.attach propose now).2 = 0 ↔ m.canResolve propose = false := by
  rw [attach_eq, List.countP_eq_zero, canResolve, List.any_eq_false]

/-- The same tree and the same summary, but for answers to some gaps that had none. -/
structure Grows (m m' : Mapped) : Prop where
  gaps : List.Forall₂ Gap.Grows m.gapNodes m'.gapNodes
  rest : m'.mapGaps Gap.withoutAnswer = m.mapGaps Gap.withoutAnswer

theorem Grows.refl (m : Mapped) : m.Grows m where
  gaps := List.forall₂_same.mpr fun _ _ => Or.inl rfl
  rest := rfl

theorem Grows.trans {m m' m'' : Mapped} (h : m.Grows m') (h' : m'.Grows m'') : m.Grows m'' where
  gaps := by
    have hfirst := h.gaps
    have hsecond := h'.gaps
    generalize m.gapNodes = gs, m'.gapNodes = gs', m''.gapNodes = gs'' at hfirst hsecond ⊢
    induction hfirst generalizing gs'' with
    | nil => exact hsecond
    | cons hg _ ih =>
      cases hsecond with
      | cons hg' hsecond => exact .cons (hg.trans hg') (ih _ hsecond)
  rest := h'.rest.trans h.rest

theorem grows_mapGapsIdx {f : Nat → Gap → Gap} (hf : ∀ k (g : Gap), g.Grows (f k g))
    (m : Mapped) : m.Grows (m.mapGapsIdx f) where
  gaps := by
    rw [gapNodes_mapGapsIdx]
    exact Gap.forall₂_mapIdx hf _
  rest := mapGaps_mapGapsIdx (fun k g => (hf k g).withoutAnswer_eq) m

theorem grows_resolve (propose : String → Option Proposal) (now : Clock) (m : Mapped) :
    m.Grows (m.resolve propose now) := by
  rw [resolve_eq]
  exact m.grows_mapGapsIdx fun k => Gap.grows_resolve propose (now.time k)

def resolveAll (rounds : List ((String → Option Proposal) × Clock)) (m : Mapped) : Mapped :=
  rounds.foldl (fun m round => m.resolve round.1 round.2) m

theorem grows_resolveAll (rounds : List ((String → Option Proposal) × Clock)) (m : Mapped) :
    m.Grows (m.resolveAll rounds) := by
  induction rounds generalizing m with
  | nil => exact .refl m
  | cons round rest ih => exact (m.grows_resolve round.1 round.2).trans (ih _)

end Mapped

end FormScript
