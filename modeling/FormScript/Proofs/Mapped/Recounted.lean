import FormScript.Proofs.Mapped.Numbering
import Mathlib.Data.List.Nodup

/-! The ids of gaps after a recount. An id that is there stays, and a gap without one gets the id of
its place, so what a procedure has in the end are the ids it had and those of the places at which
one was missing. Nothing keeps the two apart: an id that was there may be that of a place at which
one was missing, and then two gaps have it. -/
namespace FormScript

namespace Gap

def filledFrom (procedure : String) (position : Nat) (gs : List Gap) : List Gap :=
  (gs.zipIdx position).map fun (g, k) => g.filled procedure k

def missingFrom (procedure : String) (position : Nat) (gs : List Gap) : List String :=
  (gs.zipIdx position).filterMap fun (g, k) =>
    if g.id = none then some (gapId procedure k) else none

theorem perm_ids_filledFrom (procedure : String) (position : Nat) (gs : List Gap) :
    ((filledFrom procedure position gs).map id).Perm
      ((gs.filterMap id ++ missingFrom procedure position gs).map some) := by
  induction gs generalizing position with
  | nil => exact .refl _
  | cons g rest ih =>
    rw [filledFrom, missingFrom, List.zipIdx_cons, List.map_cons, List.map_cons,
      List.filterMap_cons, List.filterMap_cons]
    cases hid : g.id with
    | some id =>
      simp only [filled, hid, reduceCtorEq, if_false, Option.getD_some, List.cons_append,
        List.map_cons]
      exact (ih (position + 1)).cons (some id)
    | none =>
      simp only [filled, hid, if_true, Option.getD_none]
      have hrest := (ih (position + 1)).cons (some (gapId procedure position))
      rw [← List.map_cons] at hrest
      exact hrest.trans (List.perm_middle.symm.map some)

theorem nodup_missingFrom (procedure : String) (position : Nat) (gs : List Gap) :
    (missingFrom procedure position gs).Nodup := by
  have hplaces : (gs.zipIdx position).Pairwise fun a b => a.2 ≠ b.2 := by
    apply List.pairwise_map.mp
    rw [List.zipIdx_map_snd]
    exact List.nodup_range'
  apply hplaces.filterMap
  rintro ⟨g, i⟩ ⟨g', j⟩ hne x hx y hy heq
  simp only [Option.ite_none_right_eq_some, Option.some.injEq] at hx hy
  rw [← hx.2, ← hy.2] at heq
  exact hne (gapId_inj.mp heq).2

end Gap

theorem Procedure.gaps_fillIds (p : Procedure) :
    p.fillIds.gaps = Gap.filledFrom p.name 0 p.gaps := by
  rw [gaps, fillIds, Intent.gapsOf_mapGapsIdxOf, List.mapIdx_eq_zipIdx_map, Gap.filledFrom]
  simp only [Nat.zero_add]
  rfl

namespace Procedure

def keptIds (p : Procedure) : List String :=
  p.gaps.filterMap Gap.id

def missingIds (p : Procedure) : List String :=
  Gap.missingFrom p.name 0 p.gaps

theorem mem_keptIds {p : Procedure} {id : String} :
    id ∈ p.keptIds ↔ ∃ (k : Nat) (g : Gap), p.gaps[k]? = some g ∧ g.id = some id := by
  rw [keptIds, List.mem_filterMap, exists_comm]
  simp only [List.mem_iff_getElem?, exists_and_right]

theorem mem_missingIds {p : Procedure} {id : String} :
    id ∈ p.missingIds ↔
      ∃ (k : Nat) (g : Gap), p.gaps[k]? = some g ∧ g.id = none ∧ gapId p.name k = id := by
  simp only [missingIds, Gap.missingFrom, List.mem_filterMap, Prod.exists,
    List.mk_mem_zipIdx_iff_getElem?, Option.ite_none_right_eq_some, Option.some.injEq]
  exact exists_comm

/-- Ids that are different stay different exactly if none of them is that of a place at which one
is missing. -/
theorem nodup_ids_fillIds_iff {p : Procedure} (h : p.keptIds.Nodup) :
    (p.fillIds.gaps.map Gap.id).Nodup ↔ ∀ id ∈ p.missingIds, id ∉ p.keptIds := by
  rw [p.gaps_fillIds, (Gap.perm_ids_filledFrom p.name 0 p.gaps).nodup_iff,
    List.nodup_map_iff fun _ _ => Option.some.inj, List.nodup_append]
  constructor
  · rintro ⟨-, -, hapart⟩ id hmissing hkept
    exact hapart id hkept id hmissing rfl
  · intro hapart
    refine ⟨h, Gap.nodup_missingFrom p.name 0 p.gaps, ?_⟩
    rintro kept hkept missing hmissing rfl
    exact hapart kept hmissing hkept

/-- Every id that is there is that of its own place. -/
def KeepsPlaces (p : Procedure) : Prop :=
  ∀ (k : Nat) (g : Gap) (id : String), p.gaps[k]? = some g → g.id = some id → id = gapId p.name k

theorem KeepsPlaces.not_mem_keptIds {p : Procedure} (h : p.KeepsPlaces) :
    ∀ id ∈ p.missingIds, id ∉ p.keptIds := by
  intro id hmissing hkept
  obtain ⟨k, g, hg, hnone, rfl⟩ := mem_missingIds.mp hmissing
  obtain ⟨j, g', hg', hsome⟩ := mem_keptIds.mp hkept
  obtain ⟨-, rfl⟩ := gapId_inj.mp (h j g' _ hg' hsome)
  rw [hg, Option.some.injEq] at hg'
  rw [hg', hsome] at hnone
  contradiction

end Procedure

/-- After a recount every gap has an id. Where the ids of each procedure are different before, they
are different after it exactly if none of them is that of a place at which one is missing, and so
whenever each of them is that of its own place. -/
theorem recount_ids_distinct_iff {m : Mapped} (h : ∀ p ∈ m.procedures, p.keptIds.Nodup) :
    (∀ p ∈ m.recount.procedures, ∀ g ∈ p.gaps, g.id.isSome = true) ∧
    ((∀ p ∈ m.recount.procedures, (p.gaps.map Gap.id).Nodup) ↔
      ∀ p ∈ m.procedures, ∀ id ∈ p.missingIds, id ∉ p.keptIds) ∧
    ((∀ p ∈ m.procedures, p.KeepsPlaces) →
      ∀ p ∈ m.recount.procedures, (p.gaps.map Gap.id).Nodup) := by
  have hiff : (∀ p ∈ m.recount.procedures, (p.gaps.map Gap.id).Nodup) ↔
      ∀ p ∈ m.procedures, ∀ id ∈ p.missingIds, id ∉ p.keptIds := by
    rw [Mapped.recount, Mapped.ofProcedures, List.forall_mem_map]
    exact forall₂_congr fun p hp => Procedure.nodup_ids_fillIds_iff (h p hp)
  refine ⟨?_, hiff, ?_⟩
  · intro p hp g hg
    exact (Mapped.isSummed_recount m).ids g (List.mem_flatMap.mpr ⟨p, hp, hg⟩)
  · intro hplaces
    exact hiff.mpr fun p hp => (hplaces p hp).not_mem_keptIds

def twoGaps (first second : Option String) : Mapped where
  procedures := [⟨"Form_Load", "load",
    [.gap ⟨"DoCmd.Hourglass True", "no mapping", first, none⟩ none,
      .branch .newRecord [.gap ⟨"Call Audit", "no mapping", second, none⟩ none] [] none none]⟩]

theorem recount_ids_distinct_iff_twoGaps :
    (∀ p ∈ (twoGaps none (some "audit")).procedures, p.keptIds.Nodup) ∧
      ∀ p ∈ (twoGaps none (some "audit")).recount.procedures, (p.gaps.map Gap.id).Nodup := by
  have hkept : ∀ p ∈ (twoGaps none (some "audit")).procedures, p.keptIds.Nodup := by decide
  exact ⟨hkept, (recount_ids_distinct_iff hkept).2.1.mpr (by decide)⟩

/-- The first of two gaps has no id and the second has that of the first place: after a recount both
have it. -/
theorem recount_repeats_id :
    (∀ p ∈ (twoGaps none (some "Form_Load:0")).procedures, p.keptIds.Nodup) ∧
      (twoGaps none (some "Form_Load:0")).recount.procedures.map (·.gaps.map Gap.id) =
        [[some "Form_Load:0", some "Form_Load:0"]] := by
  decide

end FormScript
