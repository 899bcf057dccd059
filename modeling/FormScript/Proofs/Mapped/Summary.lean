import FormScript.Proofs.Mapped.Gaps
import FormScript.Proofs.Mapped.Nodes

/-! The summary beside the mapped procedures. Building it anew changes nothing exactly if every gap
has an id and the counts and the list are those of the procedures; mapping and recounting bring this
about, and answering gaps keeps it. -/
namespace FormScript

namespace Gap

def numbered (procedure : String) (position : Nat) (g : Gap) : Gap :=
  { g with id := some (gapId procedure position) }

def numberedFrom (procedure : String) (position : Nat) (gs : List Gap) : List Gap :=
  gs.mapIdx fun k => numbered procedure (position + k)

theorem numberedFrom_append (procedure : String) (position : Nat) (gs gs' : List Gap) :
    numberedFrom procedure position (gs ++ gs') =
      numberedFrom procedure position gs ++
        numberedFrom procedure (position + gs.length) gs' := by
  have hplace (k : Nat) : position + gs.length + k = position + (k + gs.length) := by omega
  simp only [numberedFrom, List.mapIdx_append, hplace]

end Gap

namespace Intent

mutual

theorem gaps_classify (procedure : String) (position : Nat) (i : Intent) :
    (i.classify procedure position).gaps = Gap.numberedFrom procedure position i.gaps := by
  match i with
  | act _ _ => rfl
  | gap _ _ => rfl
  | branch _ thenArm elseArm _ _ =>
    rw [classify, gaps, gaps, gapsOf_classifyAll procedure _ thenArm,
      gapsOf_classifyAll procedure _ elseArm, Gap.numberedFrom_append]

theorem gapsOf_classifyAll (procedure : String) (position : Nat) (is : List Intent) :
    gapsOf (classifyAll procedure position is) =
      Gap.numberedFrom procedure position (gapsOf is) := by
  match is with
  | [] => rfl
  | i :: rest =>
    rw [classifyAll, gapsOf, gapsOf, gaps_classify procedure _ i,
      gapsOf_classifyAll procedure _ rest, Gap.numberedFrom_append]

end

theorem id_of_classifyAll (procedure : String) (position : Nat) (is : List Intent) :
    ∀ g ∈ gapsOf (classifyAll procedure position is), g.id.isSome = true := by
  rw [gapsOf_classifyAll]
  intro g hg
  obtain ⟨k, hk, rfl⟩ := List.mem_mapIdx.mp hg
  rfl

end Intent

namespace Gap

theorem filled_eq_self {g : Gap} (h : g.id.isSome = true) (procedure : String) (position : Nat) :
    g.filled procedure position = g := by
  obtain ⟨id, hid⟩ := Option.isSome_iff_exists.mp h
  obtain ⟨line, reason, _, resolution⟩ := g
  cases hid
  rfl

end Gap

namespace Procedure

theorem id_of_fillIds (p : Procedure) : ∀ g ∈ p.fillIds.gaps, g.id.isSome = true := by
  rw [gaps, fillIds, Intent.gapsOf_mapGapsIdxOf]
  intro g hg
  obtain ⟨k, hk, rfl⟩ := List.mem_mapIdx.mp hg
  rfl

theorem fillIds_eq_self {p : Procedure} (h : ∀ g ∈ p.gaps, g.id.isSome = true) :
    p.fillIds = p := by
  rw [fillIds, Intent.mapGapsIdxOf_eq_self 0 fun k g hg => g.filled_eq_self (h g hg) p.name k]

theorem entries_mapGaps_withoutAnswer (p : Procedure) :
    (p.mapGaps Gap.withoutAnswer).entries = p.entries := by
  rw [entries, gaps, mapGaps, Intent.gapsOf_mapGapsOf, List.map_map]
  rfl

end Procedure

namespace Mapped

/-- Every gap has an id, and the summary is that of the procedures. -/
structure IsSummed (m : Mapped) : Prop where
  ids : ∀ g ∈ m.gapNodes, g.id.isSome = true
  stats : m.stats = statsOf m.procedures
  gaps : m.gaps = m.procedures.flatMap Procedure.entries

theorem isSummed_ofProcedures {procedures : List Procedure}
    (h : ∀ p ∈ procedures, ∀ g ∈ p.gaps, g.id.isSome = true) :
    (ofProcedures procedures).IsSummed where
  ids := by
    intro g hg
    obtain ⟨p, hp, hg⟩ := List.mem_flatMap.mp hg
    exact h p hp g hg
  stats := rfl
  gaps := rfl

theorem isSummed_classify (procedures : List Procedure) : (classify procedures).IsSummed := by
  apply isSummed_ofProcedures
  intro p hp
  obtain ⟨q, -, rfl⟩ := List.mem_map.mp hp
  exact Intent.id_of_classifyAll q.name 0 q.intents

theorem isSummed_recount (m : Mapped) : m.recount.IsSummed := by
  apply isSummed_ofProcedures
  intro p hp
  obtain ⟨q, -, rfl⟩ := List.mem_map.mp hp
  exact q.id_of_fillIds

theorem recount_eq_self_iff {m : Mapped} : m.recount = m ↔ m.IsSummed := by
  constructor
  · intro h
    rw [← h]
    exact isSummed_recount m
  · rintro ⟨hids, hstats, hgaps⟩
    have hprocedures : m.procedures.map .fillIds = m.procedures.map id := by
      apply List.map_congr_left
      intro p hp
      exact Procedure.fillIds_eq_self fun g hg => hids g (List.mem_flatMap.mpr ⟨p, hp, hg⟩)
    rw [recount, hprocedures, List.map_id, ofProcedures, ← hstats, ← hgaps]

theorem statsOf_mapGaps (f : Gap → Gap) (procedures : List Procedure) :
    statsOf (procedures.map (.mapGaps f)) = statsOf procedures :=
  statsOf_map (fun p => Intent.rolesOf_mapGapsOf f p.intents) procedures

theorem isSummed_withoutAnswer_iff {m : Mapped} :
    (m.mapGaps Gap.withoutAnswer).IsSummed ↔ m.IsSummed := by
  have hids : (∀ g ∈ (m.mapGaps Gap.withoutAnswer).gapNodes, g.id.isSome = true) ↔
      ∀ g ∈ m.gapNodes, g.id.isSome = true := by
    rw [gapNodes_mapGaps, List.forall_mem_map]
    rfl
  have hstats : statsOf (m.mapGaps Gap.withoutAnswer).procedures = statsOf m.procedures :=
    statsOf_mapGaps Gap.withoutAnswer m.procedures
  have hentries : (m.mapGaps Gap.withoutAnswer).procedures.flatMap Procedure.entries =
      m.procedures.flatMap Procedure.entries := by
    rw [mapGaps, List.flatMap_map]
    simp only [Procedure.entries_mapGaps_withoutAnswer]
  constructor
  · rintro ⟨h, h', h''⟩
    exact ⟨hids.mp h, h'.trans hstats, h''.trans hentries⟩
  · rintro ⟨h, h', h''⟩
    exact ⟨hids.mpr h, h'.trans hstats.symm, h''.trans hentries.symm⟩

theorem Grows.stats_eq {m m' : Mapped} (h : m.Grows m') : m'.stats = m.stats := by
  have hstats := congrArg Mapped.stats h.rest
  exact hstats

theorem length_gaps_le (procedures : List Procedure) :
    (procedures.flatMap Procedure.gaps).length ≤
      Intent.leafCountOf (procedures.flatMap Procedure.intents) := by
  induction procedures with
  | nil => exact Nat.le_refl 0
  | cons p rest ih =>
    rw [List.flatMap_cons, List.flatMap_cons, List.length_append, Intent.leafCountOf_append]
    exact Nat.add_le_add (Intent.length_gapsOf_le p.intents) ih

theorem mem_openIds {m : Mapped} {id : String} :
    id ∈ m.openIds ↔ ∃ g ∈ m.gapNodes, g.isOpen = true ∧ g.id = some id := by
  simp [openIds, and_assoc]

namespace IsSummed

variable {m : Mapped} (h : m.IsSummed)

include h

theorem grows {m' : Mapped} (hgrows : m.Grows m') : m'.IsSummed := by
  rw [← isSummed_withoutAnswer_iff, hgrows.rest]
  exact isSummed_withoutAnswer_iff.mpr h

theorem mechanical_add_gap : m.stats.mechanical + m.stats.gap = m.stats.total := by
  have hle := length_gaps_le m.procedures
  rw [h.stats, statsOf]
  exact Nat.sub_add_cancel hle

theorem mem_gaps {g : Gap} (hg : g ∈ m.gapNodes) : ∃ e ∈ m.gaps, g.id = some e.id := by
  obtain ⟨p, hp, hgap⟩ := List.mem_flatMap.mp hg
  obtain ⟨id, hid⟩ := Option.isSome_iff_exists.mp (h.ids g hg)
  refine ⟨.ofGap p.name g, ?_, ?_⟩
  · rw [h.gaps]
    exact List.mem_flatMap.mpr ⟨p, hp, List.mem_map_of_mem hgap⟩
  · simp [GapEntry.ofGap, hid]

/-- There is an open gap exactly if one is listed as open. -/
theorem hasOpenGaps_iff : m.hasOpenGaps = true ↔ m.openGaps ≠ [] := by
  rw [hasOpenGaps, List.any_eq_true, openGaps]
  constructor
  · rintro ⟨g, hg, hopen⟩
    obtain ⟨e, he, hid⟩ := h.mem_gaps hg
    have hmem : e.id ∈ m.openIds := mem_openIds.mpr ⟨g, hg, hopen, hid⟩
    exact List.ne_nil_of_mem (List.mem_filter.mpr ⟨he, List.contains_iff_mem.mpr hmem⟩)
  · intro hne
    obtain ⟨e, he⟩ := List.exists_mem_of_ne_nil _ hne
    obtain ⟨g, hg, hopen, -⟩ := mem_openIds.mp (List.contains_iff_mem.mp (List.mem_filter.mp he).2)
    exact ⟨g, hg, hopen⟩

end IsSummed

end Mapped

end FormScript
