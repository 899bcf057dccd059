import FormScript.Proofs.Mapped.Numbering
import FormScript.Proofs.Mapped.Proposals
import Mathlib.Data.List.Nodup

/-! The list of open gaps. It is taken from the flat list by the ids of the open gaps of the tree,
so it is right as long as no two gaps have the same id and the flat list is that of the tree. For
procedures with different names classification brings this about, and no answer undoes it. -/
namespace FormScript

namespace Mapped

theorem Grows.ids_eq {m m' : Mapped} (h : m.Grows m') :
    m'.gapNodes.map Gap.id = m.gapNodes.map Gap.id := by
  have hsame := congrArg (fun n : Mapped => n.gapNodes.map Gap.id) h.rest
  rwa [gapNodes_mapGaps, gapNodes_mapGaps, List.map_map, List.map_map] at hsame

theorem nodup_ids_classify {ps : List Procedure} (hnames : (ps.map Procedure.name).Nodup) :
    ((classify ps).gapNodes.map Gap.id).Nodup := by
  apply nodup_ids_of_numbered (isNumbered_of_classify ps)
  have hkept : (classify ps).procedures.map Procedure.name = ps.map Procedure.name :=
    List.map_map
  rwa [hkept]

namespace IsSummed

variable {m : Mapped} (h : m.IsSummed) (hnodup : (m.gapNodes.map Gap.id).Nodup)

include h hnodup

/-- The id in the entry of a gap is among those of the open gaps exactly if the gap is open itself,
since no other gap has this id. -/
theorem contains_openIds {g : Gap} (hg : g ∈ m.gapNodes) (procedure : String) :
    m.openIds.contains (GapEntry.ofGap procedure g).id = g.isOpen := by
  obtain ⟨id, hid⟩ := Option.isSome_iff_exists.mp (h.ids g hg)
  have hentry : (GapEntry.ofGap procedure g).id = id := by simp [GapEntry.ofGap, hid]
  rw [hentry, Bool.eq_iff_iff, List.contains_iff_mem, mem_openIds]
  constructor
  · rintro ⟨g', hg', hopen, hid'⟩
    have hsame : g' = g := List.inj_on_of_nodup_map hnodup hg' hg (hid'.trans hid.symm)
    rwa [← hsame]
  · intro hopen
    exact ⟨g, hg, hopen, hid⟩

theorem filter_entries {p : Procedure} (hp : p ∈ m.procedures) :
    p.entries.filter (m.openIds.contains ·.id) =
      (p.gaps.filter Gap.isOpen).map (.ofGap p.name) := by
  rw [Procedure.entries, List.filter_map]
  congr 1
  apply List.filter_congr
  intro g hg
  exact h.contains_openIds hnodup (List.mem_flatMap.mpr ⟨p, hp, hg⟩) p.name

theorem openGaps_eq :
    m.openGaps = m.procedures.flatMap fun p => (p.gaps.filter Gap.isOpen).map (.ofGap p.name) := by
  rw [openGaps, h.gaps, List.filter_flatMap]
  exact List.flatMap_congr fun p hp => h.filter_entries hnodup hp

theorem mem_openGaps_iff {p : Procedure} (hp : p ∈ m.procedures) {g : Gap} (hg : g ∈ p.gaps) :
    GapEntry.ofGap p.name g ∈ m.openGaps ↔ g.isOpen = true := by
  have hnode : g ∈ m.gapNodes := List.mem_flatMap.mpr ⟨p, hp, hg⟩
  have hlisted : GapEntry.ofGap p.name g ∈ m.gaps := by
    rw [h.gaps]
    exact List.mem_flatMap.mpr ⟨p, hp, List.mem_map_of_mem hg⟩
  rw [openGaps, List.mem_filter, h.contains_openIds hnodup hnode]
  exact and_iff_right hlisted

end IsSummed

end Mapped

/-- The flat list has one entry for each gap of the tree, in the order of the source, and the list
of open gaps has the entries of exactly those that have no answer, whichever they are and whenever
the others were answered. -/
theorem openGaps_exact {ps : List Procedure} (hnames : (ps.map Procedure.name).Nodup)
    (rounds : List ((String → Option Proposal) × Clock)) {m : Mapped}
    (hm : m = (Mapped.classify ps).resolveAll rounds) :
    m.gaps = m.procedures.flatMap (fun p => p.gaps.map (.ofGap p.name)) ∧
    m.openGaps = m.procedures.flatMap (fun p => (p.gaps.filter Gap.isOpen).map (.ofGap p.name)) ∧
    ∀ p ∈ m.procedures, ∀ g ∈ p.gaps, GapEntry.ofGap p.name g ∈ m.openGaps ↔ g.isOpen = true := by
  have hgrows := (Mapped.classify ps).grows_resolveAll rounds
  rw [← hm] at hgrows
  have hsummed := (Mapped.isSummed_classify ps).grows hgrows
  have hnodup : (m.gapNodes.map Gap.id).Nodup := by
    rw [hgrows.ids_eq]
    exact Mapped.nodup_ids_classify hnames
  refine ⟨hsummed.gaps, hsummed.openGaps_eq hnodup, ?_⟩
  intro p hp g hg
  exact hsummed.mem_openGaps_iff hnodup hp hg

/-- The first gap of one procedure has its answer from the start. -/
def halfAnswered : List Procedure :=
  [⟨"Form_Load", "load",
    [.branch .newRecord
      [.gap ⟨"DoCmd.Hourglass True", "no mapping", none,
        some ⟨"show a busy cursor", "user", ⟨2023, 6, 1, 10, 15, 0, 0, rfl, rfl⟩⟩⟩ none]
      [.openGap "Call Audit" "no mapping"] none none]⟩,
    ⟨"btnExport_Click", "click", [.openGap "Export" "no mapping"]⟩]

theorem openGaps_exact_halfAnswered :
    (halfAnswered.map Procedure.name).Nodup ∧
      ((Mapped.classify halfAnswered).resolveAll
        [(propose? [("btnExport_Click:0", "download the rows")] [],
          ⟨fun _ => ⟨2024, 2, 29, 0, 0, 0, 0, rfl, rfl⟩⟩)]).openGaps =
        [⟨"Form_Load", "Form_Load:1", "Call Audit", "no mapping"⟩] := by
  have hnames : (halfAnswered.map Procedure.name).Nodup := by decide
  refine ⟨hnames, ?_⟩
  rw [(openGaps_exact hnames _ rfl).2.1]
  decide

end FormScript
