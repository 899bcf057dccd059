import FormScript.Proofs.Mapped.Tally

/-! What classification adds to a tree: a mark on every node, an id on every gap and a mapping on
every branch. Without these the tree is the one it was, so nothing else is lost or made up, and
there is nothing left to add the second time. -/
namespace FormScript

namespace Intent

mutual

/-- An intent without marks, ids and mappings. Answers stay. -/
def bare : Intent → Intent
  | act a _ => act a none
  | gap g _ => gap { g with id := none } none
  | branch c thenArm elseArm _ _ => branch c (bareOf thenArm) (bareOf elseArm) none none

def bareOf : List Intent → List Intent
  | [] => []
  | i :: rest => i.bare :: bareOf rest

end

def mapping? : Intent → Option (Option Mapping)
  | branch _ _ _ mapping _ => some mapping
  | _ => none

def hasGap (i : Intent) : Bool :=
  i.nodes.any (·.role = .gap)

mutual

theorem bare_classify (procedure : String) (position : Nat) (i : Intent) :
    (i.classify procedure position).bare = i.bare := by
  match i with
  | act _ _ => rfl
  | gap _ _ => rfl
  | branch _ thenArm elseArm _ _ =>
    rw [classify, bare, bare, bareOf_classifyAll procedure _ thenArm,
      bareOf_classifyAll procedure _ elseArm]

theorem bareOf_classifyAll (procedure : String) (position : Nat) (is : List Intent) :
    bareOf (classifyAll procedure position is) = bareOf is := by
  match is with
  | [] => rfl
  | i :: rest =>
    rw [classifyAll, bareOf, bareOf, bare_classify procedure _ i,
      bareOf_classifyAll procedure _ rest]

end

mutual

theorem mappings_classify (procedure : String) (position : Nat) (i : Intent) :
    (i.classify procedure position).nodes.filterMap mapping? =
      (i.nodes.filterMap mapping?).map fun mapping => some (mapping.getD .structural) := by
  match i with
  | act _ _ => rfl
  | gap _ _ => rfl
  | branch _ thenArm elseArm _ _ =>
    simp only [classify, nodes, List.filterMap_cons, List.filterMap_append, mapping?,
      List.map_cons, List.map_append]
    rw [mappings_classifyAll procedure _ thenArm, mappings_classifyAll procedure _ elseArm]

theorem mappings_classifyAll (procedure : String) (position : Nat) (is : List Intent) :
    (nodesOf (classifyAll procedure position is)).filterMap mapping? =
      ((nodesOf is).filterMap mapping?).map fun mapping => some (mapping.getD .structural) := by
  match is with
  | [] => rfl
  | i :: rest =>
    simp only [classifyAll, nodesOf, List.filterMap_append, List.map_append]
    rw [mappings_classify procedure _ i, mappings_classifyAll procedure _ rest]

end

theorem hasGap_eq (i : Intent) : i.hasGap = !i.gaps.isEmpty := by
  have hlength := i.length_gaps
  rw [roles, List.count_eq_countP, List.countP_map] at hlength
  rw [hasGap, Bool.eq_iff_iff, List.any_eq_true, Bool.not_eq_true', List.isEmpty_eq_false_iff,
    ← List.length_pos_iff, hlength, List.countP_pos_iff]
  simp

theorem hasGap_classify (procedure : String) (position : Nat) (i : Intent) :
    (i.classify procedure position).hasGap = i.hasGap := by
  have hroles := congrArg (List.any · (· = .gap)) (i.roles_classify procedure position)
  rw [roles, roles, List.any_map, List.any_map] at hroles
  exact hroles

def rightMark (i : Intent) : Mark :=
  if i.hasGap then .gap else .mechanical

theorem mark_classify_eq (procedure : String) (position : Nat) (i : Intent) :
    (i.classify procedure position).mark =
      some (i.classify procedure position).rightMark := by
  rw [mark_classify, rightMark, hasGap_classify, hasGap_eq]
  cases i.gaps <;> rfl

mutual

theorem mark_of_mem_nodes (procedure : String) (position : Nat) (i : Intent) :
    ∀ j ∈ (i.classify procedure position).nodes, j.mark = some j.rightMark := by
  match i with
  | act a m =>
    intro j hj
    obtain rfl := List.mem_singleton.mp hj
    exact mark_classify_eq procedure position (act a m)
  | gap g m =>
    intro j hj
    obtain rfl := List.mem_singleton.mp hj
    exact mark_classify_eq procedure position (gap g m)
  | branch c thenArm elseArm mapping m =>
    intro j hj
    rcases List.mem_cons.mp hj with rfl | hj
    · exact mark_classify_eq procedure position (branch c thenArm elseArm mapping m)
    · rcases List.mem_append.mp hj with hj | hj
      · exact mark_of_mem_nodesOf procedure _ thenArm j hj
      · exact mark_of_mem_nodesOf procedure _ elseArm j hj

theorem mark_of_mem_nodesOf (procedure : String) (position : Nat) (is : List Intent) :
    ∀ j ∈ nodesOf (classifyAll procedure position is), j.mark = some j.rightMark := by
  match is with
  | [] => exact fun j hj => absurd hj List.not_mem_nil
  | i :: rest =>
    intro j hj
    rcases List.mem_append.mp hj with hj | hj
    · exact mark_of_mem_nodes procedure _ i j hj
    · exact mark_of_mem_nodesOf procedure _ rest j hj

end

mutual

theorem classify_classify (procedure : String) (position : Nat) (i : Intent) :
    (i.classify procedure position).classify procedure position =
      i.classify procedure position := by
  match i with
  | act _ _ => rfl
  | gap _ _ => rfl
  | branch c thenArm elseArm mapping m =>
    have hempty (k k' : Nat) : (gapsOf (classifyAll procedure k thenArm) ++
        gapsOf (classifyAll procedure k' elseArm)).isEmpty =
          (gapsOf thenArm ++ gapsOf elseArm).isEmpty := by
      rw [Bool.eq_iff_iff, List.isEmpty_iff_length_eq_zero, List.isEmpty_iff_length_eq_zero,
        List.length_append, List.length_append, length_gapsOf_classifyAll,
        length_gapsOf_classifyAll]
    rw [classify, classify, length_gapsOf_classifyAll, hempty,
      classifyAll_classifyAll procedure _ thenArm, classifyAll_classifyAll procedure _ elseArm,
      Option.getD_some]

theorem classifyAll_classifyAll (procedure : String) (position : Nat) (is : List Intent) :
    classifyAll procedure position (classifyAll procedure position is) =
      classifyAll procedure position is := by
  match is with
  | [] => rfl
  | i :: rest =>
    rw [classifyAll, classifyAll, length_gaps_classify, classify_classify procedure _ i,
      classifyAll_classifyAll procedure _ rest]

end

end Intent

namespace Procedure

def bare (p : Procedure) : Procedure :=
  { p with intents := Intent.bareOf p.intents }

def mappings (p : Procedure) : List (Option Mapping) :=
  (Intent.nodesOf p.intents).filterMap Intent.mapping?

theorem bare_classify (p : Procedure) : p.classify.bare = p.bare := by
  rw [bare, classify, Intent.bareOf_classifyAll]
  rfl

theorem mappings_classify (p : Procedure) :
    p.classify.mappings = p.mappings.map fun mapping => some (mapping.getD .structural) :=
  Intent.mappings_classifyAll p.name 0 p.intents

theorem classify_classify (p : Procedure) : p.classify.classify = p.classify := by
  rw [classify, classify, Intent.classifyAll_classifyAll]

end Procedure

theorem Mapped.procedures_classify (ps : List Procedure) :
    (classify ps).procedures = ps.map .classify :=
  rfl

/-- Classification adds to a tree what says where its gaps are and how its branches are carried
over, and nothing else. It has nothing to add to its own outcome, and a recount finds the summary
again from the tree alone. -/
theorem classify_annotates (ps : List Procedure) :
    (Mapped.classify ps).procedures.map Procedure.bare = ps.map Procedure.bare ∧
    (∀ i ∈ (Mapped.classify ps).nodes,
      i.mark = some (if i.hasGap then .gap else .mechanical)) ∧
    (Mapped.classify ps).procedures.map Procedure.mappings =
      ps.map (fun p => p.mappings.map fun mapping => some (mapping.getD .structural)) ∧
    Mapped.classify (Mapped.classify ps).procedures = Mapped.classify ps ∧
    ∀ (stats : MapStats) (gaps : List GapEntry),
      ({ Mapped.classify ps with stats, gaps } : Mapped).recount = Mapped.classify ps := by
  refine ⟨?_, ?_, ?_, ?_, ?_⟩
  · rw [Mapped.procedures_classify, List.map_map]
    exact List.map_congr_left fun p _ => p.bare_classify
  · intro i hi
    rw [Mapped.nodes_eq] at hi
    obtain ⟨p, hp, hi⟩ := List.mem_flatMap.mp hi
    obtain ⟨q, -, rfl⟩ := List.mem_map.mp hp
    exact Intent.mark_of_mem_nodesOf q.name 0 q.intents i hi
  · rw [Mapped.procedures_classify, List.map_map]
    exact List.map_congr_left fun p _ => p.mappings_classify
  · have hagain : (ps.map Procedure.classify).map Procedure.classify = ps.map .classify := by
      rw [List.map_map]
      exact List.map_congr_left fun p _ => p.classify_classify
    rw [Mapped.procedures_classify, Mapped.classify, hagain, Mapped.classify]
  · intro stats gaps
    change (Mapped.classify ps).recount = Mapped.classify ps
    exact Mapped.recount_eq_self_iff.mpr (Mapped.isSummed_classify ps)

def wronglyMarked : List Procedure :=
  [⟨"Form_Load", "load",
    [.branch .newRecord
      [.gap ⟨"DoCmd.Hourglass True", "", some "1",
        some ⟨"show a busy cursor", "user", ⟨2023, 5, 31, 9, 30, 0, 0, rfl, rfl⟩⟩⟩
        (some .mechanical)]
      [.act .requery (some .gap)] (some ⟨"manual", none⟩) (some .mechanical)]⟩]

theorem classify_annotates_wronglyMarked :
    (Mapped.classify wronglyMarked).nodes.map Intent.mark =
        [some .gap, some .gap, some .mechanical] ∧
      (Mapped.classify wronglyMarked).procedures.map Procedure.bare =
        wronglyMarked.map Procedure.bare ∧
      ({ Mapped.classify wronglyMarked with stats := ⟨0, 0, 7⟩, gaps := [] } : Mapped).recount =
        .classify wronglyMarked := by
  obtain ⟨hbare, hmarks, -, -, hrecount⟩ := classify_annotates wronglyMarked
  refine ⟨?_, hbare, hrecount _ _⟩
  rw [List.map_congr_left hmarks]
  decide

end FormScript
