import FormScript.Emission

/-! The nodes of a tree, in the order of the source. However a tree is walked over, what is counted
are its nodes of one role, and neither marking nor numbering nor answering gives a node another
role. -/
namespace FormScript

namespace Intent

inductive Role where
  | action
  | gap
  | branch
  deriving DecidableEq, Repr

def role : Intent → Role
  | act _ _ => .action
  | gap _ _ => .gap
  | branch _ _ _ _ _ => .branch

mutual

/-- An intent and all that stands in its arms, a branch before its then-arm and that before its
else-arm. -/
def nodes : Intent → List Intent
  | act a m => [act a m]
  | gap g m => [gap g m]
  | branch c thenArm elseArm mapping m =>
    branch c thenArm elseArm mapping m :: (nodesOf thenArm ++ nodesOf elseArm)

def nodesOf : List Intent → List Intent
  | [] => []
  | i :: rest => i.nodes ++ nodesOf rest

end

theorem nodesOf_append (a b : List Intent) : nodesOf (a ++ b) = nodesOf a ++ nodesOf b := by
  induction a with
  | nil => rfl
  | cons i rest ih => rw [List.cons_append, nodesOf, nodesOf, ih, List.append_assoc]

def roles (i : Intent) : List Role :=
  i.nodes.map role

def rolesOf (is : List Intent) : List Role :=
  (nodesOf is).map role

@[simp] theorem roles_branch (c : Condition) (thenArm elseArm : List Intent)
    (mapping : Option Mapping) (m : Option Mark) :
    (branch c thenArm elseArm mapping m).roles =
      .branch :: (rolesOf thenArm ++ rolesOf elseArm) := by
  simp [roles, rolesOf, nodes, role]

@[simp] theorem rolesOf_cons (i : Intent) (rest : List Intent) :
    rolesOf (i :: rest) = i.roles ++ rolesOf rest := by
  simp [roles, rolesOf, nodesOf]

theorem rolesOf_append (a b : List Intent) : rolesOf (a ++ b) = rolesOf a ++ rolesOf b := by
  rw [rolesOf, nodesOf_append, List.map_append]
  rfl

mutual

theorem length_gaps (i : Intent) : i.gaps.length = i.roles.count .gap := by
  match i with
  | act _ _ => rfl
  | gap _ _ => rfl
  | branch _ thenArm elseArm _ _ =>
    rw [gaps, List.length_append, length_gapsOf thenArm, length_gapsOf elseArm, roles_branch,
      List.count_cons_of_ne (by decide), List.count_append]

theorem length_gapsOf (is : List Intent) : (gapsOf is).length = (rolesOf is).count .gap := by
  match is with
  | [] => rfl
  | i :: rest =>
    rw [gapsOf, List.length_append, length_gaps i, length_gapsOf rest, rolesOf_cons,
      List.count_append]

end

mutual

theorem actionCount_eq (i : Intent) : Emission.actionCount i = i.roles.count .action := by
  match i with
  | act _ _ => rfl
  | gap _ _ => rfl
  | branch _ thenArm elseArm _ _ =>
    rw [Emission.actionCount, actionCountOf_eq thenArm, actionCountOf_eq elseArm, roles_branch,
      List.count_cons_of_ne (by decide), List.count_append]

theorem actionCountOf_eq (is : List Intent) :
    Emission.actionCountOf is = (rolesOf is).count .action := by
  match is with
  | [] => rfl
  | i :: rest =>
    rw [Emission.actionCountOf, actionCount_eq i, actionCountOf_eq rest, rolesOf_cons,
      List.count_append]

end

mutual

theorem leafCount_eq (i : Intent) :
    i.leafCount = i.roles.count .action + i.roles.count .gap := by
  match i with
  | act _ _ => rfl
  | gap _ _ => rfl
  | branch _ thenArm elseArm _ _ =>
    rw [leafCount, leafCountOf_eq thenArm, leafCountOf_eq elseArm, roles_branch,
      List.count_cons_of_ne (by decide), List.count_cons_of_ne (by decide), List.count_append,
      List.count_append]
    omega

theorem leafCountOf_eq (is : List Intent) :
    leafCountOf is = (rolesOf is).count .action + (rolesOf is).count .gap := by
  match is with
  | [] => rfl
  | i :: rest =>
    rw [leafCountOf, leafCount_eq i, leafCountOf_eq rest, rolesOf_cons, List.count_append,
      List.count_append]
    omega

end

mutual

@[simp] theorem roles_classify (procedure : String) (position : Nat) (i : Intent) :
    (i.classify procedure position).roles = i.roles := by
  match i with
  | act _ _ => rfl
  | gap _ _ => rfl
  | branch _ thenArm elseArm _ _ =>
    rw [classify, roles_branch, roles_branch, rolesOf_classifyAll procedure _ thenArm,
      rolesOf_classifyAll procedure _ elseArm]

@[simp] theorem rolesOf_classifyAll (procedure : String) (position : Nat) (is : List Intent) :
    rolesOf (classifyAll procedure position is) = rolesOf is := by
  match is with
  | [] => rfl
  | i :: rest =>
    rw [classifyAll, rolesOf_cons, rolesOf_cons, roles_classify procedure _ i,
      rolesOf_classifyAll procedure _ rest]

end

mutual

@[simp] theorem roles_mapGapsIdx (f : Nat → Gap → Gap) (position : Nat) (i : Intent) :
    (i.mapGapsIdx f position).roles = i.roles := by
  match i with
  | act _ _ => rfl
  | gap _ _ => rfl
  | branch _ thenArm elseArm _ _ =>
    rw [mapGapsIdx, roles_branch, roles_branch, rolesOf_mapGapsIdxOf f _ thenArm,
      rolesOf_mapGapsIdxOf f _ elseArm]

@[simp] theorem rolesOf_mapGapsIdxOf (f : Nat → Gap → Gap) (position : Nat) (is : List Intent) :
    rolesOf (mapGapsIdxOf f position is) = rolesOf is := by
  match is with
  | [] => rfl
  | i :: rest =>
    rw [mapGapsIdxOf, rolesOf_cons, rolesOf_cons, roles_mapGapsIdx f _ i,
      rolesOf_mapGapsIdxOf f _ rest]

end

@[simp] theorem rolesOf_mapGapsOf (f : Gap → Gap) (is : List Intent) :
    rolesOf (mapGapsOf f is) = rolesOf is := by
  rw [mapGapsOf_eq f 0, rolesOf_mapGapsIdxOf]

end Intent

theorem Procedure.rolesOf_fillIds (p : Procedure) :
    Intent.rolesOf p.fillIds.intents = Intent.rolesOf p.intents :=
  Intent.rolesOf_mapGapsIdxOf (Gap.filled p.name) 0 p.intents

theorem Emission.actionCountOf_append (a b : List Intent) :
    actionCountOf (a ++ b) = actionCountOf a + actionCountOf b := by
  rw [Intent.actionCountOf_eq, Intent.actionCountOf_eq, Intent.actionCountOf_eq,
    Intent.rolesOf_append, List.count_append]

namespace Mapped

def nodes (m : Mapped) : List Intent :=
  Intent.nodesOf (m.procedures.flatMap Procedure.intents)

def count (role : Intent.Role) (m : Mapped) : Nat :=
  (m.nodes.map Intent.role).count role

theorem nodes_eq (m : Mapped) :
    m.nodes = m.procedures.flatMap fun p => Intent.nodesOf p.intents := by
  unfold nodes
  induction m.procedures with
  | nil => rfl
  | cons p rest ih => rw [List.flatMap_cons, List.flatMap_cons, Intent.nodesOf_append, ih]

theorem gapNodes_eq (m : Mapped) :
    m.gapNodes = Intent.gapsOf (m.procedures.flatMap Procedure.intents) := by
  unfold gapNodes
  induction m.procedures with
  | nil => rfl
  | cons p rest ih =>
    rw [List.flatMap_cons, List.flatMap_cons, Intent.gapsOf_append, ih]
    rfl

theorem length_gapNodes (m : Mapped) : m.gapNodes.length = m.count .gap := by
  rw [gapNodes_eq, Intent.length_gapsOf]
  rfl

theorem leafCountOf_eq (m : Mapped) :
    Intent.leafCountOf (m.procedures.flatMap Procedure.intents) = m.count .action + m.count .gap :=
  Intent.leafCountOf_eq _

theorem statsOf_eq (m : Mapped) :
    statsOf m.procedures = ⟨m.count .action + m.count .gap, m.count .action, m.count .gap⟩ := by
  have hgap : (m.procedures.flatMap Procedure.gaps).length = m.count .gap := m.length_gapNodes
  rw [statsOf, hgap, leafCountOf_eq, Nat.add_sub_cancel]

section Map

variable {f : Procedure → Procedure}
  (hf : ∀ p, Intent.rolesOf (f p).intents = Intent.rolesOf p.intents)

include hf

theorem count_map (role : Intent.Role) (m : Mapped) :
    ({ m with procedures := m.procedures.map f } : Mapped).count role = m.count role := by
  have hroles : Intent.rolesOf ((m.procedures.map f).flatMap Procedure.intents) =
      Intent.rolesOf (m.procedures.flatMap Procedure.intents) := by
    induction m.procedures with
    | nil => rfl
    | cons p rest ih =>
      rw [List.map_cons, List.flatMap_cons, List.flatMap_cons, Intent.rolesOf_append,
        Intent.rolesOf_append, hf, ih]
  exact congrArg (List.count role) hroles

theorem statsOf_map (procedures : List Procedure) :
    statsOf (procedures.map f) = statsOf procedures := by
  have hmapped := statsOf_eq { procedures := procedures.map f }
  rw [count_map hf _ { procedures }, count_map hf _ { procedures }] at hmapped
  exact hmapped.trans (statsOf_eq { procedures }).symm

end Map

end Mapped

end FormScript
