import FormScript.Proofs.Mapped.Nodes

/-! Counting while writing. In one pass over the procedures the script is written and what has been
written is counted, and both go on from node to node. This comes to writing first and counting the
tree afterwards. -/
namespace FormScript

namespace Emission

/-- How many actions and gaps have been written. -/
structure Written where
  actions : Nat := 0
  gaps : Nat := 0
  deriving DecidableEq, Repr

mutual

def emit : Intent → Written → List String × Written
  | .act a _, w => ([actionForm a], { w with actions := w.actions + 1 })
  | .gap g _, w => (gapLines g, { w with gaps := w.gaps + 1 })
  | .branch c thenArm elseArm _ _, w =>
    let (thenArm, w) := emitAll thenArm w
    let (elseArm, w) := emitAll elseArm w
    (branchLines c thenArm elseArm, w)

def emitAll : List Intent → Written → List (List String) × Written
  | [], w => ([], w)
  | i :: rest, w =>
    let (lines, w) := emit i w
    let (others, w) := emitAll rest w
    (lines :: others, w)

end

def emitProcedure (p : Procedure) (w : Written) : List String × Written :=
  let (body, w) := emitAll p.intents w
  (form ("(defn " ++ Identifier.orElse p.name "procedure")
    ([quote (docText p)] :: ["[ctx]"] :: body), w)

def addProcedure (written : List (List String) × Written) (p : Procedure) :
    List (List String) × Written :=
  let (lines, w) := emitProcedure p written.2
  (written.1 ++ [lines], w)

def generateInOnePass (m : Mapped) (moduleName : String) : Generated :=
  let opening := namespaceLines moduleName ::
    if m.procedures.isEmpty then [[";; no event procedures"]] else []
  let (sections, w) := m.procedures.foldl addProcedure (opening, {})
  { source := "\n\n".intercalate (sections.map Text.joinLines) ++ "\n"
    stats := ⟨m.procedures.length, w.actions, w.gaps⟩ }

def Written.after (w : Written) (is : List Intent) : Written :=
  ⟨w.actions + actionCountOf is, w.gaps + (Intent.gapsOf is).length⟩

theorem Written.after_append (w : Written) (a b : List Intent) :
    w.after (a ++ b) = (w.after a).after b := by
  simp [after, actionCountOf_append, Intent.gapsOf_append, Nat.add_assoc]

mutual

theorem emit_eq (i : Intent) (w : Written) : emit i w = (intentLines i, w.after [i]) := by
  match i with
  | .act _ _ => rfl
  | .gap _ _ => rfl
  | .branch _ thenArm elseArm _ _ =>
    simp only [emit, emitAll_eq thenArm w, emitAll_eq elseArm, intentLines, ← Written.after_append]
    simp [Written.after, actionCountOf, actionCount, Intent.gapsOf, Intent.gaps,
      actionCountOf_append, Intent.gapsOf_append]

theorem emitAll_eq (is : List Intent) (w : Written) :
    emitAll is w = (intentsLines is, w.after is) := by
  match is with
  | [] => rfl
  | i :: rest =>
    simp only [emitAll, emit_eq i w, emitAll_eq rest, intentsLines, ← Written.after_append,
      List.singleton_append]

end

theorem foldl_addProcedure (ps : List Procedure) (written : List (List String) × Written) :
    ps.foldl addProcedure written = (written.1 ++ ps.map procedureLines,
      written.2.after (ps.flatMap Procedure.intents)) := by
  induction ps generalizing written with
  | nil => simp [Written.after, actionCountOf, Intent.gapsOf]
  | cons p rest ih =>
    rw [List.foldl_cons, ih]
    simp [addProcedure, emitProcedure, emitAll_eq, procedureLines, Written.after_append]

/-- Writing and counting in one pass is writing and then counting. -/
theorem generateInOnePass_eq (m : Mapped) (moduleName : String) :
    generateInOnePass m moduleName = generate m moduleName := by
  simp only [generateInOnePass, foldl_addProcedure, generate, sections, m.gapNodes_eq,
    Written.after, Nat.zero_add]
  cases m.procedures <;> rfl

end Emission

end FormScript
