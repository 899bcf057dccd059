import FormScript.Proofs.Mapped.Summary
import FormScript.Proofs.Script.Counted

/-! Counting while classifying. In one pass the number of the next gap, the counts and the list of
gaps go on from node to node, and a branch is marked by the marks that its arms have got. This comes
to what classifying first and counting afterwards comes to, and whoever counts the tree later, be it
before or after gaps are answered, counts the same. -/
namespace FormScript

structure Tally where
  /-- The number of the next gap. -/
  next : Nat := 0
  stats : MapStats := ⟨0, 0, 0⟩
  entries : List GapEntry := []
  deriving DecidableEq, Repr

namespace Tally

def seeAction (t : Tally) : Tally :=
  { t with stats := t.stats + ⟨1, 1, 0⟩ }

def seeGap (entry : GapEntry) (t : Tally) : Tally :=
  ⟨t.next + 1, t.stats + ⟨1, 0, 1⟩, t.entries ++ [entry]⟩

end Tally

namespace Intent

mutual

/-- Marks and numbers an intent in one pass. -/
def pass (procedure : String) : Intent → Tally → Intent × Tally
  | act a _, t => (act a (some .mechanical), t.seeAction)
  | gap g _, t =>
    let id := gapId procedure t.next
    (gap { g with id := some id } (some .gap), t.seeGap ⟨procedure, id, g.line, g.reason⟩)
  | branch c thenArm elseArm mapping _, t =>
    let (thenArm, t) := passAll procedure thenArm t
    let (elseArm, t) := passAll procedure elseArm t
    (branch c thenArm elseArm (some (mapping.getD .structural))
      (some (if (thenArm ++ elseArm).any (·.mark = some .gap) then .gap else .mechanical)), t)

def passAll (procedure : String) : List Intent → Tally → List Intent × Tally
  | [], t => ([], t)
  | i :: rest, t =>
    let (i, t) := pass procedure i t
    let (rest, t) := passAll procedure rest t
    (i :: rest, t)

end

theorem mark_classify (procedure : String) (position : Nat) (i : Intent) :
    (i.classify procedure position).mark = some (if i.gaps.isEmpty then .mechanical else .gap) := by
  cases i <;> rfl

theorem any_mark_classifyAll (procedure : String) (position : Nat) (is : List Intent) :
    (classifyAll procedure position is).any (·.mark = some .gap) = !(gapsOf is).isEmpty := by
  induction is generalizing position with
  | nil => rfl
  | cons i rest ih =>
    rw [classifyAll, List.any_cons, ih, mark_classify, gapsOf]
    cases i.gaps <;> rfl

theorem length_gaps_classify (procedure : String) (position : Nat) (i : Intent) :
    (i.classify procedure position).gaps.length = i.gaps.length := by
  rw [length_gaps, length_gaps, roles_classify]

theorem length_gapsOf_classifyAll (procedure : String) (position : Nat) (is : List Intent) :
    (gapsOf (classifyAll procedure position is)).length = (gapsOf is).length := by
  rw [length_gapsOf, length_gapsOf, rolesOf_classifyAll]

end Intent

namespace Tally

open Intent Emission

def after (procedure : String) (t : Tally) (is : List Intent) : Tally :=
  ⟨t.next + (gapsOf is).length,
    t.stats + ⟨leafCountOf is, actionCountOf is, (gapsOf is).length⟩,
    t.entries ++ (gapsOf is).map (.ofGap procedure)⟩

theorem after_nil (procedure : String) (t : Tally) : t.after procedure [] = t := by
  simp [after, gapsOf, leafCountOf, actionCountOf, MapStats.add_def]

theorem after_append (procedure : String) (t : Tally) (a b : List Intent) :
    t.after procedure (a ++ b) = (t.after procedure a).after procedure b := by
  simp [after, gapsOf_append, leafCountOf_append, actionCountOf_append, MapStats.add_def,
    Nat.add_assoc]

theorem after_branch (procedure : String) (t : Tally) (c : Condition)
    (thenArm elseArm : List Intent) (mapping : Option Mapping) (m : Option Mark) :
    t.after procedure [branch c thenArm elseArm mapping m] =
      (t.after procedure thenArm).after procedure elseArm := by
  rw [← after_append]
  simp [after, gapsOf, gaps, leafCountOf, leafCount, actionCountOf, actionCount, gapsOf_append,
    leafCountOf_append, actionCountOf_append]

theorem next_after_classifyAll (procedure : String) (t : Tally) (position : Nat)
    (is : List Intent) :
    (t.after procedure (classifyAll procedure position is)).next = t.next + (gapsOf is).length := by
  rw [after, length_gapsOf_classifyAll]

end Tally

namespace Intent

mutual

theorem pass_eq (procedure : String) (i : Intent) (t : Tally) :
    i.pass procedure t =
      (i.classify procedure t.next, t.after procedure [i.classify procedure t.next]) := by
  match i with
  | act a m => simp [pass, classify, Tally.after, Tally.seeAction, gapsOf, gaps, leafCountOf,
      leafCount, Emission.actionCountOf, Emission.actionCount]
  | gap g m => rfl
  | branch c thenArm elseArm mapping m =>
    have helse := passAll_eq procedure elseArm
      (t.after procedure (classifyAll procedure t.next thenArm))
    rw [Tally.next_after_classifyAll] at helse
    have hmark (k k' : Nat) :
        (if (classifyAll procedure k thenArm ++ classifyAll procedure k' elseArm).any
          (·.mark = some .gap) then Mark.gap else .mechanical) =
        if (gapsOf thenArm ++ gapsOf elseArm).isEmpty then .mechanical else .gap := by
      rw [List.any_append, any_mark_classifyAll, any_mark_classifyAll]
      cases gapsOf thenArm <;> cases gapsOf elseArm <;> rfl
    simp only [pass, passAll_eq procedure thenArm t, helse, classify, Tally.after_branch, hmark]

theorem passAll_eq (procedure : String) (is : List Intent) (t : Tally) :
    passAll procedure is t =
      (classifyAll procedure t.next is, t.after procedure (classifyAll procedure t.next is)) := by
  match is with
  | [] => rw [passAll, classifyAll, Tally.after_nil]
  | i :: rest =>
    have hrest := passAll_eq procedure rest (t.after procedure [i.classify procedure t.next])
    have hnext : (t.after procedure [i.classify procedure t.next]).next =
        t.next + i.gaps.length := by
      rw [Tally.after, gapsOf, gapsOf, List.append_nil, length_gaps_classify]
    rw [hnext] at hrest
    simp only [passAll, pass_eq procedure i t, hrest, classifyAll]
    rw [← Tally.after_append, List.singleton_append]

end

end Intent

namespace Mapped

def addInOnePass (m : Mapped) (p : Procedure) : Mapped :=
  let (intents, t) := Intent.passAll p.name p.intents {}
  ⟨m.procedures ++ [{ p with intents }], m.stats + t.stats, m.gaps ++ t.entries⟩

def classifyInOnePass (procedures : List Procedure) : Mapped :=
  procedures.foldl addInOnePass {}

theorem statsOf_concat (procedures : List Procedure) (p : Procedure) :
    statsOf (procedures ++ [p]) = statsOf procedures +
      ⟨Intent.leafCountOf p.intents, Emission.actionCountOf p.intents,
        (Intent.gapsOf p.intents).length⟩ := by
  have hstats (ps : List Procedure) := statsOf_eq { procedures := ps }
  simp only [count, nodes] at hstats
  rw [hstats, hstats, Intent.leafCountOf_eq, Intent.actionCountOf_eq, Intent.length_gapsOf,
    MapStats.add_def]
  have hroles : (Intent.nodesOf ((procedures ++ [p]).flatMap Procedure.intents)).map Intent.role =
      (Intent.nodesOf (procedures.flatMap Procedure.intents)).map Intent.role ++
        Intent.rolesOf p.intents := by
    rw [List.flatMap_append, List.flatMap_singleton]
    exact Intent.rolesOf_append _ _
  simp only [hroles, List.count_append]
  congr 1
  omega

theorem addInOnePass_ofProcedures (procedures : List Procedure) (p : Procedure) :
    (ofProcedures procedures).addInOnePass p = ofProcedures (procedures ++ [p.classify]) := by
  simp only [addInOnePass, Intent.passAll_eq, ofProcedures, statsOf_concat, List.flatMap_append,
    List.flatMap_singleton]
  simp [Tally.after, MapStats.add_def, Procedure.classify, Procedure.entries, Procedure.gaps]

/-- Classifying in one pass is classifying and then counting. -/
theorem classifyInOnePass_eq (procedures : List Procedure) :
    classifyInOnePass procedures = classify procedures := by
  have hfold (before after : List Procedure) :
      after.foldl addInOnePass (ofProcedures before) =
        ofProcedures (before ++ after.map .classify) := by
    induction after generalizing before with
    | nil => simp
    | cons p rest ih => simp [addInOnePass_ofProcedures, ih]
  exact hfold [] procedures

theorem stats_generate (m : Mapped) (moduleName : String) :
    (Emission.generate m moduleName).stats =
      ⟨m.procedures.length, m.count .action, m.count .gap⟩ := by
  rw [Emission.generate, Intent.actionCountOf_eq, length_gapNodes]
  rfl

theorem stats_recount (m : Mapped) :
    m.recount.stats = ⟨m.count .action + m.count .gap, m.count .action, m.count .gap⟩ := by
  rw [← statsOf_eq]
  exact statsOf_map Procedure.rolesOf_fillIds m.procedures

theorem IsSummed.stats_eq {m : Mapped} (h : m.IsSummed) :
    m.stats = ⟨m.count .action + m.count .gap, m.count .action, m.count .gap⟩ := by
  rw [← recount_eq_self_iff.mpr h, stats_recount, recount_eq_self_iff.mpr h]

theorem Grows.count_eq {m m' : Mapped} (h : m.Grows m') (role : Intent.Role) :
    m'.count role = m.count role := by
  have hwithout (n : Mapped) : (n.mapGaps Gap.withoutAnswer).count role = n.count role :=
    n.count_map (fun p => Intent.rolesOf_mapGapsOf Gap.withoutAnswer p.intents) role
  rw [← hwithout m', h.rest, hwithout]

theorem Grows.length_procedures {m m' : Mapped} (h : m.Grows m') :
    m'.procedures.length = m.procedures.length := by
  have hlength := congrArg (fun n : Mapped => n.procedures.length) h.rest
  simpa only [mapGaps, List.length_map] using hlength

end Mapped

/-- Whoever counts a tree counts its nodes: the script, which counts while it is written, a recount,
and the classification, which counts in one pass and keeps actions and gaps apart. Answers given
later change none of it. -/
theorem walkers_agree (m : Mapped) (moduleName : String) :
    Emission.generateInOnePass m moduleName = Emission.generate m moduleName ∧
    (Emission.generate m moduleName).stats =
      ⟨m.procedures.length, m.recount.stats.mechanical, m.recount.stats.gap⟩ ∧
    m.recount.stats = ⟨m.count .action + m.count .gap, m.count .action, m.count .gap⟩ ∧
    ∀ ps : List Procedure, Mapped.classifyInOnePass ps = .classify ps ∧
      ∀ rounds : List ((String → Option Proposal) × Clock),
        (Emission.generate ((Mapped.classify ps).resolveAll rounds) moduleName).stats =
          ⟨ps.length, (Mapped.classify ps).stats.mechanical, (Mapped.classify ps).stats.gap⟩ ∧
        ((Mapped.classify ps).resolveAll rounds).recount.stats = (Mapped.classify ps).stats ∧
        ((Mapped.classify ps).resolveAll rounds).stats = (Mapped.classify ps).stats := by
  refine ⟨Emission.generateInOnePass_eq m moduleName, ?_, m.stats_recount, ?_⟩
  · rw [m.stats_generate, m.stats_recount]
  · intro ps
    refine ⟨Mapped.classifyInOnePass_eq ps, ?_⟩
    intro rounds
    have hgrows := (Mapped.classify ps).grows_resolveAll rounds
    have hstats := (Mapped.isSummed_classify ps).stats_eq
    have hlength : (Mapped.classify ps).procedures.length = ps.length := List.length_map ..
    refine ⟨?_, ?_, hgrows.stats_eq⟩
    · rw [Mapped.stats_generate, hgrows.length_procedures, hgrows.count_eq, hgrows.count_eq, hstats,
        hlength]
    · rw [Mapped.stats_recount, hgrows.count_eq, hgrows.count_eq, hstats]

end FormScript
