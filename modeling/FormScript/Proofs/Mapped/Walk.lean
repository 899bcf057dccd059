import FormScript.Proofs.Mapped.Recounted

/-! Recounting by walking. Two walkers go over the same tree: one counts what is no branch, and the
other visits the gaps, numbers them and lists them. What the second has seen is among what the first
has counted, so that the one count can be taken from the other, whatever the tree and its old
summary. -/
namespace FormScript

namespace Intent

def gap? : Intent → Option Gap
  | gap g _ => some g
  | _ => none

def gapNodesOf (is : List Intent) : List Gap :=
  (nodesOf is).filterMap gap?

end Intent

/-- What a recount carries along in a procedure: the number of the next gap, and the list so far. -/
structure Ledger where
  next : Nat
  entries : List GapEntry
  deriving DecidableEq, Repr

namespace Gap

def enter (procedure : String) (g : Gap) (l : Ledger) : Gap × Ledger :=
  let id := g.id.getD (gapId procedure l.next)
  ({ g with id := some id }, ⟨l.next + 1, l.entries ++ [⟨procedure, id, g.line, g.reason⟩]⟩)

def withoutId (g : Gap) : Gap :=
  { g with id := none }

end Gap

namespace Intent

mutual

theorem gaps_eq (i : Intent) : i.gaps = i.nodes.filterMap gap? := by
  match i with
  | act _ _ => rfl
  | gap _ _ => rfl
  | branch _ thenArm elseArm _ _ =>
    rw [gaps, nodes, gapsOf_eq thenArm, gapsOf_eq elseArm, List.filterMap_cons_none rfl,
      List.filterMap_append]
    rfl

theorem gapsOf_eq (is : List Intent) : gapsOf is = gapNodesOf is := by
  match is with
  | [] => rfl
  | i :: rest =>
    rw [gapsOf, gapNodesOf, nodesOf, List.filterMap_append, gaps_eq i, gapsOf_eq rest]
    rfl

end

end Intent

namespace Ledger

def add (procedure : String) (l : Ledger) (g : Gap) : Ledger :=
  (g.enter procedure l).2

theorem keepsPlace_enter (procedure : String) :
    KeepsPlace (Gap.enter procedure) next (Gap.filled procedure) (add procedure) where
  visit_eq _ _ := rfl
  place_step _ _ := rfl

theorem entries_foldl_add (procedure : String) (gs : List Gap) (l : Ledger) :
    (gs.foldl (add procedure) l).entries =
      l.entries ++ (Gap.filledFrom procedure l.next gs).map (.ofGap procedure) := by
  induction gs generalizing l with
  | nil => simp [Gap.filledFrom]
  | cons g rest ih =>
    rw [List.foldl_cons, ih, Gap.filledFrom, Gap.filledFrom, List.zipIdx_cons, List.map_cons,
      List.map_cons, List.append_cons]
    rfl

end Ledger

namespace Mapped

structure Recounting where
  procedures : List Procedure := []
  total : Nat := 0
  gaps : List GapEntry := []
  deriving DecidableEq, Repr

/-- Counts what is no branch in a procedure, and then numbers and lists its gaps. -/
def Recounting.add (t : Recounting) (p : Procedure) : Recounting :=
  let (intents, l) := Intent.walkAll (Gap.enter p.name) p.intents ⟨0, t.gaps⟩
  ⟨t.procedures ++ [{ p with intents }], t.total + Intent.leafCountOf p.intents, l.entries⟩

/-- A recount by the two walks. It fails if more gaps were listed than intents were counted. -/
def recountByWalks? (m : Mapped) : Option Mapped :=
  let t := m.procedures.foldl Recounting.add {}
  if t.gaps.length ≤ t.total then
    some ⟨t.procedures, ⟨t.total, t.total - t.gaps.length, t.gaps.length⟩, t.gaps⟩
  else none

theorem Recounting.add_eq (t : Recounting) (p : Procedure) :
    t.add p = ⟨t.procedures ++ [p.fillIds], t.total + Intent.leafCountOf p.intents,
      t.gaps ++ p.fillIds.entries⟩ := by
  simp only [add, Intent.walkAll_eq (Ledger.keepsPlace_enter p.name), Ledger.entries_foldl_add,
    Procedure.entries, p.gaps_fillIds]
  rfl

theorem Recounting.foldl_add (t : Recounting) (ps : List Procedure) :
    ps.foldl add t = ⟨t.procedures ++ ps.map .fillIds,
      t.total + Intent.leafCountOf (ps.flatMap Procedure.intents),
      t.gaps ++ (ps.map .fillIds).flatMap Procedure.entries⟩ := by
  induction ps generalizing t with
  | nil => simp [Intent.leafCountOf]
  | cons p rest ih =>
    rw [List.foldl_cons, ih, add_eq]
    simp [Intent.leafCountOf_append, Nat.add_assoc]

theorem length_entries (ps : List Procedure) :
    (ps.flatMap Procedure.entries).length = (ps.flatMap Procedure.gaps).length := by
  simp [List.length_flatMap, Procedure.entries]

theorem leafCountOf_fillIds (ps : List Procedure) :
    Intent.leafCountOf ((ps.map .fillIds).flatMap Procedure.intents) =
      Intent.leafCountOf (ps.flatMap Procedure.intents) :=
  congrArg MapStats.total
    (statsOf_map Procedure.rolesOf_fillIds ps)

theorem recountByWalks?_eq (m : Mapped) : m.recountByWalks? = some m.recount := by
  have hle := length_gaps_le (m.procedures.map .fillIds)
  rw [leafCountOf_fillIds] at hle
  simp only [recountByWalks?, Recounting.foldl_add, List.nil_append, Nat.zero_add, length_entries,
    if_pos hle, recount, ofProcedures, statsOf, leafCountOf_fillIds]

end Mapped

/-- The same procedure, but for ids of gaps: one that has none has that of its place. -/
structure Procedure.Filled (p q : Procedure) : Prop where
  name : q.name = p.name
  trigger : q.trigger = p.trigger
  tree : Intent.mapGapsOf Gap.withoutId q.intents = Intent.mapGapsOf Gap.withoutId p.intents
  gaps : ∀ k, (Intent.gapNodesOf q.intents)[k]? =
    (Intent.gapNodesOf p.intents)[k]?.map (Gap.filled p.name k)

theorem Procedure.filled_fillIds (p : Procedure) : p.Filled p.fillIds where
  name := rfl
  trigger := rfl
  tree := Intent.mapGapsOf_mapGapsIdxOf (f := Gap.filled p.name) (fun _ _ => rfl) 0 p.intents
  gaps k := by
    rw [← Intent.gapsOf_eq, ← Intent.gapsOf_eq, Procedure.fillIds, Intent.gapsOf_mapGapsIdxOf,
      List.getElem?_mapIdx, Nat.zero_add]

namespace Mapped

theorem count_recount (m : Mapped) (role : Intent.Role) : m.recount.count role = m.count role :=
  m.count_map Procedure.rolesOf_fillIds role

theorem gaps_recount (m : Mapped) :
    m.recount.gaps.map (fun e => (e.procedure, some e.id, e.line, e.reason)) =
      m.recount.procedures.flatMap fun p =>
        (Intent.gapNodesOf p.intents).map fun g => (p.name, g.id, g.line, g.reason) := by
  have hsummed := m.isSummed_recount
  rw [hsummed.gaps, List.map_flatMap]
  refine List.flatMap_congr fun p hp => ?_
  rw [Procedure.entries, Procedure.gaps, Intent.gapsOf_eq, List.map_map]
  refine List.map_congr_left fun g hg => ?_
  rw [← Intent.gapsOf_eq] at hg
  obtain ⟨id, hid⟩ := Option.isSome_iff_exists.mp
    (hsummed.ids g (List.mem_flatMap.mpr ⟨p, hp, hg⟩))
  simp [GapEntry.ofGap, hid]

end Mapped

/-- A recount never takes more away than there is. It counts and lists the nodes as they are, and
nothing changes in them but that ids are filled in where they are missing; a second one changes
nothing. -/
theorem recount_exact (m : Mapped) :
    m.recountByWalks? = some m.recount ∧
    m.recount.stats = ⟨m.nodes.countP (·.role ≠ .branch), m.count .action, m.count .gap⟩ ∧
    m.recount.stats.gap ≤ m.recount.stats.total ∧
    m.recount.gaps.map (fun e => (e.procedure, some e.id, e.line, e.reason)) =
      m.recount.procedures.flatMap (fun p =>
        (Intent.gapNodesOf p.intents).map fun g => (p.name, g.id, g.line, g.reason)) ∧
    List.Forall₂ Procedure.Filled m.procedures m.recount.procedures ∧
    (∀ role, m.recount.count role = m.count role) ∧
    m.recount.recount = m.recount := by
  have hsummed := m.isSummed_recount
  refine ⟨m.recountByWalks?_eq, ?_, ?_, m.gaps_recount, ?_, m.count_recount, ?_⟩
  · rw [m.stats_recount, m.countP_leaves]
  · rw [m.stats_recount]
    exact Nat.le_add_left _ _
  · exact List.forall₂_map_right_iff.mpr (List.forall₂_same.mpr fun p _ => p.filled_fillIds)
  · exact Mapped.recount_eq_self_iff.mpr hsummed

example :
    let m : Mapped := ⟨[⟨"a", "", [.gap ⟨"x", "", none, none⟩ none, .branch .newRecord
        [.gap ⟨"y", "", some "a:2", none⟩ none] [.act .requery none] none none]⟩,
      ⟨"a", "", [.gap ⟨"z", "", none, none⟩ none]⟩], ⟨7, 8, 9⟩, [⟨"b", "b:0", "", ""⟩]⟩
    m.recount.stats = ⟨4, 1, 3⟩ ∧ m.recount.gaps.map GapEntry.id = ["a:0", "a:2", "a:0"] := by
  decide

end FormScript
