import FormScript.Intent

/-! Classified procedures with a summary beside them: how many intents are mechanical, how many are
gaps, and a flat list of the gaps in the order in which they stand in the procedures. -/
namespace FormScript

structure MapStats where
  total : Nat
  mechanical : Nat
  gap : Nat
  deriving DecidableEq, Repr

instance : Add MapStats where
  add a b := ⟨a.total + b.total, a.mechanical + b.mechanical, a.gap + b.gap⟩

theorem MapStats.add_def (a b : MapStats) :
    a + b = ⟨a.total + b.total, a.mechanical + b.mechanical, a.gap + b.gap⟩ :=
  rfl

structure GapEntry where
  procedure : String
  id : String
  line : String
  reason : String
  deriving DecidableEq, Repr

structure Mapped where
  procedures : List Procedure := []
  stats : MapStats := ⟨0, 0, 0⟩
  gaps : List GapEntry := []
  deriving DecidableEq, Repr

/-- The id of the gap that comes `position` gaps after the first one of a procedure. -/
def gapId (procedure : String) (position : Nat) : String :=
  procedure ++ ":" ++ String.ofList (Nat.toDigits 10 position)

def Gap.filled (procedure : String) (position : Nat) (g : Gap) : Gap :=
  { g with id := some (g.id.getD (gapId procedure position)) }

def GapEntry.ofGap (procedure : String) (gap : Gap) : GapEntry :=
  ⟨procedure, gap.id.getD "", gap.line, gap.reason⟩

namespace Intent

mutual

/-- Marks every node and numbers the gaps from `position` on. A branch is marked as a gap when one
of its arms has a gap in it, and keeps its mapping or gets the structural one. -/
def classify (procedure : String) (position : Nat) : Intent → Intent
  | act a _ => act a (some .mechanical)
  | gap g _ => gap { g with id := some (gapId procedure position) } (some .gap)
  | branch c thenArm elseArm mapping _ =>
    branch c (classifyAll procedure position thenArm)
      (classifyAll procedure (position + (gapsOf thenArm).length) elseArm)
      (some (mapping.getD .structural))
      (some (if (gapsOf thenArm ++ gapsOf elseArm).isEmpty then .mechanical else .gap))

def classifyAll (procedure : String) (position : Nat) : List Intent → List Intent
  | [] => []
  | i :: rest =>
    i.classify procedure position :: classifyAll procedure (position + i.gaps.length) rest

end

end Intent

namespace Procedure

def entries (p : Procedure) : List GapEntry :=
  p.gaps.map (.ofGap p.name)

def classify (p : Procedure) : Procedure :=
  { p with intents := Intent.classifyAll p.name 0 p.intents }

/-- Gives an id to each gap that has none, by its place among all gaps of the procedure. -/
def fillIds (p : Procedure) : Procedure :=
  { p with intents := Intent.mapGapsIdxOf (Gap.filled p.name) 0 p.intents }

def mapGaps (f : Gap → Gap) (p : Procedure) : Procedure :=
  { p with intents := Intent.mapGapsOf f p.intents }

section Walk

variable {σ : Type} (visit : Gap → σ → Gap × σ)

def walk (p : Procedure) (s : σ) : Procedure × σ :=
  let (intents, s) := Intent.walkAll visit p.intents s
  ({ p with intents }, s)

def walkAll : List Procedure → σ → List Procedure × σ
  | [], s => ([], s)
  | p :: rest, s =>
    let (p, s) := p.walk visit s
    let (rest, s) := walkAll rest s
    (p :: rest, s)

end Walk

end Procedure

namespace Mapped

def statsOf (procedures : List Procedure) : MapStats :=
  let total := Intent.leafCountOf (procedures.flatMap Procedure.intents)
  let gap := (procedures.flatMap Procedure.gaps).length
  ⟨total, total - gap, gap⟩

def ofProcedures (procedures : List Procedure) : Mapped :=
  ⟨procedures, statsOf procedures, procedures.flatMap Procedure.entries⟩

def classify (procedures : List Procedure) : Mapped :=
  ofProcedures (procedures.map .classify)

/-- Builds the summary anew, keeping the ids that are there. -/
def recount (m : Mapped) : Mapped :=
  ofProcedures (m.procedures.map .fillIds)

def gapNodes (m : Mapped) : List Gap :=
  m.procedures.flatMap Procedure.gaps

/-- What the counts say about gaps, true or not. -/
def countsGaps (m : Mapped) : Bool :=
  0 < m.stats.gap

def hasOpenGaps (m : Mapped) : Bool :=
  m.gapNodes.any Gap.isOpen

def openIds (m : Mapped) : List String :=
  (m.gapNodes.filter Gap.isOpen).filterMap Gap.id

def openGaps (m : Mapped) : List GapEntry :=
  m.gaps.filter (m.openIds.contains ·.id)

def mapGaps (f : Gap → Gap) (m : Mapped) : Mapped :=
  { m with procedures := m.procedures.map (.mapGaps f) }

def walk {σ : Type} (visit : Gap → σ → Gap × σ) (m : Mapped) (s : σ) : Mapped × σ :=
  let (procedures, s) := Procedure.walkAll visit m.procedures s
  ({ m with procedures }, s)

end Mapped

end FormScript
