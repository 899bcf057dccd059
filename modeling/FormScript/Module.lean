import FormScript.Answering
import FormScript.Emission

/-! A module on its way from source to script: the data gathered so far, what it needs next, and the
record under which it is kept. -/
namespace FormScript

inductive NextStep where
  | extract
  | map
  | resolveGaps
  | generate
  | complete
  deriving DecidableEq, Repr

inductive Progress where
  | pending
  | complete
  deriving DecidableEq, Repr

structure ModuleStatus where
  step : NextStep
  progress : Progress
  deriving DecidableEq, Repr

namespace NextStep

def all : List NextStep := [.extract, .map, .resolveGaps, .generate, .complete]

def name : NextStep → String
  | extract => "extract"
  | map => "map"
  | resolveGaps => "resolve-gaps"
  | generate => "generate"
  | complete => "complete"

end NextStep

namespace Progress

def all : List Progress := [.pending, .complete]

def name : Progress → String
  | pending => "pending"
  | complete => "complete"

end Progress

namespace ModuleStatus

def pending (step : NextStep) : ModuleStatus := ⟨step, .pending⟩

def complete : ModuleStatus := ⟨.complete, .complete⟩

def isComplete (s : ModuleStatus) : Bool :=
  s.progress == .complete

def text (s : ModuleStatus) : String :=
  s.step.name ++ " (" ++ s.progress.name ++ ")"

end ModuleStatus

structure ModuleData where
  source : Option String := none
  procedures : Option (List Procedure) := none
  mapped : Option Mapped := none
  questions : Option (List GapQuestion) := none
  generatedSource : Option String := none
  generateStats : Option GenerateStats := none
  deriving DecidableEq, Repr

namespace ModuleData

def ofSource (source : String) : ModuleData :=
  { source := some source }

def fresh (d : ModuleData) : ModuleData :=
  { source := d.source }

/-- The first thing that is missing. -/
def status (d : ModuleData) : ModuleStatus :=
  if d.procedures.isNone then .pending .extract
  else match d.mapped with
    | none => .pending .map
    | some m =>
      if m.hasOpenGaps then .pending .resolveGaps
      else if d.generatedSource.isNone then .pending .generate
      else .complete

def statusOf? (d : Option ModuleData) : ModuleStatus :=
  match d with
  | none => .pending .extract
  | some d => d.status

end ModuleData

/-- A module as it is kept: its name, how many runs it has completed, and its data. -/
structure ModuleRecord where
  name : String := ""
  version : UInt32 := 0
  status : Option ModuleStatus := none
  data : ModuleData := {}
  deriving DecidableEq, Repr

namespace ModuleRecord

def new (name source : String) : ModuleRecord :=
  { name, data := .ofSource source }

def rename (name : String) (r : ModuleRecord) : ModuleRecord :=
  { r with name }

def fresh (r : ModuleRecord) : ModuleRecord :=
  { r with data := r.data.fresh }

def recount (r : ModuleRecord) : ModuleRecord :=
  { r with data := { r.data with mapped := r.data.mapped.map .recount } }

end ModuleRecord

end FormScript
