import FormScript.Duration
import FormScript.Module

/-! The five steps of a run, the strategies that each of them can take, and what a step yields. -/
namespace FormScript

inductive Step where
  | extract
  | map
  | gapQuestions
  | resolveGaps
  | generate
  deriving DecidableEq, Repr

inductive Strategy where
  | llm
  | mock
  | deterministic
  | skip
  | auto
  | full
  | mechanical
  deriving DecidableEq, Repr

namespace Step

def all : List Step := [.extract, .map, .gapQuestions, .resolveGaps, .generate]

def name : Step → String
  | extract => "extract"
  | map => "map"
  | gapQuestions => "gap-questions"
  | resolveGaps => "resolve-gaps"
  | generate => "generate"

def ofName? (name : String) : Option Step :=
  all.find? (·.name = name)

end Step

namespace Strategy

def all : List Strategy := [.llm, .mock, .deterministic, .skip, .auto, .full, .mechanical]

def name : Strategy → String
  | llm => "llm"
  | mock => "mock"
  | deterministic => "deterministic"
  | skip => "skip"
  | auto => "auto"
  | full => "full"
  | mechanical => "mechanical"

def ofName? (name : String) : Option Strategy :=
  all.find? (·.name = name)

end Strategy

inductive Method where
  | askForProcedures
  | recognizeProcedures
  | classifyIntents
  | askForQuestions
  | noQuestions
  | answerGaps
  | keepGaps
  | askForScript
  | emitScript
  deriving DecidableEq, Repr

def Method.strategy : Method → Strategy
  | askForProcedures => .llm
  | recognizeProcedures => .mock
  | classifyIntents => .deterministic
  | askForQuestions => .llm
  | noQuestions => .skip
  | answerGaps => .auto
  | keepGaps => .skip
  | askForScript => .full
  | emitScript => .mechanical

namespace Step

def methods : Step → List Method
  | extract => [.askForProcedures, .recognizeProcedures]
  | map => [.classifyIntents]
  | gapQuestions => [.askForQuestions, .noQuestions]
  | resolveGaps => [.answerGaps, .keepGaps]
  | generate => [.askForScript, .emitScript]

def strategies (s : Step) : List Strategy :=
  s.methods.map Method.strategy

def defaultStrategy : Step → Strategy
  | extract => .llm
  | map => .deterministic
  | gapQuestions => .llm
  | resolveGaps => .auto
  | generate => .full

def method? (s : Step) (strategy : Strategy) : Option Method :=
  s.methods.find? (·.strategy = strategy)

end Step

/-- What a step yields, and so which part of the data it replaces. -/
inductive StepOutput where
  | extracted (procedures : List Procedure)
  | mapped (mapped : Mapped)
  | questions (questions : List GapQuestion)
  | resolved (mapped : Mapped) (changed : Bool)
  | generated (source : String) (stats : GenerateStats)
  deriving DecidableEq, Repr

def ModuleData.merge (d : ModuleData) : StepOutput → ModuleData
  | .extracted procedures => { d with procedures := some procedures }
  | .mapped m => { d with mapped := some m }
  | .questions qs => { d with questions := some qs }
  | .resolved m changed => if changed then { d with mapped := some m } else d
  | .generated source stats =>
    { d with generatedSource := some source, generateStats := some stats }

structure StepResult where
  step : Step
  strategy : Strategy
  output : StepOutput
  duration : Duration
  deriving DecidableEq, Repr

inductive RunStatus where
  | complete
  | failed
  deriving DecidableEq, Repr

namespace RunStatus

def all : List RunStatus := [.complete, .failed]

def name : RunStatus → String
  | complete => "complete"
  | failed => "failed"

end RunStatus

structure RunResult where
  status : RunStatus
  /-- The steps that were completed, in order. -/
  results : List StepResult
  moduleStatus : ModuleStatus
  /-- What went wrong in the step after the last completed one. -/
  error : Option String
  data : ModuleData
  deriving DecidableEq, Repr

def RunResult.isComplete (r : RunResult) : Bool :=
  r.status == .complete

def RunResult.steps (r : RunResult) : List Step :=
  r.results.map StepResult.step

/-- Takes over the data of a completed run, keeping the source if the run has none. A run that
failed leaves only its status. Nothing comes of a run that the version cannot count. -/
def ModuleRecord.apply? (run : RunResult) (r : ModuleRecord) : Option ModuleRecord :=
  if run.isComplete then
    if r.version.toNat + 1 < UInt32.size then
      some { r with
        data := { run.data with source := run.data.source.or r.data.source }
        version := r.version + 1
        status := some run.moduleStatus }
    else none
  else some { r with status := some run.moduleStatus }

end FormScript
