import FormScript.Agent
import FormScript.Prompt
import FormScript.Source.Recognition
import FormScript.Wire.Mapped

/-! Runs. A step reads the data gathered so far and yields one output; it asks the agent at most
once. A run takes the steps that the data still needs, in their fixed order, and stops at the first
one that fails. -/
namespace FormScript

open Wire

structure Context where
  moduleName : String
  agent : Option Agent
  answers : Answers
  /-- The times at which answers are attached. -/
  now : Clock
  /-- How long each step takes. -/
  took : Step → Duration := fun _ => .zero

/-- A step either is finished at once or depends on one reply of the agent. -/
inductive Turn where
  | finished (output : StepOutput)
  | ask (prompt : String) (finish : Json → Except Failure StepOutput)

namespace Reply

def wrapped? (name : String) (decode : Json → Option α) (v : Json) : Option α :=
  ((v.get? name).bind decode).or (decode v)

def orWrongShape (reply : Reply) : Option α → Except Failure α
  | some a => .ok a
  | none => .error (.wrongShape reply)

end Reply

namespace ModuleData

def sourceOf (d : ModuleData) : Except Failure String :=
  match d.source with
  | some s => .ok s
  | none => .error (.missingInput .source)

def mappedOf (d : ModuleData) : Except Failure Mapped :=
  match d.mapped with
  | some m => .ok m
  | none => .error (.missingInput .mapped)

end ModuleData

def Generated.output (g : Generated) : StepOutput :=
  .generated g.source g.stats

def questionsAbout (gaps : List GapEntry) (questions : List GapQuestion) : List GapQuestion :=
  questions.filter fun q => gaps.any (·.id = q.gapId)

def answered (d : ModuleData) (ctx : Context) (m : Mapped) : StepOutput :=
  let known := ctx.answers.proposals (d.questions.getD [])
  if known.isEmpty then .resolved m false
  else
    let (next, attached) := m.attach (known.lookup ·) ctx.now
    if attached = 0 then .resolved m false else .resolved next true

def scriptOutput (stats : GenerateStats) (reply : Json) : Except Failure StepOutput := do
  let source ← Reply.orWrongShape .script (Reply.wrapped? "source" text? reply)
  if Text.isBlankText source then .error .emptyScript else .ok (.generated source stats)

namespace Method

def start (method : Method) (d : ModuleData) (ctx : Context) : Except Failure Turn :=
  match method with
  | askForProcedures => do
    let source ← d.sourceOf
    return .ask (Prompt.procedures ctx.moduleName source) fun reply => do
      return .extracted (← Reply.orWrongShape .procedures
        (Reply.wrapped? "procedures" (listOf? (Procedure.ofJson? false)) reply))
  | recognizeProcedures => do
    return .finished (.extracted (Source.recognize (← d.sourceOf)))
  | classifyIntents => .ok (.finished (.mapped (.classify (d.procedures.getD []))))
  | askForQuestions => do
    let m ← d.mappedOf
    let gaps := m.openGaps
    if gaps.isEmpty then return .finished (.questions [])
    else return .ask (Prompt.questions ctx.moduleName gaps) fun reply => do
      return .questions (questionsAbout gaps (← Reply.orWrongShape .questions
        (Reply.wrapped? "questions" (listOf? GapQuestion.ofJson?) reply)))
  | noQuestions => .ok (.finished (.questions []))
  | answerGaps => do return .finished (answered d ctx (← d.mappedOf))
  | keepGaps => do return .finished (.resolved (← d.mappedOf) false)
  | askForScript => do
    let m ← d.mappedOf
    let skeleton := Emission.generate m ctx.moduleName
    if skeleton.stats.gapCount = 0 then return .finished skeleton.output
    else return .ask (Prompt.script skeleton.source m.gaps) (scriptOutput skeleton.stats)
  | emitScript => do
    return .finished (Emission.generate (← d.mappedOf) ctx.moduleName).output

/-- Takes a step by a method. `asked` is what the agent has seen so far. -/
def perform (method : Method) (d : ModuleData) (ctx : Context) (asked : List String) :
    Except Failure StepOutput × List String :=
  match method.start d ctx with
  | .error e => (.error e, asked)
  | .ok (.finished output) => (.ok output, asked)
  | .ok (.ask prompt finish) =>
    let (reply, asked) := ask ctx.agent asked prompt
    (reply >>= finish, asked)

end Method

def Step.execute (step : Step) (method : Method) (d : ModuleData) (ctx : Context)
    (asked : List String) : Except PipelineError StepResult × List String :=
  match method.perform d ctx asked with
  | (.ok output, asked) => (.ok ⟨step, method.strategy, output, ctx.took step⟩, asked)
  | (.error e, asked) => (.error (.failed step method.strategy e), asked)

def runStep (step : String) (strategy : Option String) (d : ModuleData) (ctx : Context) :
    Except PipelineError StepResult × List String :=
  match Step.get step with
  | .error e => (.error e, [])
  | .ok step =>
    match step.resolve strategy with
    | .error e => (.error e, [])
    | .ok method => step.execute method d ctx []

/-- Names of strategies by names of steps, each step at most once. -/
abbrev Config := List (String × String)

namespace Config

def check : Config → Except PipelineError Unit
  | [] => .ok ()
  | (step, strategy) :: rest => do
    let step ← Step.get step
    let _ ← step.resolve (some strategy)
    check rest

/-- The method for every step, decided before any of them is taken. -/
def plan (config : Config) : Except PipelineError (List (Step × Method)) := do
  config.check
  Step.all.mapM fun step => do return (step, ← step.resolve (config.lookup step.name))

end Config

/-- Whether the data still needs a step. Counts may be out of date, so the procedures are looked at
too. -/
def Step.isNeeded (d : ModuleData) : Step → Bool
  | extract => d.procedures.isNone && d.mapped.isNone
  | map => d.mapped.isNone
  | gapQuestions => d.mapped.any fun m => m.countsGaps || m.hasOpenGaps
  | resolveGaps => d.mapped.any fun m => m.countsGaps || m.hasOpenGaps
  | generate => true

/-- Takes the planned steps that are needed; `results` holds those completed so far, in order. -/
def runPlan (ctx : Context) (results : List StepResult) (d : ModuleData) (asked : List String) :
    List (Step × Method) → RunResult × List String
  | [] => (⟨.complete, results, d.status, none, d⟩, asked)
  | (step, method) :: rest =>
    if step.isNeeded d then
      match step.execute method d ctx asked with
      | (.ok result, asked) => runPlan ctx (results ++ [result]) (d.merge result.output) asked rest
      | (.error e, asked) => (⟨.failed, results, d.status, some e.message, d⟩, asked)
    else runPlan ctx results d asked rest

/-- A run over the given data, and the prompts that the agent saw. -/
def runPipeline (d : ModuleData) (ctx : Context) (config : Config) :
    Except PipelineError (RunResult × List String) := do
  return runPlan ctx [] d [] (← config.plan)

end FormScript
