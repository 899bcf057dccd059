import FormScript.Step
import FormScript.Wire.Module

/-! Step outputs and the results of runs as JSON. -/
namespace FormScript

open Wire

def Step.toJson (s : Step) : Json := .str s.name

def Step.ofJson? (v : Json) : Option Step := named? false Step.name Step.all v

def Strategy.toJson (s : Strategy) : Json := .str s.name

def Strategy.ofJson? (v : Json) : Option Strategy := named? false Strategy.name Strategy.all v

def RunStatus.toJson (s : RunStatus) : Json := .str s.name

def RunStatus.ofJson? (v : Json) : Option RunStatus := named? false RunStatus.name RunStatus.all v

namespace StepOutput

def kinds : List String := ["extracted", "mapped", "questions", "resolved", "generated"]

def toJson : StepOutput → Json
  | extracted ps =>
    .obj [("kind", .str "extracted"), ("procedures", .arr (ps.map Procedure.toJson))]
  | mapped m => .obj [("kind", .str "mapped"), ("mapped", m.toJson)]
  | questions qs =>
    .obj [("kind", .str "questions"), ("questions", .arr (qs.map GapQuestion.toJson))]
  | resolved m changed =>
    .obj [("kind", .str "resolved"), ("mapped", m.toJson), ("changed", .bool changed)]
  | generated source stats =>
    .obj [("kind", .str "generated"), ("source", .str source), ("stats", stats.toJson)]

def ofKind? (kind : String) (rest : Json) : Option StepOutput :=
  if kind = "extracted" then do
    let fields ← fields? ["procedures"] rest
    return .extracted (← fields.required "procedures" (listOf? (Procedure.ofJson? true)))
  else if kind = "mapped" then do
    let fields ← fields? ["mapped"] rest
    return .mapped (← fields.required "mapped" (Mapped.ofJson? true))
  else if kind = "questions" then do
    let fields ← fields? ["questions"] rest
    return .questions (← fields.required "questions" (listOf? GapQuestion.ofJson?))
  else if kind = "resolved" then do
    let fields ← fields? ["mapped", "changed"] rest
    return .resolved (← fields.required "mapped" (Mapped.ofJson? true))
      (← fields.required "changed" flag?)
  else do
    let fields ← fields? ["source", "stats"] rest
    return .generated (← fields.required "source" text?)
      (← fields.required "stats" GenerateStats.ofJson?)

def ofJson? : Json → Option StepOutput
  | .obj fields => do
    ofKind? (← (Json.fieldOf "kind" fields).bind (tag? false kinds)) (.obj fields)
  | .arr (kind :: rest) => do
    ofKind? (← tag? false kinds kind) (.arr rest)
  | _ => none

end StepOutput

def Duration.toJson (d : Duration) : Json :=
  .obj [("secs", .int d.secs.toNat), ("nanos", .int d.nanos.val)]

/-- A length of time has no fields but its own two. -/
def Duration.ofJson? (v : Json) : Option Duration := do
  let fields ← fields? ["secs", "nanos"] v
  match v with
  | .obj given => if given.all (fun (k, _) => k = "secs" || k = "nanos") then pure () else none
  | _ => pure ()
  let nanos ← fields.required "nanos" count?
  if nanos < UInt32.size then ofParts? (← fields.required "secs" count?) nanos else none

def StepResult.toJson (r : StepResult) : Json :=
  .obj [("step", r.step.toJson), ("strategy", r.strategy.toJson), ("result", r.output.toJson),
    ("duration", r.duration.toJson)]

def StepResult.ofJson? (v : Json) : Option StepResult := do
  let fields ← fields? ["step", "strategy", "result", "duration"] v
  return ⟨← fields.required "step" Step.ofJson?, ← fields.required "strategy" Strategy.ofJson?,
    ← fields.required "result" StepOutput.ofJson?, ← fields.required "duration" Duration.ofJson?⟩

def RunResult.toJson (r : RunResult) : Json :=
  .obj ([("status", r.status.toJson), ("results", .arr (r.results.map StepResult.toJson)),
    ("moduleStatus", r.moduleStatus.toJson)] ++ Json.optional "error" (r.error.map .str) ++
    [("data", r.data.toJson)])

def RunResult.ofJson? (v : Json) : Option RunResult := do
  let fields ← fields? ["status", "results", "moduleStatus", "error", "data"] v
  return ⟨← fields.required "status" RunStatus.ofJson?,
    ← fields.required "results" (listOf? StepResult.ofJson?),
    ← fields.required "moduleStatus" ModuleStatus.ofJson?, ← fields.optional "error" text?,
    ← fields.required "data" ModuleData.ofJson?⟩

end FormScript
