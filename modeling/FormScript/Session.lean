import FormScript.Run
import FormScript.Store
import FormScript.Wire.Run

/-! Work on one record with one file to keep it in. An action that fails leaves all as it was. -/
namespace FormScript

structure Session where
  record : ModuleRecord := {}
  file : Option ByteArray := none

inductive SessionAction where
  | create (name source : String)
  | normalize (value : Json)
  | rename (name : String)
  | fresh
  | run (config : Config) (answers : Answers) (agent : Option Agent)
  | step (step : String) (strategy : Option String) (answers : Answers) (agent : Option Agent)
  | merge (output : StepOutput)
  | apply (run : RunResult)
  | recount
  | save
  | load

inductive SessionReport where
  | done
  | ran (run : RunResult) (prompts : List String)
  | stepped (result : StepResult) (prompts : List String)
  | saved (text : String)
  /-- Whether the loaded record is the one that was there. -/
  | loaded (same : Bool)

inductive SessionError where
  | pipeline (error : PipelineError) (prompts : List String)
  | load (error : LoadError)
  /-- There is no version after the last one. -/
  | versionOverflow

namespace Session

def context (s : Session) (answers : Answers) (agent : Option Agent) (now : Clock) : Context :=
  { moduleName := s.record.name, agent, answers, now }

def withRecord (s : Session) (r : ModuleRecord) : Session :=
  { s with record := r }

def withData (s : Session) (d : ModuleData) : Session :=
  s.withRecord { s.record with data := d }

def applyRun (s : Session) (run : RunResult) : Except SessionError Session :=
  match s.record.apply? run with
  | some r => .ok (s.withRecord r)
  | none => .error .versionOverflow

def perform (s : Session) (now : Clock) :
    SessionAction → Except SessionError (Session × SessionReport)
  | .create name source => .ok (s.withRecord (.new name source), .done)
  | .normalize v =>
    match Store.normalize v with
    | .ok r => .ok (s.withRecord r, .done)
    | .error e => .error (.load e)
  | .rename name => .ok (s.withRecord (s.record.rename name), .done)
  | .fresh => .ok (s.withRecord s.record.fresh, .done)
  | .run config answers agent =>
    match runPipeline s.record.data (s.context answers agent now) config with
    | .error e => .error (.pipeline e [])
    | .ok (run, prompts) => do return (← s.applyRun run, .ran run prompts)
  | .step step strategy answers agent =>
    match runStep step strategy s.record.data (s.context answers agent now) with
    | (.error e, prompts) => .error (.pipeline e prompts)
    | (.ok result, prompts) =>
      .ok (s.withData (s.record.data.merge result.output), .stepped result prompts)
  | .merge output => .ok (s.withData (s.record.data.merge output), .done)
  | .apply run => do return (← s.applyRun run, .done)
  | .recount => .ok (s.withRecord s.record.recount, .done)
  | .save =>
    let text := Store.save s.record
    .ok ({ s with file := some text.toUTF8 }, .saved text)
  | .load =>
    match s.file with
    | none => .error (.load (.unreadable "No such file or directory (os error 2)"))
    | some bytes =>
      match Store.load bytes with
      | .ok r => .ok (s.withRecord r, .loaded (r == s.record))
      | .error e => .error (.load e)

end Session

end FormScript
