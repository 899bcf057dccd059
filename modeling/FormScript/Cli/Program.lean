import FormScript.Cli.Command
import FormScript.Cli.Disk
import FormScript.Run
import FormScript.Store
import FormScript.Wire.Module

/-! The program: runs what a module still needs and keeps the record, tells what a record needs
next, or lists the strategies. Only a completed run writes a file, and it writes one. -/
namespace FormScript.Cli

structure Invocation where
  args : List String
  /-- An agent command from the environment; it comes before the one in the arguments. -/
  agentVariable : Option String
  /-- What a command does with a prompt, given the earlier ones. -/
  respond : String → List String → String → Outcome
  now : Clock

structure Ending where
  exit : Nat
  out : String := ""
  err : String := ""
  disk : Disk
  /-- What the agent saw. -/
  prompts : List String := []

def usage : String :=
  "Usage: run_pipeline <run|status|strategies> [OPTIONS]\n"

def Ending.failure (disk : Disk) (prompts : List String) (message : String) : Ending :=
  { exit := 1, err := message ++ "\n", disk, prompts }

def Ending.misuse (disk : Disk) : Ending :=
  { exit := 2, err := usage, disk }

def readingError (path reason : String) : String :=
  "Error reading " ++ path ++ ": " ++ reason

def readFile (disk : Disk) (path : String) : Except String ByteArray :=
  match disk.read path with
  | .ok bytes => .ok bytes
  | .error e => .error (readingError path e.message)

def loadRecord (disk : Disk) (path : String) : Except String ModuleRecord := do
  match Store.load (← readFile disk path) with
  | .ok r => .ok r
  | .error e => .error (readingError path e.message)

def loadSource (disk : Disk) (path : String) : Except String String := do
  match String.fromUTF8? (← readFile disk path) with
  | some source => .ok source
  | none => .error (readingError path "stream did not contain valid UTF-8")

/-- The record that a run starts from: one that was kept, or a new one around a source. -/
def loadInput (disk : Disk) (o : RunOptions) (input : String) : Except String ModuleRecord := do
  let r ← if Path.isJson input then do
      let r ← loadRecord disk input
      pure ((o.name.map r.rename).getD r)
    else do
      let source ← loadSource disk input
      pure (.new (o.name.getD ((Path.stem? input).getD "module")) source)
  return if o.fresh then r.fresh else r

def loadAnswers (disk : Disk) : Option String → Except String Answers
  | none => .ok []
  | some path => do
    match Store.loadAnswers (← readFile disk path) with
    | .ok answers => .ok answers
    | .error e => .error (readingError path e.message)

def outputPath (o : RunOptions) (input name : String) : String :=
  match o.out with
  | some path => path
  | none => if Path.isJson input then input else Path.join ".pipeline" (name ++ ".json")

def stepNames (run : RunResult) : List String :=
  run.results.map fun r => r.step.name ++ ":" ++ r.strategy.name

def listed (texts : List String) : String :=
  "[" ++ ", ".intercalate (texts.map fun t => "\"" ++ t ++ "\"") ++ "]"

def completedReport (run : RunResult) (r : ModuleRecord) (path : String) : String :=
  "Pipeline completed.\n  Steps: " ++ listed (stepNames run) ++ "\n  Next: " ++
    run.moduleStatus.text ++ "\n  Version: " ++
    String.ofList (Nat.toDigits 10 r.version.toNat) ++ "\n  Written: " ++ path ++ "\n"

def failedReport (run : RunResult) (error : String) : String :=
  "Pipeline failed: " ++ error ++ "\n  Completed steps: " ++ listed (stepNames run)

def finish (disk : Disk) (o : RunOptions) (input : String) (r : ModuleRecord) (run : RunResult)
    (prompts : List String) : Ending :=
  match r.apply? run with
  | none => { exit := 101, disk, prompts }
  | some r =>
    let path := outputPath o input r.name
    match run.isComplete, run.error with
    | true, none =>
      match disk.write path (Store.save r).toUTF8 with
      | .ok disk => { exit := 0, out := completedReport run r path, disk, prompts }
      | .error e => .failure disk prompts ("Error writing " ++ path ++ ": " ++ e.message)
    | _, error => .failure disk prompts (failedReport run (error.getD ""))

def run (inv : Invocation) (disk : Disk) (o : RunOptions) (input : String) : Ending :=
  let loaded := do
    let r ← loadInput disk o input
    return (r, ← loadAnswers disk o.answers)
  match loaded with
  | .error message => .failure disk [] message
  | .ok (r, answers) =>
    let agent := (inv.agentVariable.or o.agentCommand).map fun c => ⟨c, inv.respond c⟩
    let ctx : Context := { moduleName := r.name, agent, answers, now := inv.now }
    match runPipeline r.data ctx (keepLast o.strategies) with
    | .error e => .failure disk [] ("Bad request: " ++ e.message)
    | .ok (result, prompts) => finish disk o input r result prompts

def status (disk : Disk) (path : String) : Ending :=
  match loadRecord disk path with
  | .error message => .failure disk [] message
  | .ok r => { exit := 0, out := r.name ++ ": " ++ r.data.status.text ++ "\n", disk }

def strategyLine (step : Step) : String :=
  step.name ++ ": " ++ ", ".intercalate (step.strategies.map Strategy.name) ++ " (default: " ++
    step.defaultStrategy.name ++ ")\n"

def listStrategies (disk : Disk) : Option String → Ending
  | none => { exit := 0, out := String.join (Step.all.map strategyLine), disk }
  | some name =>
    match Step.get name with
    | .ok step => { exit := 0, out := strategyLine step, disk }
    | .error e => .failure disk [] e.message

def perform (inv : Invocation) (disk : Disk) : Ending :=
  match command? inv.args with
  | none => .misuse disk
  | some .help => { exit := 0, out := usage, disk }
  | some (.run o input) => run inv disk o input
  | some (.status path) => status disk path
  | some (.strategies step) => listStrategies disk step

end FormScript.Cli
