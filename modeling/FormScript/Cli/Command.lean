import FormScript.Text.Blank

/-! The command line. An option takes its value from behind an equals sign or from the next
argument, may be given once unless it can be repeated, and after two hyphens alone nothing is an
option any more. -/
namespace FormScript.Cli

structure RunOptions where
  name : Option String := none
  strategies : List (String × String) := []
  answers : Option String := none
  agentCommand : Option String := none
  fresh : Bool := false
  out : Option String := none
  input : Option String := none
  deriving DecidableEq, Repr

inductive Command where
  | help
  | run (options : RunOptions) (input : String)
  | status (path : String)
  | strategies (step : Option String)
  deriving DecidableEq, Repr

def strategyPair? (value : String) : Option (String × String) :=
  match value.toList.dropWhile (· != '=') with
  | [] => none
  | _ :: strategy =>
    some (String.ofList (Text.trim (value.toList.takeWhile (· != '='))),
      String.ofList (Text.trim strategy))

def once (current : Option String) (value : String) : Option (Option String) :=
  if current.isSome then none else some (some value)

def oncePath (current : Option String) (value : String) : Option (Option String) :=
  if value.isEmpty then none else once current value

namespace RunOptions

def isValued (option : String) : Bool :=
  ["--name", "--strategy", "--answers", "--agent-cmd", "--out"].contains option

def set? (o : RunOptions) (option value : String) : Option RunOptions :=
  if option = "--name" then (once o.name value).map ({ o with name := · })
  else if option = "--strategy" then
    (strategyPair? value).map fun entry => { o with strategies := o.strategies ++ [entry] }
  else if option = "--answers" then (oncePath o.answers value).map ({ o with answers := · })
  else if option = "--agent-cmd" then
    (once o.agentCommand value).map ({ o with agentCommand := · })
  else if option = "--out" then (oncePath o.out value).map ({ o with out := · })
  else none

def setInput? (o : RunOptions) (value : String) : Option RunOptions :=
  (oncePath o.input value).map ({ o with input := · })

def setFresh? (o : RunOptions) : Option RunOptions :=
  if o.fresh then none else some { o with fresh := true }

end RunOptions

/-- Whether an argument reads as an option; one hyphen alone does not. -/
def looksLikeOption (arg : String) : Bool :=
  match arg.toList with
  | '-' :: _ :: _ => true
  | _ => false

def splitOption (arg : String) : String × Option String :=
  match arg.toList.dropWhile (· != '=') with
  | [] => (arg, none)
  | _ :: value => (String.ofList (arg.toList.takeWhile (· != '=')), some (String.ofList value))

/-- Whether an argument asks for help; after the one-letter option nothing more of it is read. -/
def isHelp (arg : String) : Bool :=
  arg = "--help" || "-h".toList.isPrefixOf arg.toList

def plainArgs (o : RunOptions) : List String → Option RunOptions
  | [] => some o
  | arg :: rest => (o.setInput? arg).bind (plainArgs · rest)

def finishRun (o : Option RunOptions) : Option Command := do
  let o ← o
  return .run o (← o.input)

def runArgs (o : RunOptions) : List String → Option Command
  | [] => finishRun (some o)
  | arg :: rest =>
    if isHelp arg then some .help
    else if arg = "--" then finishRun (plainArgs o rest)
    else if !looksLikeOption arg then (o.setInput? arg).bind (runArgs · rest)
    else if arg = "--fresh" then o.setFresh?.bind (runArgs · rest)
    else match splitOption arg, rest with
      | (option, some value), rest => (o.set? option value).bind (runArgs · rest)
      | (option, none), value :: rest =>
        if RunOptions.isValued option && !looksLikeOption value then
          (o.set? option value).bind (runArgs · rest)
        else none
      | (_, none), [] => none

def operandArgs (take : Option String → String → Option (Option String))
    (finish : Option String → Option Command) (operand : Option String) :
    List String → Option Command
  | [] => finish operand
  | arg :: rest =>
    if isHelp arg then some .help
    else if arg = "--" then (rest.foldlM take operand).bind finish
    else if looksLikeOption arg then none
    else (take operand arg).bind (operandArgs take finish · rest)

def statusArgs : List String → Option Command :=
  operandArgs oncePath (·.map .status) none

def strategiesArgs : List String → Option Command :=
  operandArgs once (fun step => some (.strategies step)) none

/-- Help can be asked for on one command, itself included. -/
def helpArgs : List String → Option Command
  | [] => some .help
  | [command] =>
    if ["run", "status", "strategies", "help"].contains command then some .help else none
  | _ => none

def command? : List String → Option Command
  | "run" :: args => runArgs {} args
  | "status" :: args => statusArgs args
  | "strategies" :: args => strategiesArgs args
  | "help" :: args => helpArgs args
  | arg :: _ => if isHelp arg then some .help else none
  | [] => none

end FormScript.Cli
