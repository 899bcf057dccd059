import FormScript.Step

/-! What can go wrong in a run, and how it is said. -/
namespace FormScript

inductive Input where
  | source
  | mapped
  deriving DecidableEq, Repr

inductive Reply where
  | procedures
  | questions
  | script
  deriving DecidableEq, Repr

inductive AgentFailure where
  | notStarted (reason : String)
  | exited (code : Nat)
  | killed
  deriving DecidableEq, Repr

inductive Failure where
  | missingInput (input : Input)
  | noAgent
  | agent (failure : AgentFailure)
  /-- The agent's output holds no JSON. -/
  | noDocument
  /-- The agent gave a script with nothing in it. -/
  | emptyScript
  /-- The agent's JSON is not what it was asked for. -/
  | wrongShape (reply : Reply)
  deriving DecidableEq, Repr

inductive PipelineError where
  | unknownStep (name : String)
  | unknownStrategy (step : Step) (name : String)
  | failed (step : Step) (strategy : Strategy) (failure : Failure)
  deriving DecidableEq, Repr

def Input.name : Input → String
  | source => "source"
  | mapped => "mapped"

def Reply.name : Reply → String
  | procedures => "ExtractReply"
  | questions => "QuestionsReply"
  | script => "SourceReply"

def AgentFailure.message : AgentFailure → String
  | notStarted reason => "agent spawn: " ++ reason
  | exited code => "agent exit " ++ String.ofList (Nat.toDigits 10 code)
  | killed => "agent signal"

def Failure.message : Failure → String
  | missingInput input => "missing input: " ++ input.name
  | noAgent => "no agent command configured"
  | agent failure => "agent failed: " ++ failure.message
  | noDocument => "invalid agent response: agent output contains no JSON document"
  | emptyScript => "invalid agent response: agent returned empty source"
  | wrongShape reply => "data did not match any variant of untagged enum " ++ reply.name

namespace PipelineError

def message : PipelineError → String
  | unknownStep name => "unknown step: " ++ name
  | unknownStrategy step name =>
    "unknown strategy '" ++ name ++ "' for step '" ++ step.name ++ "'"
  | failed step strategy failure =>
    "step '" ++ step.name ++ "' failed with strategy '" ++ strategy.name ++ "': " ++ failure.message

def isBadRequest : PipelineError → Bool
  | unknownStep _ => true
  | unknownStrategy _ _ => true
  | failed _ _ _ => false

end PipelineError

namespace Step

def get (name : String) : Except PipelineError Step :=
  match ofName? name with
  | some step => .ok step
  | none => .error (.unknownStep name)

/-- The method of a step by the name of its strategy; without a name, the default one. -/
def resolve (step : Step) (name : Option String) : Except PipelineError Method :=
  let strategy := match name with
    | some n => Strategy.ofName? n
    | none => some step.defaultStrategy
  match strategy.bind step.method? with
  | some method => .ok method
  | none => .error (.unknownStrategy step (name.getD ""))

end Step

end FormScript
