import FormScript.Failure
import FormScript.Json.Embedded
import FormScript.Text.Utf8

/-! Agents: programs that are given a prompt and answer with JSON somewhere in their output. What an
agent does may depend on all that it was asked before. -/
namespace FormScript

inductive Outcome where
  /-- The program could not be started, so it never saw the prompt. -/
  | notStarted (reason : String)
  | exited (code : Nat) (output : ByteArray)
  | killed

structure Agent where
  command : String
  /-- What happens on a prompt, given the earlier ones in order. -/
  respond : List String → String → Outcome

def Outcome.document : Outcome → Except Failure Json
  | .notStarted reason => .error (.agent (.notStarted reason))
  | .killed => .error (.agent .killed)
  | .exited 0 output =>
    match Json.readEmbedded (String.ofList (Text.Utf8.decodeLossy output.toList)) with
    | some v => .ok v
    | none => .error .noDocument
  | .exited code _ => .error (.agent (.exited code))

def Outcome.seen (asked : List String) (prompt : String) : Outcome → List String
  | .notStarted _ => asked
  | _ => asked ++ [prompt]

/-- Asks an agent, if there is one; a blank command is none. `asked` is what it has seen so far. -/
def ask (agent : Option Agent) (asked : List String) (prompt : String) :
    Except Failure Json × List String :=
  match agent with
  | none => (.error .noAgent, asked)
  | some a =>
    if Text.isBlankText a.command then (.error .noAgent, asked)
    else
      let outcome := a.respond asked prompt
      (outcome.document, outcome.seen asked prompt)

end FormScript
