import FormScript.Entries
import FormScript.Json.Reader
import FormScript.Json.Writer
import FormScript.Wire.Module

/-! Records as files. Older files keep the mapped procedures inside `intents` and the script under
other names, and may lack the counts; whatever the shape, loading gives the one that is used. -/
namespace FormScript

inductive ShapeFault where
  | module
  | intents
  deriving DecidableEq, Repr

inductive LoadError where
  | unreadable (reason : String)
  /-- The text is not JSON, or its values are not of the kinds that are needed. -/
  | malformed
  | shape (fault : ShapeFault)
  deriving DecidableEq, Repr

def ShapeFault.message : ShapeFault → String
  | module => "module must be a JSON object"
  | intents => "intents must be an array or an object"

def LoadError.message : LoadError → String
  | unreadable reason => reason
  | malformed => "malformed JSON"
  | shape fault => "invalid module shape: " ++ fault.message

namespace Store

open Json

def scriptKeys : List String := ["generated_source", "cljs_source", "cljsSource"]

/-- Keys that are looked at before a record is decoded. -/
def foldedKeys : List String := "intents" :: "mapped" :: scriptKeys

/-- The extracted procedures, and the mapped ones where they are kept beside them. -/
def splitIntents : Option Json → Except LoadError (Option Json × Option Json)
  | none => .ok (none, none)
  | some (.arr items) => .ok (some (.arr items), none)
  | some (.obj inner) =>
    .ok (some ((nonNull (fieldOf "procedures" inner)).getD (.arr [])),
      nonNull (fieldOf "mapped" inner))
  | some _ => .error (.shape .intents)

def lacksStats (mapped : Json) : Bool :=
  (nonNull (mapped.get? "stats")).isNone

def normalize : Json → Except LoadError ModuleRecord
  | .obj fields => do
    let field := fun key => nonNull (fieldOf key fields)
    let (procedures, nested) ← splitIntents (field "intents")
    let mapped := nested.or (field "mapped")
    let folded := fields.filter (fun (key, _) => !foldedKeys.contains key) ++
      optional "intents" procedures ++ optional "mapped" mapped ++
      optional "generated_source" (scriptKeys.findSome? field)
    match ModuleRecord.ofJson? (.obj folded) with
    | none => .error .malformed
    | some record => .ok (if mapped.any lacksStats then record.recount else record)
  | _ => .error (.shape .module)

def readJson (bytes : ByteArray) : Option Json :=
  (String.fromUTF8? bytes).bind Json.read

def load (bytes : ByteArray) : Except LoadError ModuleRecord :=
  match readJson bytes with
  | some v => normalize v
  | none => .error .malformed

def save (r : ModuleRecord) : String :=
  Json.pretty r.toJson

def answer? : String × Json → Option (String × String)
  | (id, .str answer) => some (id, answer)
  | _ => none

/-- Answers by gap id; every value must be a text, also one that a later one replaces. -/
def loadAnswers (bytes : ByteArray) : Except LoadError Answers :=
  match readJson bytes with
  | some (.obj fields) =>
    match fields.mapM answer? with
    | some answers => .ok (keepLast answers)
    | none => .error .malformed
  | _ => .error .malformed

end Store

end FormScript
