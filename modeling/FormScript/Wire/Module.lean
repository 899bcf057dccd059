import FormScript.Module
import FormScript.Wire.Mapped

/-! Module data, status and records as JSON. A record is one object that holds the fields of its
data beside its own. -/
namespace FormScript

open Wire

def ModuleStatus.toJson (s : ModuleStatus) : Json :=
  .obj [("step", .str s.step.name), ("status", .str s.progress.name)]

def ModuleStatus.ofJson? (v : Json) : Option ModuleStatus := do
  let fields ← fields? ["step", "status"] v
  return ⟨← fields.required "step" (named? false NextStep.name NextStep.all),
    ← fields.required "status" (named? false Progress.name Progress.all)⟩

namespace ModuleData

def fields (d : ModuleData) : List (String × Json) :=
  Json.optional "source" (d.source.map .str) ++
  Json.optional "intents" (d.procedures.map fun ps => .arr (ps.map Procedure.toJson)) ++
  Json.optional "mapped" (d.mapped.map Mapped.toJson) ++
  Json.optional "questions" (d.questions.map fun qs => .arr (qs.map GapQuestion.toJson)) ++
  Json.optional "generated_source" (d.generatedSource.map .str) ++
  Json.optional "generate_stats" (d.generateStats.map GenerateStats.toJson)

def toJson (d : ModuleData) : Json :=
  .obj d.fields

def ofFields? (held : Bool) (get : Fields) : Option ModuleData := do
  return ⟨← get.optional "source" text?,
    ← get.optional "intents" (listOf? (Procedure.ofJson? held)),
    ← get.optional "mapped" (Mapped.ofJson? held),
    ← get.optional "questions" (listOf? GapQuestion.ofJson?),
    ← get.optional "generated_source" text?,
    ← get.optional "generate_stats" GenerateStats.ofJson?⟩

def ofJson? (v : Json) : Option ModuleData := do
  ofFields? false (← fields? ["source", "intents", "mapped", "questions", "generated_source",
    "generate_stats"] v)

end ModuleData

def version? (v : Json) : Option UInt32 := do
  let n ← count? v
  if n < UInt32.size then return UInt32.ofNat n else none

def ModuleRecord.toJson (r : ModuleRecord) : Json :=
  .obj ([("name", .str r.name), ("version", .int r.version.toNat)] ++
    Json.optional "status" (r.status.map ModuleStatus.toJson) ++ r.data.fields)

/-- The data among the fields of a record is held back until those of the record are known. -/
def ModuleRecord.ofJson? : Json → Option ModuleRecord
  | .obj fields => do
    let get : Fields := fun key => Json.fieldOf key fields
    return ⟨← get.required "name" text?, ← get.defaulted "version" 0 version?,
      ← get.optional "status" ModuleStatus.ofJson?, ← ModuleData.ofFields? true get⟩
  | _ => none

end FormScript
