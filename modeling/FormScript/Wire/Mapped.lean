import FormScript.Emission
import FormScript.Answering
import FormScript.Wire.Intent

/-! Mapped procedures, questions and generated scripts as JSON. -/
namespace FormScript

open Wire

def MapStats.toJson (s : MapStats) : Json :=
  .obj [("total", .int s.total), ("mechanical", .int s.mechanical), ("gap", .int s.gap)]

def MapStats.ofJson? (v : Json) : Option MapStats := do
  let fields ← fields? ["total", "mechanical", "gap"] v
  return ⟨← fields.required "total" count?, ← fields.required "mechanical" count?,
    ← fields.required "gap" count?⟩

def GapEntry.toJson (e : GapEntry) : Json :=
  .obj [("procedure", .str e.procedure), ("gap_id", .str e.id), ("vba_line", .str e.line),
    ("reason", .str e.reason)]

def GapEntry.ofJson? (v : Json) : Option GapEntry := do
  let fields ← fields? ["procedure", "gap_id", "vba_line", "reason"] v
  return ⟨← fields.required "procedure" text?, ← fields.required "gap_id" text?,
    ← fields.required "vba_line" text?, ← fields.required "reason" text?⟩

def Mapped.toJson (m : Mapped) : Json :=
  .obj [("procedures", .arr (m.procedures.map Procedure.toJson)), ("stats", m.stats.toJson),
    ("gaps", .arr (m.gaps.map GapEntry.toJson))]

def Mapped.ofJson? (held : Bool) (v : Json) : Option Mapped := do
  let fields ← fields? ["procedures", "stats", "gaps"] v
  return ⟨← fields.defaulted "procedures" [] (listOf? (Procedure.ofJson? held)),
    ← fields.defaulted "stats" ⟨0, 0, 0⟩ MapStats.ofJson?,
    ← fields.defaulted "gaps" [] (listOf? GapEntry.ofJson?)⟩

def GapQuestion.toJson (q : GapQuestion) : Json :=
  .obj ([("procedure", .str q.procedure), ("gap_id", .str q.gapId),
    ("question", .str q.question)] ++ Json.optional "suggested_answer" (q.suggestedAnswer.map .str))

def GapQuestion.ofJson? (v : Json) : Option GapQuestion := do
  let fields ← fields? ["procedure", "gap_id", "question", "suggested_answer"] v
  return ⟨← fields.required "procedure" text?, ← fields.required "gap_id" text?,
    ← fields.required "question" text?, ← fields.optional "suggested_answer" text?⟩

def GenerateStats.toJson (s : GenerateStats) : Json :=
  .obj [("total_procedures", .int s.totalProcedures), ("mechanical_count", .int s.mechanicalCount),
    ("gap_count", .int s.gapCount)]

def GenerateStats.ofJson? (v : Json) : Option GenerateStats := do
  let fields ← fields? ["total_procedures", "mechanical_count", "gap_count"] v
  return ⟨← fields.required "total_procedures" count?, ← fields.required "mechanical_count" count?,
    ← fields.required "gap_count" count?⟩

def Generated.toJson (g : Generated) : Json :=
  .obj [("source", .str g.source), ("stats", g.stats.toJson)]

def Generated.ofJson? (v : Json) : Option Generated := do
  let fields ← fields? ["source", "stats"] v
  return ⟨← fields.required "source" text?, ← fields.required "stats" GenerateStats.ofJson?⟩

end FormScript
