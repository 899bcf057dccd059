import FormScript.Json.Writer
import FormScript.Wire.Mapped

/-! What agents are asked. -/
namespace FormScript.Prompt

def procedures (moduleName source : String) : String :=
  "Extract the event procedures of the legacy module `" ++ moduleName ++
  "` as structured intents.\n" ++
  "Reply with JSON only: \x7b\"procedures\": " ++
  "[\x7b\"name\", \"trigger\", \"intents\": [...]\x7d]\x7d.\n" ++
  "Intent types: validate-required \x7bfield, message\x7d, save-record, " ++
  "show-message \x7bmessage\x7d, set-value \x7bfield, value\x7d, " ++
  "set-enabled \x7bcontrol, enabled\x7d, set-visible \x7bcontrol, visible\x7d, " ++
  "open-form \x7bform\x7d, close-form, requery, " ++
  "branch \x7bcondition: \x7bkind: field-blank|field-equals|confirm|new-record, ...\x7d, " ++
  "then, else\x7d, " ++
  "gap \x7bvba_line, reason\x7d for anything else.\n\n" ++
  "Source:\n" ++ source ++ "\n"

def gapList (gaps : List GapEntry) : String :=
  Json.pretty (.arr (gaps.map GapEntry.toJson))

def questions (moduleName : String) (gaps : List GapEntry) : String :=
  "The legacy module `" ++ moduleName ++
  "` has constructs that could not be translated mechanically.\n" ++
  "For each gap below, write one question a developer can answer to resolve it, and a " ++
  "suggested_answer if you have a confident guess.\n" ++
  "Reply with JSON only: \x7b\"questions\": [\x7b\"procedure\", \"gap_id\", \"question\", " ++
  "\"suggested_answer\"\x7d]\x7d.\n\n" ++
  "Gaps:\n" ++ gapList gaps ++ "\n"

def script (skeleton : String) (gaps : List GapEntry) : String :=
  "Complete this generated module. Replace every `;; GAP` marker with an implementation " ++
  "and every `;; GAP RESOLVED` marker with code following its answer. Keep all other " ++
  "forms unchanged and use only the `rt` runtime helpers already referenced.\n" ++
  "Reply with JSON only: \x7b\"source\": \"...\"\x7d.\n\n" ++
  "Gaps:\n" ++ gapList gaps ++ "\n\nSkeleton:\n" ++ skeleton ++ "\n"

end FormScript.Prompt
