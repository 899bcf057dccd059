import FormScript.Intent
import FormScript.Wire.Basic

/-! Intents, conditions and procedures as JSON. An intent is one object: its kind under `type`, the
fields of that kind, and its mark under `classification`. -/
namespace FormScript

def Mark.all : List Mark := [.mechanical, .gap]

def Mark.name : Mark → String
  | mechanical => "mechanical"
  | gap => "gap"

namespace Condition

def kinds : List String := ["field-blank", "field-equals", "confirm", "new-record"]

def toJson : Condition → Json
  | fieldBlank field => .obj [("kind", .str "field-blank"), ("field", .str field)]
  | fieldEquals field value =>
    .obj [("kind", .str "field-equals"), ("field", .str field), ("value", .str value)]
  | confirm message => .obj [("kind", .str "confirm"), ("message", .str message)]
  | newRecord => .obj [("kind", .str "new-record")]

open Wire

def ofKind? (kind : String) (rest : Json) : Option Condition :=
  if kind = "field-blank" then do
    let fields ← fields? ["field"] rest
    return .fieldBlank (← fields.required "field" text?)
  else if kind = "field-equals" then do
    let fields ← fields? ["field", "value"] rest
    return .fieldEquals (← fields.required "field" text?) (← fields.required "value" text?)
  else if kind = "confirm" then do
    let fields ← fields? ["message"] rest
    return .confirm (← fields.required "message" text?)
  else if (fields? [] rest).isSome then some .newRecord
  else none

def ofJson? (held : Bool) : Json → Option Condition
  | .obj fields => do
    ofKind? (← (Json.fieldOf "kind" fields).bind (tag? held kinds)) (.obj fields)
  | .arr (kind :: rest) => do
    ofKind? (← tag? held kinds kind) (.arr rest)
  | _ => none

end Condition

namespace Mapping

def toJson (m : Mapping) : Json :=
  .obj [("type", .str m.kind), ("target", (m.target.map Json.str).getD .null)]

open Wire

def ofJson? (v : Json) : Option Mapping := do
  let fields ← fields? ["type", "target"] v
  match v with
  | .arr items => if items.length < 2 then none
  | _ => pure ()
  return ⟨← fields.required "type" text?, ← fields.optional "target" text?⟩

end Mapping

namespace Resolution

def toJson (r : Resolution) : Json :=
  .obj [("answer", .str r.answer), ("resolved_by", .str r.resolvedBy),
    ("resolved_at", .str r.resolvedAt.write)]

open Wire

def ofJson? (v : Json) : Option Resolution := do
  let fields ← fields? ["answer", "resolved_by", "resolved_at"] v
  return ⟨← fields.required "answer" text?, ← fields.required "resolved_by" text?,
    ← (← fields.required "resolved_at" text?) |> Timestamp.read⟩

end Resolution

def Gap.fields (g : Gap) : List (String × Json) :=
  [("vba_line", .str g.line), ("reason", .str g.reason)] ++
    Json.optional "gap_id" (g.id.map .str) ++
    Json.optional "resolution" (g.resolution.map Resolution.toJson)

def Action.fields : Action → List (String × Json)
  | validateRequired field message =>
    [("type", .str "validate-required"), ("field", .str field), ("message", .str message)]
  | saveRecord => [("type", .str "save-record")]
  | showMessage message => [("type", .str "show-message"), ("message", .str message)]
  | setValue field value =>
    [("type", .str "set-value"), ("field", .str field), ("value", .str value)]
  | setEnabled control enabled =>
    [("type", .str "set-enabled"), ("control", .str control), ("enabled", .bool enabled)]
  | setVisible control visible =>
    [("type", .str "set-visible"), ("control", .str control), ("visible", .bool visible)]
  | openForm form => [("type", .str "open-form"), ("form", .str form)]
  | closeForm => [("type", .str "close-form")]
  | requery => [("type", .str "requery")]

namespace Intent

def kinds : List String :=
  ["validate-required", "save-record", "show-message", "set-value", "set-enabled", "set-visible",
    "open-form", "close-form", "requery", "branch", "gap"]

def kind : Intent → String
  | act (.validateRequired _ _) _ => "validate-required"
  | act .saveRecord _ => "save-record"
  | act (.showMessage _) _ => "show-message"
  | act (.setValue _ _) _ => "set-value"
  | act (.setEnabled _ _) _ => "set-enabled"
  | act (.setVisible _ _) _ => "set-visible"
  | act (.openForm _) _ => "open-form"
  | act .closeForm _ => "close-form"
  | act .requery _ => "requery"
  | branch _ _ _ _ _ => "branch"
  | gap _ _ => "gap"

def markField (mark : Option Mark) : List (String × Json) :=
  Json.optional "classification" (mark.map (.str ·.name))

mutual

def toJson : Intent → Json
  | act a m => .obj (a.fields ++ markField m)
  | gap g m => .obj (("type", .str "gap") :: g.fields ++ markField m)
  | branch c thenArm elseArm mapping m =>
    .obj ([("type", .str "branch"), ("condition", c.toJson), ("then", .arr (toJsons thenArm)),
      ("else", .arr (toJsons elseArm))] ++ Json.optional "mapping" (mapping.map Mapping.toJson) ++
      markField m)

def toJsons : List Intent → List Json
  | [] => []
  | i :: rest => i.toJson :: toJsons rest

end

open Wire

def actionOf? (kind : String) (fields : Fields) : Option Action :=
  if kind = "validate-required" then do
    return .validateRequired (← fields.required "field" text?) (← fields.required "message" text?)
  else if kind = "save-record" then some .saveRecord
  else if kind = "show-message" then do
    return .showMessage (← fields.required "message" text?)
  else if kind = "set-value" then do
    return .setValue (← fields.required "field" text?) (← fields.required "value" text?)
  else if kind = "set-enabled" then do
    return .setEnabled (← fields.required "control" text?) (← fields.required "enabled" flag?)
  else if kind = "set-visible" then do
    return .setVisible (← fields.required "control" text?) (← fields.required "visible" flag?)
  else if kind = "open-form" then do
    return .openForm (← fields.required "form" text?)
  else if kind = "close-form" then some .closeForm
  else if kind = "requery" then some .requery
  else none

def gapOf? (fields : Fields) : Option Gap := do
  return ⟨← fields.required "vba_line" text?, ← fields.required "reason" text?,
    ← fields.optional "gap_id" text?, ← fields.optional "resolution" Resolution.ofJson?⟩

/-- The last decoding under a key, of values that were all decoded as lists of intents. -/
def armOf? (key : String) (arms : List (String × Option (List Intent))) : Option (List Intent) :=
  match arms.reverse.lookup key with
  | none => some []
  | some arm => arm

def ofFields? (held : Bool) (fields : List (String × Json))
    (arms : List (String × Option (List Intent))) : Option Intent := do
  let get : Fields := fun key => Json.fieldOf key fields
  let kind ← get.required "type" (tag? true kinds)
  let mark ← get.optional "classification" (named? held Mark.name Mark.all)
  if kind = "branch" then
    return .branch (← get.required "condition" (Condition.ofJson? true)) (← armOf? "then" arms)
      (← armOf? "else" arms) (← get.optional "mapping" Mapping.ofJson?) mark
  else if kind = "gap" then
    return .gap (← gapOf? get) mark
  else
    return .act (← actionOf? kind get) mark

mutual

/-- `held` tells whether the value was held back until the kind of one around it was known; those
inside the arms of a branch always are. -/
def ofJson? (held : Bool) : Json → Option Intent
  | .obj fields => ofFields? held fields (armsOf fields)
  | _ => none

def armsOf : List (String × Json) → List (String × Option (List Intent))
  | [] => []
  | (key, v) :: rest => (key, ofJsons? true v) :: armsOf rest

def ofJsons? (held : Bool) : Json → Option (List Intent)
  | .arr items => ofItems? held items
  | _ => none

def ofItems? (held : Bool) : List Json → Option (List Intent)
  | [] => some []
  | v :: rest => do return (← ofJson? held v) :: (← ofItems? held rest)

end

end Intent

namespace Procedure

def toJson (p : Procedure) : Json :=
  .obj [("name", .str p.name), ("trigger", .str p.trigger),
    ("intents", .arr (Intent.toJsons p.intents))]

open Wire

def ofJson? (held : Bool) (v : Json) : Option Procedure := do
  let fields ← fields? ["name", "trigger", "intents"] v
  return ⟨← fields.required "name" text?, ← fields.defaulted "trigger" "" text?,
    ← fields.defaulted "intents" [] (Intent.ofJsons? held)⟩

end Procedure

end FormScript
