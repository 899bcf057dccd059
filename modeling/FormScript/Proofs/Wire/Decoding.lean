import FormScript.Proofs.Wire.Timestamp
import FormScript.Wire.Module

/-! Decoding what was encoded. Every value decodes to itself, whether it is held back or not. -/
namespace FormScript

namespace Json

theorem fieldOf_cons (key k : String) (v : Json) (rest : List (String × Json)) :
    fieldOf key ((k, v) :: rest) = (fieldOf key rest).or (if k = key then some v else none) := by
  rw [fieldOf]
  cases fieldOf key rest <;> rfl

theorem fieldOf_optional (key k : String) (v : Option Json) :
    fieldOf key (optional k v) = if k = key then v else none := by
  cases v <;> simp [optional, fieldOf_cons]

@[simp] theorem nonNull_str (s : String) : nonNull (some (.str s)) = some (.str s) := rfl

end Json

namespace Wire

open Json

@[simp] theorem fields?_obj (names : List String) (fields : List (String × Json)) :
    fields? names (.obj fields) = some fun key => fieldOf key fields :=
  rfl

@[simp] theorem text?_str (s : String) : text? (.str s) = some s := rfl

@[simp] theorem flag?_bool (b : Bool) : flag? (.bool b) = some b := rfl

@[simp] theorem count?_int (n : Nat) : count? (.int n) = some n := rfl

@[simp] theorem listOf?_map {encode : α → Json} {decode : Json → Option α}
    (h : ∀ a, decode (encode a) = some a) (as : List α) :
    listOf? decode (.arr (as.map encode)) = some as := by
  rw [listOf?]
  induction as with
  | nil => rfl
  | cons a rest ih => simp [h, ih]

/-- What decodes to something is not `null`, so that an optional field is not lost. -/
theorem Fields.optional_eq {get : Fields} {key : String} {o : Option α} {encode : α → Json}
    {decode : Json → Option α} (hget : get key = o.map encode)
    (h : ∀ a, decode (encode a) = some a) (hnull : decode .null = none) :
    get.optional key decode = some o := by
  rw [Fields.optional, hget]
  cases o with
  | none => rfl
  | some a =>
    have hsome : nonNull (some (encode a)) = some (encode a) := by
      cases ha : encode a with
      | null =>
        have := h a
        rw [ha, hnull] at this
        contradiction
      | _ => rfl
    rw [Option.map_some, hsome]
    simp only [h, Option.map_some]

end Wire

open Wire Json

@[simp] theorem Condition.ofJson?_toJson (held : Bool) (c : Condition) :
    ofJson? held c.toJson = some c := by
  cases c <;>
    simp [toJson, ofJson?, fieldOf_cons, tag?, kinds, ofKind?, Fields.required]

@[simp] theorem Mapping.ofJson?_toJson (m : Mapping) : ofJson? m.toJson = some m := by
  obtain ⟨kind, target⟩ := m
  cases target <;>
    simp [toJson, ofJson?, fieldOf_cons, Fields.required, Fields.optional]

@[simp] theorem Resolution.ofJson?_toJson (r : Resolution) : ofJson? r.toJson = some r := by
  simp [toJson, ofJson?, fieldOf_cons, Fields.required]

@[simp] theorem Mark.named?_name (held : Bool) (m : Mark) :
    named? held name all (.str m.name) = some m := by
  cases m <;> rfl

namespace Intent

theorem mark_marked {fields : List (String × Json)} (h : fieldOf "classification" fields = none)
    (held : Bool) (mark : Option Mark) :
    Fields.optional (fun key => fieldOf key (fields ++ markField mark)) "classification"
      (named? held Mark.name Mark.all) = some mark := by
  have hget : fieldOf "classification" (fields ++ markField mark) = mark.map (.str ·.name) := by
    rw [fieldOf_append, h, Option.or_none, markField, fieldOf_optional, if_pos rfl]
  exact Fields.optional_eq hget (Mark.named?_name held) rfl

theorem kind_act (a : Action) (mark : Option Mark) :
    Fields.required (fun key => fieldOf key (a.fields ++ markField mark)) "type"
      (tag? true kinds) = some (act a mark).kind := by
  cases a <;>
    simp [kind, Action.fields, markField, Fields.required, fieldOf_cons, fieldOf_optional, tag?,
      kinds]

theorem actionOf?_fields (a : Action) (mark : Option Mark) :
    actionOf? (act a mark).kind (fun key => fieldOf key (a.fields ++ markField mark)) = some a := by
  cases a <;>
    simp [kind, actionOf?, Action.fields, markField, Fields.required, fieldOf_cons,
      fieldOf_optional]

theorem ofFields?_act (held : Bool) (a : Action) (mark : Option Mark)
    (arms : List (String × Option (List Intent))) :
    ofFields? held (a.fields ++ markField mark) arms = some (.act a mark) := by
  have hnone : fieldOf "classification" a.fields = none := by
    cases a <;> simp [Action.fields, fieldOf_cons]
  have hbranch : (act a mark).kind ≠ "branch" := by cases a <;> simp [kind]
  have hgap : (act a mark).kind ≠ "gap" := by cases a <;> simp [kind]
  rw [ofFields?]
  simp only [kind_act, mark_marked hnone, Option.bind_eq_bind, Option.bind_some, if_neg hbranch,
    if_neg hgap, actionOf?_fields]
  rfl

theorem gapOf?_fields (g : Gap) (mark : Option Mark) :
    gapOf? (fun key => fieldOf key (("type", .str "gap") :: g.fields ++ markField mark)) =
      some g := by
  have hid : fieldOf "gap_id" (("type", .str "gap") :: g.fields ++ markField mark) =
      g.id.map .str := by
    simp [Gap.fields, markField, fieldOf_append, fieldOf_cons, fieldOf_optional]
  have hresolution : fieldOf "resolution" (("type", .str "gap") :: g.fields ++ markField mark) =
      g.resolution.map Resolution.toJson := by
    simp [Gap.fields, markField, fieldOf_append, fieldOf_cons, fieldOf_optional]
  rw [gapOf?, Fields.optional_eq hid text?_str rfl,
    Fields.optional_eq hresolution Resolution.ofJson?_toJson rfl]
  simp [Gap.fields, markField, Fields.required, fieldOf_append, fieldOf_cons, fieldOf_optional]

theorem ofFields?_gap (held : Bool) (g : Gap) (mark : Option Mark)
    (arms : List (String × Option (List Intent))) :
    ofFields? held (("type", .str "gap") :: g.fields ++ markField mark) arms =
      some (.gap g mark) := by
  have hnone : fieldOf "classification" (("type", .str "gap") :: g.fields) = none := by
    simp [Gap.fields, fieldOf_append, fieldOf_cons, fieldOf_optional]
  have hkind : Fields.required
      (fun key => fieldOf key (("type", .str "gap") :: g.fields ++ markField mark)) "type"
      (tag? true kinds) = some "gap" := by
    simp [Gap.fields, markField, Fields.required, fieldOf_append, fieldOf_cons, fieldOf_optional,
      tag?, kinds]
  rw [ofFields?]
  simp only [hkind, mark_marked hnone, gapOf?_fields]
  rfl

theorem lookup_armsOf (key : String) (fields : List (String × Json)) :
    (armsOf fields).reverse.lookup key = (fieldOf key fields).map (ofJsons? true) := by
  induction fields with
  | nil => rfl
  | cons field rest ih =>
    obtain ⟨k, v⟩ := field
    rw [armsOf, List.reverse_cons, List.lookup_append, ih, fieldOf_cons]
    by_cases hk : k = key
    · subst hk
      cases fieldOf k rest <;> simp
    · have hbeq : (key == k) = false := beq_false_of_ne (Ne.symm hk)
      cases fieldOf key rest <;> simp [List.lookup_cons, hk, hbeq]

theorem armOf?_armsOf {key : String} {fields : List (String × Json)} {v : Json}
    (h : fieldOf key fields = some v) : armOf? key (armsOf fields) = ofJsons? true v := by
  rw [armOf?, lookup_armsOf, h]
  rfl

theorem ofJson?_branch (held : Bool) (c : Condition) {thenArm elseArm : List Intent}
    (mapping : Option Mapping) (mark : Option Mark)
    (hthen : ofItems? true (toJsons thenArm) = some thenArm)
    (helse : ofItems? true (toJsons elseArm) = some elseArm) :
    ofJson? held (branch c thenArm elseArm mapping mark).toJson =
      some (.branch c thenArm elseArm mapping mark) := by
  rw [toJson, ofJson?]
  generalize hfields : [("type", .str "branch"), ("condition", c.toJson),
    ("then", .arr (toJsons thenArm)), ("else", .arr (toJsons elseArm))] ++
    Json.optional "mapping" (mapping.map Mapping.toJson) = fields
  have hget (key : String) : fieldOf key fields =
      (if "mapping" = key then mapping.map Mapping.toJson else none).or
        (fieldOf key [("type", .str "branch"), ("condition", c.toJson),
          ("then", .arr (toJsons thenArm)), ("else", .arr (toJsons elseArm))]) := by
    rw [← hfields, fieldOf_append, fieldOf_optional]
  have hnone : fieldOf "classification" fields = none := by simp [hget, fieldOf_cons]
  have hunmarked {key : String} (hkey : key ≠ "classification") :
      fieldOf key (fields ++ markField mark) = fieldOf key fields := by
    simp [fieldOf_append, markField, fieldOf_optional, Ne.symm hkey]
  have hmapping : fieldOf "mapping" (fields ++ markField mark) = mapping.map Mapping.toJson := by
    simp [hunmarked, hget, fieldOf_cons]
  have hthenArm : fieldOf "then" (fields ++ markField mark) = some (.arr (toJsons thenArm)) := by
    simp [hunmarked, hget, fieldOf_cons]
  have helseArm : fieldOf "else" (fields ++ markField mark) = some (.arr (toJsons elseArm)) := by
    simp [hunmarked, hget, fieldOf_cons]
  rw [ofFields?, mark_marked hnone, armOf?_armsOf hthenArm, armOf?_armsOf helseArm, ofJsons?, hthen,
    ofJsons?, helse, Fields.optional_eq hmapping Mapping.ofJson?_toJson rfl]
  simp [Fields.required, hunmarked, hget, fieldOf_cons, tag?, kinds]

mutual

theorem ofJson?_toJson (held : Bool) (i : Intent) : ofJson? held i.toJson = some i := by
  match i with
  | act a mark => exact ofFields?_act held a mark _
  | gap g mark => exact ofFields?_gap held g mark _
  | branch c thenArm elseArm mapping mark =>
    exact ofJson?_branch held c mapping mark (ofItems?_toJsons true thenArm)
      (ofItems?_toJsons true elseArm)

theorem ofItems?_toJsons (held : Bool) (is : List Intent) :
    ofItems? held (toJsons is) = some is := by
  match is with
  | [] => rfl
  | i :: rest =>
    rw [toJsons, ofItems?, ofJson?_toJson held i, ofItems?_toJsons held rest]
    rfl

end

end Intent

@[simp] theorem Procedure.ofJson?_toJson (held : Bool) (p : Procedure) :
    ofJson? held p.toJson = some p := by
  simp [toJson, ofJson?, fieldOf_cons, Fields.required, Fields.defaulted, Intent.ofJsons?,
    Intent.ofItems?_toJsons]

@[simp] theorem MapStats.ofJson?_toJson (s : MapStats) : ofJson? s.toJson = some s := by
  simp [toJson, ofJson?, fieldOf_cons, Fields.required]

@[simp] theorem GapEntry.ofJson?_toJson (e : GapEntry) : ofJson? e.toJson = some e := by
  simp [toJson, ofJson?, fieldOf_cons, Fields.required]

@[simp] theorem Mapped.ofJson?_toJson (held : Bool) (m : Mapped) :
    ofJson? held m.toJson = some m := by
  simp [toJson, ofJson?, fieldOf_cons, Fields.defaulted]

@[simp] theorem GapQuestion.ofJson?_toJson (q : GapQuestion) : ofJson? q.toJson = some q := by
  have hsuggested : fieldOf "suggested_answer" ([("procedure", .str q.procedure),
      ("gap_id", .str q.gapId), ("question", .str q.question)] ++
      Json.optional "suggested_answer" (q.suggestedAnswer.map .str)) =
      q.suggestedAnswer.map .str := by
    simp [fieldOf_cons, fieldOf_optional]
  rw [toJson, ofJson?, fields?_obj, Option.bind_eq_bind, Option.bind_some,
    Fields.optional_eq hsuggested text?_str rfl]
  simp [Fields.required, fieldOf_cons, fieldOf_optional]

@[simp] theorem GenerateStats.ofJson?_toJson (s : GenerateStats) : ofJson? s.toJson = some s := by
  simp [toJson, ofJson?, fieldOf_cons, Fields.required]

@[simp] theorem ModuleStatus.ofJson?_toJson (s : ModuleStatus) : ofJson? s.toJson = some s := by
  obtain ⟨step, progress⟩ := s
  cases step <;> cases progress <;> rfl

namespace ModuleData

def keys : List String :=
  ["source", "intents", "mapped", "questions", "generated_source", "generate_stats"]

section Fields

variable (d : ModuleData)

theorem fieldOf_source : fieldOf "source" d.fields = d.source.map .str := by
  simp [fields, fieldOf_append, fieldOf_optional]

theorem fieldOf_procedures :
    fieldOf "intents" d.fields = d.procedures.map fun ps => .arr (ps.map Procedure.toJson) := by
  simp [fields, fieldOf_append, fieldOf_optional]

theorem fieldOf_mapped : fieldOf "mapped" d.fields = d.mapped.map Mapped.toJson := by
  simp [fields, fieldOf_append, fieldOf_optional]

theorem fieldOf_questions :
    fieldOf "questions" d.fields = d.questions.map fun qs => .arr (qs.map GapQuestion.toJson) := by
  simp [fields, fieldOf_append, fieldOf_optional]

theorem fieldOf_generatedSource :
    fieldOf "generated_source" d.fields = d.generatedSource.map .str := by
  simp [fields, fieldOf_append, fieldOf_optional]

theorem fieldOf_generateStats :
    fieldOf "generate_stats" d.fields = d.generateStats.map GenerateStats.toJson := by
  simp [fields, fieldOf_append, fieldOf_optional]

end Fields

theorem ofFields?_fields (held : Bool) {get : Fields} {d : ModuleData}
    (h : ∀ key ∈ keys, get key = fieldOf key d.fields) : ofFields? held get = some d := by
  have hsource := (h "source" (by decide)).trans d.fieldOf_source
  have hprocedures := (h "intents" (by decide)).trans d.fieldOf_procedures
  have hmapped := (h "mapped" (by decide)).trans d.fieldOf_mapped
  have hquestions := (h "questions" (by decide)).trans d.fieldOf_questions
  have hgenerated := (h "generated_source" (by decide)).trans d.fieldOf_generatedSource
  have hstats := (h "generate_stats" (by decide)).trans d.fieldOf_generateStats
  rw [ofFields?, Fields.optional_eq hsource text?_str rfl,
    Fields.optional_eq hprocedures (listOf?_map (Procedure.ofJson?_toJson held)) rfl,
    Fields.optional_eq hmapped (Mapped.ofJson?_toJson held) rfl,
    Fields.optional_eq hquestions (listOf?_map GapQuestion.ofJson?_toJson) rfl,
    Fields.optional_eq hgenerated text?_str rfl,
    Fields.optional_eq hstats GenerateStats.ofJson?_toJson rfl]
  rfl

end ModuleData

@[simp] theorem version?_toNat (v : UInt32) : version? (.int v.toNat) = some v := by
  simp [version?, v.toNat_lt]

namespace ModuleRecord

theorem fieldOf_toJson {r : ModuleRecord} {fields : List (String × Json)}
    (h : r.toJson = .obj fields) {key : String} (hkey : key ∈ ModuleData.keys) :
    fieldOf key fields = fieldOf key r.data.fields := by
  cases h
  rw [fieldOf_append, fieldOf_append, fieldOf_optional]
  simp only [ModuleData.keys, List.mem_cons, List.not_mem_nil, or_false] at hkey
  rcases hkey with rfl | rfl | rfl | rfl | rfl | rfl <;> simp [fieldOf_cons]

theorem ofJson?_toJson (r : ModuleRecord) : ofJson? r.toJson = some r := by
  have hdata : ModuleData.ofFields? true (fun key => fieldOf key ([("name", .str r.name),
      ("version", .int r.version.toNat)] ++
      Json.optional "status" (r.status.map ModuleStatus.toJson) ++ r.data.fields)) =
      some r.data := by
    apply ModuleData.ofFields?_fields
    intro key hkey
    exact fieldOf_toJson rfl hkey
  have hstatus : fieldOf "status" ([("name", .str r.name),
      ("version", .int r.version.toNat)] ++
      Json.optional "status" (r.status.map ModuleStatus.toJson) ++ r.data.fields) =
      r.status.map ModuleStatus.toJson := by
    simp [ModuleData.fields, fieldOf_append, fieldOf_cons, fieldOf_optional]
  rw [toJson, ofJson?, hdata, Fields.optional_eq hstatus ModuleStatus.ofJson?_toJson rfl]
  simp [ModuleData.fields, Fields.required, Fields.defaulted, fieldOf_append, fieldOf_cons,
    fieldOf_optional]

end ModuleRecord

end FormScript
