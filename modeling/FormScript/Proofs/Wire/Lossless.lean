import FormScript.Proofs.Store.Reload
import FormScript.Wire.Run

/-! Encoding loses nothing: step outputs and the results of runs decode to themselves as records do,
and bringing a record that is in shape into shape changes nothing. -/
namespace FormScript

/-- Every value decodes from what it is encoded as. -/
def Wire.Lossless (encode : α → Json) (decode : Json → Option α) : Prop :=
  ∀ a, decode (encode a) = some a

open Wire Json

@[simp] theorem Step.ofJson?_toJson (s : Step) : ofJson? s.toJson = some s := by
  cases s <;> rfl

@[simp] theorem Strategy.ofJson?_toJson (s : Strategy) : ofJson? s.toJson = some s := by
  cases s <;> rfl

@[simp] theorem RunStatus.ofJson?_toJson (s : RunStatus) : ofJson? s.toJson = some s := by
  cases s <;> rfl

@[simp] theorem ModuleData.ofJson?_toJson (d : ModuleData) : ofJson? d.toJson = some d := by
  rw [toJson, ofJson?, fields?_obj, Option.bind_eq_bind, Option.bind_some]
  apply ofFields?_fields
  intro key _
  rfl

@[simp] theorem StepOutput.ofJson?_toJson (o : StepOutput) : ofJson? o.toJson = some o := by
  cases o <;>
    simp [toJson, ofJson?, fieldOf_cons, tag?, kinds, ofKind?, Fields.required]

namespace Duration

theorem ofParts?_parts (d : Duration) : ofParts? d.secs.toNat d.nanos.val = some d := by
  obtain ⟨secs, nanos⟩ := d
  have hcarry : nanos.val / 1000000000 = 0 := Nat.div_eq_of_lt nanos.isLt
  have hrest : nanos.val % 1000000000 = nanos.val := Nat.mod_eq_of_lt nanos.isLt
  have hsecs : secs.toNat < UInt64.size := secs.toNat_lt
  unfold ofParts?
  simp only [hcarry, hrest, Nat.add_zero, if_pos hsecs, UInt64.ofNat_toNat]

@[simp] theorem ofJson?_toJson (d : Duration) : ofJson? d.toJson = some d := by
  have hnanos : d.nanos.val < UInt32.size := by
    have hlt := d.nanos.isLt
    simp only [UInt32.size]
    omega
  simp [toJson, ofJson?, fieldOf_cons, Fields.required, hnanos, ofParts?_parts]

end Duration

@[simp] theorem StepResult.ofJson?_toJson (r : StepResult) : ofJson? r.toJson = some r := by
  simp [toJson, ofJson?, fieldOf_cons, Fields.required]

@[simp] theorem RunResult.ofJson?_toJson (r : RunResult) : ofJson? r.toJson = some r := by
  have herror : fieldOf "error" ([("status", r.status.toJson),
      ("results", .arr (r.results.map StepResult.toJson)),
      ("moduleStatus", r.moduleStatus.toJson)] ++ Json.optional "error" (r.error.map .str) ++
      [("data", r.data.toJson)]) = r.error.map .str := by
    simp [fieldOf_append, fieldOf_cons, fieldOf_optional]
  rw [toJson, ofJson?, fields?_obj, Option.bind_eq_bind, Option.bind_some,
    Fields.optional_eq herror text?_str rfl]
  simp [Fields.required, fieldOf_append, fieldOf_cons, fieldOf_optional]

/-- The wire format loses nothing, whether a value stands alone or was held back until the kind of
one around it was known. -/
theorem wire_lossless :
    (∀ held, Lossless Intent.toJson (Intent.ofJson? held)) ∧
    (∀ held, Lossless Condition.toJson (Condition.ofJson? held)) ∧
    Lossless Mapping.toJson Mapping.ofJson? ∧
    (∀ held, Lossless Procedure.toJson (Procedure.ofJson? held)) ∧
    (∀ held, Lossless Mapped.toJson (Mapped.ofJson? held)) ∧
    Lossless GapQuestion.toJson GapQuestion.ofJson? ∧
    Lossless ModuleData.toJson ModuleData.ofJson? ∧
    Lossless ModuleStatus.toJson ModuleStatus.ofJson? ∧
    Lossless StepOutput.toJson StepOutput.ofJson? ∧
    Lossless StepResult.toJson StepResult.ofJson? ∧
    Lossless RunResult.toJson RunResult.ofJson? ∧
    Lossless ModuleRecord.toJson ModuleRecord.ofJson? ∧
    ∀ r : ModuleRecord, Store.normalize r.toJson = .ok r :=
  ⟨Intent.ofJson?_toJson, Condition.ofJson?_toJson, Mapping.ofJson?_toJson,
    Procedure.ofJson?_toJson, Mapped.ofJson?_toJson, GapQuestion.ofJson?_toJson,
    ModuleData.ofJson?_toJson, ModuleStatus.ofJson?_toJson, StepOutput.ofJson?_toJson,
    StepResult.ofJson?_toJson, RunResult.ofJson?_toJson, ModuleRecord.ofJson?_toJson,
    Store.normalize_toJson⟩

end FormScript
