import FormScript.Proofs.Json.RoundTrip
import FormScript.Proofs.Wire.Decoding
import FormScript.Store

/-! Loading what was saved. Nothing but a count can come back as something else, and a count that
does is no count any more: a record that can be loaded again is the one that was saved. -/
namespace FormScript

namespace Json

/-- Fields that are read as they were written. -/
def Unchanged (fields : List (String × Json)) : Prop :=
  ∀ field ∈ fields, reread? field.2 = some field.2

theorem Unchanged.append {a b : List (String × Json)} (ha : Unchanged a) (hb : Unchanged b) :
    Unchanged (a ++ b) :=
  List.forall_mem_append.mpr ⟨ha, hb⟩

theorem Unchanged.optional {key : String} {o : Option α} {encode : α → Json}
    (h : ∀ a ∈ o, reread? (encode a) = some (encode a)) :
    Unchanged (Json.optional key (o.map encode)) := by
  cases o with
  | none => simp [Unchanged, Json.optional]
  | some a => simpa [Unchanged, Json.optional] using h a rfl

theorem Unchanged.reread?_eq {fields : List (String × Json)} (h : Unchanged fields) :
    reread? (.obj fields) = some (.obj fields) := by
  have hfields : rereadFields? fields = some fields := by
    induction fields with
    | nil => rfl
    | cons field rest ih =>
      obtain ⟨hfield, hrest⟩ := List.forall_mem_cons.mp h
      rw [rereadFields?, hfield, ih hrest]
      rfl
  rw [reread?, hfields]
  rfl

@[simp] theorem reread?_str (s : String) : reread? (.str s) = some (.str s) := by rw [reread?]

@[simp] theorem reread?_bool (b : Bool) : reread? (.bool b) = some (.bool b) := by rw [reread?]

@[simp] theorem reread?_null : reread? .null = some .null := by rw [reread?]

theorem reread?_arr {items : List Json} (h : ∀ v ∈ items, reread? v = some v) :
    reread? (.arr items) = some (.arr items) := by
  have hitems : rereadItems? items = some items := by
    induction items with
    | nil => rfl
    | cons v rest ih =>
      obtain ⟨hv, hrest⟩ := List.forall_mem_cons.mp h
      rw [rereadItems?, hv, ih hrest]
      rfl
  rw [reread?, hitems]
  rfl

theorem reread?_count {n : Nat} (h : n ≤ maxUnsigned) : reread? (.int n) = some (.int n) := by
  rw [reread?, toJson_numeral h]

theorem fieldOf_rereadFields? {fields fields' : List (String × Json)}
    (h : rereadFields? fields = some fields') (key : String) :
    (fieldOf key fields).map reread? = (fieldOf key fields').map some := by
  induction fields generalizing fields' with
  | nil =>
    cases h
    rfl
  | cons field rest ih =>
    obtain ⟨k, v⟩ := field
    rw [rereadFields?] at h
    obtain ⟨v', hv, h⟩ := Option.bind_eq_some_iff.mp h
    obtain ⟨rest', hrest, rfl⟩ := Option.map_eq_some_iff.mp h
    rw [fieldOf_cons, fieldOf_cons, Option.map_or, Option.map_or, ih hrest]
    by_cases hk : k = key
    · rw [if_pos hk, if_pos hk, Option.map_some, Option.map_some, hv]
    · rw [if_neg hk, if_neg hk, Option.map_none, Option.map_none]

section Fields

variable {fields fields' : List (String × Json)} (h : rereadFields? fields = some fields')
  {key : String}

include h

theorem exists_of_fieldOf {v : Json} (hv : fieldOf key fields = some v) :
    ∃ v', reread? v = some v' ∧ fieldOf key fields' = some v' := by
  have hmap := fieldOf_rereadFields? h key
  rw [hv, Option.map_some] at hmap
  obtain ⟨v', hv', hread⟩ := Option.map_eq_some_iff.mp hmap.symm
  exact ⟨v', hread.symm, hv'⟩

theorem exists_of_reread {v' : Json} (hv : fieldOf key fields' = some v') :
    ∃ v, fieldOf key fields = some v ∧ reread? v = some v' := by
  have hmap := fieldOf_rereadFields? h key
  rw [hv, Option.map_some] at hmap
  exact Option.map_eq_some_iff.mp hmap

theorem fieldOf_eq_none (hnone : fieldOf key fields = none) : fieldOf key fields' = none := by
  have hmap := fieldOf_rereadFields? h key
  rw [hnone, Option.map_none] at hmap
  exact Option.map_eq_none_iff.mp hmap.symm

open Wire in
theorem le_of_count? {n k : Nat} (hn : fieldOf key fields = some (.int n))
    (hk : Fields.required (fun key => fieldOf key fields') key count? = some k) :
    n ≤ maxUnsigned := by
  obtain ⟨v, hread, hv⟩ := exists_of_fieldOf h hn
  rw [Fields.required, hv, Option.bind_some] at hk
  rw [reread?] at hread
  cases v with
  | int i => exact le_of_toJson_numeral hread
  | _ => contradiction

end Fields

theorem isNull_of_numeral {n : Numeral} {v : Json} (h : n.toJson = some v) : v.isNull = false := by
  simp only [Numeral.toJson] at h
  generalize (_ && _ : Bool) = isInt at h
  cases isInt with
  | true =>
    cases h
    rfl
  | false =>
    rw [if_neg Bool.false_ne_true] at h
    split at h
    · contradiction
    · cases h
      rfl

theorem isNull_of_reread {v v' : Json} (h : reread? v = some v') : v'.isNull = v.isNull := by
  cases v with
  | int n =>
    rw [reread?] at h
    exact isNull_of_numeral h
  | decimal m e =>
    rw [reread?] at h
    exact isNull_of_numeral h
  | arr items =>
    rw [reread?] at h
    obtain ⟨items', -, rfl⟩ := Option.map_eq_some_iff.mp h
    rfl
  | obj fields =>
    rw [reread?] at h
    obtain ⟨fields', -, rfl⟩ := Option.map_eq_some_iff.mp h
    rfl
  | _ =>
    cases h
    rfl

end Json

open Json Wire

theorem Condition.reread?_toJson (c : Condition) : reread? c.toJson = some c.toJson := by
  cases c <;> exact Unchanged.reread?_eq (by simp [Unchanged])

theorem Mapping.reread?_toJson (m : Mapping) : reread? m.toJson = some m.toJson := by
  obtain ⟨kind, target⟩ := m
  cases target <;> exact Unchanged.reread?_eq (by simp [Unchanged])

theorem Resolution.reread?_toJson (r : Resolution) : reread? r.toJson = some r.toJson :=
  Unchanged.reread?_eq (by simp [Unchanged])

theorem Gap.unchanged_fields (g : Gap) : Unchanged g.fields := by
  rw [Gap.fields]
  refine .append (.append ?_ ?_) ?_
  · simp [Unchanged]
  · exact .optional fun _ _ => reread?_str _
  · exact .optional fun r _ => r.reread?_toJson

theorem Action.unchanged_fields (a : Action) : Unchanged a.fields := by
  cases a <;> simp [Unchanged, Action.fields]

namespace Intent

theorem unchanged_markField (mark : Option Mark) : Unchanged (markField mark) :=
  .optional fun _ _ => reread?_str _

mutual

theorem reread?_toJson (i : Intent) : reread? i.toJson = some i.toJson := by
  match i with
  | act a mark =>
    rw [toJson]
    exact (a.unchanged_fields.append (unchanged_markField mark)).reread?_eq
  | gap g mark =>
    have htype : Unchanged [("type", .str "gap")] := by simp [Unchanged]
    rw [toJson]
    exact ((htype.append g.unchanged_fields).append (unchanged_markField mark)).reread?_eq
  | branch c thenArm elseArm mapping mark =>
    rw [toJson]
    refine Unchanged.reread?_eq (.append (.append ?_ ?_) (unchanged_markField mark))
    · simp [Unchanged, c.reread?_toJson, reread?_arr (reread?_toJsons thenArm),
        reread?_arr (reread?_toJsons elseArm)]
    · exact .optional fun m _ => m.reread?_toJson

theorem reread?_toJsons (is : List Intent) : ∀ v ∈ toJsons is, reread? v = some v := by
  match is with
  | [] => simp [toJsons]
  | i :: rest =>
    rw [toJsons]
    exact List.forall_mem_cons.mpr ⟨reread?_toJson i, reread?_toJsons rest⟩

end

end Intent

theorem reread?_map {encode : α → Json} (h : ∀ a, reread? (encode a) = some (encode a))
    (as : List α) : reread? (.arr (as.map encode)) = some (.arr (as.map encode)) := by
  apply reread?_arr
  intro v hv
  obtain ⟨a, -, rfl⟩ := List.mem_map.mp hv
  exact h a

theorem Procedure.reread?_toJson (p : Procedure) : reread? p.toJson = some p.toJson :=
  Unchanged.reread?_eq (by simp [Unchanged, reread?_arr (Intent.reread?_toJsons p.intents)])

theorem GapEntry.reread?_toJson (e : GapEntry) : reread? e.toJson = some e.toJson :=
  Unchanged.reread?_eq (by simp [Unchanged])

theorem GapQuestion.reread?_toJson (q : GapQuestion) : reread? q.toJson = some q.toJson := by
  refine Unchanged.reread?_eq (.append ?_ ?_)
  · simp [Unchanged]
  · exact .optional fun _ _ => reread?_str _

theorem ModuleStatus.reread?_toJson (s : ModuleStatus) : reread? s.toJson = some s.toJson :=
  Unchanged.reread?_eq (by simp [Unchanged])

def MapStats.Fits (s : MapStats) : Prop :=
  s.total ≤ maxUnsigned ∧ s.mechanical ≤ maxUnsigned ∧ s.gap ≤ maxUnsigned

def GenerateStats.Fits (s : GenerateStats) : Prop :=
  s.totalProcedures ≤ maxUnsigned ∧ s.mechanicalCount ≤ maxUnsigned ∧ s.gapCount ≤ maxUnsigned

section Counts

variable {a b c : String} {x y z : Nat}

theorem reread?_counts (hx : x ≤ maxUnsigned) (hy : y ≤ maxUnsigned) (hz : z ≤ maxUnsigned) :
    reread? (.obj [(a, .int x), (b, .int y), (c, .int z)]) =
      some (.obj [(a, .int x), (b, .int y), (c, .int z)]) :=
  Unchanged.reread?_eq (by simp [Unchanged, reread?_count hx, reread?_count hy, reread?_count hz])

theorem le_of_counts (hab : a ≠ b) (hac : a ≠ c) (hbc : b ≠ c) {v : Json} {names : List String}
    {make : Nat → Nat → Nat → α} {made : α}
    (h : reread? (.obj [(a, .int x), (b, .int y), (c, .int z)]) = some v)
    (hv : (do
      let fields ← fields? names v
      return make (← fields.required a count?) (← fields.required b count?)
        (← fields.required c count?)) = some made) :
    x ≤ maxUnsigned ∧ y ≤ maxUnsigned ∧ z ≤ maxUnsigned := by
  rw [reread?] at h
  obtain ⟨fields, hfields, rfl⟩ := Option.map_eq_some_iff.mp h
  rw [fields?_obj, Option.bind_eq_bind, Option.bind_some] at hv
  obtain ⟨x', hx, hv⟩ := Option.bind_eq_some_iff.mp hv
  obtain ⟨y', hy, hv⟩ := Option.bind_eq_some_iff.mp hv
  obtain ⟨z', hz, -⟩ := Option.bind_eq_some_iff.mp hv
  refine ⟨le_of_count? hfields ?_ hx, le_of_count? hfields ?_ hy, le_of_count? hfields ?_ hz⟩
  · simp [fieldOf_cons, hab.symm, hac.symm]
  · simp [fieldOf_cons, hbc.symm]
  · simp [fieldOf_cons]

end Counts

theorem MapStats.Fits.reread?_toJson {s : MapStats} (h : s.Fits) :
    reread? s.toJson = some s.toJson :=
  reread?_counts h.1 h.2.1 h.2.2

theorem GenerateStats.Fits.reread?_toJson {s : GenerateStats} (h : s.Fits) :
    reread? s.toJson = some s.toJson :=
  reread?_counts h.1 h.2.1 h.2.2

theorem MapStats.fits_of_decoded {s s' : MapStats} {v : Json} (h : reread? s.toJson = some v)
    (hv : MapStats.ofJson? v = some s') : s.Fits :=
  le_of_counts (by decide) (by decide) (by decide) h hv

theorem GenerateStats.fits_of_decoded {s s' : GenerateStats} {v : Json}
    (h : reread? s.toJson = some v) (hv : GenerateStats.ofJson? v = some s') : s.Fits :=
  le_of_counts (by decide) (by decide) (by decide) h hv

theorem Mapped.reread?_toJson {m : Mapped} (h : m.stats.Fits) :
    reread? m.toJson = some m.toJson :=
  Unchanged.reread?_eq (by simp [Unchanged, h.reread?_toJson,
    reread?_map Procedure.reread?_toJson, reread?_map GapEntry.reread?_toJson])

theorem Mapped.fieldOf_stats (m : Mapped) :
    fieldOf "stats" [("procedures", .arr (m.procedures.map Procedure.toJson)),
      ("stats", m.stats.toJson), ("gaps", .arr (m.gaps.map GapEntry.toJson))] =
      some m.stats.toJson := by
  simp [fieldOf_cons]

theorem Mapped.fits_of_decoded {held : Bool} {m m' : Mapped} {v : Json}
    (h : reread? m.toJson = some v) (hv : Mapped.ofJson? held v = some m') : m.stats.Fits := by
  rw [toJson, reread?] at h
  obtain ⟨fields, hfields, rfl⟩ := Option.map_eq_some_iff.mp h
  obtain ⟨stats, hread, hstats⟩ := exists_of_fieldOf hfields m.fieldOf_stats
  rw [ofJson?, fields?_obj, Option.bind_eq_bind, Option.bind_some] at hv
  obtain ⟨procedures, -, hv⟩ := Option.bind_eq_some_iff.mp hv
  obtain ⟨counts, hcounts, -⟩ := Option.bind_eq_some_iff.mp hv
  rw [Fields.defaulted, hstats] at hcounts
  exact MapStats.fits_of_decoded hread hcounts

theorem Mapped.lacksStats_toJson (m : Mapped) : Store.lacksStats m.toJson = false := by
  rw [Store.lacksStats, toJson, get?, m.fieldOf_stats]
  rfl

structure ModuleData.Fits (d : ModuleData) : Prop where
  mapped : ∀ m ∈ d.mapped, m.stats.Fits
  generateStats : ∀ s ∈ d.generateStats, s.Fits

theorem ModuleData.Fits.unchanged_fields {d : ModuleData} (h : d.Fits) : Unchanged d.fields := by
  rw [ModuleData.fields]
  refine .append (.append (.append (.append (.append ?_ ?_) ?_) ?_) ?_) ?_
  · exact .optional fun _ _ => reread?_str _
  · exact .optional fun ps _ => reread?_map Procedure.reread?_toJson ps
  · exact .optional fun m hm => Mapped.reread?_toJson (h.mapped m hm)
  · exact .optional fun qs _ => reread?_map GapQuestion.reread?_toJson qs
  · exact .optional fun _ _ => reread?_str _
  · exact .optional fun s hs => (h.generateStats s hs).reread?_toJson

theorem ModuleRecord.reread?_toJson {r : ModuleRecord} (h : r.data.Fits) :
    reread? r.toJson = some r.toJson := by
  have hversion : r.version.toNat ≤ maxUnsigned := by
    have hlt := r.version.toNat_lt
    rw [maxUnsigned]
    omega
  refine Unchanged.reread?_eq (.append (.append ?_ ?_) h.unchanged_fields)
  · simp [Unchanged, reread?_count hversion]
  · exact .optional fun s _ => s.reread?_toJson

namespace Store

theorem fieldOf_filter (keys : List String) (key : String) (fields : List (String × Json)) :
    fieldOf key (fields.filter fun field => !keys.contains field.1) =
      if keys.contains key then none else fieldOf key fields := by
  induction fields with
  | nil => simp
  | cons field rest ih =>
    obtain ⟨k, v⟩ := field
    rw [List.filter_cons]
    by_cases hk : k = key
    · subst hk
      by_cases hmem : keys.contains k <;> simp_all [fieldOf_cons]
    · by_cases hmem : keys.contains k <;> simp_all [fieldOf_cons]

/-- The fields of a record in the shape that is used. -/
structure IsCanonical (fields : List (String × Json)) : Prop where
  intents : ∀ v, fieldOf "intents" fields = some v → ∃ items, v = .arr items
  mapped : ∀ v, fieldOf "mapped" fields = some v → v.isNull = false ∧ lacksStats v = false
  script : ∀ v, fieldOf "generated_source" fields = some v → v.isNull = false
  noOther : fieldOf "cljs_source" fields = none ∧ fieldOf "cljsSource" fields = none

theorem nonNull_eq_self {o : Option Json} (h : ∀ v, o = some v → v.isNull = false) :
    nonNull o = o := by
  cases o with
  | none => rfl
  | some v => simp [nonNull, Option.filter, h v rfl]

theorem exists_of_optional {get : Fields} {key : String} {decode : Json → Option α} {o : Option α}
    {v : Json} (h : get.optional key decode = some o) (hv : get key = some v)
    (hnull : v.isNull = false) : ∃ a, decode v = some a := by
  have hsome : nonNull (some v) = some v := nonNull_eq_self fun _ heq => by cases heq; exact hnull
  rw [Fields.optional, hv, hsome] at h
  obtain ⟨a, ha, -⟩ := Option.map_eq_some_iff.mp h
  exact ⟨a, ha⟩

def recordKeys : List String :=
  "name" :: "version" :: "status" :: ModuleData.keys

theorem ofJson?_congr {a b : List (String × Json)}
    (h : ∀ key ∈ recordKeys, fieldOf key a = fieldOf key b) :
    ModuleRecord.ofJson? (.obj a) = ModuleRecord.ofJson? (.obj b) := by
  simp (disch := decide) only [ModuleRecord.ofJson?, ModuleData.ofFields?, Fields.required,
    Fields.optional, Fields.defaulted, h]

namespace IsCanonical

variable {fields : List (String × Json)} (h : IsCanonical fields)

include h

theorem splitIntents_eq :
    splitIntents (nonNull (fieldOf "intents" fields)) = .ok (fieldOf "intents" fields, none) := by
  cases hintents : fieldOf "intents" fields with
  | none => rfl
  | some v =>
    obtain ⟨items, rfl⟩ := h.intents v hintents
    rfl

theorem nonNull_mapped : nonNull (fieldOf "mapped" fields) = fieldOf "mapped" fields :=
  nonNull_eq_self fun v hv => (h.mapped v hv).1

theorem findSome?_script :
    scriptKeys.findSome? (fun key => nonNull (fieldOf key fields)) =
      fieldOf "generated_source" fields := by
  simp only [scriptKeys, List.findSome?_cons, h.noOther.1, h.noOther.2, nonNull_eq_self h.script]
  cases fieldOf "generated_source" fields <;> rfl

/-- What is in shape already is only decoded. -/
theorem normalize_eq_ok_iff {r : ModuleRecord} :
    normalize (.obj fields) = .ok r ↔ ModuleRecord.ofJson? (.obj fields) = some r := by
  have hstats : (fieldOf "mapped" fields).any lacksStats = false := by
    cases hmapped : fieldOf "mapped" fields with
    | none => rfl
    | some v => exact (h.mapped v hmapped).2
  have hfolded :
      ModuleRecord.ofJson? (.obj (fields.filter (fun field => !foldedKeys.contains field.1) ++
        Json.optional "intents" (fieldOf "intents" fields) ++
        Json.optional "mapped" (fieldOf "mapped" fields) ++
        Json.optional "generated_source" (fieldOf "generated_source" fields))) =
      ModuleRecord.ofJson? (.obj fields) := by
    apply ofJson?_congr
    intro key hkey
    simp only [fieldOf_append, fieldOf_optional, fieldOf_filter foldedKeys]
    simp only [recordKeys, ModuleData.keys, List.mem_cons, List.not_mem_nil, or_false] at hkey
    rcases hkey with rfl | rfl | rfl | rfl | rfl | rfl | rfl | rfl | rfl <;>
      simp [foldedKeys, scriptKeys]
  rw [normalize]
  simp only [h.splitIntents_eq, h.nonNull_mapped, h.findSome?_script, bind,
    Except.bind, Option.none_or, hfolded, hstats, Bool.false_eq_true, if_false]
  cases ModuleRecord.ofJson? (.obj fields) <;> simp

end IsCanonical

theorem lacksStats_of_reread {v v' : Json} (h : reread? v = some v') (hv : lacksStats v = false) :
    lacksStats v' = false := by
  cases v with
  | obj fields =>
    rw [reread?] at h
    obtain ⟨fields', hfields, rfl⟩ := Option.map_eq_some_iff.mp h
    cases hstats : fieldOf "stats" fields with
    | none => simp [lacksStats, get?, hstats] at hv
    | some stats =>
      obtain ⟨stats', hread, hstats'⟩ := exists_of_fieldOf hfields hstats
      simpa [lacksStats, get?, hstats, hstats', nonNull, Option.filter, isNull_of_reread hread]
        using hv
  | _ => contradiction

theorem IsCanonical.of_reread {fields fields' : List (String × Json)} (hfields : IsCanonical fields)
    (h : rereadFields? fields = some fields') : IsCanonical fields' where
  intents := by
    intro v' hv'
    obtain ⟨v, hv, hread⟩ := exists_of_reread h hv'
    obtain ⟨items, rfl⟩ := hfields.intents v hv
    rw [reread?] at hread
    obtain ⟨items', -, rfl⟩ := Option.map_eq_some_iff.mp hread
    exact ⟨items', rfl⟩
  mapped := by
    intro v' hv'
    obtain ⟨v, hv, hread⟩ := exists_of_reread h hv'
    obtain ⟨hnull, hstats⟩ := hfields.mapped v hv
    exact ⟨(isNull_of_reread hread).trans hnull, lacksStats_of_reread hread hstats⟩
  script := by
    intro v' hv'
    obtain ⟨v, hv, hread⟩ := exists_of_reread h hv'
    exact (isNull_of_reread hread).trans (hfields.script v hv)
  noOther := ⟨fieldOf_eq_none h hfields.noOther.1, fieldOf_eq_none h hfields.noOther.2⟩

section Encoded

variable {r : ModuleRecord} {fields : List (String × Json)} (hr : r.toJson = .obj fields)

include hr

theorem isCanonical_of_toJson : IsCanonical fields where
  intents := by
    intro v hv
    rw [ModuleRecord.fieldOf_toJson hr (by decide), r.data.fieldOf_procedures] at hv
    obtain ⟨ps, -, rfl⟩ := Option.map_eq_some_iff.mp hv
    exact ⟨_, rfl⟩
  mapped := by
    intro v hv
    rw [ModuleRecord.fieldOf_toJson hr (by decide), r.data.fieldOf_mapped] at hv
    obtain ⟨m, -, rfl⟩ := Option.map_eq_some_iff.mp hv
    exact ⟨rfl, m.lacksStats_toJson⟩
  script := by
    intro v hv
    rw [ModuleRecord.fieldOf_toJson hr (by decide), r.data.fieldOf_generatedSource] at hv
    obtain ⟨s, -, rfl⟩ := Option.map_eq_some_iff.mp hv
    rfl
  noOther := by
    cases hr
    simp [ModuleData.fields, fieldOf_append, fieldOf_cons, fieldOf_optional]

variable {fields' : List (String × Json)} (h : rereadFields? fields = some fields')

include h

theorem fits_of_decoded {r' : ModuleRecord}
    (hdecode : ModuleRecord.ofJson? (.obj fields') = some r') : r.data.Fits := by
  rw [ModuleRecord.ofJson?] at hdecode
  obtain ⟨name, -, hdecode⟩ := Option.bind_eq_some_iff.mp hdecode
  obtain ⟨version, -, hdecode⟩ := Option.bind_eq_some_iff.mp hdecode
  obtain ⟨status, -, hdecode⟩ := Option.bind_eq_some_iff.mp hdecode
  obtain ⟨d, hdata, -⟩ := Option.bind_eq_some_iff.mp hdecode
  rw [ModuleData.ofFields?] at hdata
  obtain ⟨source, -, hdata⟩ := Option.bind_eq_some_iff.mp hdata
  obtain ⟨procedures, -, hdata⟩ := Option.bind_eq_some_iff.mp hdata
  obtain ⟨mapped, hmapped, hdata⟩ := Option.bind_eq_some_iff.mp hdata
  obtain ⟨questions, -, hdata⟩ := Option.bind_eq_some_iff.mp hdata
  obtain ⟨script, -, hdata⟩ := Option.bind_eq_some_iff.mp hdata
  obtain ⟨stats, hstats, -⟩ := Option.bind_eq_some_iff.mp hdata
  constructor
  · intro m hm
    have hget : fieldOf "mapped" fields = some m.toJson := by
      rw [ModuleRecord.fieldOf_toJson hr (by decide), r.data.fieldOf_mapped, hm]
      rfl
    obtain ⟨v, hread, hv⟩ := exists_of_fieldOf h hget
    obtain ⟨m', hm'⟩ := exists_of_optional hmapped hv (isNull_of_reread hread)
    exact Mapped.fits_of_decoded hread hm'
  · intro s hs
    have hget : fieldOf "generate_stats" fields = some s.toJson := by
      rw [ModuleRecord.fieldOf_toJson hr (by decide), r.data.fieldOf_generateStats, hs]
      rfl
    obtain ⟨v, hread, hv⟩ := exists_of_fieldOf h hget
    obtain ⟨s', hs'⟩ := exists_of_optional hstats hv (isNull_of_reread hread)
    exact GenerateStats.fits_of_decoded hread hs'

end Encoded

theorem normalize_toJson (r : ModuleRecord) : normalize r.toJson = .ok r := by
  obtain ⟨fields, hr⟩ : ∃ fields, r.toJson = .obj fields := ⟨_, rfl⟩
  rw [hr, (isCanonical_of_toJson hr).normalize_eq_ok_iff, ← hr]
  exact r.ofJson?_toJson

theorem readJson_save (r : ModuleRecord) :
    readJson (save r).toUTF8 =
      (reread? r.toJson).bind fun v => if v.depth ≤ maxDepth then some v else none := by
  have hbytes (s : String) : String.fromUTF8? s.toUTF8 = some s := dif_pos s.isValidUTF8
  rw [readJson, hbytes, Option.bind_some, save, read_pretty]

theorem load_eq_ok_iff {bytes : ByteArray} {r : ModuleRecord} :
    load bytes = .ok r ↔ ∃ v, readJson bytes = some v ∧ normalize v = .ok r := by
  rw [load]
  cases readJson bytes <;> simp

/-- A record can be loaded again if its counts fit and it is not nested too deep, and then it is the
one that was saved. -/
theorem load_save_eq_ok_iff {r r' : ModuleRecord} :
    load (save r).toUTF8 = .ok r' ↔
      r' = r ∧ r.data.Fits ∧ r.toJson.depth ≤ maxDepth := by
  obtain ⟨fields, hr⟩ : ∃ fields, r.toJson = .obj fields := ⟨_, rfl⟩
  rw [load_eq_ok_iff, readJson_save]
  constructor
  · rintro ⟨v, hv, hnormalize⟩
    obtain ⟨w, hread, hw⟩ := Option.bind_eq_some_iff.mp hv
    obtain ⟨hdepth, rfl⟩ : w.depth ≤ maxDepth ∧ w = v := by
      split at hw <;> simp_all
    have hobj := hread
    rw [hr, reread?] at hobj
    obtain ⟨fields', hfields, hfields'⟩ := Option.map_eq_some_iff.mp hobj
    rw [← hfields', ((isCanonical_of_toJson hr).of_reread hfields).normalize_eq_ok_iff] at hnormalize
    have hfits := fits_of_decoded hr hfields hnormalize
    have hw : r.toJson = w := Option.some.inj ((ModuleRecord.reread?_toJson hfits).symm.trans hread)
    rw [hfields', ← hw, ModuleRecord.ofJson?_toJson] at hnormalize
    exact ⟨(Option.some.inj hnormalize).symm, hfits, hw ▸ hdepth⟩
  · rintro ⟨rfl, hfits, hdepth⟩
    have hread := ModuleRecord.reread?_toJson hfits
    exact ⟨r'.toJson, by rw [hread, Option.bind_some, if_pos hdepth], normalize_toJson r'⟩

end Store

end FormScript
