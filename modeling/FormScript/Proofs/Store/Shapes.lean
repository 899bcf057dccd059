import FormScript.Proofs.Mapped.Summary
import FormScript.Proofs.Store.Reload

/-! The shapes in which a record may have been kept. Whichever of the known ones it is, loading gives
the record; and what loading makes of mapped procedures depends on one thing only, whether counts
came with them. -/
namespace FormScript

open Json Wire

namespace Store

theorem nested_of_splitIntents {intents procedures nested : Option Json}
    (h : splitIntents intents = .ok (procedures, nested)) :
    nested = intents.bind fun v => nonNull (v.get? "mapped") := by
  unfold splitIntents at h
  split at h
  · cases h
    rfl
  · cases h
    rfl
  · cases h
    rfl
  · contradiction

/-- The mapped procedures of a record as they were kept: those beside the extracted procedures come
before those of the record itself. -/
def keptMapped? (v : Json) : Option Json :=
  ((nonNull (v.get? "intents")).bind fun intents => nonNull (intents.get? "mapped")).or
    (nonNull (v.get? "mapped"))

def foldedFields (fields : List (String × Json)) (procedures mapped script : Option Json) :
    List (String × Json) :=
  fields.filter (fun field => !foldedKeys.contains field.1) ++ Json.optional "intents" procedures ++
    Json.optional "mapped" mapped ++ Json.optional "generated_source" script

theorem normalize_obj {fields : List (String × Json)} {procedures nested : Option Json}
    (h : splitIntents (nonNull (fieldOf "intents" fields)) = .ok (procedures, nested)) :
    normalize (.obj fields) =
      match ModuleRecord.ofJson? (.obj (foldedFields fields procedures (keptMapped? (.obj fields))
        (scriptKeys.findSome? fun key => nonNull (fieldOf key fields)))) with
      | none => .error .malformed
      | some r => .ok (if (keptMapped? (.obj fields)).any lacksStats then r.recount else r) := by
  have hkept : nested.or (nonNull (fieldOf "mapped" fields)) = keptMapped? (.obj fields) := by
    rw [nested_of_splitIntents h]
    rfl
  rw [normalize]
  simp only [h, hkept, bind, Except.bind]
  rfl

theorem fieldOf_foldedFields (fields : List (String × Json)) (procedures mapped script : Option Json)
    (key : String) :
    fieldOf key (foldedFields fields procedures mapped script) =
      if key = "intents" then procedures
      else if key = "mapped" then mapped
      else if key = "generated_source" then script
      else if foldedKeys.contains key then none else fieldOf key fields := by
  simp only [foldedFields, fieldOf_append, fieldOf_optional, fieldOf_filter foldedKeys,
    @eq_comm _ _ key]
  by_cases hintents : key = "intents"
  · simp [hintents, foldedKeys]
  by_cases hmapped : key = "mapped"
  · simp [hmapped, foldedKeys]
  by_cases hscript : key = "generated_source"
  · simp [hscript, foldedKeys, scriptKeys]
  simp only [hintents, hmapped, hscript, if_false, Option.none_or]

end Store

open Store

def ModuleRecord.withMapped (r : ModuleRecord) (m : Mapped) : ModuleRecord :=
  { r with data := { r.data with mapped := some m } }

theorem ModuleRecord.get?_withMapped (r : ModuleRecord) (m : Mapped) {key : String}
    (hkey : key ≠ "mapped") : (r.withMapped m).toJson.get? key = r.toJson.get? key := by
  simp [withMapped, toJson, ModuleData.fields, get?, fieldOf_append, fieldOf_cons,
    fieldOf_optional, hkey.symm]

theorem ModuleRecord.ofJson?_withMapped {fields : List (String × Json)} {r : ModuleRecord}
    {kept : Json} {m : Mapped}
    (hfields : ∀ key ∈ recordKeys, key ≠ "mapped" → fieldOf key fields = r.toJson.get? key)
    (hkept : nonNull (fieldOf "mapped" fields) = some kept)
    (hdecode : Mapped.ofJson? true kept = some m) :
    ofJson? (.obj fields) = some (r.withMapped m) := by
  obtain ⟨fields', hr⟩ : ∃ fields', (r.withMapped m).toJson = .obj fields' := ⟨_, rfl⟩
  have hsame : ∀ key ∈ recordKeys, key ≠ "mapped" → fieldOf key fields = fieldOf key fields' := by
    intro key hmem hkey
    rw [hfields key hmem hkey, ← r.get?_withMapped m hkey, hr, get?]
  have hmapped : Fields.optional (fun key => fieldOf key fields) "mapped" (Mapped.ofJson? true) =
      Fields.optional (fun key => fieldOf key fields') "mapped" (Mapped.ofJson? true) := by
    have hget : fieldOf "mapped" fields' = (some m).map Mapped.toJson :=
      (ModuleRecord.fieldOf_toJson hr (by decide)).trans (ModuleData.fieldOf_mapped _)
    have hthere : Fields.optional (fun key => fieldOf key fields') "mapped" (Mapped.ofJson? true) =
        some (some m) := Fields.optional_eq hget (Mapped.ofJson?_toJson true) rfl
    rw [hthere, Fields.optional, hkept]
    simp only [hdecode, Option.map_some]
  have hdecode' := ofJson?_toJson (r.withMapped m)
  rw [hr] at hdecode'
  rw [← hdecode']
  simp only [ofJson?, ModuleData.ofFields?, hmapped]
  simp (disch := decide) only [Fields.required, Fields.optional, Fields.defaulted, hsame]

namespace Store

/-- An object that holds mapped procedures: with their summary, or, where the summary can be built
anew, without the counts and with any entries, or nothing, in place of the list. -/
inductive HoldsMapped (m : Mapped) (fields : List (String × Json)) : Prop
  | whole (h : ∀ key ∈ ["procedures", "stats", "gaps"], fieldOf key fields = m.toJson.get? key)
  | unsummed (hsummed : m.recount = m)
    (hprocedures : fieldOf "procedures" fields = m.toJson.get? "procedures")
    (hstats : fieldOf "stats" fields = none)
    (hgaps : ∀ v ∈ fieldOf "gaps" fields, ∃ entries, listOf? GapEntry.ofJson? v = some entries)

theorem HoldsMapped.decoded {m : Mapped} {fields : List (String × Json)} (h : HoldsMapped m fields) :
    ∃ m', Mapped.ofJson? true (.obj fields) = some m' ∧
      (if lacksStats (.obj fields) then m'.recount else m') = m := by
  cases h with
  | whole h =>
    have hprocedures := h "procedures" (by decide)
    have hstats := h "stats" (by decide)
    have hgaps := h "gaps" (by decide)
    refine ⟨m, ?_, ?_⟩
    · rw [← Mapped.ofJson?_toJson true m]
      simp only [Mapped.toJson, get?] at hprocedures hstats hgaps
      simp only [Mapped.ofJson?, Mapped.toJson, fields?_obj, Fields.defaulted, hprocedures, hstats,
        hgaps, Option.bind_eq_bind, Option.bind_some]
    · have hcounted : lacksStats (.obj fields) = false := by
        rw [← m.lacksStats_toJson, lacksStats, lacksStats, get?, hstats]
      rw [hcounted]
      rfl
  | unsummed hsummed hprocedures hstats hgaps =>
    have hlacks : lacksStats (.obj fields) = true := by
      rw [lacksStats, get?, hstats]
      rfl
    have hlist : ∃ entries, Fields.defaulted (fun key => fieldOf key fields) "gaps" []
        (listOf? GapEntry.ofJson?) = some entries := by
      rw [Fields.defaulted]
      cases hv : fieldOf "gaps" fields with
      | none => exact ⟨[], rfl⟩
      | some v => exact hgaps v hv
    obtain ⟨entries, hentries⟩ := hlist
    refine ⟨⟨m.procedures, ⟨0, 0, 0⟩, entries⟩, ?_, ?_⟩
    · have hread : fieldOf "procedures" fields = some (.arr (m.procedures.map Procedure.toJson)) :=
        hprocedures.trans (by simp [Mapped.toJson, get?, fieldOf_cons])
      simp only [Mapped.ofJson?, fields?_obj, hentries, Option.bind_eq_bind, Option.bind_some]
      simp only [Fields.defaulted, hread, hstats, listOf?_map (Procedure.ofJson?_toJson true),
        Option.bind_some]
      rfl
    · rw [if_pos hlacks]
      exact hsummed

/-- Extracted and mapped procedures of a record: as two fields of it, or the mapped ones beside the
extracted ones in one object. In the latter case a field for mapped procedures may hold anything. -/
inductive HoldsProcedures (ps : List Procedure) (m : Mapped) (v : Json) : Prop
  | apart {inner : List (String × Json)}
    (hintents : v.get? "intents" = some (.arr (ps.map Procedure.toJson)))
    (hmapped : v.get? "mapped" = some (.obj inner)) (hinner : HoldsMapped m inner)
  | together {outer inner : List (String × Json)}
    (hintents : v.get? "intents" = some (.obj outer))
    (hprocedures : fieldOf "procedures" outer = some (.arr (ps.map Procedure.toJson)))
    (hmapped : fieldOf "mapped" outer = some (.obj inner)) (hinner : HoldsMapped m inner)

theorem HoldsProcedures.split {ps : List Procedure} {m : Mapped} {v : Json}
    (h : HoldsProcedures ps m v) :
    ∃ nested inner, splitIntents (nonNull (v.get? "intents")) =
        .ok (some (.arr (ps.map Procedure.toJson)), nested) ∧
      keptMapped? v = some (.obj inner) ∧ HoldsMapped m inner := by
  cases h with
  | @apart inner hintents hmapped hinner =>
    refine ⟨none, inner, ?_, ?_, hinner⟩
    · rw [hintents]
      rfl
    · rw [keptMapped?, hintents, hmapped]
      rfl
  | @together outer inner hintents hprocedures hmapped hinner =>
    refine ⟨some (.obj inner), inner, ?_, ?_, hinner⟩
    · rw [hintents]
      simp only [nonNull, Option.filter, isNull, Bool.not_false, if_true, splitIntents, hprocedures,
        hmapped, Option.getD_some]
    · rw [keptMapped?, hintents]
      simp only [nonNull, Option.filter, isNull, Bool.not_false, if_true, get?, hmapped,
        Option.bind_some, Option.some_or]

/-- A script is kept under one of the known keys. Nothing but `null` stands under those that come
before it in order of preference; under those behind it there may be anything. -/
def HoldsScript (script : String) (v : Json) : Prop :=
  ∃ earlier key later, scriptKeys = earlier ++ key :: later ∧
    v.get? key = some (.str script) ∧ ∀ k ∈ earlier, nonNull (v.get? k) = none

theorem HoldsScript.findSome? {script : String} {v : Json} (h : HoldsScript script v) :
    scriptKeys.findSome? (fun key => nonNull (v.get? key)) = some (.str script) := by
  obtain ⟨earlier, key, later, hkeys, hkey, hearlier⟩ := h
  have hnone : earlier.findSome? (fun key => nonNull (v.get? key)) = none :=
    List.findSome?_eq_none_iff.mpr hearlier
  rw [hkeys, List.findSome?_append, hnone, List.findSome?_cons, hkey]
  rfl

/-- The keys of a record that have only ever been kept in one way. -/
def settledKeys : List String :=
  ["name", "version", "status", "source", "questions", "generate_stats"]

end Store

/-- Whatever the known shape in which a record was kept, loading gives that record. -/
theorem normalize_kept {r : ModuleRecord} {ps : List Procedure} {m : Mapped} {script : String}
    {v : Json} (hps : r.data.procedures = some ps) (hm : r.data.mapped = some m)
    (hscript : r.data.generatedSource = some script)
    (hsettled : ∀ key ∈ settledKeys, v.get? key = r.toJson.get? key)
    (hprocedures : HoldsProcedures ps m v) (hkept : HoldsScript script v) :
    normalize v = .ok r := by
  obtain ⟨nested, inner, hsplit, hinner, hholds⟩ := hprocedures.split
  obtain ⟨m', hdecode, hm'⟩ := hholds.decoded
  cases v with
  | obj fields =>
    have hfound := hkept.findSome?
    simp only [get?] at hsplit hfound
    have hfields : ∀ key ∈ recordKeys, key ≠ "mapped" →
        fieldOf key (foldedFields fields (some (.arr (ps.map Procedure.toJson)))
          (some (.obj inner)) (some (.str script))) = r.toJson.get? key := by
      intro key hkey hne
      rw [fieldOf_foldedFields]
      simp only [recordKeys, ModuleData.keys, List.mem_cons, List.not_mem_nil, or_false] at hkey
      rcases hkey with rfl | rfl | rfl | rfl | rfl | rfl | rfl | rfl | rfl
      · exact hsettled "name" (by decide)
      · exact hsettled "version" (by decide)
      · exact hsettled "status" (by decide)
      · exact hsettled "source" (by decide)
      · exact ((ModuleRecord.fieldOf_toJson rfl (by decide)).trans
          (r.data.fieldOf_procedures.trans (by rw [hps]; rfl))).symm
      · contradiction
      · exact hsettled "questions" (by decide)
      · exact ((ModuleRecord.fieldOf_toJson rfl (by decide)).trans
          (r.data.fieldOf_generatedSource.trans (by rw [hscript]; rfl))).symm
      · exact hsettled "generate_stats" (by decide)
    have hmapped : nonNull (fieldOf "mapped" (foldedFields fields
        (some (.arr (ps.map Procedure.toJson))) (some (.obj inner)) (some (.str script)))) =
        some (.obj inner) := by
      rw [fieldOf_foldedFields]
      rfl
    have hsame : (r.withMapped m) = r := by
      rw [ModuleRecord.withMapped, ← hm]
    rw [normalize_obj hsplit, hinner, hfound, ModuleRecord.ofJson?_withMapped hfields hmapped hdecode,
      Option.any_some]
    dsimp only
    rw [← hsame, ← hm']
    split <;> rfl
  | _ => contradiction

theorem normalize_kept_old :
    let ps : List Procedure := [⟨"Form_Load", "load", [.openGap "DoCmd.Hourglass True" "no rule"]⟩]
    let m := Mapped.classify ps
    let r : ModuleRecord := { name := "Form_Orders", version := 3, data :=
      { source := some "Sub", procedures := some ps, mapped := some m,
        generatedSource := some "(ns forms.form-orders)" } }
    let entry : GapEntry := ⟨"Form_Unload", "Form_Unload:7", "", ""⟩
    let inner : List (String × Json) := [("gaps", .arr [entry.toJson, entry.toJson]),
      ("procedures", .arr (m.procedures.map Procedure.toJson))]
    let v : Json := .obj [("cljsSource", .bool true), ("mapped", .str "see intents"),
      ("intents", .obj [("mapped", .obj inner), ("procedures", .arr (ps.map Procedure.toJson))]),
      ("cljs_source", .str "(ns forms.form-orders)"), ("generated_source", .null),
      ("version", .int 3), ("name", .str "Form_Orders"), ("source", .str "Sub")]
    (∀ key ∈ settledKeys, v.get? key = r.toJson.get? key) ∧ HoldsProcedures ps m v ∧
      HoldsScript "(ns forms.form-orders)" v ∧ normalize v = .ok r := by
  intro ps m r entry inner v
  have hsettled : ∀ key ∈ settledKeys, v.get? key = r.toJson.get? key := by
    simp only [settledKeys, List.forall_mem_cons]
    exact ⟨rfl, rfl, rfl, rfl, rfl, rfl, by simp⟩
  have hinner : HoldsMapped m inner :=
    .unsummed (Mapped.recount_eq_self_iff.mpr (Mapped.isSummed_classify ps)) rfl rfl
      (by rintro w ⟨⟩; exact ⟨[entry, entry], rfl⟩)
  have hprocedures : HoldsProcedures ps m v := .together rfl rfl rfl hinner
  have hscript : HoldsScript "(ns forms.form-orders)" v :=
    ⟨["generated_source"], "cljs_source", ["cljsSource"], rfl, rfl, by simp [v]; rfl⟩
  exact ⟨hsettled, hprocedures, hscript, normalize_kept rfl rfl rfl hsettled hprocedures hscript⟩

theorem ModuleRecord.mapped_of_ofJson? {fields : List (String × Json)} {r : ModuleRecord}
    (h : ofJson? (.obj fields) = some r) :
    Fields.optional (fun key => fieldOf key fields) "mapped" (Mapped.ofJson? true) =
      some r.data.mapped := by
  rw [ofJson?] at h
  obtain ⟨name, -, h⟩ := Option.bind_eq_some_iff.mp h
  obtain ⟨version, -, h⟩ := Option.bind_eq_some_iff.mp h
  obtain ⟨status, -, h⟩ := Option.bind_eq_some_iff.mp h
  obtain ⟨d, hdata, h⟩ := Option.bind_eq_some_iff.mp h
  rw [ModuleData.ofFields?] at hdata
  obtain ⟨source, -, hdata⟩ := Option.bind_eq_some_iff.mp hdata
  obtain ⟨procedures, -, hdata⟩ := Option.bind_eq_some_iff.mp hdata
  obtain ⟨mapped, hmapped, hdata⟩ := Option.bind_eq_some_iff.mp hdata
  obtain ⟨questions, -, hdata⟩ := Option.bind_eq_some_iff.mp hdata
  obtain ⟨script, -, hdata⟩ := Option.bind_eq_some_iff.mp hdata
  obtain ⟨stats, -, hdata⟩ := Option.bind_eq_some_iff.mp hdata
  cases hdata
  cases h
  exact hmapped

namespace Store

theorem isNull_of_nonNull {o : Option Json} {v : Json} (h : nonNull o = some v) :
    v.isNull = false := by
  simpa using (Option.filter_eq_some_iff.mp h).2

theorem isNull_of_keptMapped? {v kept : Json} (h : keptMapped? v = some kept) :
    kept.isNull = false := by
  rcases Option.or_eq_some_iff.mp h with hnested | ⟨-, hown⟩
  · obtain ⟨intents, -, hnested⟩ := Option.bind_eq_some_iff.mp hnested
    exact isNull_of_nonNull hnested
  · exact isNull_of_nonNull hown

theorem mapped_of_normalize {v : Json} {r : ModuleRecord} {m : Mapped} (h : normalize v = .ok r)
    (hm : r.data.mapped = some m) :
    ∃ kept stored, keptMapped? v = some kept ∧ Mapped.ofJson? true kept = some stored ∧
      m = if lacksStats kept then stored.recount else stored := by
  cases v with
  | obj fields =>
    cases hsplit : splitIntents (nonNull (fieldOf "intents" fields)) with
    | error e =>
      rw [normalize, hsplit] at h
      contradiction
    | ok parts =>
      obtain ⟨procedures, nested⟩ := parts
      rw [normalize_obj hsplit] at h
      split at h
      · contradiction
      · rename_i record hrecord
        cases h
        have hmapped := ModuleRecord.mapped_of_ofJson? hrecord
        rw [Fields.optional, fieldOf_foldedFields, if_neg (by decide), if_pos rfl] at hmapped
        cases hkept : keptMapped? (.obj fields) with
        | none =>
          rw [hkept] at hm hmapped
          have hnone : record.data.mapped = none := (Option.some.inj hmapped).symm
          exact absurd (hnone.symm.trans hm) (by simp)
        | some kept =>
          have hnull : nonNull (some kept) = some kept :=
            nonNull_eq_self fun w hw => isNull_of_keptMapped? (hkept.trans hw)
          rw [hkept, hnull] at hmapped
          obtain ⟨stored, hstored, hdata⟩ := Option.map_eq_some_iff.mp hmapped
          refine ⟨kept, stored, rfl, hstored, ?_⟩
          rw [hkept, Option.any_some] at hm
          split at hm
          · rename_i hlacks
            rw [ModuleRecord.recount, ← hdata] at hm
            rw [if_pos hlacks]
            exact (Option.some.inj hm).symm
          · rename_i hcounted
            rw [← hdata] at hm
            rw [if_neg hcounted]
            exact (Option.some.inj hm).symm
  | _ => contradiction

end Store

namespace Mapped

/-- Gaps that can be worked on: each has an id to be answered by, and one is listed as open exactly
while there is one. -/
structure IsWorkable (m : Mapped) : Prop where
  ids : ∀ g ∈ m.gapNodes, g.id.isSome = true
  listed : m.openGaps ≠ [] ↔ m.hasOpenGaps = true

theorem IsSummed.isWorkable {m : Mapped} (h : m.IsSummed) : m.IsWorkable :=
  ⟨h.ids, h.hasOpenGaps_iff.symm⟩

theorem openGaps_ne_nil_iff {m : Mapped} : m.openGaps ≠ [] ↔ ∃ e ∈ m.gaps, e.id ∈ m.openIds := by
  simp [openGaps]

/-- Whatever the list says, it can only fail to name an open gap. -/
theorem isWorkable_iff {m : Mapped} :
    m.IsWorkable ↔ (∀ g ∈ m.gapNodes, g.id.isSome = true) ∧
      (m.hasOpenGaps = true → ∃ e ∈ m.gaps, e.id ∈ m.openIds) := by
  have hopen : (∃ e ∈ m.gaps, e.id ∈ m.openIds) → m.hasOpenGaps = true := by
    rintro ⟨e, -, he⟩
    obtain ⟨g, hg, hisOpen, -⟩ := mem_openIds.mp he
    exact List.any_eq_true.mpr ⟨g, hg, hisOpen⟩
  constructor
  · rintro ⟨hids, hlisted⟩
    exact ⟨hids, fun h => openGaps_ne_nil_iff.mp (hlisted.mpr h)⟩
  · rintro ⟨hids, hlisted⟩
    exact ⟨hids, fun h => hopen (openGaps_ne_nil_iff.mp h), fun h => openGaps_ne_nil_iff.mpr (hlisted h)⟩

end Mapped

/-- Mapped procedures that were kept without counts come back with gaps that can be worked on.
With counts they come back as they were kept, and so do gaps without an id and open gaps that the
list does not name. -/
theorem loaded_gaps_workable {v : Json} {r : ModuleRecord} {m : Mapped}
    (hload : normalize v = .ok r) (hm : r.data.mapped = some m) :
    ∃ kept stored, keptMapped? v = some kept ∧ Mapped.ofJson? true kept = some stored ∧
      (lacksStats kept = true → m = stored.recount ∧ m.IsWorkable) ∧
      (lacksStats kept = false → m = stored ∧
        (m.IsWorkable ↔ (∀ g ∈ stored.gapNodes, g.id.isSome = true) ∧
          (stored.hasOpenGaps = true → ∃ e ∈ stored.gaps, e.id ∈ stored.openIds))) := by
  obtain ⟨kept, stored, hkept, hstored, rfl⟩ := mapped_of_normalize hload hm
  refine ⟨kept, stored, hkept, hstored, ?_, ?_⟩
  · intro hlacks
    rw [if_pos hlacks]
    exact ⟨rfl, (Mapped.isSummed_recount stored).isWorkable⟩
  · intro hcounted
    rw [hcounted, if_neg (by decide)]
    exact ⟨rfl, Mapped.isWorkable_iff⟩

theorem loaded_gaps_workable_uncounted :
    let v : Json := .obj [("name", .str "Form_Orders"), ("intents", .obj [("procedures", .null),
      ("mapped", .obj [("procedures", .arr [.obj [("name", .str "btnExport_Click"),
        ("intents", .arr [.obj [("type", .str "gap"), ("vba_line", .str "DoCmd.TransferText"),
          ("reason", .str "file export")]])]])])])]
    let m : Mapped := ⟨[⟨"btnExport_Click", "", [.gap ⟨"DoCmd.TransferText", "file export",
      some "btnExport_Click:0", none⟩ none]⟩], ⟨1, 0, 1⟩,
      [⟨"btnExport_Click", "btnExport_Click:0", "DoCmd.TransferText", "file export"⟩]⟩
    let r : ModuleRecord :=
      { name := "Form_Orders", data := { procedures := some [], mapped := some m } }
    normalize v = .ok r ∧ ∃ kept stored, keptMapped? v = some kept ∧
      Mapped.ofJson? true kept = some stored ∧
      (lacksStats kept = true → m = stored.recount ∧ m.IsWorkable) ∧
      (lacksStats kept = false → m = stored ∧
        (m.IsWorkable ↔ (∀ g ∈ stored.gapNodes, g.id.isSome = true) ∧
          (stored.hasOpenGaps = true → ∃ e ∈ stored.gaps, e.id ∈ stored.openIds))) := by
  intro v m r
  have hload : normalize v = .ok r := by rfl
  exact ⟨hload, loaded_gaps_workable hload rfl⟩

/-- Counts keep a gap without an id from being given one: it is open, and nothing is listed. -/
theorem counted_gaps_not_workable :
    let v : Json := .obj [("name", .str "Form_Orders"), ("mapped", .obj [
      ("procedures", .arr [.obj [("name", .str "btnExport_Click"), ("intents", .arr [.obj [
        ("type", .str "gap"), ("vba_line", .str "DoCmd.TransferText"),
        ("reason", .str "file export")]])]]),
      ("stats", .obj [("total", .int 1), ("mechanical", .int 0), ("gap", .int 1)])])]
    let m : Mapped := ⟨[⟨"btnExport_Click", "", [.gap ⟨"DoCmd.TransferText", "file export",
      none, none⟩ none]⟩], ⟨1, 0, 1⟩, []⟩
    normalize v = .ok { name := "Form_Orders", data := { mapped := some m } } ∧
      m.hasOpenGaps = true ∧ m.openGaps = [] ∧ ¬ m.IsWorkable := by
  refine ⟨by rfl, by rfl, by rfl, ?_⟩
  intro h
  exact absurd (h.listed.mpr rfl) (by decide)

end FormScript
