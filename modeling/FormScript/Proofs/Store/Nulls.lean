import FormScript.Proofs.Store.Shapes

/-! Fields that hold `null`. Where a record is looked at before it is decoded, a field with `null`
in it is as good as none. The counts of the mapped procedures are the exception: they are looked for
as if `null` were nothing, but are still there when the procedures are decoded, and counts cannot be
`null`. -/
namespace FormScript

namespace Json

def without (key : String) : Json → Json
  | .obj fields => .obj (fields.filter fun field => !([key].contains field.1))
  | v => v

def modify (key : String) (f : Json → Json) : Json → Json
  | .obj fields =>
    .obj (fields.map fun field => (field.1, if field.1 = key then f field.2 else field.2))
  | v => v

def at? : List String → Json → Option Json
  | [], v => some v
  | key :: rest, v => (v.get? key).bind (at? rest)

/-- Takes the last of some keys out of the object that the others lead to. -/
def deleteAt : List String → Json → Json
  | [], v => v
  | [key], v => v.without key
  | key :: rest, v => v.modify key (deleteAt rest)

theorem at?_singleton (key : String) (v : Json) : v.at? [key] = v.get? key := by
  rw [at?]
  cases v.get? key <;> rfl

theorem get?_without (key k : String) (v : Json) :
    (v.without key).get? k = if k = key then none else v.get? k := by
  cases v with
  | obj fields =>
    rw [without, get?, get?, Store.fieldOf_filter]
    simp
  | _ => simp [without, get?]

theorem nonNull_get?_without {key : String} {v : Json} (h : v.get? key = some .null) (k : String) :
    nonNull ((v.without key).get? k) = nonNull (v.get? k) := by
  rw [get?_without]
  by_cases hk : k = key
  · rw [if_pos hk, hk, h]
    rfl
  · rw [if_neg hk]

theorem get?_modify (key k : String) (f : Json → Json) (v : Json) :
    (v.modify key f).get? k = if k = key then (v.get? k).map f else v.get? k := by
  cases v with
  | obj fields =>
    simp only [modify, get?]
    induction fields with
    | nil => simp
    | cons field rest ih =>
      rw [List.map_cons, fieldOf_cons, fieldOf_cons, ih]
      by_cases hk : k = key
      · subst hk
        by_cases hfield : field.1 = k <;> simp [hfield]
      · simp only [if_neg hk]
        by_cases hfield : field.1 = k
        · simp [hfield, hk]
        · simp [hfield]
  | _ => simp [modify, get?]

end Json

open Json Wire

namespace Store

/-- Where the counts of the mapped procedures are looked for: they are kept with those beside the
extracted procedures, if there are any, and else with those of the record itself. -/
def countsPlace (v : Json) : List String :=
  if ((nonNull (v.get? "intents")).bind fun intents => nonNull (intents.get? "mapped")).isSome then
    ["intents", "mapped", "stats"]
  else ["mapped", "stats"]

/-- Where `null` may be kept for what is not there. -/
def nullPlaces (v : Json) : List (List String) :=
  foldedKeys.map ([·]) ++ [["intents", "procedures"], ["intents", "mapped"], countsPlace v]

theorem normalize_error {fields : List (String × Json)} {e : LoadError}
    (h : splitIntents (nonNull (fieldOf "intents" fields)) = .error e) :
    normalize (.obj fields) = .error e := by
  rw [normalize]
  simp only [h, bind, Except.bind]

theorem malformed_or_ok {fields : List (String × Json)} {parts : Option Json × Option Json}
    (h : splitIntents (nonNull (fieldOf "intents" fields)) = .ok parts) :
    normalize (.obj fields) = .error .malformed ∨ ∃ r, normalize (.obj fields) = .ok r := by
  rw [normalize_obj h]
  split
  · exact Or.inl rfl
  · exact Or.inr ⟨_, rfl⟩

/-- Loading takes what is under the folded keys without its nulls, and all else as it is. -/
theorem normalize_congr {a b : List (String × Json)}
    (hintents : splitIntents (nonNull (fieldOf "intents" a)) =
      splitIntents (nonNull (fieldOf "intents" b)))
    (hfolded : ∀ key ∈ "mapped" :: scriptKeys,
      nonNull (fieldOf key a) = nonNull (fieldOf key b))
    (hother : ∀ key, foldedKeys.contains key = false → fieldOf key a = fieldOf key b) :
    normalize (.obj a) = normalize (.obj b) := by
  cases hsplit : splitIntents (nonNull (fieldOf "intents" a)) with
  | error e =>
    rw [normalize_error hsplit, normalize_error (hintents ▸ hsplit)]
  | ok parts =>
    obtain ⟨procedures, nested⟩ := parts
    have hsplit' : splitIntents (nonNull (fieldOf "intents" b)) = .ok (procedures, nested) :=
      hintents ▸ hsplit
    have hkept : keptMapped? (.obj a) = keptMapped? (.obj b) := by
      have ha : keptMapped? (.obj a) = nested.or (nonNull (fieldOf "mapped" a)) := by
        rw [nested_of_splitIntents hsplit]
        rfl
      have hb : keptMapped? (.obj b) = nested.or (nonNull (fieldOf "mapped" b)) := by
        rw [nested_of_splitIntents hsplit']
        rfl
      rw [ha, hb, hfolded "mapped" (by simp)]
    have hscript : (scriptKeys.findSome? fun key => nonNull (fieldOf key a)) =
        scriptKeys.findSome? fun key => nonNull (fieldOf key b) := by
      simp only [scriptKeys, List.findSome?_cons, List.findSome?_nil]
      rw [hfolded "generated_source" (by decide), hfolded "cljs_source" (by decide),
        hfolded "cljsSource" (by decide)]
    have hdecode (mapped script : Option Json) :
        ModuleRecord.ofJson? (.obj (foldedFields a procedures mapped script)) =
          ModuleRecord.ofJson? (.obj (foldedFields b procedures mapped script)) := by
      apply ofJson?_congr
      intro key _
      rw [fieldOf_foldedFields, fieldOf_foldedFields]
      cases hkey : foldedKeys.contains key with
      | true => rfl
      | false => rw [hother key hkey]
    rw [normalize_obj hsplit, normalize_obj hsplit', hkept, hscript, hdecode]

theorem exists_modify (key : String) (f : Json → Json) (fields : List (String × Json)) :
    ∃ fields', (Json.obj fields).modify key f = .obj fields' ∧
      ∀ k, fieldOf k fields' = if k = key then (fieldOf k fields).map f else fieldOf k fields :=
  ⟨_, rfl, fun k => get?_modify key k f (.obj fields)⟩

theorem normalize_without {key : String} {fields : List (String × Json)}
    (hkey : key ∈ foldedKeys) (hnull : fieldOf key fields = some .null) :
    normalize ((Json.obj fields).without key) = normalize (.obj fields) := by
  have hsame := nonNull_get?_without (v := .obj fields) hnull
  apply normalize_congr
  · exact congrArg splitIntents (hsame "intents")
  · exact fun k _ => hsame k
  · intro k hk
    refine (get?_without key k (.obj fields)).trans (if_neg ?_)
    rintro rfl
    rw [List.contains_iff_mem.mpr hkey] at hk
    contradiction

theorem splitIntents_without {key : String} {inner : List (String × Json)}
    (hnull : fieldOf key inner = some .null) :
    splitIntents (some ((Json.obj inner).without key)) = splitIntents (some (.obj inner)) := by
  have hsame := nonNull_get?_without (v := .obj inner) hnull
  simp only [without, get?] at hsame ⊢
  rw [splitIntents, splitIntents, hsame, hsame]

theorem normalize_modify_intents {fields inner : List (String × Json)} {f : Json → Json}
    (hintents : fieldOf "intents" fields = some (.obj inner)) (hf : (f (.obj inner)).isNull = false)
    (hsplit : splitIntents (some (f (.obj inner))) = splitIntents (some (.obj inner))) :
    normalize ((Json.obj fields).modify "intents" f) = normalize (.obj fields) := by
  obtain ⟨fields', hobj, hfields⟩ := exists_modify "intents" f fields
  rw [hobj]
  apply normalize_congr
  · have hkept : nonNull (some (f (.obj inner))) = some (f (.obj inner)) :=
      nonNull_eq_self fun _ heq => by cases heq; exact hf
    rw [hfields, if_pos rfl, hintents, Option.map_some, hkept]
    exact hsplit
  · intro k hk
    rw [hfields, if_neg]
    rintro rfl
    exact absurd hk (by decide)
  · intro k hk
    rw [hfields, if_neg]
    rintro rfl
    exact absurd hk (by decide)

theorem ofJson?_nullCounts {held : Bool} {inner : List (String × Json)}
    (hnull : fieldOf "stats" inner = some .null) : Mapped.ofJson? held (.obj inner) = none := by
  have hcounts : Fields.defaulted (fun key => fieldOf key inner) "stats" (⟨0, 0, 0⟩ : MapStats)
      MapStats.ofJson? = none := by
    rw [Fields.defaulted, hnull]
    rfl
  rw [Mapped.ofJson?, fields?_obj, Option.bind_eq_bind, Option.bind_some, hcounts]
  exact Option.bind_fun_none _

theorem normalize_nullCounts {fields inner : List (String × Json)}
    (hkept : keptMapped? (.obj fields) = some (.obj inner))
    (hnull : fieldOf "stats" inner = some .null) (r : ModuleRecord) :
    normalize (.obj fields) ≠ .ok r := by
  intro hload
  cases hsplit : splitIntents (nonNull (fieldOf "intents" fields)) with
  | error e =>
    rw [normalize_error hsplit] at hload
    contradiction
  | ok parts =>
    rw [normalize_obj hsplit] at hload
    split at hload
    · contradiction
    · rename_i record hrecord
      have hmapped := ModuleRecord.mapped_of_ofJson? hrecord
      have hfield : fieldOf "mapped" (foldedFields fields parts.1 (keptMapped? (.obj fields))
          (scriptKeys.findSome? fun key => nonNull (fieldOf key fields))) = some (.obj inner) := by
        rw [fieldOf_foldedFields, if_neg (by decide), if_pos rfl, hkept]
      obtain ⟨m, hm⟩ := exists_of_optional hmapped hfield rfl
      rw [ofJson?_nullCounts hnull] at hm
      contradiction

theorem exists_of_get? {v w : Json} {key : String} (h : v.get? key = some w) :
    ∃ fields, v = .obj fields ∧ fieldOf key fields = some w := by
  cases v with
  | obj fields => exact ⟨fields, rfl, h⟩
  | _ => contradiction

theorem splitIntents_obj_ne (inner : List (String × Json)) (e : LoadError) :
    splitIntents (nonNull (some (.obj inner))) ≠ .error e := by
  intro h
  cases h

theorem at_countsPlace {fields : List (String × Json)}
    (hnull : (Json.obj fields).at? (countsPlace (.obj fields)) = some .null) :
    (∃ inner, keptMapped? (.obj fields) = some (.obj inner) ∧
      fieldOf "stats" inner = some .null) ∧
    ∃ fields', (Json.obj fields).deleteAt (countsPlace (.obj fields)) = .obj fields' ∧
      ∀ e, splitIntents (nonNull (fieldOf "intents" fields)) = .error e ↔
        splitIntents (nonNull (fieldOf "intents" fields')) = .error e := by
  cases hnested : (nonNull (fieldOf "intents" fields)).bind
      fun intents => nonNull (intents.get? "mapped") with
  | some kept =>
    have hplace : countsPlace (.obj fields) = ["intents", "mapped", "stats"] := by
      rw [countsPlace, get?, hnested]
      rfl
    rw [hplace] at hnull ⊢
    obtain ⟨intents, hintents, hrest⟩ := Option.bind_eq_some_iff.mp hnull
    obtain ⟨mapped, hmapped, hrest⟩ := Option.bind_eq_some_iff.mp hrest
    obtain ⟨counts, hcounts, hrest⟩ := Option.bind_eq_some_iff.mp hrest
    cases hrest
    obtain ⟨outer, rfl, houter⟩ := exists_of_get? hmapped
    obtain ⟨inner, rfl, hinner⟩ := exists_of_get? hcounts
    rw [get?] at hintents
    obtain ⟨fields', hobj, hfields⟩ :=
      exists_modify "intents" (deleteAt ["mapped", "stats"]) fields
    obtain ⟨outer', houter'⟩ :
        ∃ outer', (Json.obj outer).deleteAt ["mapped", "stats"] = .obj outer' := ⟨_, rfl⟩
    refine ⟨⟨inner, ?_, hinner⟩, fields', hobj, ?_⟩
    · rw [keptMapped?, get?, hintents]
      simp only [nonNull, Option.filter, isNull, Bool.not_false, if_true, Option.bind_some, get?,
        houter, Option.some_or]
    · intro e
      rw [hfields, if_pos rfl, hintents, Option.map_some, houter']
      exact iff_of_false (splitIntents_obj_ne outer e) (splitIntents_obj_ne outer' e)
  | none =>
    have hplace : countsPlace (.obj fields) = ["mapped", "stats"] := by
      rw [countsPlace, get?, hnested]
      rfl
    rw [hplace] at hnull ⊢
    obtain ⟨mapped, hmapped, hrest⟩ := Option.bind_eq_some_iff.mp hnull
    obtain ⟨counts, hcounts, hrest⟩ := Option.bind_eq_some_iff.mp hrest
    cases hrest
    obtain ⟨inner, rfl, hinner⟩ := exists_of_get? hcounts
    obtain ⟨fields', hobj, hfields⟩ := exists_modify "mapped" (deleteAt ["stats"]) fields
    refine ⟨⟨inner, ?_, hinner⟩, fields', hobj, ?_⟩
    · rw [keptMapped?, get?, hnested, hmapped]
      rfl
    · intro e
      rw [hfields, if_neg (by decide)]

theorem normalize_countsPlace {fields : List (String × Json)}
    (hnull : (Json.obj fields).at? (countsPlace (.obj fields)) = some .null) :
    normalize ((Json.obj fields).deleteAt (countsPlace (.obj fields))) = normalize (.obj fields) ∨
      normalize (.obj fields) = .error .malformed ∧
        ∃ r, normalize ((Json.obj fields).deleteAt (countsPlace (.obj fields))) = .ok r := by
  obtain ⟨⟨inner, hkept, hinner⟩, fields', hobj, hsplit⟩ := at_countsPlace hnull
  rw [hobj]
  cases hintents : splitIntents (nonNull (fieldOf "intents" fields)) with
  | error e =>
    left
    rw [normalize_error hintents, normalize_error ((hsplit e).mp hintents)]
  | ok parts =>
    have hmalformed : normalize (.obj fields) = .error .malformed := by
      rcases malformed_or_ok hintents with h | ⟨r, h⟩
      · exact h
      · exact absurd h (normalize_nullCounts hkept hinner r)
    cases hintents' : splitIntents (nonNull (fieldOf "intents" fields')) with
    | error e =>
      rw [(hsplit e).mpr hintents'] at hintents
      contradiction
    | ok parts' =>
      rcases malformed_or_ok hintents' with h | h
      · exact Or.inl (h.trans hmalformed.symm)
      · exact Or.inr ⟨hmalformed, h⟩

theorem normalize_otherPlace {fields : List (String × Json)} {path : List String}
    (hpath : path ∈ nullPlaces (.obj fields)) (hother : path ≠ countsPlace (.obj fields))
    (hnull : (Json.obj fields).at? path = some .null) :
    normalize ((Json.obj fields).deleteAt path) = normalize (.obj fields) := by
  have hinner (key : String) (h : (Json.obj fields).at? ["intents", key] = some .null) :
      normalize ((Json.obj fields).deleteAt ["intents", key]) = normalize (.obj fields) := by
    obtain ⟨intents, hintents, hrest⟩ := Option.bind_eq_some_iff.mp h
    obtain ⟨w, hw, hrest⟩ := Option.bind_eq_some_iff.mp hrest
    cases hrest
    obtain ⟨inner, rfl, hw⟩ := exists_of_get? hw
    exact normalize_modify_intents hintents rfl (splitIntents_without hw)
  rw [nullPlaces, List.mem_append, List.mem_map] at hpath
  rcases hpath with ⟨key, hkey, rfl⟩ | hpath
  · rw [at?_singleton] at hnull
    exact normalize_without hkey hnull
  · simp only [List.mem_cons, List.not_mem_nil, or_false] at hpath
    rcases hpath with rfl | rfl | rfl
    · exact hinner "procedures" hnull
    · exact hinner "mapped" hnull
    · contradiction

end Store

open Store

/-- Taking a `null` away changes nothing, unless it stands for the counts of mapped procedures that
could be loaded without it: then it is what makes loading fail. -/
theorem null_is_absent_iff {fields : List (String × Json)} {path : List String}
    (hpath : path ∈ nullPlaces (.obj fields)) (hnull : (Json.obj fields).at? path = some .null) :
    let v := Json.obj fields
    (normalize (v.deleteAt path) = normalize v ↔
      ¬(path = countsPlace v ∧ ∃ r, normalize (v.deleteAt path) = .ok r)) ∧
    (normalize (v.deleteAt path) ≠ normalize v → normalize v = .error .malformed) := by
  intro v
  by_cases hplace : path = countsPlace v
  · subst hplace
    rcases normalize_countsPlace hnull with hsame | ⟨hmalformed, r, hload⟩
    · obtain ⟨⟨inner, hkept, hinner⟩, -⟩ := at_countsPlace hnull
      refine ⟨iff_of_true hsame ?_, fun hne => absurd hsame hne⟩
      rintro ⟨-, r, hload⟩
      exact normalize_nullCounts hkept hinner r (hsame.symm.trans hload)
    · refine ⟨iff_of_false ?_ fun h => h ⟨rfl, r, hload⟩, fun _ => hmalformed⟩
      intro hsame
      rw [hload, hmalformed] at hsame
      contradiction
  · have hsame := normalize_otherPlace hpath hplace hnull
    exact ⟨iff_of_true hsame fun h => hplace h.1, fun hne => absurd hsame hne⟩

/-- Nothing beside the extracted procedures, so that the mapped ones of the record are taken, and
nothing under the first key for a script, so that the last one counts. -/
theorem null_is_absent_iff_beside :
    let v := Json.obj [("name", .str "Form_Orders"),
      ("intents", .obj [("procedures", .null), ("mapped", .null)]),
      ("mapped", .obj [("gaps", .arr [])]), ("generated_source", .null),
      ("cljsSource", .str "(ns forms.form-orders)")]
    let d : ModuleData :=
      { procedures := some [], mapped := some {}, generatedSource := "(ns forms.form-orders)" }
    ["intents", "mapped"] ∈ nullPlaces v ∧ v.at? ["intents", "mapped"] = some .null ∧
      normalize v = .ok { name := "Form_Orders", data := d } ∧
      normalize (v.deleteAt ["intents", "mapped"]) = normalize v := by
  intro v d
  have hpath : ["intents", "mapped"] ∈ nullPlaces v := by simp [nullPlaces]
  have hplace : countsPlace v = ["mapped", "stats"] := by rfl
  refine ⟨hpath, rfl, by rfl, (null_is_absent_iff hpath rfl).1.mpr ?_⟩
  rintro ⟨hcounts, -⟩
  rw [hplace] at hcounts
  contradiction

/-- Mapped procedures with `null` for their counts are refused, and without it they are counted. -/
theorem null_counts_are_refused :
    let v := Json.obj [("name", .str "Form_Orders"), ("mapped", .obj [
      ("procedures", .arr [.obj [("name", .str "btnExport_Click"), ("intents", .arr [.obj [
        ("type", .str "gap"), ("vba_line", .str "DoCmd.TransferText"),
        ("reason", .str "file export")]])]]), ("stats", .null)])]
    let m : Mapped := ⟨[⟨"btnExport_Click", "", [.gap ⟨"DoCmd.TransferText", "file export",
      some "btnExport_Click:0", none⟩ none]⟩], ⟨1, 0, 1⟩,
      [⟨"btnExport_Click", "btnExport_Click:0", "DoCmd.TransferText", "file export"⟩]⟩
    ["mapped", "stats"] ∈ nullPlaces v ∧ v.at? ["mapped", "stats"] = some .null ∧
      normalize v = .error .malformed ∧
      normalize (v.deleteAt ["mapped", "stats"]) =
        .ok { name := "Form_Orders", data := { mapped := some m } } := by
  intro v m
  have hplace : countsPlace v = ["mapped", "stats"] := by rfl
  refine ⟨?_, rfl, by rfl, by rfl⟩
  rw [nullPlaces, hplace]
  decide

end FormScript
