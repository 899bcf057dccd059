import FormScript.Proofs.Mapped.Summary
import FormScript.Proofs.Run.Instalments
import FormScript.Proofs.Source.RoundTrip
import FormScript.Proofs.Source.Size
import FormScript.Proofs.Store.Reload
import Mathlib.Algebra.Group.Nat.Defs

/-! How deep a saved record is nested. Every intent inside another adds an object and a list around
it, and five more stand around the outermost ones, while the reader of files goes no deeper than 127:
what a run saves can be loaded again as long as no more than 61 intents stand inside one another. -/
namespace FormScript

namespace Json

def Within (n : Nat) (fields : List (String × Json)) : Prop :=
  ∀ field ∈ fields, field.2.depth ≤ n

theorem within_cons {n : Nat} {key : String} {v : Json} {rest : List (String × Json)} :
    Within n ((key, v) :: rest) ↔ v.depth ≤ n ∧ Within n rest :=
  List.forall_mem_cons

theorem within_nil (n : Nat) : Within n [] := by
  intro field hfield
  contradiction

theorem depthOfFields_le_iff {fields : List (String × Json)} {n : Nat} :
    depthOfFields fields ≤ n ↔ Within n fields := by
  induction fields with
  | nil => simp [depthOfFields, within_nil]
  | cons field rest ih => rw [depthOfFields, Nat.max_le, ih, within_cons]

theorem depthOf_le_iff {items : List Json} {n : Nat} :
    depthOf items ≤ n ↔ ∀ v ∈ items, v.depth ≤ n := by
  induction items with
  | nil => simp [depthOf]
  | cons v rest ih => rw [depthOf, Nat.max_le, ih, List.forall_mem_cons]

theorem depth_obj_le_iff {fields : List (String × Json)} {n : Nat} :
    (Json.obj fields).depth ≤ n + 1 ↔ Within n fields := by
  rw [depth, Nat.add_le_add_iff_right, depthOfFields_le_iff]

theorem depth_map_le_iff {encode : α → Json} {as : List α} {n : Nat} :
    (Json.arr (as.map encode)).depth ≤ n + 1 ↔ ∀ a ∈ as, (encode a).depth ≤ n := by
  rw [depth, Nat.add_le_add_iff_right, depthOf_le_iff, List.forall_mem_map]

theorem within_append {n : Nat} {a b : List (String × Json)} :
    Within n (a ++ b) ↔ Within n a ∧ Within n b :=
  List.forall_mem_append

theorem within_optional {n : Nat} {key : String} {o : Option α} {encode : α → Json} :
    Within n (optional key (o.map encode)) ↔ ∀ a ∈ o, (encode a).depth ≤ n := by
  cases o <;> simp [Within, optional]

theorem depthOfFields_append (a b : List (String × Json)) :
    depthOfFields (a ++ b) = max (depthOfFields a) (depthOfFields b) := by
  induction a with
  | nil => simp [depthOfFields]
  | cons field rest ih => rw [List.cons_append, depthOfFields, depthOfFields, ih, Nat.max_assoc]

@[simp] theorem depth_str (s : String) : (Json.str s).depth = 0 := rfl

@[simp] theorem depth_int (n : Int) : (Json.int n).depth = 0 := rfl

end Json

open Json

namespace Intent

mutual

/-- How many intents stand inside one another, the outermost one counted too. -/
def height : Intent → Nat
  | act _ _ => 1
  | gap _ _ => 1
  | branch _ thenArm elseArm _ _ => max (heightOf thenArm) (heightOf elseArm) + 1

def heightOf : List Intent → Nat
  | [] => 0
  | i :: rest => max i.height (heightOf rest)

end

mutual

theorem height_classify (procedure : String) (position : Nat) (i : Intent) :
    (i.classify procedure position).height = i.height := by
  match i with
  | act a m => rfl
  | gap g m => rfl
  | branch c thenArm elseArm mapping m =>
    rw [classify, height, height, heightOf_classifyAll procedure _ thenArm,
      heightOf_classifyAll procedure _ elseArm]

theorem heightOf_classifyAll (procedure : String) (position : Nat) (is : List Intent) :
    heightOf (classifyAll procedure position is) = heightOf is := by
  match is with
  | [] => rfl
  | i :: rest =>
    rw [classifyAll, heightOf, heightOf, height_classify procedure position i,
      heightOf_classifyAll procedure _ rest]

end

mutual

theorem height_mapGapsIdx (f : Nat → Gap → Gap) (position : Nat) (i : Intent) :
    (i.mapGapsIdx f position).height = i.height := by
  match i with
  | act a m => rfl
  | gap g m => rfl
  | branch c thenArm elseArm mapping m =>
    rw [mapGapsIdx, height, height, heightOf_mapGapsIdxOf f _ thenArm,
      heightOf_mapGapsIdxOf f _ elseArm]

theorem heightOf_mapGapsIdxOf (f : Nat → Gap → Gap) (position : Nat) (is : List Intent) :
    heightOf (mapGapsIdxOf f position is) = heightOf is := by
  match is with
  | [] => rfl
  | i :: rest =>
    rw [mapGapsIdxOf, heightOf, heightOf, height_mapGapsIdx f _ i, heightOf_mapGapsIdxOf f _ rest]

end

theorem actionCountOf_le (is : List Intent) : Emission.actionCountOf is ≤ leafCountOf is := by
  rw [actionCountOf_eq, leafCountOf_eq]
  exact Nat.le_add_right _ _

theorem depthOfFields_markField (mark : Option Mark) : depthOfFields (markField mark) = 0 := by
  cases mark <;> rfl

theorem depthOfFields_action (a : Action) : depthOfFields a.fields = 0 := by
  cases a <;> rfl

theorem depthOfFields_gap_le (g : Gap) : depthOfFields g.fields ≤ 1 := by
  rw [depthOfFields_le_iff, Gap.fields, within_append, within_append, within_optional,
    within_optional]
  refine ⟨⟨?_, ?_⟩, ?_⟩
  · simp [within_cons, within_nil]
  · simp
  · intro r _
    exact Nat.le_refl 1

theorem depth_condition (c : Condition) : c.toJson.depth = 1 := by
  cases c <;> rfl

theorem depthOfFields_mapping_le (mapping : Option Mapping) :
    depthOfFields (Json.optional "mapping" (mapping.map Mapping.toJson)) ≤ 1 := by
  rw [depthOfFields_le_iff, within_optional]
  rintro ⟨kind, target⟩ -
  cases target <;> exact Nat.le_refl 1

mutual

/-- An intent inside another is in a list in its object; only an answered gap and a branch without
intents have a level of their own below that. -/
theorem depth_toJson (i : Intent) :
    2 * i.height ≤ i.toJson.depth + 1 ∧ i.toJson.depth ≤ 2 * i.height := by
  match i with
  | act a m =>
    have hmark := depthOfFields_markField m
    have haction := depthOfFields_action a
    rw [toJson, depth, depthOfFields_append, height]
    omega
  | gap g m =>
    have hmark := depthOfFields_markField m
    have hgap := depthOfFields_gap_le g
    rw [toJson, depth, List.cons_append, depthOfFields, depthOfFields_append, depth_str, height]
    omega
  | branch c thenArm elseArm mapping m =>
    have hmark := depthOfFields_markField m
    have hmapping := depthOfFields_mapping_le mapping
    have hcondition := depth_condition c
    have hthen := depthOf_toJsons thenArm
    have helse := depthOf_toJsons elseArm
    simp only [toJson, depth, depthOfFields_append, depthOfFields, height]
    omega

theorem depthOf_toJsons (is : List Intent) :
    2 * heightOf is ≤ depthOf (toJsons is) + 1 ∧ depthOf (toJsons is) ≤ 2 * heightOf is := by
  match is with
  | [] => exact ⟨Nat.zero_le _, Nat.le_refl _⟩
  | i :: rest =>
    have hi := depth_toJson i
    have hrest := depthOf_toJsons rest
    rw [toJsons, depthOf, heightOf]
    omega

end

end Intent

open Intent

namespace Procedure

def height (p : Procedure) : Nat :=
  heightOf p.intents

theorem depth_toJson_le_iff {p : Procedure} {n : Nat} :
    p.toJson.depth ≤ n + 2 ↔ depthOf (toJsons p.intents) ≤ n := by
  rw [toJson, depth_obj_le_iff, within_cons, within_cons, within_cons, depth,
    Nat.add_le_add_iff_right]
  simp [within_nil]

end Procedure

theorem Mapped.depth_toJson_le_iff {m : Mapped} {n : Nat} :
    m.toJson.depth ≤ n + 4 ↔ ∀ p ∈ m.procedures, depthOf (toJsons p.intents) ≤ n := by
  have hstats : m.stats.toJson.depth ≤ n + 3 := by
    rw [MapStats.toJson, depth_obj_le_iff]
    simp [within_cons, within_nil]
  have hgaps : (Json.arr (m.gaps.map GapEntry.toJson)).depth ≤ n + 3 := by
    rw [depth_map_le_iff]
    intro e _
    rw [GapEntry.toJson, depth_obj_le_iff]
    simp [within_cons, within_nil]
  rw [toJson, depth_obj_le_iff, within_cons, within_cons, within_cons, depth_map_le_iff]
  simp only [Procedure.depth_toJson_le_iff, hstats, hgaps, within_nil, and_true]

theorem ModuleRecord.depth_toJson_le_iff {r : ModuleRecord} {n : Nat} :
    r.toJson.depth ≤ n + 5 ↔
      (∀ ps ∈ r.data.procedures, ∀ p ∈ ps, depthOf (toJsons p.intents) ≤ n + 1) ∧
      ∀ m ∈ r.data.mapped, ∀ p ∈ m.procedures, depthOf (toJsons p.intents) ≤ n := by
  have hstatus (s : ModuleStatus) : s.toJson.depth ≤ n + 4 := by
    rw [ModuleStatus.toJson, depth_obj_le_iff]
    simp [within_cons, within_nil]
  have hquestions (qs : List GapQuestion) :
      (Json.arr (qs.map GapQuestion.toJson)).depth ≤ n + 4 := by
    rw [depth_map_le_iff]
    intro q _
    rw [GapQuestion.toJson, depth_obj_le_iff, within_append, within_optional]
    simp [within_cons, within_nil]
  have hstats (s : GenerateStats) : s.toJson.depth ≤ n + 4 := by
    rw [GenerateStats.toJson, depth_obj_le_iff]
    simp [within_cons, within_nil]
  have hprocedures (ps : List Procedure) : (Json.arr (ps.map Procedure.toJson)).depth ≤ n + 4 ↔
      ∀ p ∈ ps, depthOf (toJsons p.intents) ≤ n + 1 := by
    rw [depth_map_le_iff]
    simp only [Procedure.depth_toJson_le_iff]
  rw [toJson, depth_obj_le_iff, ModuleData.fields]
  simp only [within_append, within_optional, within_cons, within_nil, depth_str, depth_int,
    Nat.zero_le, hstatus, hquestions, hstats, hprocedures, Mapped.depth_toJson_le_iff, implies_true,
    and_true, true_and]

theorem Mapped.map_height_classify (ps : List Procedure) :
    (classify ps).procedures.map Procedure.height = ps.map Procedure.height := by
  rw [classify, ofProcedures, List.map_map]
  apply List.map_congr_left
  intro p _
  exact heightOf_classifyAll p.name 0 p.intents

theorem Procedure.map_height_mapGapsIdxOf (f : Nat → Gap → Gap) (position : Nat)
    (ps : List Procedure) : (mapGapsIdxOf f position ps).map height = ps.map height := by
  induction ps generalizing position with
  | nil => rfl
  | cons p rest ih =>
    rw [mapGapsIdxOf, List.map_cons, List.map_cons, ih, height, heightOf_mapGapsIdxOf]
    rfl

theorem Mapped.leafCountOf_classify (ps : List Procedure) :
    leafCountOf ((classify ps).procedures.flatMap Procedure.intents) =
      leafCountOf (ps.flatMap Procedure.intents) := by
  have hcount (role : Role) := count_map (f := .classify)
    (fun p => rolesOf_classifyAll p.name 0 p.intents) role { procedures := ps }
  have hleaves := leafCountOf_eq { procedures := ps.map .classify }
  rw [hcount, hcount, ← leafCountOf_eq] at hleaves
  exact hleaves

def offlineData (source : String) (ctx : Context) : ModuleData :=
  (ModuleData.ofSource source).withTree ctx.moduleName
    (ctx.attach (.classify (Source.recognize source)))

theorem exists_offline (name source : String) (ctx : Context) :
    ∃ run prompts r, runPipeline (.ofSource source) ctx offline = .ok (run, prompts) ∧
      run.status = .complete ∧ ModuleRecord.apply? run (.new name source) = some r ∧
      r.data = offlineData source ctx := by
  have hstart : (ModuleData.ofSource source).CanStart := Or.inl (Option.some_ne_none source)
  obtain ⟨run, prompts, hrun, hstatus, hdata⟩ := completes_iff.mpr ⟨hstart, rfl⟩
  have hcomplete : run.isComplete = true := by
    rw [RunResult.isComplete, hstatus]
    rfl
  have happly : ModuleRecord.apply? run (.new name source) =
      some ⟨name, 1, some run.moduleStatus,
        { run.data with source := run.data.source.or (some source) }⟩ := by
    have hversion : (0 : UInt32).toNat + 1 < UInt32.size := by decide
    unfold ModuleRecord.apply?
    rw [if_pos hcomplete]
    exact if_pos hversion
  refine ⟨run, prompts, _, hrun, hstatus, happly, ?_⟩
  dsimp only
  rw [hdata]
  rfl

section Offline

variable {source : String} {ctx : Context}

theorem fits_offlineData (h : source.length < 2 ^ 63) : (offlineData source ctx).Fits := by
  have hsize := Source.leafCount_recognize_le source
  have hleaves := Mapped.leafCountOf_classify (Source.recognize source)
  have hgaps := Mapped.length_gaps_le (Mapped.classify (Source.recognize source)).procedures
  have hactions := actionCountOf_le
    ((Mapped.classify (Source.recognize source)).procedures.flatMap Procedure.intents)
  have hcount : (Mapped.classify (Source.recognize source)).procedures.length =
      (Source.recognize source).length := List.length_map _
  constructor
  · rintro m ⟨⟩
    change MapStats.Fits (Mapped.statsOf (Mapped.classify (Source.recognize source)).procedures)
    simp only [MapStats.Fits, Mapped.statsOf, maxUnsigned]
    omega
  · rintro s ⟨⟩
    simp only [GenerateStats.Fits, Emission.generate, Context.attach, Mapped.resolve_eq,
      Mapped.gapNodes_mapGapsIdx, List.length_mapIdx, maxUnsigned]
    simp only [Mapped.mapGapsIdx, Procedure.length_mapGapsIdxOf,
      Emission.actionCountOf_flatMap_mapGapsIdxOf, Mapped.gapNodes]
    omega

theorem depth_offline_le_iff {r : ModuleRecord} (hdata : r.data = offlineData source ctx) :
    r.toJson.depth ≤ maxDepth ↔ ∀ p ∈ Source.recognize source, p.height ≤ 61 := by
  have hlimit : maxDepth = 122 + 5 := rfl
  have hheights : (ctx.attach (.classify (Source.recognize source))).procedures.map
      Procedure.height = (Source.recognize source).map Procedure.height := by
    rw [Context.attach, Mapped.resolve_eq, Mapped.mapGapsIdx, Procedure.map_height_mapGapsIdxOf,
      Mapped.map_height_classify]
  have hdepth (p : Procedure) : depthOf (toJsons p.intents) ≤ 122 ↔ p.height ≤ 61 := by
    have hbounds := depthOf_toJsons p.intents
    rw [Procedure.height]
    omega
  have hmapped : (∀ p ∈ (ctx.attach (.classify (Source.recognize source))).procedures,
      depthOf (toJsons p.intents) ≤ 122) ↔ ∀ p ∈ Source.recognize source, p.height ≤ 61 := by
    simp only [hdepth]
    rw [← List.forall_mem_map (P := (· ≤ 61)), hheights, List.forall_mem_map]
  rw [hlimit, ModuleRecord.depth_toJson_le_iff, hdata]
  constructor
  · rintro ⟨-, h⟩
    exact hmapped.mp (h _ rfl)
  · intro h
    constructor
    · rintro ps ⟨⟩ p hp
      exact Nat.le_succ_of_le ((hdepth p).mpr (h p hp))
    · rintro m ⟨⟩
      exact hmapped.mpr h

end Offline

theorem Store.load_save_of_fits {r : ModuleRecord} (h : r.data.Fits) :
    load (save r).toUTF8 = if r.toJson.depth ≤ maxDepth then .ok r else .error .malformed := by
  rw [load, readJson_save, ModuleRecord.reread?_toJson h, Option.bind_some]
  by_cases hdepth : r.toJson.depth ≤ maxDepth
  · rw [if_pos hdepth, if_pos hdepth]
    exact normalize_toJson r
  · rw [if_neg hdepth, if_neg hdepth]

def nested : Nat → Intent
  | 0 => .act .requery none
  | n + 1 => .branch .newRecord [nested n] [] none none

def nestedProcedure (n : Nat) : Procedure :=
  ⟨"Form_Load", "load", [nested n]⟩

def nestedSource (n : Nat) : String :=
  Source.print [nestedProcedure n]

theorem height_nestedProcedure (n : Nat) : (nestedProcedure n).height = n + 1 := by
  have hheight (n : Nat) : (nested n).height = n + 1 := by
    induction n with
    | zero => rfl
    | succ n ih => simp [nested, height, heightOf, ih]
  simp [nestedProcedure, Procedure.height, heightOf, hheight]

theorem recognize_nestedSource (n : Nat) :
    Source.recognize (nestedSource n) = [nestedProcedure n] := by
  have hintents (n : Nat) : Source.isPrintableIntent (nested n) = true := by
    induction n with
    | zero => rfl
    | succ n ih =>
      simp [nested, Source.isPrintableIntent, Source.arePrintable, Source.isPrintableCondition, ih]
  have hname : Source.isProcedureName "Form_Load" = true := by decide
  have htrigger : "load" = Identifier.trigger "Form_Load" := by decide +kernel
  have hprintable : Source.isPrintable (nestedProcedure n) = true := by
    simp [Source.isPrintable, nestedProcedure, hname, ← htrigger, Source.arePrintable, hintents]
  have hlines : Source.logicalLines (nestedSource n).toList =
      [nestedProcedure n].flatMap Source.procedureLines :=
    Source.logicalLines_print (by simpa using hprintable)
  rw [Source.recognize, hlines, List.flatMap_cons, Source.procedures_procedureLines hprintable,
    List.flatMap_nil, Source.procedures]

theorem length_nestedSource (n : Nat) : (nestedSource n).length = 28 * n + 43 := by
  have hlines (n : Nat) :
      ((Source.intentLines (nested n)).flatMap (· ++ ['\n'])).length = 28 * n + 11 := by
    induction n with
    | zero => rfl
    | succ n ih =>
      have hopen : List.length (Source.ifThen .newRecord) = 20 := rfl
      have hclose : List.length Source.endIf = 6 := rfl
      simp only [nested, Source.intentLines, Source.intentsLines, List.isEmpty_nil, if_true,
        List.append_nil, List.nil_append, List.flatMap_cons, List.flatMap_append, List.flatMap_nil,
        List.length_append, List.length_singleton, hopen, hclose, ih]
      omega
  have hheader : List.length
      ("Private Sub ".toList ++ ("Form_Load".toList ++ "()".toList)) = 23 := rfl
  have hend : List.length "End Sub".toList = 7 := rfl
  simp only [nestedSource, Source.print, nestedProcedure, Source.procedureLines,
    Source.intentsLines, List.flatMap_cons, List.flatMap_nil, List.append_nil,
    List.flatMap_append, String.length_ofList, List.length_append, List.length_singleton, hlines]
  rw [← List.length_append, ← List.length_append, hheader, hend]
  omega

/-- What a run without an agent saves is loaded again exactly if no more than 61 intents of the
source stand inside one another. The length is bounded as memory bounds it, which keeps the counts
within 64 bits. -/
theorem load_saved_offline (name source : String) (ctx : Context) (h : source.length < 2 ^ 63) :
    ∃ run prompts r, runPipeline (.ofSource source) ctx offline = .ok (run, prompts) ∧
      run.status = .complete ∧ ModuleRecord.apply? run (.new name source) = some r ∧
      Store.load (Store.save r).toUTF8 =
        if ∀ p ∈ Source.recognize source, p.height ≤ 61 then .ok r else .error .malformed := by
  obtain ⟨run, prompts, r, hrun, hstatus, happly, hdata⟩ := exists_offline name source ctx
  refine ⟨run, prompts, r, hrun, hstatus, happly, ?_⟩
  rw [Store.load_save_of_fits (hdata ▸ fits_offlineData h)]
  simp only [depth_offline_le_iff hdata]

theorem load_saved_offline_sixty :
    (nestedSource 60).length < 2 ^ 63 ∧
      ∃ run prompts r,
        runPipeline (.ofSource (nestedSource 60)) (ordersContext []) offline = .ok (run, prompts) ∧
        run.status = .complete ∧
        ModuleRecord.apply? run (.new "orders" (nestedSource 60)) = some r ∧
        Store.load (Store.save r).toUTF8 = .ok r := by
  have hlength : (nestedSource 60).length < 2 ^ 63 := by
    rw [length_nestedSource]
    decide
  have hheight : ∀ p ∈ Source.recognize (nestedSource 60), p.height ≤ 61 := by
    simp [recognize_nestedSource, height_nestedProcedure]
  have hload := load_saved_offline "orders" (nestedSource 60) (ordersContext []) hlength
  simp only [if_pos hheight] at hload
  exact ⟨hlength, hload⟩

/-- With 61 conditionals around an action, what was saved cannot be loaded. -/
theorem saved_but_not_loaded :
    ∃ run prompts r,
      runPipeline (.ofSource (nestedSource 61)) (ordersContext []) offline = .ok (run, prompts) ∧
      run.status = .complete ∧
      ModuleRecord.apply? run (.new "orders" (nestedSource 61)) = some r ∧
      Store.load (Store.save r).toUTF8 ≠ .ok r := by
  obtain ⟨run, prompts, r, hrun, hstatus, happly, hdata⟩ :=
    exists_offline "orders" (nestedSource 61) (ordersContext [])
  refine ⟨run, prompts, r, hrun, hstatus, happly, ?_⟩
  intro hload
  have hdepth := (Store.load_save_eq_ok_iff.mp hload).2.2
  have hheight := (depth_offline_le_iff hdata).mp hdepth (nestedProcedure 61)
    (by simp [recognize_nestedSource])
  rw [height_nestedProcedure] at hheight
  omega

end FormScript
