import FormScript.Proofs.Script.Markers

/-! Names of functions. A function is named by the words of its procedure's name, and the words can
be read off the name again. Procedures whose names fall into the same words get functions of the
same name, however the words were set apart; that happens to names which differ in underscores
only. -/
namespace FormScript

open Text

namespace Identifier

theorem eq_hyphen_of_mem_lower {c : Char} (h : '-' ∈ lower c) : c = '-' := by
  have hascii : ∀ n < 128, (Char.ofNat n).toLower = '-' → Char.ofNat n = '-' := by decide
  have hshifts : ∀ s ∈ lowerShifts, 45 < s.span.first + s.offset := by decide +kernel
  unfold lower at h
  split at h
  · rename_i hlow
    have hc := hascii c.toNat hlow
    rw [Char.ofNat_toNat] at hc
    exact hc (List.mem_singleton.mp h).symm
  split at h
  · exact absurd h (by decide)
  split at h
  · rename_i s hs
    have hshift := hshifts s (List.mem_of_find?_eq_some hs)
    have hin := List.find?_some hs
    simp only [Span.contains, Bool.and_eq_true, decide_eq_true_eq] at hin
    have hcode : (Char.ofNat (c.toNat + s.offset).toNat).toNat = 45 :=
      congrArg Char.toNat (List.mem_singleton.mp h).symm
    rcases Script.toNat_ofNat (c.toNat + s.offset).toNat with heq | heq <;> omega
  · exact (List.mem_singleton.mp h).symm

theorem hyphen_not_mem_words {name : List Char} (h : '-' ∉ name) :
    ∀ word ∈ words name, '-' ∉ word := by
  intro word hword hmem
  have hflat : '-' ∈ (words name).flatten := List.mem_flatten.mpr ⟨word, hword, hmem⟩
  rw [Script.flatten_words] at hflat
  obtain ⟨c, hc, hlower⟩ := List.mem_flatMap.mp hflat
  rw [eq_hyphen_of_mem_lower hlower] at hc
  exact h (List.mem_filter.mp hc).1

theorem ne_nil_of_mem_humps {afterLower : Bool} {word cs w : List Char}
    (h : w ∈ humps afterLower word cs) : w ≠ [] := by
  fun_induction humps afterLower word cs with
  | case1 => contradiction
  | case2 _ word hne => rwa [List.mem_singleton.mp h, Ne, ← List.isEmpty_iff]
  | case3 afterLower word c rest hcut ih =>
    rcases List.mem_cons.mp h with rfl | hrest
    · rintro rfl
      simp at hcut
    · exact ih hrest
  | case4 afterLower word c rest _ ih => exact ih h

theorem ne_nil_of_mem_words {name w : List Char} (h : w ∈ words name) : w ≠ [] := by
  obtain ⟨piece, -, hhump⟩ := List.mem_flatMap.mp h
  exact ne_nil_of_mem_humps hhump

def functionWords (name : String) : List (List Char) :=
  if (words name.toList).isEmpty then ["procedure".toList] else words name.toList

theorem functionWords_ne_nil (name : String) : functionWords name ≠ [] := by
  unfold functionWords
  split
  · exact List.cons_ne_nil _ _
  · rename_i hwords
    rwa [Ne, ← List.isEmpty_iff]

theorem hyphen_not_mem_functionWords {name : String} (h : '-' ∉ name.toList) :
    ∀ word ∈ functionWords name, '-' ∉ word := by
  unfold functionWords
  split
  · rw [List.forall_mem_singleton]
    decide
  · exact hyphen_not_mem_words h

theorem orElse_eq (name : String) :
    orElse name "procedure" = String.ofList (['-'].intercalate (functionWords name)) := by
  unfold orElse hyphenate functionWords
  cases hwords : words name.toList with
  | nil => rfl
  | cons word rest =>
    have hne : word ≠ [] := ne_nil_of_mem_words (hwords ▸ List.mem_cons_self)
    have hjoined : (String.ofList (['-'].intercalate (word :: rest))).isEmpty = false := by
      rw [Bool.eq_false_iff, Ne, String.isEmpty_iff, ← String.toList_inj, String.toList_ofList]
      cases rest with
      | nil => simpa using hne
      | cons next rest => simp
    simp only [hjoined, List.isEmpty_cons, Bool.false_eq_true, if_false]

theorem orElse_eq_iff {a b : String} (ha : '-' ∉ a.toList) (hb : '-' ∉ b.toList) :
    orElse a "procedure" = orElse b "procedure" ↔ functionWords a = functionWords b := by
  rw [orElse_eq, orElse_eq, String.ofList_inj]
  constructor
  · intro h
    have hsplit := congrArg (List.splitOn '-') h
    rwa [List.splitOn_intercalate '-' (hyphen_not_mem_functionWords ha) (functionWords_ne_nil a),
      List.splitOn_intercalate '-' (hyphen_not_mem_functionWords hb) (functionWords_ne_nil b)]
      at hsplit
  · intro h
    rw [h]

/-- A name in lower case and without its underscores. -/
def functionLetters (name : String) : List Char :=
  let letters := (name.toList.filter (· != '_')).flatMap lower
  if letters.isEmpty then "procedure".toList else letters

theorem flatten_functionWords {name : String} (h : ∀ c ∈ name.toList, isBlank c = false) :
    (functionWords name).flatten = functionLetters name := by
  have hletters : (words name.toList).flatten = (name.toList.filter (· != '_')).flatMap lower := by
    rw [Script.flatten_words]
    refine congrArg (List.flatMap lower) (List.filter_congr fun c hc => ?_)
    simp [isBreak, h c hc, bne]
  unfold functionWords functionLetters
  cases hwords : words name.toList with
  | nil =>
    rw [hwords] at hletters
    simp [← hletters]
  | cons word rest =>
    have hne : word ≠ [] := ne_nil_of_mem_words (hwords ▸ List.mem_cons_self)
    rw [hwords] at hletters
    simp [← hletters, hne]

end Identifier

namespace Script

/-- The name that a line defines a function by. -/
def functionName? (line : String) : Option String :=
  ("(defn ".toList.isPrefixOf? line.toList).map String.ofList

def functionNames (script : String) : List String :=
  (sourceLines script).filterMap functionName?

theorem functionName?_append (name : String) : functionName? ("(defn " ++ name) = some name := by
  have hname : "(defn ".toList.isPrefixOf? ("(defn " ++ name).toList = some name.toList := by
    rw [List.isPrefixOf?_eq_some_iff_append_eq, String.toList_append]
  rw [functionName?, hname, Option.map_some, String.ofList_toList]

theorem functionName?_indent (line : String) : functionName? ("  " ++ line) = none := by
  rw [functionName?, String.toList_append]
  rfl

theorem filterMap_indent (lines : List String) :
    (Emission.indent lines).filterMap functionName? = [] := by
  refine List.filterMap_eq_nil_iff.mpr fun line hline => ?_
  obtain ⟨rest, -, rfl⟩ := List.mem_map.mp hline
  exact functionName?_indent rest

theorem filterMap_close_indent (lines : List String) :
    (Emission.close (Emission.indent lines)).filterMap functionName? = [] := by
  rcases List.eq_nil_or_concat' lines with rfl | ⟨init, last, rfl⟩
  · rfl
  · rw [Emission.indent, List.map_append, List.map_singleton, ← Emission.indent]
    by_cases hcomment : Emission.isComment ("  " ++ last) = true
    · have hbracket : functionName? ")" = none := by decide
      rw [close_comment _ hcomment, List.filterMap_append, List.filterMap_append, filterMap_indent]
      simp [functionName?_indent, hbracket]
    · rw [Bool.not_eq_true] at hcomment
      rw [close_code _ hcomment, List.filterMap_append, filterMap_indent, String.append_assoc]
      simp [functionName?_indent]

theorem filterMap_procedureLines (p : Procedure) :
    (Emission.procedureLines p).filterMap functionName? =
      [Identifier.orElse p.name "procedure"] := by
  let inner := [Emission.quote (Emission.docText p)] :: ["[ctx]"] :: Emission.intentsLines p.intents
  have hinner : inner.flatMap Emission.indent = Emission.indent inner.flatten := by
    rw [Emission.indent, List.map_flatten, List.flatMap_def]
    rfl
  have hne : Emission.indent inner.flatten ≠ [] := by simp [inner, Emission.indent]
  have hlines : Emission.procedureLines p =
      ["(defn " ++ Identifier.orElse p.name "procedure"] ++
        Emission.close (Emission.indent inner.flatten) := by
    rw [Emission.procedureLines, Emission.form, ← close_append hne, ← hinner]
    rfl
  rw [hlines, List.filterMap_append, filterMap_close_indent, List.append_nil]
  simp [functionName?_append]

theorem filterMap_namespaceLines (moduleName : String) :
    (Emission.namespaceLines moduleName).filterMap functionName? = [] := by
  have hfirst : functionName? ("(ns forms." ++ Identifier.orElse moduleName "module") = none := by
    rw [functionName?, String.toList_append]
    rfl
  have hlast : functionName? "  (:require [app.forms.runtime :as rt]))" = none := by decide
  simp [Emission.namespaceLines, hfirst, functionName?_indent, hlast]

theorem filterMap_blankBetween (blocks : List (List String)) :
    ([""].intercalate blocks).filterMap functionName? =
      blocks.flatMap (List.filterMap functionName?) := by
  have hempty : [""].filterMap functionName? = [] := by decide
  induction blocks with
  | nil => rfl
  | cons lines blocks ih =>
    cases blocks with
    | nil => simp
    | cons next blocks =>
      rw [List.intercalate_cons_cons, List.filterMap_append, List.filterMap_append, hempty, ih]
      simp

theorem filterMap_sections (m : Mapped) (moduleName : String) :
    (Emission.sections m moduleName).flatMap (List.filterMap functionName?) =
      m.procedures.map fun p => Identifier.orElse p.name "procedure" := by
  rw [Emission.sections, List.flatMap_cons, filterMap_namespaceLines, List.nil_append]
  split
  · rename_i hnone
    rw [List.isEmpty_iff.mp hnone]
    decide
  · rw [List.flatMap_map, List.map_eq_flatMap]
    exact List.flatMap_congr fun p _ => filterMap_procedureLines p

mutual

theorem isLegible_of_mem_gaps {i : Intent} (h : i.isLegible = true) :
    ∀ g ∈ i.gaps, g.isLegible = true := by
  match i with
  | .act _ _ => simp [Intent.gaps]
  | .gap g _ => exact List.forall_mem_singleton.mpr h
  | .branch _ thenArm elseArm _ _ =>
    rw [Intent.isLegible, Bool.and_eq_true, Bool.and_eq_true] at h
    exact List.forall_mem_append.mpr
      ⟨isLegible_of_mem_gapsOf h.1.2, isLegible_of_mem_gapsOf h.2⟩

theorem isLegible_of_mem_gapsOf {is : List Intent} (h : areLegible is = true) :
    ∀ g ∈ Intent.gapsOf is, g.isLegible = true := by
  match is with
  | [] => simp [Intent.gapsOf]
  | i :: rest =>
    rw [areLegible, Bool.and_eq_true] at h
    exact List.forall_mem_append.mpr ⟨isLegible_of_mem_gaps h.1, isLegible_of_mem_gapsOf h.2⟩

end

theorem isLegible_of_mem_gapNodes {m : Mapped} (h : m.isLegible = true) :
    ∀ g ∈ m.gapNodes, g.isLegible = true := by
  intro g hg
  obtain ⟨p, hp, hgap⟩ := List.mem_flatMap.mp hg
  have hlegible := List.all_eq_true.mp h p hp
  rw [Procedure.isLegible, Bool.and_eq_true] at hlegible
  exact isLegible_of_mem_gapsOf hlegible.2 g hgap

theorem functionNames_generate {m : Mapped} (h : m.isLegible = true) (moduleName : String) :
    functionNames (Emission.generate m moduleName).source =
      m.procedures.map fun p => Identifier.orElse p.name "procedure" := by
  have hmarks := (m.marksAll_sections (isLegible_of_mem_gapNodes h) moduleName).intercalate
  have hempty : [""].filterMap functionName? = [] := by decide
  rw [functionNames, Mapped.sourceLines_generate hmarks.newline, List.filterMap_append,
    filterMap_blankBetween, filterMap_sections, hempty, List.append_nil]

def Form.functionName? : Form → Option String
  | .list (.symbol "defn" :: .symbol name :: _) => some name
  | _ => none

theorem read_functionNames {m : Mapped} (h : m.isLegible = true) {moduleName : String}
    (hname : isPlainName moduleName = true) :
    (read (Emission.generate m moduleName).source).map (List.filterMap Form.functionName?) =
      some (functionNames (Emission.generate m moduleName).source) := by
  have hfeed := feed_unlines (readLines_sections (sections_read h hname) {})
  have hread : read (Emission.generate m moduleName).source = some (namespaceForm moduleName ::
      m.procedures.map fun p => definition p (intentsForms p.intents).flatten) := by
    rw [read, toList_source, hfeed, Option.bind_some, flatten_sectionForms]
    rfl
  rw [hread, Option.map_some, functionNames_generate h, List.filterMap_cons_none rfl,
    List.filterMap_map]
  exact congrArg some (congrFun List.filterMap_eq_map' m.procedures)

end Script

theorem Source.isWordName_of_mem_procedures (lines : List Source.Line) :
    ∀ p ∈ Source.procedures lines, Source.IsWordName p.name.toList := by
  match lines with
  | [] =>
    rw [Source.procedures]
    simp
  | line :: rest =>
    cases hheader : Source.header? line with
    | none =>
      rw [Source.procedures_outside hheader]
      exact isWordName_of_mem_procedures rest
    | some chars =>
      have hafter := (Source.body rest).property
      rw [Source.procedures_header hheader]
      refine List.forall_mem_cons.mpr ⟨?_, isWordName_of_mem_procedures _⟩
      rw [String.toList_ofList]
      exact Source.isWordName_of_header? hheader
termination_by lines.length
decreasing_by
  all_goals simp only [List.length_cons]; omega

open Script Source

theorem functionNames_translation (source moduleName : String) :
    functionNames (Emission.generate (Mapped.classify (recognize source)) moduleName).source =
      ((recognize source).map Procedure.name).map (Identifier.orElse · "procedure") := by
  rw [functionNames_generate (isLegible_classify_recognize source)]
  simp [Mapped.classify, Mapped.ofProcedures, Procedure.classify]

theorem procedures_empty {header last : Line} {name : List Char}
    (hheader : header? header = some name) (hlast : isEndSub last = true) (rest : List Line) :
    procedures (header :: last :: rest) =
      ⟨String.ofList name, Identifier.trigger (String.ofList name), []⟩ :: procedures rest := by
  have hshape : shape last = .endSub := by simp only [shape, hlast, if_true]
  have hbody : (body (last :: rest)).val = ([], rest) := by
    rw [body_eq, block_of_endsBlock rest (by rw [hshape]; rfl)]
    exact if_pos hshape
  rw [procedures_header hheader, hbody]
  rfl

section

variable {names : List String} (h : ∀ name ∈ names, IsWordName name.toList)
include h

theorem nodup_orElse_iff :
    (names.map (Identifier.orElse · "procedure")).Nodup ↔
      (names.map Identifier.functionWords).Nodup := by
  have hhyphen {name : String} (hname : name ∈ names) : '-' ∉ name.toList :=
    fun hmem => absurd (h name hname '-' hmem) (by decide)
  rw [List.Nodup, List.pairwise_map, List.Nodup, List.pairwise_map]
  refine List.Pairwise.iff_of_mem fun {a b} ha hb => not_congr ?_
  exact Identifier.orElse_eq_iff (hhyphen ha) (hhyphen hb)

theorem nodup_functionWords (hletters : (names.map Identifier.functionLetters).Nodup) :
    (names.map Identifier.functionWords).Nodup := by
  have hflatten : names.map Identifier.functionLetters =
      (names.map Identifier.functionWords).map List.flatten := by
    rw [List.map_map]
    refine List.map_congr_left fun name hname => ?_
    exact (Identifier.flatten_functionWords fun c hc => isBlank_of_isWord (h name hname c hc)).symm
  rw [hflatten, List.Nodup, List.pairwise_map] at hletters
  exact hletters.imp fun hne heq => hne (congrArg List.flatten heq)

end

/-- Functions of the same name come from names that fall into the same words, and from no others.
Where the names of the procedures differ in more than case and underscores, so do the names of their
functions. -/
theorem function_names_distinct_iff (source moduleName : String) :
    let names := (recognize source).map Procedure.name
    let script := (Emission.generate (Mapped.classify (recognize source)) moduleName).source
    functionNames script = names.map (Identifier.orElse · "procedure") ∧
      ((functionNames script).Nodup ↔ (names.map Identifier.functionWords).Nodup) ∧
      ((names.map Identifier.functionLetters).Nodup → (functionNames script).Nodup) ∧
      (isPlainName moduleName = true →
        (read script).map (List.filterMap Form.functionName?) = some (functionNames script)) := by
  intro names script
  have hlegible := isLegible_classify_recognize source
  have hwords : ∀ name ∈ names, IsWordName name.toList :=
    List.forall_mem_map.mpr (isWordName_of_mem_procedures _)
  have hfunctions : functionNames script = names.map (Identifier.orElse · "procedure") :=
    functionNames_translation source moduleName
  have hiff : (functionNames script).Nodup ↔ (names.map Identifier.functionWords).Nodup := by
    rw [hfunctions]
    exact nodup_orElse_iff hwords
  exact ⟨hfunctions, hiff, fun hletters => hiff.mpr (nodup_functionWords hwords hletters),
    read_functionNames hlegible⟩

theorem function_names_distinct_fallback :
    let source := "Sub Form_Load()\nEnd Sub\nSub form_Loaded()\nEnd Sub\nSub __()\nEnd Sub\n"
    let names := (recognize source).map Procedure.name
    let script := (Emission.generate (Mapped.classify (recognize source)) "Form_Orders").source
    names = ["Form_Load", "form_Loaded", "__"] ∧
      (names.map Identifier.functionLetters).Nodup ∧ isPlainName "Form_Orders" = true ∧
      functionNames script = ["form-load", "form-loaded", "procedure"] ∧
      (functionNames script).Nodup ∧
      (read script).map (List.filterMap Form.functionName?) = some (functionNames script) := by
  intro source names script
  have hnames : names = ["Form_Load", "form_Loaded", "__"] := by
    have hlines : logicalLines source.toList = ["Sub Form_Load()".toList, "End Sub".toList,
        "Sub form_Loaded()".toList, "End Sub".toList, "Sub __()".toList, "End Sub".toList] := by
      decide +kernel
    have hload : header? "Sub Form_Load()".toList = some "Form_Load".toList := by decide +kernel
    have hloaded : header? "Sub form_Loaded()".toList = some "form_Loaded".toList := by
      decide +kernel
    have hnone : header? "Sub __()".toList = some "__".toList := by decide +kernel
    have hend : isEndSub "End Sub".toList = true := by decide
    simp only [names, recognize]
    rw [hlines, procedures_empty hload hend, procedures_empty hloaded hend,
      procedures_empty hnone hend, procedures]
    rfl
  obtain ⟨hfunctions, -, hdistinct, hread⟩ := function_names_distinct_iff source "Form_Orders"
  have hletters : (names.map Identifier.functionLetters).Nodup := by
    rw [hnames]
    decide +kernel
  refine ⟨hnames, hletters, by decide, ?_, hdistinct hletters, hread (by decide)⟩
  rw [hfunctions]
  change names.map _ = _
  rw [hnames]
  decide +kernel

/-- Two names that differ, also in lower case, and one function for both. -/
theorem same_words_same_function :
    let source := "Sub btnSave_Click()\nEnd Sub\nSub btnSaveClick()\nEnd Sub\n"
    let names := (recognize source).map Procedure.name
    let script := (Emission.generate (Mapped.classify (recognize source)) "Form_Orders").source
    (names.map fun name => name.toList.map Char.toLower).Nodup ∧ ¬(functionNames script).Nodup := by
  intro source names script
  have hnames : names = ["btnSave_Click", "btnSaveClick"] := by
    have hlines : logicalLines source.toList = ["Sub btnSave_Click()".toList, "End Sub".toList,
        "Sub btnSaveClick()".toList, "End Sub".toList] := by
      decide +kernel
    have hfirst : header? "Sub btnSave_Click()".toList = some "btnSave_Click".toList := by
      decide +kernel
    have hsecond : header? "Sub btnSaveClick()".toList = some "btnSaveClick".toList := by
      decide +kernel
    have hend : isEndSub "End Sub".toList = true := by decide
    simp only [names, recognize]
    rw [hlines, procedures_empty hfirst hend, procedures_empty hsecond hend, procedures]
    rfl
  have hfunctions : functionNames script = names.map (Identifier.orElse · "procedure") :=
    functionNames_translation source "Form_Orders"
  rw [hfunctions, hnames]
  decide +kernel

end FormScript
