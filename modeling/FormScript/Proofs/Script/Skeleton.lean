import FormScript.Proofs.Script.Faithful
import FormScript.Proofs.Source.Legible

/-! Translations as skeletons: a namespace and then one function for each recognized procedure. No
source can break one, whatever its procedures hold. The name of the module can, since brackets,
quotes and semicolons in it reach the symbol of the namespace as they are. -/
namespace FormScript

open Text

namespace Script

open Reader

def Form.isNamespace : Form → Bool
  | .list (.symbol "ns" :: .symbol name :: _) => "forms.".toList.isPrefixOf name.toList
  | _ => false

def Form.isFunction : Form → Bool
  | .list (.symbol "defn" :: .symbol _ :: _) => true
  | _ => false

def areSkeleton (functions : Nat) : List Form → Bool
  | [] => false
  | f :: rest => f.isNamespace && rest.all Form.isFunction && rest.length == functions

/-- The script can be read, and it is a namespace and then so many functions. -/
def isSkeleton (functions : Nat) (script : String) : Bool :=
  (read script).any (areSkeleton functions)

def isOpener (c : Char) : Bool :=
  c == '"' || c == ';'

theorem eq_of_isOpener {c : Char} (h : isOpener c = true) : c = '"' ∨ c = ';' := by
  simpa [isOpener] using h

theorem lower_cases {c : Char} (hblank : isBlank c = false) :
    lower c = [c] ∨ ∀ d ∈ c :: lower c, isSymbolChar d = true := by
  by_cases hmark : c ∈ marks
  · have hsame : marks.all (fun m => lower m == [m]) = true := by decide
    exact Or.inl (by simpa using List.all_eq_true.mp hsame c hmark)
  · have hsymbol : isSymbolChar c = true := by simp [isSymbolChar, hblank, hmark]
    exact Or.inr (List.forall_mem_cons.mpr ⟨hsymbol, fun d hd => isSymbolChar_lower hsymbol hd⟩)

theorem filter_lower {c : Char} (hblank : isBlank c = false) :
    (lower c).filter isOpener = [c].filter isOpener := by
  have hnone {cs : List Char} (hcs : ∀ d ∈ cs, isSymbolChar d = true) : cs.filter isOpener = [] := by
    refine List.filter_eq_nil_iff.mpr fun d hd hopener => ?_
    have hsymbol := hcs d hd
    rcases eq_of_isOpener hopener with rfl | rfl <;> contradiction
  rcases lower_cases hblank with hsame | hsymbols
  · rw [hsame]
  · obtain ⟨hc, hlower⟩ := List.forall_mem_cons.mp hsymbols
    rw [hnone hlower, hnone (List.forall_mem_singleton.mpr hc)]

theorem newline_not_mem_lower {c : Char} (hblank : isBlank c = false) : '\n' ∉ lower c := by
  intro hmem
  rcases lower_cases hblank with hsame | hsymbols
  · rw [hsame] at hmem
    rw [← List.mem_singleton.mp hmem] at hblank
    exact absurd hblank (by decide)
  · exact absurd (hsymbols '\n' (List.mem_cons_of_mem c hmem)) (by decide)

theorem flatten_humps (afterLower : Bool) (word cs : List Char) :
    (Identifier.humps afterLower word cs).flatten = word ++ cs.flatMap lower := by
  fun_induction Identifier.humps afterLower word cs with
  | case1 _ word hempty => simp [List.isEmpty_iff.mp hempty]
  | case2 => simp
  | case3 afterLower word c rest _ ih => simp [ih]
  | case4 afterLower word c rest _ ih => simp [ih]

theorem flatten_splitOnP (p : α → Bool) (xs : List α) :
    (xs.splitOnP p).flatten = xs.filter (!p ·) := by
  induction xs with
  | nil => rfl
  | cons x xs ih =>
    rw [List.splitOnP_cons_eq_if_modifyHead]
    by_cases hx : p x = true
    · simp [hx, ih]
    · cases hsplit : xs.splitOnP p with
      | nil => exact absurd hsplit (List.splitOnP_ne_nil p xs)
      | cons first rest =>
        rw [hsplit] at ih
        simp [hx, ← ih]

theorem filter_intercalate {p : α → Bool} {sep : List α} (hsep : sep.filter p = [])
    (xss : List (List α)) : (sep.intercalate xss).filter p = xss.flatten.filter p := by
  induction xss with
  | nil => rfl
  | cons xs xss ih =>
    cases xss with
    | nil => simp
    | cons ys xss =>
      rw [List.intercalate_cons_cons, List.filter_append, List.filter_append, ih, hsep]
      simp

theorem flatten_words (name : List Char) :
    (Identifier.words name).flatten = (name.filter (!Identifier.isBreak ·)).flatMap lower := by
  rw [Identifier.words, ← flatten_splitOnP]
  induction name.splitOnP Identifier.isBreak with
  | nil => rfl
  | cons piece pieces ih => simp [flatten_humps, ih]

theorem filter_hyphenate (name : String) :
    (Identifier.hyphenate name).toList.filter isOpener = name.toList.filter isOpener := by
  rw [Identifier.hyphenate, String.toList_ofList, filter_intercalate (by decide), flatten_words]
  induction name.toList with
  | nil => rfl
  | cons c cs ih =>
    by_cases hbreak : Identifier.isBreak c = true
    · have hc : ¬ isOpener c = true := by
        intro hopener
        rcases eq_of_isOpener hopener with rfl | rfl <;> contradiction
      rw [List.filter_cons_of_neg (by simp [hbreak]), ih, List.filter_cons_of_neg hc]
    · rw [Bool.not_eq_true] at hbreak
      have hblank : isBlank c = false := (Bool.or_eq_false_iff.mp hbreak).2
      rw [List.filter_cons_of_pos (by simp [hbreak]), List.flatMap_cons, List.filter_append, ih,
        filter_lower hblank, ← List.filter_append, List.singleton_append]

theorem find?_orElse (name : String) :
    (Identifier.orElse name "module").toList.find? isOpener = name.toList.find? isOpener := by
  have hname := congrArg List.head? (filter_hyphenate name)
  rw [List.head?_filter, List.head?_filter] at hname
  rw [← hname]
  unfold Identifier.orElse
  dsimp only
  split
  · rename_i hempty
    rw [String.isEmpty_iff.mp hempty]
    decide
  · rfl

theorem newline_not_mem_orElse (name : String) {fallback : String} (h : '\n' ∉ fallback.toList) :
    '\n' ∉ (Identifier.orElse name fallback).toList := by
  unfold Identifier.orElse
  dsimp only
  split
  · exact h
  · rw [Identifier.hyphenate, String.toList_ofList]
    intro hmem
    rcases mem_intercalate hmem with hdash | hword
    · exact absurd hdash (by decide)
    · rw [← List.mem_flatten, flatten_words] at hword
      obtain ⟨c, hc, hlower⟩ := List.mem_flatMap.mp hword
      have hbreak : Identifier.isBreak c = false := by simpa using (List.mem_filter.mp hc).2
      exact newline_not_mem_lower (Bool.or_eq_false_iff.mp hbreak).2 hlower

def Mode.isCode : Mode → Bool
  | .between => true
  | .symbol _ => true
  | _ => false

theorem isCode_start {p : Place} {c : Char} {r : Reader} (hc : isOpener c = false)
    (h : start p c = some r) : r.mode.isCode = true := by
  unfold start at h
  split at h
  · cases h
    rfl
  split at h
  · cases h
    rfl
  split at h
  · cases h
    rfl
  split at h
  · obtain ⟨q, -, rfl⟩ := Option.map_eq_some_iff.mp h
    rfl
  split at h
  · obtain ⟨q, -, rfl⟩ := Option.map_eq_some_iff.mp h
    rfl
  split at h
  · rename_i hquote
    subst hquote
    contradiction
  split at h
  · rename_i hsemicolon
    subst hsemicolon
    contradiction
  · cases h
    rfl

theorem isCode_step {r r' : Reader} {c : Char} (hr : r.mode.isCode = true)
    (hc : isOpener c = false) (h : r.step c = some r') : r'.mode.isCode = true := by
  obtain ⟨mode, place⟩ := r
  cases mode with
  | between => exact isCode_start hc h
  | symbol soFar =>
    change (if isSymbolChar c = true then some _ else start _ c) = some r' at h
    split at h
    · cases h
      rfl
    · exact isCode_start hc h
  | text soFar => contradiction
  | escape soFar => contradiction
  | comment => contradiction

theorem isCode_feed {r r' : Reader} {cs : List Char} (hr : r.mode.isCode = true)
    (hcs : ∀ c ∈ cs, isOpener c = false) (h : r.feed cs = some r') : r'.mode.isCode = true := by
  induction cs generalizing r with
  | nil =>
    cases h
    exact hr
  | cons c cs ih =>
    obtain ⟨hc, hcs⟩ := List.forall_mem_cons.mp hcs
    obtain ⟨mid, hmid, h⟩ := Option.bind_eq_some_iff.mp h
    exact ih (isCode_step hr hc hmid) hcs h

theorem step_opener {r : Reader} (hr : r.mode.isCode = true) :
    ∃ p, r.step '"' = some ⟨.text [], p⟩ ∧ r.step ';' = some ⟨.comment, p⟩ ∧
      r.step '\n' = some ⟨.between, p⟩ := by
  have hmode : r.mode ≠ .comment := by
    intro hcomment
    rw [hcomment] at hr
    contradiction
  rcases mode_cases hmode with ⟨p, hstart⟩ | ⟨soFar, htext⟩ | ⟨soFar, hescape⟩
  · exact ⟨p, hstart '"' rfl, hstart ';' rfl, hstart '\n' rfl⟩
  · rw [htext] at hr
    contradiction
  · rw [hescape] at hr
    contradiction

theorem mode_newline {r r' : Reader} (h : r.step '\n' = some r') :
    r'.mode = .between ∨ ∃ soFar, r'.mode = .text soFar := by
  obtain ⟨mode, place⟩ := r
  cases mode with
  | between =>
    cases h
    exact Or.inl rfl
  | symbol soFar =>
    cases h
    exact Or.inl rfl
  | text soFar =>
    cases h
    exact Or.inr ⟨_, rfl⟩
  | escape soFar => contradiction
  | comment =>
    cases h
    exact Or.inl rfl

/-- A line of code ends in a text only if a quote comes before all semicolons in it. -/
theorem mode_line {r r' : Reader} {cs : List Char} (hr : r.mode.isCode = true) (hcs : '\n' ∉ cs)
    (h : r.feed (cs ++ ['\n']) = some r') :
    r'.mode = .between ∨ (∃ soFar, r'.mode = .text soFar) ∧ cs.find? isOpener = some '"' := by
  rw [feed_append] at h
  obtain ⟨mid, hmid, hlast⟩ := Option.bind_eq_some_iff.mp h
  change (step mid '\n').bind some = some r' at hlast
  rw [Option.bind_fun_some] at hlast
  cases hfind : cs.find? isOpener with
  | none =>
    have hcode : mid.mode.isCode = true :=
      isCode_feed hr (by simpa using List.find?_eq_none.mp hfind) hmid
    obtain ⟨p, -, -, hnewline⟩ := step_opener hcode
    rw [hnewline] at hlast
    cases hlast
    exact Or.inl rfl
  | some o =>
    obtain ⟨ho, before, after, rfl, hbefore⟩ := List.find?_eq_some_iff_append.mp hfind
    rcases eq_of_isOpener ho with rfl | rfl
    · exact (mode_newline hlast).imp_right fun htext => ⟨htext, rfl⟩
    · rw [feed_append] at hmid
      obtain ⟨first, hfirst, hmid⟩ := Option.bind_eq_some_iff.mp hmid
      obtain ⟨p, -, hsemicolon, -⟩ := step_opener (isCode_feed hr (by simpa using hbefore) hfirst)
      rw [feed_cons, hsemicolon, Option.bind_some] at hmid
      have hafter : '\n' ∉ after := by
        intro hmem
        exact hcs (by simp [hmem])
      have hline := feed_comment p hafter
      rw [feed_append, hmid] at hline
      change (step mid '\n').bind some = _ at hline
      rw [Option.bind_fun_some, hlast] at hline
      cases hline
      exact Or.inl rfl

theorem isOpener_quoteChar {c d : Char} (hc : isOpener c = false) (hd : d ∈ Emission.quoteChar c) :
    isOpener d = false := by
  unfold Emission.quoteChar at hd
  split at hd
  · rename_i hquote
    subst hquote
    contradiction
  split at hd
  · have hslash : ['\\', '\\'].any isOpener = false := by decide
    simpa using List.any_eq_false.mp hslash d hd
  split at hd
  · have hfeed : ['\\', 'n'].any isOpener = false := by decide
    simpa using List.any_eq_false.mp hfeed d hd
  split at hd
  · contradiction
  · rw [List.mem_singleton.mp hd]
    exact hc

/-- Where the name of a module has left a text open, the quote that is to open the text about the
module ends it, and the quote of the name opens one again. -/
theorem mode_docLine {r r' : Reader} {label name : String} (hlabel : label.toList.find? isOpener = none)
    (hr : r.mode = .between ∨ (∃ soFar, r.mode = .text soFar) ∧ name.toList.find? isOpener = some '"')
    (h : r.feed ("  " ++ Emission.quote (label ++ name ++ ".")).toList = some r') :
    r'.mode = .between := by
  obtain ⟨mode, place⟩ := r
  rcases hr with hmode | ⟨⟨soFar, hmode⟩, hfind⟩
  · cases hmode
    have hfeed := feed_indent place (Emission.quote (label ++ name ++ ".")) []
    rw [List.append_nil, h, feed_text, feed_nil] at hfeed
    cases hfeed
    rfl
  · cases hmode
    -- What is quoted is now outside a text, up to the first quote in the name: that is written with
    -- a backslash, which in code is part of a symbol, and so opens a text that the last quote ends.
    obtain ⟨-, before, after, hname, hbefore⟩ := List.find?_eq_some_iff_append.mp hfind
    have hclosed : feed ⟨.text soFar, place⟩ "  \"".toList =
        some ⟨.between, place.add [.text (String.ofList (soFar ++ [' ', ' ']))]⟩ := by
      simp [feed_cons, step]
    have hsplit : ("  " ++ Emission.quote (label ++ name ++ ".")).toList =
        "  \"".toList ++ (((label.toList ++ before).flatMap Emission.quoteChar ++ ['\\']) ++
          '"' :: ((after ++ ['.']).flatMap Emission.quoteChar ++ ['"'])) := by
      simp [Emission.quote, hname, Emission.quoteChar]
    rw [hsplit, feed_append, hclosed, Option.bind_some, feed_append] at h
    obtain ⟨mid, hmid, hlast⟩ := Option.bind_eq_some_iff.mp h
    have hplain : ∀ c ∈ (label.toList ++ before).flatMap Emission.quoteChar ++ ['\\'],
        isOpener c = false := by
      refine List.forall_mem_append.mpr ⟨fun d hd => ?_, List.forall_mem_singleton.mpr (by decide)⟩
      obtain ⟨c, hc, hd⟩ := List.mem_flatMap.mp hd
      apply isOpener_quoteChar _ hd
      rcases List.mem_append.mp hc with hc | hc
      · simpa using List.find?_eq_none.mp hlabel c hc
      · simpa using hbefore c hc
    have hcode : mid.mode.isCode = true := isCode_feed rfl hplain hmid
    obtain ⟨p, hquote, -, -⟩ := step_opener hcode
    rw [feed_cons, hquote, Option.bind_some, feed_textFrom] at hlast
    cases hlast
    rfl

/-- Whatever the name, nothing but brackets can be left open behind the namespace. -/
theorem mode_namespace {moduleName : String} {r : Reader}
    (h : feed ⟨.between, {}⟩ (joinLines (Emission.namespaceLines moduleName)).toList = some r) :
    r.mode = .between := by
  let label := "Generated from legacy module "
  have hlines : (joinLines (Emission.namespaceLines moduleName)).toList =
      "(ns forms.".toList ++ ((Identifier.orElse moduleName "module").toList ++ ['\n'] ++
        (("  " ++ Emission.quote (label ++ moduleName ++ ".")).toList ++
          '\n' :: "  (:require [app.forms.runtime :as rt]))".toList)) := by
    simp [joinLines, Emission.namespaceLines, label]
  have hopened : feed ⟨.between, {}⟩ "(ns forms.".toList =
      some ⟨.symbol "forms.".toList, (({} : Place).enter .round).add [.symbol "ns"]⟩ := by
    rfl
  rw [hlines, feed_append, hopened, Option.bind_some, feed_append] at h
  obtain ⟨named, hnamed, h⟩ := Option.bind_eq_some_iff.mp h
  have hfirst := mode_line rfl (newline_not_mem_orElse moduleName (by decide)) hnamed
  rw [find?_orElse] at hfirst
  rw [feed_append] at h
  obtain ⟨⟨mode, p⟩, hdoc, h⟩ := Option.bind_eq_some_iff.mp h
  cases mode_docLine (by decide) hfirst hdoc
  let require : Form := .list [.symbol ":require",
    .vector [.symbol "app.forms.runtime", .symbol ":as", .symbol "rt"]]
  have hrequire : require.isReadable = true := by decide
  have hwrite : '\n' :: "  (:require [app.forms.runtime :as rt]))".toList =
      '\n' :: ' ' :: ' ' :: (require.write ++ [')']) := by
    decide
  rw [hwrite, feed_blank p (by decide), feed_blank p (by decide), feed_blank p (by decide),
    feed_write require hrequire p (by decide)] at h
  change (start (p.add [require]) ')').bind some = some r at h
  rw [start_close, Option.bind_fun_some] at h
  obtain ⟨q, -, rfl⟩ := Option.map_eq_some_iff.mp h
  rfl

theorem finish_add (p : Place) (forms : List Form) :
    finish ⟨.between, p.add forms⟩ = (finish ⟨.between, p⟩).map (· ++ forms) := by
  obtain ⟨items, outer⟩ := p
  cases outer <;> rfl

theorem unlines_namespace (moduleName : String) : unlines (Emission.namespaceLines moduleName) =
    (joinLines (Emission.namespaceLines moduleName)).toList ++ ['\n'] :=
  (toList_joinLines (List.cons_ne_nil _ _)).symm.trans String.toList_append

theorem toList_source_eq (m : Mapped) (moduleName : String) :
    (Emission.generate m moduleName).source.toList =
      (joinLines (Emission.namespaceLines moduleName)).toList ++
        '\n' :: '\n' :: unlines ([""].intercalate (Emission.sections m moduleName).tail) := by
  have hne : (Emission.sections m moduleName).tail ≠ [] := by
    rw [Emission.sections, List.tail_cons]
    split
    · simp
    · rename_i hsome
      simpa using hsome
  have hsections : Emission.sections m moduleName =
      Emission.namespaceLines moduleName :: (Emission.sections m moduleName).tail := rfl
  have hempty : unlines [""] = ['\n'] := by decide
  obtain ⟨next, more, htail⟩ := List.exists_cons_of_ne_nil hne
  rw [toList_source, hsections, htail, List.intercalate_cons_cons, unlines_append, unlines_append,
    unlines_namespace, hempty]
  simp

theorem read_generate {m : Mapped} (hm : m.isLegible = true) (moduleName : String) :
    read (Emission.generate m moduleName).source =
      (read (joinLines (Emission.namespaceLines moduleName))).map
        (· ++ m.procedures.map fun p => definition p (intentsForms p.intents).flatten) := by
  have hforms : (sectionForms m moduleName).tail.flatten =
      m.procedures.map fun p => definition p (intentsForms p.intents).flatten :=
    List.tail_eq_of_cons_eq (flatten_sectionForms m moduleName)
  rw [read, read, toList_source_eq, feed_append]
  cases hheader : feed ⟨.between, {}⟩ (joinLines (Emission.namespaceLines moduleName)).toList with
  | none => rfl
  | some r =>
    obtain ⟨mode, p⟩ := r
    cases mode_namespace hheader
    have hread := feed_unlines (readLines_sections (functions_read hm moduleName) p)
    rw [Option.bind_some, feed_blank p (by decide), feed_blank p (by decide), hread,
      Option.bind_some, Option.bind_some, finish_add, hforms]

theorem isNamespace_of_isFunction {f : Form} (h : f.isFunction = true) : f.isNamespace = false := by
  unfold Form.isFunction at h
  split at h
  · rfl
  · contradiction

theorem areSkeleton_append (header : List Form) {functions : List Form}
    (h : functions.all Form.isFunction = true) :
    areSkeleton functions.length (header ++ functions) = areSkeleton 0 header := by
  cases header with
  | nil =>
    cases functions with
    | nil => rfl
    | cons f rest =>
      rw [List.all_cons, Bool.and_eq_true] at h
      simp [areSkeleton, isNamespace_of_isFunction h.1]
  | cons f rest =>
    have hcount : (rest.length + functions.length == functions.length) = (rest.length == 0) := by
      rw [Bool.eq_iff_iff, beq_iff_eq, beq_iff_eq]
      omega
    simp only [List.cons_append, areSkeleton, List.all_append, List.length_append, h, hcount,
      Bool.and_true]

theorem isSkeleton_generate {m : Mapped} (hm : m.isLegible = true) (moduleName : String) :
    isSkeleton m.procedures.length (Emission.generate m moduleName).source =
      isSkeleton 0 (joinLines (Emission.namespaceLines moduleName)) := by
  let functions := m.procedures.map fun p => definition p (intentsForms p.intents).flatten
  have hfunctions : functions.all Form.isFunction = true := by
    simp [functions, definition, Form.isFunction]
  have hlength : functions.length = m.procedures.length := List.length_map _
  rw [isSkeleton, isSkeleton, read_generate hm, Option.any_map, ← hlength]
  congr 1
  funext header
  exact areSkeleton_append header hfunctions

theorem isSkeleton_namespace {moduleName : String} (hname : isPlainName moduleName = true) :
    isSkeleton 0 (joinLines (Emission.namespaceLines moduleName)) = true := by
  have hfeed := feed_unlines (readLines_namespace hname {})
  rw [unlines_namespace, feed_append] at hfeed
  obtain ⟨⟨mode, p⟩, hheader, hlast⟩ := Option.bind_eq_some_iff.mp hfeed
  cases mode_namespace hheader
  cases hlast
  have hread : read (joinLines (Emission.namespaceLines moduleName)) =
      some [namespaceForm moduleName] := by
    rw [read, hheader]
    rfl
  rw [isSkeleton, hread, Option.any_some, areSkeleton, namespaceForm, Form.isNamespace]
  simp

end Script

open Script

/-- No source breaks the script it is translated to: that is a skeleton with one function for each
recognized procedure, unless its namespace alone is none. And that is one for every name
without brackets, quotes and semicolons. -/
theorem translation_isSkeleton_iff (source moduleName : String) :
    let script := (Emission.generate (Mapped.classify (Source.recognize source)) moduleName).source
    let functions := (Source.recognize source).length
    (isSkeleton functions script = true ↔
      isSkeleton 0 (joinLines (Emission.namespaceLines moduleName)) = true) ∧
    (isPlainName moduleName = true → isSkeleton functions script = true) := by
  intro script functions
  have hlength : (Mapped.classify (Source.recognize source)).procedures.length = functions :=
    List.length_map _
  have hscript := isSkeleton_generate (isLegible_classify_recognize source) moduleName
  rw [hlength] at hscript
  exact ⟨by rw [hscript], fun hname => hscript.trans (isSkeleton_namespace hname)⟩

/-- A bracket in the name closes the namespace too early. -/
theorem bracketed_name_breaks_skeleton :
    let source := "Private Sub Form_Load()\nMe.Requery\nEnd Sub\n"
    let m := Mapped.classify (Source.recognize source)
    (read (Emission.generate m "1) Orders").source).isNone = true ∧
      isSkeleton (Source.recognize source).length (Emission.generate m "1) Orders").source = false := by
  intro source m
  have hheader : (read (joinLines (Emission.namespaceLines "1) Orders"))).isNone = true := by
    decide
  have hread := read_generate (isLegible_classify_recognize source) "1) Orders"
  rw [Option.isNone_iff_eq_none.mp hheader, Option.map_none] at hread
  exact ⟨by rw [hread]; rfl, by rw [isSkeleton, hread]; rfl⟩

end FormScript
