import FormScript.Proofs.Script.Emitted

/-! Generated scripts mean what their procedures mean. The text of a script is read back as one
namespace and one function for each procedure, and the body of each function makes the tests and
the calls that the intents of its procedure stand for. -/
namespace FormScript

open Text Script

namespace Script

def namespaceForm (moduleName : String) : Form :=
  .list [.symbol "ns", .symbol ("forms." ++ Identifier.orElse moduleName "module"),
    .text (withoutReturns ("Generated from legacy module " ++ moduleName ++ ".")),
    .list [.symbol ":require", .vector [.symbol "app.forms.runtime", .symbol ":as", .symbol "rt"]]]

def definition (p : Procedure) (body : List Form) : Form :=
  .list (.symbol "defn" :: .symbol (Identifier.orElse p.name "procedure") ::
    .text (withoutReturns (Emission.docText p)) :: .vector [.symbol "ctx"] :: body)

theorem block_procedure {p : Procedure} (hp : p.isLegible = true) :
    Block (Emission.procedureLines p) [definition p (intentsForms p.intents).flatten] := by
  rw [Procedure.isLegible, Bool.and_eq_true] at hp
  have hname : areReadable [.symbol "defn", .symbol (Identifier.orElse p.name "procedure")] = true := by
    have hdefn : (Form.symbol "defn").isReadable = true := by decide
    have hfallback : (Form.symbol "procedure").isReadable = true := by decide
    simp only [areReadable, hdefn, isReadable_orElse hp.1 hfallback, Bool.and_true]
  have hdoc : Block [Emission.quote (Emission.docText p)]
      [.text (withoutReturns (Emission.docText p))] :=
    Block.ofWrite (isReadable_text _) (by rw [Form.write, quote_withoutReturns])
  have hctx : Block ["[ctx]"] [.vector [.symbol "ctx"]] := Block.ofWrite (by decide) (by decide)
  refine Block.form hname ?_ (.cons hdoc (.cons hctx (blocks_of_children (children _ hp.2))))
  simp [writeAll, Form.write]

theorem readLines_namespace {moduleName : String} (hname : isPlainName moduleName = true)
    (p : Place) : readLines p (Emission.namespaceLines moduleName) =
      some (p.add [namespaceForm moduleName]) := by
  have hsymbol : (Form.symbol ("forms." ++ Identifier.orElse moduleName "module")).isReadable = true := by
    have hfallback : (Form.symbol "module").isReadable = true := by decide
    have hsuffix := isReadable_orElse hname hfallback
    have hdots : "forms.".toList.all isSymbolChar = true := by decide
    simp only [Form.isReadable, Bool.and_eq_true, String.toList_append, List.all_append] at hsuffix ⊢
    exact ⟨by simp, hdots, hsuffix.2⟩
  have hns : (Form.symbol "ns").isReadable = true := by decide
  have hhead : areReadable [.symbol "ns",
      .symbol ("forms." ++ Identifier.orElse moduleName "module")] = true := by
    simp only [areReadable, hns, hsymbol, Bool.and_true]
  let doc := "Generated from legacy module " ++ moduleName ++ "."
  let require : Form := .list [.symbol ":require",
    .vector [.symbol "app.forms.runtime", .symbol ":as", .symbol "rt"]]
  have hrequire : require.isReadable = true := by decide
  have hwrite : "(:require [app.forms.runtime :as rt])".toList = require.write := by decide
  have hclosing : "  (:require [app.forms.runtime :as rt]))" =
      "  " ++ ("(:require [app.forms.runtime :as rt])" ++ ")") := by decide
  rw [Emission.namespaceLines, hclosing]
  rw [readLines_cons, readLine_open hhead (by simp [writeAll, Form.write]), Option.bind_some,
    readLines_cons, readLine_indent,
    readLine_write (isReadable_text doc) (by rw [Form.write, quote_withoutReturns]),
    Option.bind_some, readLines_singleton, readLine_indent]
  apply readLine_close (readLine_write hrequire hwrite _) (settled_write hrequire hwrite)
  simp only [Place.add_add]
  exact Place.leave_enter p .round _

theorem unlines_append (a b : List String) : unlines (a ++ b) = unlines a ++ unlines b :=
  List.flatMap_append

theorem toList_joinLines {lines : List String} (hne : lines ≠ []) :
    (joinLines lines ++ "\n").toList = unlines lines := by
  unfold joinLines
  induction lines with
  | nil => exact absurd rfl hne
  | cons line lines ih =>
    cases lines with
    | nil => simp [unlines]
    | cons next lines =>
      have hrest := ih (by simp)
      rw [String.intercalate_cons_cons, String.append_assoc, String.toList_append, hrest]
      simp [unlines]

theorem toList_joinSections {sections : List (List String)} (hne : sections ≠ [])
    (hsections : ∀ lines ∈ sections, lines ≠ []) :
    ("\n\n".intercalate (sections.map joinLines) ++ "\n").toList =
      unlines ([""].intercalate sections) := by
  induction sections with
  | nil => exact absurd rfl hne
  | cons lines sections ih =>
    have hlines := toList_joinLines (hsections lines List.mem_cons_self)
    cases sections with
    | nil => simpa using hlines
    | cons next sections =>
      have hrest := ih (by simp) fun l hl => hsections l (List.mem_cons_of_mem lines hl)
      have hempty : unlines [""] = ['\n'] := by decide
      rw [List.intercalate_cons_cons, unlines_append, unlines_append, hempty, ← hlines, ← hrest]
      simp only [List.map_cons, String.intercalate_cons_cons, String.toList_append]
      simp

theorem readLines_sections {sections : List (List String)} {forms : List (List Form)}
    (h : List.Forall₂ (fun lines fs => ∀ p, readLines p lines = some (p.add fs)) sections forms)
    (p : Place) : readLines p ([""].intercalate sections) = some (p.add forms.flatten) := by
  induction h generalizing p with
  | nil => simp [readLines]
  | cons hlines hrest ih =>
    cases hrest with
    | nil => simpa using hlines p
    | cons hnext hmore =>
      have hempty : ∀ q, readLines q [""] = some q := fun q =>
        (readLines_singleton q "").trans (readLine_of_feed (Reader.feed_blank q (by decide) []))
      rw [List.intercalate_cons_cons, readLines_append, readLines_append, hlines, Option.bind_some,
        hempty, Option.bind_some, ih, Place.add_add]
      rfl

end Script

namespace Script

theorem close_ne_nil (lines : List String) : Emission.close lines ≠ [] := by
  unfold Emission.close
  split
  · split <;> simp
  · simp

theorem ne_nil_of_mem_sections (m : Mapped) (moduleName : String) :
    ∀ lines ∈ Emission.sections m moduleName, lines ≠ [] := by
  intro lines hlines
  rcases List.mem_cons.mp hlines with rfl | hmem
  · simp [Emission.namespaceLines]
  · split at hmem
    · rw [List.mem_singleton.mp hmem]
      simp
    · obtain ⟨p, _, rfl⟩ := List.mem_map.mp hmem
      rw [Emission.procedureLines, Emission.form]
      exact close_ne_nil _

def sectionForms (m : Mapped) (moduleName : String) : List (List Form) :=
  [namespaceForm moduleName] ::
    if m.procedures.isEmpty then [[]]
    else m.procedures.map fun p => [definition p (intentsForms p.intents).flatten]

theorem functions_read {m : Mapped} (hm : m.isLegible = true) (moduleName : String) :
    List.Forall₂ (fun lines fs => ∀ p, readLines p lines = some (p.add fs))
      (Emission.sections m moduleName).tail (sectionForms m moduleName).tail := by
  rw [Emission.sections, sectionForms, List.tail_cons, List.tail_cons]
  split
  · have hcomment : CommentLine ";; no event procedures" :=
      ⟨" no event procedures".toList, by decide, by decide⟩
    exact .cons (Block.ofComments (by simpa using hcomment)).reads .nil
  · rw [List.forall₂_map_left_iff, List.forall₂_map_right_iff]
    exact List.forall₂_same.mpr fun p hp =>
      (block_procedure (List.all_eq_true.mp hm p hp)).reads

theorem sections_read {m : Mapped} {moduleName : String} (hm : m.isLegible = true)
    (hname : isPlainName moduleName = true) :
    List.Forall₂ (fun lines fs => ∀ p, readLines p lines = some (p.add fs))
      (Emission.sections m moduleName) (sectionForms m moduleName) :=
  .cons (readLines_namespace hname) (functions_read hm moduleName)

theorem flatten_sectionForms (m : Mapped) (moduleName : String) :
    (sectionForms m moduleName).flatten = namespaceForm moduleName ::
      m.procedures.map fun p => definition p (intentsForms p.intents).flatten := by
  unfold sectionForms
  split
  · rename_i hempty
    rw [List.isEmpty_iff.mp hempty]
    rfl
  · rw [List.flatten_cons, ← List.flatMap_def, ← List.map_eq_flatMap]
    rfl

theorem toList_source (m : Mapped) (moduleName : String) :
    (Emission.generate m moduleName).source.toList =
      unlines ([""].intercalate (Emission.sections m moduleName)) :=
  toList_joinSections (List.cons_ne_nil _ _) (ne_nil_of_mem_sections m moduleName)

end Script

/-- Reading a script gives its namespace and then one function for each procedure in order, and
whatever the tests answer, the body of a function makes the same tests and the same calls in the
same order as the intents of its procedure. -/
theorem generate_faithful (m : Mapped) (moduleName : String) (hm : m.isLegible = true)
    (hname : isPlainName moduleName = true) :
    ∃ bodies : List (List Form),
      read (Emission.generate m moduleName).source =
        some (namespaceForm moduleName :: List.zipWith definition m.procedures bodies) ∧
      List.Forall₂ (fun (p : Procedure) (body : List Form) => ∀ oracle past,
        runAll oracle past body = some (performAll oracle past p.intents)) m.procedures bodies := by
  refine ⟨m.procedures.map fun p => (intentsForms p.intents).flatten, ?_, ?_⟩
  · have hread := feed_unlines (readLines_sections (sections_read hm hname) {})
    rw [Script.read, toList_source, hread, Option.bind_some, flatten_sectionForms,
      List.zipWith_map_right, List.zipWith_self]
    rfl
  · rw [List.forall₂_map_right_iff]
    exact List.forall₂_same.mpr fun p _ oracle past => runAll_intentsForms oracle past p.intents

/-- An arm of comments only, an empty then-arm, and texts full of what could be taken for code. -/
theorem generate_faithful_gapArm :
    let m : Mapped := ⟨[⟨"btnSave_Click", "click)", [
      .branch (.fieldBlank "txt Name") [.gap ⟨"x(\n)", "no; rule", some "p:0", none⟩ none]
        [.act (.showMessage "a;\"\n)\r") none] none none,
      .branch .newRecord [] [.act .saveRecord none] none none]⟩], ⟨0, 0, 0⟩, []⟩
    m.isLegible = true ∧ isPlainName "Form_Orders" = true ∧
    ∃ bodies : List (List Form),
      read (Emission.generate m "Form_Orders").source =
        some (namespaceForm "Form_Orders" :: List.zipWith definition m.procedures bodies) ∧
      List.Forall₂ (fun (p : Procedure) (body : List Form) => ∀ oracle past,
        runAll oracle past body = some (performAll oracle past p.intents)) m.procedures bodies :=
  ⟨by decide, by decide, generate_faithful _ _ (by decide) (by decide)⟩

end FormScript
