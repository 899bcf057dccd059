import FormScript.Proofs.Script.Meaning
import FormScript.Proofs.Script.Name

/-! The lines that are written for intents. The lines of an action or a branch are read as its one
form, those of a gap as no form at all, at any depth and whatever the texts in them hold. -/
namespace FormScript

open Text

namespace Script

def CommentLine (line : String) : Prop :=
  ∃ rest, line.toList = ';' :: ';' :: rest ∧ '\n' ∉ rest

theorem isComment_of_commentLine {line : String} (h : CommentLine line) :
    Emission.isComment line = true := by
  obtain ⟨rest, hline, _⟩ := h
  have hblank : isBlank ';' = false := by decide
  simp [Emission.isComment, hline, trimStart, hblank]

theorem feed_comment (p : Place) {cs : List Char} (hcs : '\n' ∉ cs) :
    Reader.feed ⟨.comment, p⟩ (cs ++ ['\n']) = some ⟨.between, p⟩ := by
  induction cs with
  | nil => rfl
  | cons c cs ih =>
    rw [List.mem_cons, not_or] at hcs
    have hstep : Reader.step ⟨.comment, p⟩ c = some ⟨.comment, p⟩ := by
      simp [Reader.step, Ne.symm hcs.1]
    rw [List.cons_append, Reader.feed_cons, hstep, Option.bind_some]
    exact ih hcs.2

theorem readLine_comment {line : String} (h : CommentLine line) (p : Place) :
    readLine p line = some p := by
  obtain ⟨rest, hline, hrest⟩ := h
  apply readLine_of_feed
  have hopen : Reader.step ⟨.between, p⟩ ';' = some ⟨.comment, p⟩ := rfl
  rw [hline, List.cons_append, Reader.feed_cons, hopen, Option.bind_some]
  exact feed_comment p (by simpa using hrest)

theorem Block.ofComments {lines : List String} (h : ∀ line ∈ lines, CommentLine line) :
    Block lines [] where
  reads p := by
    induction lines with
    | nil => simp [readLines]
    | cons line lines ih =>
      have hline := readLine_comment (h line List.mem_cons_self) p
      rw [readLines_cons, hline, Option.bind_some]
      exact ih fun l hl => h l (List.mem_cons_of_mem line hl)
  settled := by
    intro line hline hcode
    rw [isComment_of_commentLine (h line hline)] at hcode
    contradiction

theorem newline_not_mem_textLines {s line : String} (h : line ∈ textLines s) :
    '\n' ∉ line.toList := by
  obtain ⟨cs, hcs, rfl⟩ := List.mem_map.mp h
  rw [String.toList_ofList]
  have hpiece {piece : List Char} (hp : piece ∈ s.toList.splitOnP (· == '\n')) : '\n' ∉ piece := by
    intro hmem
    simpa using (mem_of_mem_splitOnP hp hmem).2
  rcases List.mem_append.mp hcs with hbefore | hlast
  · obtain ⟨piece, hp, rfl⟩ := List.mem_map.mp hbefore
    intro hmem
    apply hpiece (List.dropLast_subset _ hp)
    unfold dropReturn at hmem
    split at hmem
    · exact List.dropLast_subset _ hmem
    · exact hmem
  · exact hpiece (List.mem_of_mem_drop (List.mem_filter.mp hlast).1)

theorem commentLine_of_mem {label text line : String} (hlabel : '\n' ∉ label.toList)
    (h : line ∈ Emission.commentLines label text) : CommentLine line := by
  unfold Emission.commentLines at h
  split at h
  · rw [List.mem_singleton.mp h]
    refine ⟨' ' :: trimEnd label.toList, by simp, ?_⟩
    simp only [List.mem_cons, not_or]
    refine ⟨by decide, fun hmem => hlabel ?_⟩
    rw [trimEnd, List.mem_reverse] at hmem
    exact List.mem_reverse.mp ((List.dropWhile_sublist _).mem hmem)
  · rename_i first rest hlines
    have hline {l : String} (hl : l ∈ first :: rest) : '\n' ∉ l.toList :=
      newline_not_mem_textLines (hlines ▸ hl)
    rcases List.mem_cons.mp h with rfl | hmem
    · refine ⟨' ' :: (label.toList ++ first.toList), by simp, ?_⟩
      simp [hlabel, hline List.mem_cons_self]
    · obtain ⟨l, hl, rfl⟩ := List.mem_map.mp hmem
      refine ⟨' ' :: ' ' :: ' ' :: l.toList, by simp, ?_⟩
      simp [hline (List.mem_cons_of_mem first hl)]

end Script

open Script

def hasNoNewline (s : String) : Bool :=
  s.toList.all (· != '\n')

def Condition.isLegible : Condition → Bool
  | .fieldBlank field => isPlainName field
  | .fieldEquals field _ => isPlainName field
  | _ => true

def Action.isLegible : Action → Bool
  | .validateRequired field _ => isPlainName field
  | .setValue field _ => isPlainName field
  | .setEnabled control _ => isPlainName control
  | .setVisible control _ => isPlainName control
  | _ => true

def Gap.isLegible (g : Gap) : Bool :=
  g.id.all hasNoNewline && g.resolution.all (hasNoNewline ·.resolvedBy)

mutual

/-- Fields and controls are plain names, and what a gap shows on its first line is on one line. -/
def Intent.isLegible : Intent → Bool
  | .act action _ => action.isLegible
  | .gap g _ => g.isLegible
  | .branch condition thenArm elseArm _ _ =>
    condition.isLegible && areLegible thenArm && areLegible elseArm

def areLegible : List Intent → Bool
  | [] => true
  | i :: rest => i.isLegible && areLegible rest

end

def Procedure.isLegible (p : Procedure) : Bool :=
  isPlainName p.name && areLegible p.intents

def Mapped.isLegible (m : Mapped) : Bool :=
  m.procedures.all Procedure.isLegible

namespace Script

theorem newline_not_mem {s : String} (h : hasNoNewline s = true) : '\n' ∉ s.toList := by
  intro hmem
  simpa using List.all_eq_true.mp h '\n' hmem

theorem commentLine_gapLines {g : Gap} (hg : g.isLegible = true) {line : String}
    (h : line ∈ Emission.gapLines g) : CommentLine line := by
  obtain ⟨text, reason, id, resolution⟩ := g
  simp only [Gap.isLegible, Bool.and_eq_true] at hg
  have hid : '\n' ∉ (id.getD "?").toList := by
    cases id with
    | none => decide
    | some id => exact newline_not_mem hg.1
  unfold Emission.gapLines at h
  cases resolution with
  | none =>
    rcases List.mem_append.mp h with hreason | hline
    · exact commentLine_of_mem (by simpa using hid) hreason
    · exact commentLine_of_mem (by decide) hline
  | some r =>
    have hby : '\n' ∉ r.resolvedBy.toList := newline_not_mem hg.2
    exact commentLine_of_mem (by simpa [hby] using hid) h

theorem quote_withoutReturns (s : String) :
    Emission.quote (withoutReturns s) = Emission.quote s := by
  have hflat : ∀ cs : List Char,
      (cs.filter (· != '\r')).flatMap Emission.quoteChar = cs.flatMap Emission.quoteChar := by
    intro cs
    induction cs with
    | nil => rfl
    | cons c cs ih =>
      by_cases hreturn : c = '\r'
      · subst hreturn
        simp [Emission.quoteChar, ih]
      · simp [hreturn, ih]
  rw [Emission.quote, withoutReturns, String.toList_ofList, hflat, Emission.quote]

theorem write_rtCall (name : String) (vs : List Value) :
    (rtCall name vs).form.write =
      "(rt/".toList ++ name.toList ++ " ctx".toList ++ vs.flatMap (' ' :: ·.form.write) ++ [')'] := by
  have hargs : ∀ (f : Form) (vs : List Value),
      writeAll (f :: vs.map Value.form) = f.write ++ vs.flatMap (' ' :: ·.form.write) := by
    intro f vs
    induction vs generalizing f with
    | nil => simp [writeAll]
    | cons v vs ih => rw [List.map_cons, writeAll, ih, List.flatMap_cons, List.cons_append]
  rw [rtCall, Call.form, Form.write, hargs, List.flatMap_cons, Value.form, Form.write, Form.write,
    String.toList_append]
  simp

theorem conditionForm_write (c : Condition) :
    (Emission.conditionForm c).toList = c.test.form.write := by
  unfold Emission.conditionForm
  cases c <;> simp [Condition.test, Test.form, Form.write, writeAll, write_rtCall, Value.form,
    quote_withoutReturns]

theorem actionForm_write (a : Action) : (Emission.actionForm a).toList = a.call.form.write := by
  unfold Emission.actionForm
  cases a <;> simp [Action.call, Form.write, write_rtCall, Value.form, quote_withoutReturns]

theorem isReadable_text (s : String) : (Form.text (withoutReturns s)).isReadable = true := by
  simp only [Form.isReadable, withoutReturns, String.toList_ofList]
  exact List.all_eq_true.mpr fun c hc => (List.mem_filter.mp hc).2

theorem isReadable_flag (value : Bool) : (Form.symbol (Emission.flag value)).isReadable = true := by
  cases value <;> decide

theorem isReadable_rtCall {name : String} {vs : List Value}
    (hname : (Form.symbol ("rt/" ++ name)).isReadable = true)
    (hvs : areReadable (vs.map Value.form) = true) : (rtCall name vs).form.isReadable = true := by
  have hctx : (Form.symbol "ctx").isReadable = true := by decide
  rw [rtCall, Call.form, Form.isReadable, areReadable, hname, List.map_cons, areReadable,
    Value.form, hctx, hvs]
  rfl

theorem isReadable_action {a : Action} (ha : a.isLegible = true) : a.call.form.isReadable = true := by
  cases a <;> simp only [Action.isLegible] at ha <;> exact isReadable_rtCall (by decide) (by
    simp [Value.form, areReadable, isReadable_text, isReadable_flag, isReadable_keyword, *])

theorem isReadable_test {c : Condition} (hc : c.isLegible = true) :
    c.test.form.isReadable = true := by
  cases c with
  | fieldBlank field =>
    exact isReadable_rtCall (by decide) (by simp [Value.form, areReadable, isReadable_keyword hc])
  | fieldEquals field value =>
    have hcall : (rtCall "value" [.keyword (Emission.keyword field)]).form.isReadable = true :=
      isReadable_rtCall (by decide) (by simp [Value.form, areReadable, isReadable_keyword hc])
    have heq : (Form.symbol "=").isReadable = true := by decide
    rw [Condition.test, Test.form, Form.isReadable]
    simp only [areReadable, heq, hcall, Value.form, isReadable_text, Bool.and_true]
  | confirm message =>
    exact isReadable_rtCall (by decide) (by simp [Value.form, areReadable, isReadable_text])
  | newRecord => decide

/-- Lines of one intent: comments only, or exactly one form. -/
inductive Child : List String → List Form → Prop where
  | comments {lines : List String} : Block lines [] → lines.all Emission.isComment = true →
      Child lines []
  | form {lines : List String} {f : Form} : Block lines [f] →
      lines.all Emission.isComment = false → Child lines [f]

theorem Child.block {lines : List String} {forms : List Form} (h : Child lines forms) :
    Block lines forms := by
  cases h with
  | comments hblock _ => exact hblock
  | form hblock _ => exact hblock

theorem isComment_of_round {line : String} (h : line.toList.head? = some '(') :
    Emission.isComment line = false := by
  obtain ⟨rest, hline⟩ := List.head?_eq_some_iff.mp h
  have hblank : ¬ isBlank '(' = true := by decide
  rw [Emission.isComment, hline, trimStart, List.dropWhile_cons_of_neg hblank]
  rfl

theorem all_isComment_form {head : String} (h : head.toList.head? = some '(')
    (children : List (List String)) : (Emission.form head children).all Emission.isComment = false := by
  have hcode := isComment_of_round h
  unfold Emission.form
  generalize children.flatMap Emission.indent = body
  rcases List.eq_nil_or_concat' body with rfl | ⟨before, last, rfl⟩
  · have hclosed : (head ++ ")").toList.head? = some '(' := by simp [h]
    rw [← List.nil_append [head], close_code [] hcode]
    simp [isComment_of_round hclosed]
  · rw [← List.cons_append]
    by_cases hcomment : Emission.isComment last = true
    · rw [close_comment _ hcomment]
      simp [hcode]
    · rw [Bool.not_eq_true] at hcomment
      rw [close_code _ hcomment]
      simp [hcode]

theorem blocks_of_children {children : List (List String)} {forms : List (List Form)}
    (h : List.Forall₂ Child children forms) : List.Forall₂ Block children forms :=
  h.imp fun _ _ => Child.block

theorem isEmpty_of_children {children : List (List String)} {forms : List (List Form)}
    (h : List.Forall₂ Child children forms) : children.isEmpty = forms.isEmpty := by
  cases h <;> rfl

theorem armForm_cons_cons (a b : List Form) (rest : List (List Form)) :
    armForm (a :: b :: rest) = .list (.symbol "do" :: (a :: b :: rest).flatten) := by
  rcases a with _ | ⟨f, _ | ⟨g, more⟩⟩ <;> rfl

/-- An arm is one form, also where it has none of its own. -/
theorem Block.arm {children : List (List String)} {forms : List (List Form)}
    (h : List.Forall₂ Child children forms) : Block (Emission.arm children) [armForm forms] := by
  have hdo {cs : List (List String)} {fs : List (List Form)} (hcs : List.Forall₂ Child cs fs) :
      Block (Emission.form "(do" cs) [.list (.symbol "do" :: fs.flatten)] := by
    have hword : areReadable [.symbol "do"] = true := by decide
    exact Block.form hword (by decide) (blocks_of_children hcs)
  cases h with
  | nil => exact hdo .nil
  | cons hfirst hrest =>
    cases hrest with
    | nil =>
      cases hfirst with
      | comments hblock hall =>
        rw [Emission.arm, if_pos hall]
        exact hdo (.cons (.comments hblock hall) .nil)
      | form hblock hall =>
        rw [Emission.arm, if_neg (by simp [hall])]
        exact hblock
    | cons hsecond hmore =>
      rw [armForm_cons_cons]
      exact hdo (.cons hfirst (.cons hsecond hmore))

theorem Child.branch {c : Condition} (hc : c.isLegible = true)
    {thenLines elseLines : List (List String)} {thenForms elseForms : List (List Form)}
    (hthen : List.Forall₂ Child thenLines thenForms)
    (helse : List.Forall₂ Child elseLines elseForms) :
    Child (Emission.branchLines c thenLines elseLines) [branchForm c thenForms elseForms] := by
  have htest := isReadable_test hc
  have hhead (word : String) (hword : (Form.symbol word).isReadable = true) :
      areReadable [.symbol word, c.test.form] = true := by
    simp only [areReadable, hword, htest, Bool.and_true]
  unfold Emission.branchLines branchForm
  dsimp only
  rw [isEmpty_of_children hthen, isEmpty_of_children helse]
  split
  · refine .form (Block.form (hhead "when" (by decide)) ?_ (blocks_of_children hthen)) ?_
    · simp [conditionForm_write, writeAll, Form.write]
    · exact all_isComment_form (by simp) _
  split
  · refine .form (Block.form (hhead "when-not" (by decide)) ?_ (blocks_of_children helse)) ?_
    · simp [conditionForm_write, writeAll, Form.write]
    · exact all_isComment_form (by simp) _
  · refine .form (Block.form (hhead "if" (by decide)) ?_
      (.cons (.arm hthen) (.cons (.arm helse) .nil))) ?_
    · simp [conditionForm_write, writeAll, Form.write]
    · exact all_isComment_form (by simp) _

end Script

mutual

theorem Intent.child (i : Intent) (hi : i.isLegible = true) :
    Child (Emission.intentLines i) i.forms := by
  match i with
  | .act action _ =>
    have haction := isReadable_action hi
    refine .form (Block.ofWrite haction (actionForm_write action)) ?_
    have hround : (Emission.actionForm action).toList.head? = some '(' := by
      rw [actionForm_write, Call.form, Form.write, List.head?_cons]
    rw [Emission.intentLines, List.all_cons, isComment_of_round hround, Bool.false_and]
  | .gap g _ =>
    have hlines {line : String} (h : line ∈ Emission.gapLines g) : CommentLine line :=
      commentLine_gapLines hi h
    refine .comments (Block.ofComments fun line h => hlines h) ?_
    exact List.all_eq_true.mpr fun line h => isComment_of_commentLine (hlines h)
  | .branch condition thenArm elseArm _ _ =>
    rw [Intent.isLegible, Bool.and_eq_true, Bool.and_eq_true] at hi
    exact Child.branch hi.1.1 (children thenArm hi.1.2) (children elseArm hi.2)

theorem children (is : List Intent) (h : areLegible is = true) :
    List.Forall₂ Child (Emission.intentsLines is) (intentsForms is) := by
  match is with
  | [] => exact .nil
  | i :: rest =>
    rw [areLegible, Bool.and_eq_true] at h
    exact .cons (i.child h.1) (children rest h.2)

end

end FormScript
