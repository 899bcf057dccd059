import FormScript.Proofs.Source.Reading

/-! What a line can be is decided by the word it starts with: a line that starts with one word starts
with no other, unless one of the two is the beginning of the other. -/
namespace FormScript.Source

open Text

theorem isWhole_iff {rest : Option Line} : isWhole rest = true ↔ rest = some [] :=
  beq_iff_eq

def apart (word other : String) : Bool :=
  !word.toList.isPrefixOf other.toList && !other.toList.isPrefixOf word.toList

theorem after_apart {word other : String} {line rest : Line} (h : after word line = some rest)
    (hapart : apart word other = true) : after other line = none := by
  unfold after at h ⊢
  unfold apart at hapart
  generalize word.toList = ws at h hapart
  generalize other.toList = vs at hapart ⊢
  induction ws generalizing vs line with
  | nil => simp at hapart
  | cons w ws ih =>
    cases vs with
    | nil => simp at hapart
    | cons v vs =>
      cases line with
      | nil => rfl
      | cons c line =>
        rw [afterChars] at h ⊢
        split at h
        · rename_i hc
          split
          · rename_i hv
            exact ih h vs (by simpa [← hc, ← hv] using hapart)
          · rfl
        · contradiction

theorem afterAny_apart {word : String} {others : List String} {line rest : Line}
    (h : after word line = some rest) (hapart : others.all (apart word) = true) :
    afterAny others line = none :=
  List.findSome?_eq_none_iff.mpr fun other hother =>
    after_apart h (List.all_eq_true.mp hapart other hother)

def boundaryWords : List String :=
  ["end", "else", "elseif", "dim", "const", "static"]

theorem shape_of_word {word : String} {line rest : Line} (h : after word line = some rest)
    (hapart : boundaryWords.all (apart word) = true) :
    shape line =
      match untilThen? "if" line with
      | some condition => .ifBlock condition
      | none => (ifLine? line).getD .plain := by
  have hnone : ∀ other ∈ boundaryWords, after other line = none := fun other hother =>
    after_apart h (List.all_eq_true.mp hapart other hother)
  have hsub : isEndSub line = false := by
    rw [isEndSub, hnone "end" (by decide)]
    rfl
  have hif : isEndIf line = false := by
    rw [isEndIf, hnone "end" (by decide)]
    rfl
  have helse : isElse line = false := by
    rw [isElse, hnone "else" (by decide)]
    rfl
  have helseIf : untilThen? "elseif" line = none := by
    rw [untilThen?, hnone "elseif" (by decide)]
    rfl
  have hdeclaration : isDeclaration line = false := by
    rw [isDeclaration, afterAny_apart h (by simp_all [boundaryWords])]
    rfl
  simp only [shape, hsub, hif, helse, helseIf, hdeclaration, Option.isSome_none,
    Bool.false_eq_true, if_false]
  cases untilThen? "if" line <;> rfl

theorem shape_of_opens {line condition : Line} (h : untilThen? "if" line = some condition) :
    shape line = .ifBlock condition := by
  obtain ⟨cs, hif, -⟩ := Option.bind_eq_some_iff.mp h
  rw [shape_of_word hif (by decide), h]

theorem shape_of_statementWord {word : String} {line rest : Line} (h : after word line = some rest)
    (hapart : ("if" :: boundaryWords).all (apart word) = true) : shape line = .plain := by
  rw [List.all_cons, Bool.and_eq_true] at hapart
  have hif : after "if" line = none := after_apart h hapart.1
  have hopens : untilThen? "if" line = none := by
    rw [untilThen?, hif]
    rfl
  have hline : ifLine? line = none := by
    rw [ifLine?, hif]
    rfl
  rw [shape_of_word h hapart.2, hopens, hline]
  rfl

def headerWords : List String :=
  ["public", "private", "friend", "static", "sub", "function"]

theorem header?_of_word {word : String} {line rest : Line} (h : after word line = some rest)
    (hapart : headerWords.all (apart word) = true) : header? line = none := by
  have hscope : afterAny ["public", "private", "friend"] line = none :=
    afterAny_apart h (by simp_all [headerWords])
  have hstatic : after "static" line = none :=
    after_apart h (List.all_eq_true.mp hapart "static" (by decide))
  have hkind : afterAny ["sub", "function"] line = none :=
    afterAny_apart h (by simp_all [headerWords])
  simp only [header?, optionally, hscope, hstatic, hkind, Option.bind_none, Option.getD_none]
  rfl

/-- The forms that a statement has, each with what is read of it. -/
inductive Form (line : Line) : Item → Prop
  | exit (h : isExit line = true) : Form line (.exit line)
  | focus (h : isFocus line = true) : Form line (.focus line)
  | cancel (h : isCancel line = true) : Form line (.cancel line)
  | save (h : isSave line = true) : Form line (.ofAction .saveRecord)
  | message {text : List Char} (h : message? line = some text) :
    Form line (.ofAction (.showMessage (String.ofList text)))
  | opened {name : List Char} (h : openedForm? line = some name) :
    Form line (.ofAction (.openForm (String.ofList name)))
  | close (h : isClose line = true) : Form line (.ofAction .closeForm)
  | requery (h : isRequery line = true) : Form line (.ofAction .requery)
  | property {a : Action} (h : property? line = some a) : Form line (.ofAction a)
  | value {a : Action} (h : setValue? line = some a) : Form line (.ofAction a)

theorem form_of_statement? {line : Line} {item : Item} (h : statement? line = some item) :
    Form line item := by
  unfold statement? at h
  split at h
  · cases h
    exact .exit ‹_›
  split at h
  · cases h
    exact .focus ‹_›
  split at h
  · cases h
    exact .cancel ‹_›
  split at h
  · cases h
    exact .save ‹_›
  split at h
  · cases h
    exact .message ‹_›
  split at h
  · cases h
    exact .opened ‹_›
  split at h
  · cases h
    exact .close ‹_›
  split at h
  · cases h
    exact .requery ‹_›
  split at h
  · cases h
    exact .property ‹_›
  · obtain ⟨a, ha, rfl⟩ := Option.map_eq_some_iff.mp h
    exact .value ha

theorem afterChars_append_word (ws vs : List Char) (cs : Line) :
    afterChars (ws ++ vs) cs = (afterChars ws cs).bind (afterChars vs) := by
  induction ws generalizing cs with
  | nil => rfl
  | cons w ws ih =>
    cases cs with
    | nil => rfl
    | cons c cs =>
      rw [List.cons_append, afterChars, afterChars]
      split
      · exact ih cs
      · rfl

theorem exists_after_of_append {word : String} (start rest : String) {line tail : Line}
    (h : after word line = some tail) (hword : word.toList = start.toList ++ rest.toList) :
    ∃ cs, after start line = some cs := by
  rw [after, hword, afterChars_append_word] at h
  obtain ⟨cs, hcs, -⟩ := Option.bind_eq_some_iff.mp h
  exact ⟨cs, hcs⟩

def statementWords : List String :=
  ["exit", "cancel", "runcommand", "docmd.runcommand", "docmd.save", "docmd.openform",
   "docmd.close", "docmd.requery", "msgbox", "me"]

theorem me_of_member? {line rest : Line} {name : List Char} (h : member? line = some (name, rest)) :
    ∃ cs, after "me" line = some cs := by
  obtain ⟨cs, hstart, -⟩ := Option.bind_eq_some_iff.mp h
  obtain ⟨word, hword, hafter⟩ := List.exists_of_findSome?_eq_some hstart
  rcases List.mem_cons.mp hword with rfl | hword
  · exact exists_after_of_append "me" "." hafter rfl
  · cases List.mem_singleton.mp hword
    exact exists_after_of_append "me" "!" hafter rfl

theorem word_of_isSave {line : Line} (h : isSave line = true) :
    (∃ rest, after "runcommand" line = some rest) ∨
      (∃ rest, after "docmd.runcommand" line = some rest) ∨
      (after "docmd.save" line).any atWordEnd = true ∨
      ∃ rest, after "me.dirty" line = some rest ∧
        (afterEquals rest).bind (after "false") = some [] := by
  simp only [isSave, Bool.or_eq_true, isWhole_iff, Option.bind_assoc] at h
  rcases h with (hcommand | hsave) | hdirty
  · obtain ⟨rest, hrest, -⟩ := Option.bind_eq_some_iff.mp hcommand
    cases hdocmd : after "docmd." line with
    | none =>
      rw [optionally, hdocmd] at hrest
      exact Or.inl ⟨rest, hrest⟩
    | some behind =>
      rw [optionally, hdocmd] at hrest
      refine Or.inr (Or.inl ⟨rest, ?_⟩)
      have happend := afterChars_append_word "docmd.".toList "runcommand".toList line
      exact happend.trans (Option.bind_eq_some_iff.mpr ⟨behind, hdocmd, hrest⟩)
  · exact Or.inr (Or.inr (Or.inl hsave))
  · exact Or.inr (Or.inr (Or.inr (Option.bind_eq_some_iff.mp hdirty)))

theorem word_of_form {line : Line} {item : Item} (h : Form line item) :
    ∃ word ∈ statementWords, ∃ rest, after word line = some rest := by
  have hwhole {word : String} {piece : Line → Option Line}
      (hpiece : isWhole ((after word line).bind piece) = true) :
      ∃ rest, after word line = some rest := by
    obtain ⟨rest, hrest, -⟩ := Option.bind_eq_some_iff.mp (isWhole_iff.mp hpiece)
    exact ⟨rest, hrest⟩
  cases h with
  | exit h =>
    rw [isExit, Option.bind_assoc] at h
    exact ⟨"exit", by decide, hwhole h⟩
  | focus h =>
    obtain ⟨found, hmember, -⟩ := Option.bind_eq_some_iff.mp (isWhole_iff.mp h)
    exact ⟨"me", by decide, me_of_member? hmember⟩
  | cancel h =>
    rw [isCancel, Option.bind_assoc] at h
    exact ⟨"cancel", by decide, hwhole h⟩
  | save h =>
    rcases word_of_isSave h with hword | hword | hword | ⟨rest, hword, -⟩
    · exact ⟨"runcommand", by decide, hword⟩
    · exact ⟨"docmd.runcommand", by decide, hword⟩
    · obtain ⟨rest, hrest, -⟩ := (Option.any_eq_true _ _).mp hword
      exact ⟨"docmd.save", by decide, rest, hrest⟩
    · exact ⟨"me", by decide, exists_after_of_append "me" ".dirty" hword rfl⟩
  | message h =>
    rw [message?, Option.bind_assoc] at h
    obtain ⟨rest, hrest, -⟩ := Option.bind_eq_some_iff.mp h
    exact ⟨"msgbox", by decide, rest, hrest⟩
  | opened h =>
    rw [openedForm?, Option.bind_eq_bind, Option.bind_assoc] at h
    obtain ⟨rest, hrest, -⟩ := Option.bind_eq_some_iff.mp h
    exact ⟨"docmd.openform", by decide, rest, hrest⟩
  | close h =>
    obtain ⟨rest, hrest, -⟩ := (Option.any_eq_true _ _).mp h
    exact ⟨"docmd.close", by decide, rest, hrest⟩
  | requery h =>
    obtain ⟨word, hword, hafter⟩ := List.exists_of_findSome?_eq_some (isWhole_iff.mp h)
    rcases List.mem_cons.mp hword with rfl | hword
    · exact ⟨"me", by decide, exists_after_of_append "me" ".requery" hafter rfl⟩
    · cases List.mem_singleton.mp hword
      exact ⟨"docmd.requery", by decide, [], hafter⟩
  | property h =>
    obtain ⟨found, hmember, -⟩ := Option.bind_eq_some_iff.mp h
    exact ⟨"me", by decide, me_of_member? hmember⟩
  | value h =>
    obtain ⟨found, hassign, -⟩ := Option.bind_eq_some_iff.mp h
    obtain ⟨member, hmember, -⟩ := Option.bind_eq_some_iff.mp hassign
    exact ⟨"me", by decide, me_of_member? hmember⟩

/-- A statement is none of the lines that structure a procedure, and it opens none. -/
theorem plain_of_form {line : Line} {item : Item} (h : Form line item) :
    shape line = .plain ∧ header? line = none := by
  obtain ⟨word, hword, rest, hrest⟩ := word_of_form h
  have hboundary : statementWords.all fun word => ("if" :: boundaryWords).all (apart word) := by
    decide
  have hheader : statementWords.all fun word => headerWords.all (apart word) := by decide
  exact ⟨shape_of_statementWord hrest (List.all_eq_true.mp hboundary word hword),
    header?_of_word hrest (List.all_eq_true.mp hheader word hword)⟩

end FormScript.Source
