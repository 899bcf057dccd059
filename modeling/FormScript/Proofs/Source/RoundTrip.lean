import FormScript.Proofs.Source.Reading
import FormScript.Proofs.Source.Statements

/-! Recognition undoes writing: the written form of procedures is recognized as those procedures.
Conditionals may be nested to any depth and have any arms, and texts may hold anything but a line
feed. -/
namespace FormScript.Source

open Text

theorem conditional_otherwise (line condition : Line) {lines mid rest : List Line}
    {thenItems elseItems : List Item} {last last' : Line}
    (hthen : (block lines).val = (thenItems, last :: mid)) (hlast : shape last = .otherwise)
    (helse : (block mid).val = (elseItems, last' :: rest)) (hlast' : shape last' = .endIf) :
    (conditional line condition lines).val =
      (buildBranch line condition thenItems elseItems, rest) := by
  rw [conditional]
  split
  rename_i heq
  rw [heq] at hthen
  cases hthen
  simp only [hlast]
  have hitems : (block mid).val.1 = elseItems := congrArg Prod.fst helse
  have hafter : (block mid).val.2 = last' :: rest := congrArg Prod.snd helse
  split
  · rename_i hnil _
    exact absurd (hafter.symm.trans hnil) (List.cons_ne_nil _ _)
  · rename_i hcons _
    cases hafter.symm.trans hcons
    simp only [hlast']
    exact congrArg (fun items => (buildBranch line condition thenItems items, rest)) hitems

theorem validation?_eq_none {c : Condition} {thenItems elseItems : List Item}
    (h : thenItems.any Item.stops = false) : validation? c thenItems elseItems = none := by
  unfold validation?
  split
  · rw [h, if_neg Bool.false_ne_true]
  · rfl

theorem any_stops_intents (is : List Intent) : (is.map Item.intent).any Item.stops = false := by
  rw [List.any_map]
  exact List.any_eq_false.mpr fun i _ => Bool.false_ne_true

theorem map_toIntent_intents (is : List Intent) : (is.map Item.intent).map Item.toIntent = is := by
  rw [List.map_map]
  exact List.map_id is

theorem buildBranch_intents {c : Condition} (h : isPrintableCondition c = true) (line : Line)
    (thenArm elseArm : List Intent) :
    buildBranch line (' ' :: (conditionText c ++ [' '])) (thenArm.map .intent)
      (elseArm.map .intent) = .intent (.branch c thenArm elseArm none none) := by
  simp only [buildBranch, condition?_conditionText h, validation?_eq_none (any_stops_intents thenArm),
    Option.getD_none, map_toIntent_intents]

theorem buildBranch_validateRequired {field : String} (h : isFieldName field = true)
    (line exitLine : Line) (message : String) :
    buildBranch line (' ' :: (conditionText (.fieldBlank field) ++ [' ']))
      [.ofAction (.showMessage message), .exit exitLine] [] =
      .ofAction (.validateRequired field message) := by
  simp only [buildBranch, condition?_conditionText (c := .fieldBlank field) h]
  rfl

theorem block_statement {line : Line} {item : Item} (hshape : shape line = .plain)
    (hitem : statement? line = some item) (rest : List Line) :
    (block (line :: rest)).val = (item :: (block rest).val.1, (block rest).val.2) := by
  rw [block_plain rest hshape, statement, hitem, Option.getD_some]

theorem block_validateRequired {field message : String} (h : isFieldName field = true)
    (rest : List Line) :
    (block (actionLines (.validateRequired field message) ++ rest)).val =
      (.ofAction (.validateRequired field message) :: (block rest).val.1, (block rest).val.2) := by
  have harm : (block (messageBox message :: "Exit Sub".toList :: endIf :: rest)).val =
      ([.ofAction (.showMessage message), .exit "Exit Sub".toList], endIf :: rest) := by
    have hexit : statement? "Exit Sub".toList = some (.exit "Exit Sub".toList) := rfl
    rw [block_statement rfl (statement?_messageBox message), block_statement rfl hexit,
      block_of_endsBlock rest rfl]
  have hbranch := conditional_endIf (ifThen (.fieldBlank field))
    (' ' :: (conditionText (.fieldBlank field) ++ [' '])) harm rfl
  rw [buildBranch_validateRequired h] at hbranch
  exact block_of_conditional (shape_ifThen _) hbranch

theorem block_actionLines {a : Action} (h : isPrintableAction a = true) (rest : List Line) :
    (block (actionLines a ++ rest)).val =
      (.ofAction a :: (block rest).val.1, (block rest).val.2) := by
  cases a with
  | validateRequired field message =>
    rw [isPrintableAction, Bool.and_eq_true] at h
    exact block_validateRequired h.1 rest
  | saveRecord => exact block_statement rfl rfl rest
  | showMessage message => exact block_statement rfl (statement?_messageBox message) rest
  | setValue field value =>
    rw [isPrintableAction, Bool.and_eq_true] at h
    exact block_statement rfl (statement?_assignmentTo h.1 value) rest
  | setEnabled control value => exact block_statement rfl (statement?_setEnabled h value) rest
  | setVisible control value => exact block_statement rfl (statement?_setVisible h value) rest
  | openForm form =>
    simp only [isPrintableAction, Bool.and_eq_true, Bool.not_eq_true'] at h
    exact block_statement rfl (statement?_openForm h.1.2 h.2) rest
  | closeForm => exact block_statement rfl rfl rest
  | requery => exact block_statement rfl rfl rest

theorem intentLines_oneArm (c : Condition) (thenArm : List Intent) (mapping : Option Mapping)
    (mark : Option Mark) (rest : List Line) :
    intentLines (.branch c thenArm [] mapping mark) ++ rest =
      ifThen c :: (intentsLines thenArm ++ endIf :: rest) := by
  simp [intentLines]

theorem intentLines_twoArms (c : Condition) (thenArm : List Intent) {elseArm : List Intent}
    (h : elseArm ≠ []) (mapping : Option Mapping) (mark : Option Mark) (rest : List Line) :
    intentLines (.branch c thenArm elseArm mapping mark) ++ rest =
      ifThen c :: (intentsLines thenArm ++
        "Else".toList :: (intentsLines elseArm ++ endIf :: rest)) := by
  simp [intentLines, h]

mutual

/-- Whatever follows an intent, the block that starts with its lines starts with it. -/
theorem block_intentLines {i : Intent} (h : isPrintableIntent i = true) (rest : List Line) :
    (block (intentLines i ++ rest)).val =
      (.intent i :: (block rest).val.1, (block rest).val.2) := by
  match i with
  | .act a mark =>
    rw [isPrintableIntent, Bool.and_eq_true, Option.isNone_iff_eq_none] at h
    rw [intentLines, block_actionLines h.1, h.2]
    rfl
  | .gap g mark => exact absurd h Bool.false_ne_true
  | .branch c thenArm elseArm mapping mark =>
    simp only [isPrintableIntent, Bool.and_eq_true, Option.isNone_iff_eq_none] at h
    obtain ⟨⟨⟨⟨hc, hthen⟩, helse⟩, rfl⟩, rfl⟩ := h
    have hend : (block (endIf :: rest)).val = ([], endIf :: rest) := block_of_endsBlock rest rfl
    by_cases hempty : elseArm = []
    · subst hempty
      have harm := block_intentsLines hthen (endIf :: rest)
      rw [hend, List.append_nil] at harm
      have hbranch := conditional_endIf (ifThen c) (' ' :: (conditionText c ++ [' '])) harm rfl
      have hbuild := buildBranch_intents hc (ifThen c) thenArm []
      rw [List.map_nil] at hbuild
      rw [hbuild] at hbranch
      rw [intentLines_oneArm, block_of_conditional (shape_ifThen c) hbranch]
    · have harm := block_intentsLines hthen
        ("Else".toList :: (intentsLines elseArm ++ endIf :: rest))
      have harm' := block_intentsLines helse (endIf :: rest)
      rw [block_of_endsBlock _ rfl, List.append_nil] at harm
      rw [hend, List.append_nil] at harm'
      have hbranch := conditional_otherwise (ifThen c) (' ' :: (conditionText c ++ [' '])) harm rfl
        harm' rfl
      rw [buildBranch_intents hc] at hbranch
      rw [intentLines_twoArms c thenArm hempty, block_of_conditional (shape_ifThen c) hbranch]

theorem block_intentsLines {is : List Intent} (h : arePrintable is = true) (rest : List Line) :
    (block (intentsLines is ++ rest)).val =
      (is.map .intent ++ (block rest).val.1, (block rest).val.2) := by
  match is with
  | [] => rfl
  | i :: more =>
    rw [arePrintable, Bool.and_eq_true] at h
    rw [intentsLines, List.append_assoc, block_intentLines h.1, block_intentsLines h.2]
    rfl

end

theorem body_intentsLines {is : List Intent} (h : arePrintable is = true) (rest : List Line) :
    (body (intentsLines is ++ "End Sub".toList :: rest)).val = (is.map .intent, rest) := by
  have hblock := block_intentsLines h ("End Sub".toList :: rest)
  rw [block_of_endsBlock rest rfl, List.append_nil] at hblock
  rw [body]
  split
  rename_i heq
  rw [heq] at hblock
  cases hblock
  rfl

theorem bodyIntents_intents (is : List Intent) : bodyIntents (is.map .intent) = is := by
  induction is with
  | nil => rfl
  | cons i rest ih =>
    rw [List.map_cons, bodyIntents, ih]
    · rfl
    · intro line hexit
      exact absurd hexit (by simp)

theorem procedures_procedureLines {p : Procedure} (h : isPrintable p = true) (rest : List Line) :
    procedures (procedureLines p ++ rest) = p :: procedures rest := by
  simp only [isPrintable, Bool.and_eq_true, beq_iff_eq] at h
  obtain ⟨⟨hname, htrigger⟩, hintents⟩ := h
  have hbody := body_intentsLines hintents rest
  have hlines : procedureLines p ++ rest =
      ("Private Sub ".toList ++ (p.name.toList ++ "()".toList)) ::
        (intentsLines p.intents ++ "End Sub".toList :: rest) := by
    rw [procedureLines, List.cons_append, List.append_assoc, List.singleton_append]
  rw [hlines, procedures]
  simp only [header?_procedure hname]
  change ⟨_, _, bodyIntents (body _).val.1⟩ :: procedures (body _).val.2 = _
  rw [hbody, bodyIntents_intents, String.ofList_toList, ← htrigger]

theorem recognize_print {ps : List Procedure} (h : ∀ p ∈ ps, isPrintable p = true) :
    recognize (print ps) = ps := by
  rw [recognize, logicalLines_print h]
  induction ps with
  | nil => rw [List.flatMap_nil, procedures]
  | cons p ps ih =>
    rw [List.flatMap_cons, procedures_procedureLines (h p List.mem_cons_self),
      ih fun q hq => h q (List.mem_cons_of_mem p hq)]

/-- Texts that look like the source around them, fields named like properties of the form, empty
arms, and a check that is nearly one of a required field. -/
def lookalikes : Procedure where
  name := "cmdSave_Click"
  trigger := "click"
  intents :=
    [.act (.validateRequired "Dirty" "it's \"empty\" then") none,
     .branch (.confirm "Save, then close? \", vbYesNo) = vbYes Then") []
       [.branch (.fieldEquals "NewRecordId" "x \" Then ' else") [.act (.setValue "Requery" "") none]
          [] none none,
        .branch (.fieldBlank "Größe") [.act (.showMessage "\")") none] [] none none] none none,
     .branch .newRecord [] [] none none,
     .act (.setEnabled "Dirty" false) none,
     .act (.openForm "Else _") none]

theorem recognize_print_lookalikes :
    (∀ p ∈ [lookalikes, lookalikes], isPrintable p = true) ∧
      recognize (print [lookalikes, lookalikes]) = [lookalikes, lookalikes] := by
  have hprintable : ∀ p ∈ [lookalikes, lookalikes], isPrintable p = true := by
    decide +kernel
  exact ⟨hprintable, recognize_print hprintable⟩

end FormScript.Source
