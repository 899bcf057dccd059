import FormScript.Proofs.Source.Printer

/-! Every line of the written form is recognized as the statement, the condition or the boundary it
was written for. A name may start like a keyword, and a text may hold one: neither is mistaken. -/
namespace FormScript.Source

open Text

theorem isBlank_of_isWord {c : Char} (h : isWord c = true) : isBlank c = false := by
  have hblanks : ∀ n ∈ [9, 10, 11, 12, 13, 0x20, 0x85, 0xA0, 0x1680, 0x2000, 0x2001, 0x2002, 0x2003,
      0x2004, 0x2005, 0x2006, 0x2007, 0x2008, 0x2009, 0x200A, 0x2028, 0x2029, 0x202F, 0x205F,
      0x3000], isWord (Char.ofNat n) = false := by
    decide +kernel
  cases hblank : isBlank c with
  | false => rfl
  | true =>
    simp only [isBlank, Bool.or_eq_true, Bool.and_eq_true, decide_eq_true_eq, beq_iff_eq] at hblank
    have hnot := hblanks c.toNat (by simp only [List.mem_cons]; omega)
    rw [Char.ofNat_toNat, h] at hnot
    exact absurd hnot (by decide)

theorem toLower_of_not_isLower {c : Char} (h : c.toLower.isLower = false) : c.toLower = c := by
  have hupper : ∀ n ≤ 90, 65 ≤ n → (Char.ofNat n).toLower.isLower = true := by decide
  unfold Char.toLower
  rw [dif_neg]
  rintro ⟨hlow, hhigh⟩
  have hlower := hupper c.toNat (UInt32.le_iff_toNat_le.mp hhigh) (UInt32.le_iff_toNat_le.mp hlow)
  rw [Char.ofNat_toNat, h] at hlower
  contradiction

theorem eq_of_foldCase {c w : Char} (hw : w.isLower = false) (h : foldCase c = w) : c = w := by
  subst h
  unfold foldCase at hw ⊢
  split at hw
  · contradiction
  split at hw
  · contradiction
  · rename_i hs hk
    rw [if_neg hs, if_neg hk, toLower_of_not_isLower hw]

theorem optionally_after_of_ne {mark : Char} {word : String} {cs : Line}
    (hword : word.toList = [mark]) (hmark : mark.isLower = false) (h : cs.head? ≠ some mark) :
    optionally (after word) cs = cs := by
  cases cs with
  | nil => simp [optionally, after, hword, afterChars]
  | cons c cs =>
    have hne : foldCase c ≠ mark := by
      intro hfold
      exact h (congrArg some (eq_of_foldCase hmark hfold))
    simp [optionally, after, hword, afterChars, hne]

theorem afterChars_append {ws name rest : List Char}
    (h : ∀ w ∈ ws, ∀ c, rest.head? = some c → foldCase c ≠ w) :
    afterChars ws (name ++ rest) = (afterChars ws name).map (· ++ rest) := by
  induction ws generalizing name with
  | nil => rfl
  | cons w ws ih =>
    cases name with
    | nil =>
      cases rest with
      | nil => rfl
      | cons c rest => simp [afterChars, h w List.mem_cons_self c rfl]
    | cons c name =>
      by_cases hc : foldCase c = w
      · simp only [List.cons_append, afterChars, hc, if_true]
        exact ih fun v hv => h v (List.mem_cons_of_mem w hv)
      · simp [afterChars, hc]

theorem mem_of_afterChars {ws name rest : List Char} {c : Char}
    (h : afterChars ws name = some rest) (hc : c ∈ rest) : c ∈ name := by
  induction ws generalizing name with
  | nil =>
    cases h
    exact hc
  | cons w ws ih =>
    cases name with
    | nil => contradiction
    | cons d name =>
      rw [afterChars] at h
      split at h
      · exact List.mem_cons_of_mem d (ih h)
      · contradiction

theorem member?_memberName {name : String} (h : isFieldName name = true) {rest : Line}
    (hrest : rest.head?.all (fun c => !isWord c && c != ']') = true) :
    member? (memberName name ++ rest) = some (name.toList, rest) := by
  rw [isFieldName, Bool.and_eq_true, Bool.not_eq_true', List.all_eq_true] at h
  obtain ⟨hne, hname⟩ := h
  have hstop : ∀ c, rest.head? = some c → isWord c = false ∧ c ≠ ']' := by
    intro c hc
    simpa [hc] using hrest
  have hstart : afterAny ["me.", "me!"] (memberName name ++ rest) = some (name.toList ++ rest) := rfl
  have hopen : optionally (after "[") (name.toList ++ rest) = name.toList ++ rest := by
    apply optionally_after_of_ne rfl rfl
    cases hchars : name.toList with
    | nil => simp [hchars] at hne
    | cons c cs =>
      intro hhead
      have hc : c = '[' := Option.some.inj hhead
      have hword := hname c (by rw [hchars]; exact List.mem_cons_self)
      exact absurd (hc ▸ hword) (by decide)
  have htake : (name.toList ++ rest).takeWhile isWord = name.toList := by
    rw [List.takeWhile_append_of_pos hname]
    cases rest with
    | nil => rw [List.takeWhile_nil, List.append_nil]
    | cons c rest =>
      rw [List.takeWhile_cons_of_neg (by simpa using (hstop c rfl).1), List.append_nil]
  have hdrop : (name.toList ++ rest).dropWhile isWord = rest := by
    rw [List.dropWhile_append_of_pos hname]
    exact dropWhile_of_head fun c hc => (hstop c hc).1
  have hbehind : optionally (after "]") rest = rest :=
    optionally_after_of_ne rfl rfl fun hc => (hstop ']' hc).2 rfl
  simp only [member?, hstart, Option.bind_eq_bind, Option.bind_some, hopen, htake, hdrop, hne,
    hbehind, Bool.false_eq_true, if_false]
  rfl

theorem quoted?_doubled {tail : Line → Bool} {cs rest : Line} (hrest : rest.head? ≠ some '"')
    (htail : tail rest = true) : quoted? tail (doubled cs ++ '"' :: rest) = some cs := by
  induction cs with
  | nil =>
    rw [doubled, List.nil_append, quoted?, if_pos htail]
    intro more hmore
    rw [hmore] at hrest
    exact hrest rfl
  | cons c cs ih =>
    by_cases hc : c = '"'
    · rw [doubled, if_pos hc, List.cons_append, List.cons_append, quoted?, ih, hc]
    · rw [doubled, if_neg hc, List.cons_append, quoted?, ih, Option.map_some]
      · exact fun more hcons => absurd hcons hc
      · exact hc

theorem afterEquals_word {cs rest : Line} (hne : cs ≠ []) (h : ∀ c ∈ cs, isWord c = true) :
    afterEquals (cs ++ rest) = none := by
  cases cs with
  | nil => exact absurd rfl hne
  | cons c cs =>
    have hc := h c List.mem_cons_self
    have hstart : trimStart (c :: cs ++ rest) = c :: cs ++ rest := by
      apply dropWhile_of_head
      intro d hd
      cases hd
      exact isBlank_of_isWord hc
    have hequals : foldCase c ≠ '=' := by
      intro hfold
      exact absurd (eq_of_foldCase rfl hfold ▸ hc) (by decide)
    rw [afterEquals, hstart, after]
    simp [afterChars, hequals]

/-- What is assigned to a field is no keyword, also where the name of the field starts like a
property of the form itself. -/
theorem afterEquals_bind_stringLiteral (keyword value : String) {cs : Line}
    (h : ∀ c ∈ cs, isWord c = true) (hkeyword : after keyword (stringLiteral value) = none) :
    (afterEquals (cs ++ (" = ".toList ++ stringLiteral value))).bind (after keyword) = none := by
  by_cases hne : cs = []
  · subst hne
    exact hkeyword
  · rw [afterEquals_word hne h, Option.bind_none]

theorem literal?_stringLiteral (s : String) :
    literal? (' ' :: stringLiteral s) = some s.toList := by
  have htrim : trim (' ' :: stringLiteral s) = stringLiteral s := by
    change trimEnd (stringLiteral s) = stringLiteral s
    apply trimEnd_of_last
    rw [stringLiteral, ← List.cons_append, List.getLast?_concat]
    rfl
  have hopen : after "\"" (stringLiteral s) = some (doubled s.toList ++ ['"']) := rfl
  have hquoted : quoted? (·.isEmpty) (doubled s.toList ++ ['"']) = some s.toList :=
    quoted?_doubled (by decide) rfl
  simp only [literal?, htrim, hopen, Option.bind_some, hquoted]

theorem assignment?_assignmentTo {field : String} (h : isFieldName field = true) (value : String) :
    assignment? (assignmentTo field value) = some (field.toList, ' ' :: stringLiteral value) := by
  have hmember : member? (assignmentTo field value) =
      some (field.toList, " = ".toList ++ stringLiteral value) :=
    member?_memberName h rfl
  simp only [assignment?, hmember]
  rfl

structure Tail (tail : Line) : Prop where
  head : tail.head? = some ' ' ∨ tail.head? = some '.'
  focus : after ".setfocus" tail = none
  truth : ∀ cs : Line, (∀ c ∈ cs, isWord c = true) →
    (afterEquals (cs ++ tail)).bind (after "false") = none

theorem Tail.after_name {tail : Line} (h : Tail tail) (word name : String)
    (hword : word.toList.all (·.isAlpha) = true) :
    after word (name.toList ++ tail) = (after word name.toList).map (· ++ tail) := by
  apply afterChars_append
  intro w hw c hc hfold
  have halpha := List.all_eq_true.mp hword w hw
  rcases h.head with hhead | hhead
  all_goals
    rw [hhead, Option.some.injEq] at hc
    subst hc
    subst hfold
    exact absurd halpha (by decide)

theorem Tail.member? {tail : Line} (h : Tail tail) {name : String} (hname : isFieldName name = true) :
    Source.member? (memberName name ++ tail) = some (name.toList, tail) := by
  apply member?_memberName hname
  rcases h.head with hhead | hhead
  all_goals
    rw [hhead]
    rfl

theorem Tail.isSave {tail : Line} (h : Tail tail) {name : String} (hname : isFieldName name = true) :
    Source.isSave (memberName name ++ tail) = false := by
  have hdirty : ((after "me.dirty" (memberName name ++ tail)).bind afterEquals).bind
      (after "false") = none := by
    have hafter : after "me.dirty" (memberName name ++ tail) =
        (after "dirty" name.toList).map (· ++ tail) :=
      h.after_name "dirty" name (by decide)
    rw [hafter]
    cases hrest : after "dirty" name.toList with
    | none => rfl
    | some rest =>
      apply h.truth rest
      intro c hc
      rw [isFieldName, Bool.and_eq_true, List.all_eq_true] at hname
      exact hname.2 c (mem_of_afterChars hrest hc)
  have hcommand : after "runcommand" (optionally (after "docmd.") (memberName name ++ tail)) = none :=
    rfl
  have hsave : after "docmd.save" (memberName name ++ tail) = none := rfl
  rw [Source.isSave, hcommand, hsave, hdirty]
  rfl

theorem Tail.isRequery {tail : Line} (h : Tail tail) (name : String) :
    Source.isRequery (memberName name ++ tail) = false := by
  have hafter : after "me.requery" (memberName name ++ tail) =
      (after "requery" name.toList).map (· ++ tail) :=
    h.after_name "requery" name (by decide)
  have hother : after "docmd.requery" (memberName name ++ tail) = none := rfl
  simp only [Source.isRequery, afterAny, List.findSome?_cons, hafter, hother, List.findSome?_nil]
  cases hrest : after "requery" name.toList with
  | none => rfl
  | some rest =>
    have hne : tail ≠ [] := by
      rintro rfl
      exact absurd h.head (by decide)
    simp [isWhole, hne]

theorem Tail.statement? {tail : Line} (h : Tail tail) {name : String}
    (hname : isFieldName name = true) :
    Source.statement? (memberName name ++ tail) =
      ((property? (memberName name ++ tail)).or (setValue? (memberName name ++ tail))).map
        Item.ofAction := by
  have hexit : isExit (memberName name ++ tail) = false := rfl
  have hfocus : isFocus (memberName name ++ tail) = false := by
    simp only [isFocus, h.member? hname, Option.bind_some, h.focus]
    rfl
  have hcancel : isCancel (memberName name ++ tail) = false := rfl
  have hmessage : message? (memberName name ++ tail) = none := rfl
  have hopened : openedForm? (memberName name ++ tail) = none := rfl
  have hclose : isClose (memberName name ++ tail) = false := rfl
  simp only [Source.statement?, hexit, hfocus, hcancel, h.isSave hname, hmessage, hopened, hclose,
    h.isRequery name, Bool.false_eq_true, if_false]
  cases property? (memberName name ++ tail) <;> rfl

theorem tail_stringLiteral (value : String) : Tail (" = ".toList ++ stringLiteral value) :=
  ⟨Or.inl rfl, rfl, fun _ hcs => afterEquals_bind_stringLiteral "false" value hcs rfl⟩

theorem afterEquals_property {cs tail : Line} (htail : tail.head? = some '.')
    (h : ∀ c ∈ cs, isWord c = true) : afterEquals (cs ++ tail) = none := by
  by_cases hne : cs = []
  · subst hne
    cases tail with
    | nil => cases htail
    | cons c tail =>
      cases htail
      rfl
  · exact afterEquals_word hne h

theorem tail_property (property : String) (hhead : property.toList.head? = some '.')
    (hfocus : ∀ rest, after ".setfocus" (property.toList ++ rest) = none) (value : Bool) :
    Tail (property.toList ++ truthText value) := by
  have hdot : (property.toList ++ truthText value).head? = some '.' := by
    rw [List.head?_append, hhead, Option.some_or]
  refine ⟨Or.inr hdot, hfocus _, ?_⟩
  intro cs hcs
  rw [afterEquals_property hdot hcs, Option.bind_none]

theorem statement?_assignmentTo {field : String} (h : isFieldName field = true) (value : String) :
    statement? (assignmentTo field value) = some (.ofAction (.setValue field value)) := by
  have htail := tail_stringLiteral value
  have hproperty : property? (assignmentTo field value) = none := by
    simp only [property?, assignmentTo, htail.member? h]
    rfl
  have hset : setValue? (assignmentTo field value) = some (.setValue field value) := by
    simp only [setValue?, assignment?_assignmentTo h, literal?_stringLiteral, Option.bind_eq_bind,
      Option.bind_some, String.ofList_toList]
    rfl
  unfold assignmentTo at hproperty hset ⊢
  rw [htail.statement? h, hproperty, hset]
  rfl

theorem Tail.statement?_property {tail : Line} (h : Tail tail) {name : String}
    (hname : isFieldName name = true) {a : Action}
    (ha : property? (memberName name ++ tail) = some a) :
    Source.statement? (memberName name ++ tail) = some (.ofAction a) := by
  rw [h.statement? hname, ha]
  rfl

theorem statement?_setEnabled {control : String} (h : isFieldName control = true) (value : Bool) :
    statement? (memberName control ++ (".Enabled".toList ++ truthText value)) =
      some (.ofAction (.setEnabled control value)) := by
  have htail := tail_property ".Enabled" rfl (fun _ => rfl) value
  apply htail.statement?_property h
  simp only [property?, htail.member? h, Option.bind_eq_bind, Option.bind_some,
    String.ofList_toList]
  cases value <;> rfl

theorem statement?_setVisible {control : String} (h : isFieldName control = true) (value : Bool) :
    statement? (memberName control ++ (".Visible".toList ++ truthText value)) =
      some (.ofAction (.setVisible control value)) := by
  have htail := tail_property ".Visible" rfl (fun _ => rfl) value
  apply htail.statement?_property h
  simp only [property?, htail.member? h, Option.bind_eq_bind, Option.bind_some,
    String.ofList_toList]
  cases value <;> rfl

theorem statement?_messageBox (message : String) :
    statement? (messageBox message) = some (.ofAction (.showMessage message)) := by
  have hexit : isExit (messageBox message) = false := rfl
  have hfocus : isFocus (messageBox message) = false := rfl
  have hcancel : isCancel (messageBox message) = false := rfl
  have hsave : isSave (messageBox message) = false := rfl
  have hquote : (after "msgbox" (messageBox message)).bind afterQuote =
      some (doubled message.toList ++ ['"']) := rfl
  have hmessage : message? (messageBox message) = some message.toList := by
    rw [message?, hquote, Option.bind_some]
    exact quoted?_doubled (by decide) rfl
  simp only [statement?, hexit, hfocus, hcancel, hsave, hmessage, Bool.false_eq_true, if_false,
    String.ofList_toList]

theorem doubled_of_all {cs : List Char} (h : cs.all (· != '"') = true) : doubled cs = cs := by
  induction cs with
  | nil => rfl
  | cons c cs ih =>
    rw [List.all_cons, Bool.and_eq_true, bne_iff_ne] at h
    rw [doubled, if_neg h.1, ih h.2]

theorem statement?_openForm {form : String} (hquote : form.toList.all (· != '"') = true)
    (hne : form.toList.isEmpty = false) :
    statement? ("DoCmd.OpenForm ".toList ++ stringLiteral form) =
      some (.ofAction (.openForm form)) := by
  have hstart : (after "docmd.openform" ("DoCmd.OpenForm ".toList ++ stringLiteral form)).bind
      afterQuote = some (form.toList ++ ['"']) := by
    rw [stringLiteral, doubled_of_all hquote]
    rfl
  have htake : (form.toList ++ ['"']).takeWhile (· != '"') = form.toList := by
    rw [List.takeWhile_append_of_pos (List.all_eq_true.mp hquote)]
    exact List.append_nil _
  have hlength : (form.toList.length == (form.toList ++ ['"']).length) = false := by
    simp
  have hform : openedForm? ("DoCmd.OpenForm ".toList ++ stringLiteral form) = some form.toList := by
    simp only [openedForm?, hstart, Option.bind_eq_bind, Option.bind_some, htake, hne, hlength,
      Bool.or_false, Bool.false_eq_true, if_false]
    rfl
  have hexit : isExit ("DoCmd.OpenForm ".toList ++ stringLiteral form) = false := rfl
  have hfocus : isFocus ("DoCmd.OpenForm ".toList ++ stringLiteral form) = false := rfl
  have hcancel : isCancel ("DoCmd.OpenForm ".toList ++ stringLiteral form) = false := rfl
  have hsave : isSave ("DoCmd.OpenForm ".toList ++ stringLiteral form) = false := rfl
  have hmessage : message? ("DoCmd.OpenForm ".toList ++ stringLiteral form) = none := rfl
  simp only [statement?, hexit, hfocus, hcancel, hsave, hmessage, hform, Bool.false_eq_true,
    if_false, String.ofList_toList]

theorem trim_between {cs : Line} (hhead : cs.head?.any (!isBlank ·) = true)
    (hlast : cs.getLast?.any (!isBlank ·) = true) : trim (' ' :: (cs ++ [' '])) = cs := by
  have hstart : trimStart (cs ++ [' ']) = cs ++ [' '] := by
    apply trimStart_of_head
    cases cs with
    | nil => contradiction
    | cons c cs => exact hhead
  have hend : trimEnd (cs ++ [' ']) = trimEnd cs := by
    rw [trimEnd, List.reverse_append]
    rfl
  calc trim (' ' :: (cs ++ [' '])) = trimEnd (trimStart (cs ++ [' '])) := rfl
    _ = trimEnd cs := by rw [hstart, hend]
    _ = cs := trimEnd_of_last hlast

theorem isBlank_of_closesLine {cs : Line} (h : cs.getLast?.any closesLine = true) :
    cs.getLast?.any (!isBlank ·) = true := by
  obtain ⟨d, hlast, hd⟩ := (Option.any_eq_true _ _).mp h
  rw [closesLine, Bool.and_eq_true] at hd
  rw [hlast, Option.any_some, hd.1]

theorem trim_conditionText (c : Condition) :
    trim (' ' :: (conditionText c ++ [' '])) = conditionText c := by
  apply trim_between
  · cases c <;> rfl
  · apply isBlank_of_closesLine
    cases c with
    | fieldBlank field => exact closes_append _ (closes_append _ (by decide))
    | fieldEquals field value =>
      exact closes_append _ (closes_append _ (closes_stringLiteral value))
    | confirm message => exact closes_append _ (closes_append _ (by decide))
    | newRecord => decide

theorem nullTest?_fieldBlank {field : String} (h : isFieldName field = true) :
    nullTest? (conditionText (.fieldBlank field)) = some field.toList := by
  have hstart : after "isnull(" (conditionText (.fieldBlank field)) =
      some (memberName field ++ ")".toList) := rfl
  have htrim : trimStart (memberName field ++ ")".toList) = memberName field ++ ")".toList := rfl
  have hmember : member? (memberName field ++ ")".toList) = some (field.toList, ")".toList) :=
    member?_memberName h rfl
  simp only [nullTest?, hstart, Option.bind_eq_bind, Option.bind_some, htrim, hmember]
  rfl

theorem isNewRecord_assignmentTo {field : String} (h : isFieldName field = true) (value : String) :
    isNewRecord (assignmentTo field value) = false := by
  have hafter : after "me.newrecord" (assignmentTo field value) =
      (after "newrecord" field.toList).map (· ++ (" = ".toList ++ stringLiteral value)) :=
    (tail_stringLiteral value).after_name "newrecord" field (by decide)
  rw [isNewRecord, hafter]
  cases hrest : after "newrecord" field.toList with
  | none => rfl
  | some rest =>
    have hword : ∀ c ∈ rest, isWord c = true := by
      intro c hc
      rw [isFieldName, Bool.and_eq_true, List.all_eq_true] at h
      exact h.2 c (mem_of_afterChars hrest hc)
    have htrue := afterEquals_bind_stringLiteral "true" value hword rfl
    have hne : (rest ++ (" = ".toList ++ stringLiteral value)).isEmpty = false := by
      cases rest <;> rfl
    rw [Option.map_some, Option.any_some, htrue, hne]
    rfl

theorem comparison?_assignmentTo {field value : String} (hfield : isFieldName field = true)
    (hvalue : value.toList.isEmpty = false) :
    comparison? (assignmentTo field value) = some (.fieldEquals field value) := by
  simp only [comparison?, assignment?_assignmentTo hfield, Option.bind_eq_bind, Option.bind_some,
    literal?_stringLiteral, hvalue, String.ofList_toList, Bool.false_eq_true, if_false]
  rfl

theorem confirm?_confirm (message : String) :
    confirm? (conditionText (.confirm message)) = some message.toList := by
  have hquoted : quoted? endsConfirm
      (doubled message.toList ++ '"' :: ", vbYesNo) = vbYes".toList) = some message.toList :=
    quoted?_doubled (by decide) (by decide)
  have htext : stringLiteral message ++ ", vbYesNo) = vbYes".toList =
      '"' :: (doubled message.toList ++ '"' :: ", vbYesNo) = vbYes".toList) := by
    rw [stringLiteral, List.cons_append, List.append_assoc, List.singleton_append]
  have hword : after "msgbox" (conditionText (.confirm message)) =
      some ('(' :: (stringLiteral message ++ ", vbYesNo) = vbYes".toList)) := rfl
  have hopen : ∀ cs, after "(" (trimStart ('(' :: cs)) = some cs := fun _ => rfl
  have hquote : ∀ cs, after "\"" (trimStart ('"' :: cs)) = some cs := fun _ => rfl
  rw [confirm?, hword]
  simp only [Option.bind_eq_bind, Option.bind_some, hopen, htext, hquote, hquoted]

theorem condition?_conditionText {c : Condition} (h : isPrintableCondition c = true) :
    condition? (' ' :: (conditionText c ++ [' '])) = some c := by
  rw [condition?, trim_conditionText]
  cases c with
  | fieldBlank field => simp only [nullTest?_fieldBlank h, Option.some_or, String.ofList_toList]
  | fieldEquals field value =>
    simp only [isPrintableCondition, Bool.and_eq_true, Bool.not_eq_true'] at h
    obtain ⟨⟨hfield, -⟩, hvalue⟩ := h
    have hnull : nullTest? (conditionText (.fieldEquals field value)) = none := rfl
    have hempty : emptyTest? (conditionText (.fieldEquals field value)) = none := rfl
    have hconfirm : confirm? (conditionText (.fieldEquals field value)) = none := rfl
    have hnew : isNewRecord (conditionText (.fieldEquals field value)) = false :=
      isNewRecord_assignmentTo hfield value
    have hcompare := comparison?_assignmentTo hfield hvalue
    simp only [hnull, hempty, Option.or_none, hconfirm, hnew, Bool.false_eq_true, if_false]
    exact hcompare
  | confirm message =>
    have hnull : nullTest? (conditionText (.confirm message)) = none := rfl
    have hempty : emptyTest? (conditionText (.confirm message)) = none := rfl
    simp only [hnull, hempty, Option.or_none, confirm?_confirm, String.ofList_toList]
  | newRecord => rfl

theorem untilThen?_eq {opening : String} {line between : Line}
    (hline : after opening line = some (between ++ "Then".toList)) (hlength : 3 ≤ between.length)
    (hhead : between.head?.any isBlank = true) (hlast : between.getLast?.any isBlank = true) :
    untilThen? opening line = some between := by
  have hcut : (between ++ "Then".toList).length - 4 = between.length := by
    rw [List.length_append]
    exact Nat.add_sub_cancel _ 4
  have hthen : isWhole (after "then" "Then".toList) = true := by decide
  simp only [untilThen?, hline, Option.bind_eq_bind, Option.bind_some, hcut, List.take_left',
    List.drop_left', hthen, hlength, hhead, hlast, decide_true, Bool.and_true, if_true]
  rfl

theorem shape_ifThen (c : Condition) :
    shape (ifThen c) = .ifBlock (' ' :: (conditionText c ++ [' '])) := by
  have hline : after "if" (ifThen c) =
      some ((' ' :: (conditionText c ++ [' '])) ++ "Then".toList) := by
    have hspace : conditionText c ++ " Then".toList = conditionText c ++ [' '] ++ "Then".toList := by
      rw [List.append_assoc]
      rfl
    rw [ifThen, hspace]
    rfl
  have hbetween : untilThen? "if" (ifThen c) = some (' ' :: (conditionText c ++ [' '])) := by
    apply untilThen?_eq hline
    · have hne : 0 < (conditionText c).length := by
        cases c <;> exact Nat.succ_pos _
      simp only [List.length_cons, List.length_append, List.length_nil]
      omega
    · rfl
    · rw [← List.cons_append, List.getLast?_concat]
      rfl
  have hsub : isEndSub (ifThen c) = false := rfl
  have hif : isEndIf (ifThen c) = false := rfl
  have helse : isElse (ifThen c) = false := rfl
  have helseIf : untilThen? "elseif" (ifThen c) = none := rfl
  have hdeclaration : isDeclaration (ifThen c) = false := rfl
  simp only [shape, hsub, hif, helse, helseIf, hdeclaration, hbetween, Option.isSome_none,
    Bool.false_eq_true, if_false]

theorem header?_procedure {name : String} (h : isProcedureName name = true) :
    header? ("Private Sub ".toList ++ (name.toList ++ "()".toList)) = some name.toList := by
  have hword := isWord_of_isProcedureName h
  unfold isProcedureName at h
  split at h
  · contradiction
  · rename_i c rest hname
    rw [hname] at hword ⊢
    rw [Bool.and_eq_true] at h
    have hfirst : ((foldCase c).isLower || c == '_') = true := by
      have hascii : ∀ n < 128, ((Char.ofNat n).isAlpha || Char.ofNat n == '_') = true →
          ((foldCase (Char.ofNat n)).isLower || Char.ofNat n == '_') = true := by
        decide
      have hc := hascii c.toNat (toNat_lt_of_isAlphanum (isAlphanum_of_isAlpha h.1))
      rw [Char.ofNat_toNat] at hc
      exact hc h.1
    have htake : (rest ++ "()".toList).takeWhile isWord = rest := by
      rw [List.takeWhile_append_of_pos fun d hd => hword d (List.mem_cons_of_mem c hd)]
      exact List.append_nil rest
    have hname : ((afterAny ["sub", "function"] (optionally
        (fun cs => (after "static" cs).bind afterBlank) (optionally
          (fun cs => (afterAny ["public", "private", "friend"] cs).bind afterBlank)
          ("Private Sub ".toList ++ (c :: rest ++ "()".toList))))).bind afterBlank) =
        some (trimStart (c :: rest ++ "()".toList)) := rfl
    have hstart : trimStart (c :: rest ++ "()".toList) = c :: (rest ++ "()".toList) := by
      apply trimStart_of_head
      rw [List.cons_append, List.head?_cons, Option.any_some,
        isBlank_of_isWord (hword c List.mem_cons_self), Bool.not_false]
    simp only [header?, hname, hstart, Option.bind_eq_bind, Option.bind_some, hfirst, htake, if_true]
    rfl

end FormScript.Source
