import FormScript.Source.Recognition

/-! Event procedures in their plain written form: one statement a line, every quote inside a string
doubled. What is written has no comment, no continued line and no blank line in it, so its logical
lines are its lines. -/
namespace FormScript.Source

open Text

def doubled : List Char → List Char
  | [] => []
  | c :: rest => if c = '"' then '"' :: '"' :: doubled rest else c :: doubled rest

def stringLiteral (s : String) : Line :=
  '"' :: (doubled s.toList ++ ['"'])

def memberName (name : String) : Line :=
  "Me.".toList ++ name.toList

def assignmentTo (field value : String) : Line :=
  memberName field ++ (" = ".toList ++ stringLiteral value)

def conditionText : Condition → Line
  | .fieldBlank field => "IsNull(".toList ++ (memberName field ++ ")".toList)
  | .fieldEquals field value => assignmentTo field value
  | .confirm message => "MsgBox(".toList ++ (stringLiteral message ++ ", vbYesNo) = vbYes".toList)
  | .newRecord => "Me.NewRecord".toList

def ifThen (c : Condition) : Line :=
  "If ".toList ++ (conditionText c ++ " Then".toList)

def endIf : Line :=
  "End If".toList

def messageBox (message : String) : Line :=
  "MsgBox ".toList ++ stringLiteral message

def truthText (b : Bool) : Line :=
  if b then " = True".toList else " = False".toList

/-- The statement that an action is, and the check of a required field as the conditional that
leaves the procedure. -/
def actionLines : Action → List Line
  | .validateRequired field message =>
    [ifThen (.fieldBlank field), messageBox message, "Exit Sub".toList, endIf]
  | .saveRecord => ["DoCmd.RunCommand acCmdSaveRecord".toList]
  | .showMessage message => [messageBox message]
  | .setValue field value => [assignmentTo field value]
  | .setEnabled control enabled => [memberName control ++ (".Enabled".toList ++ truthText enabled)]
  | .setVisible control visible => [memberName control ++ (".Visible".toList ++ truthText visible)]
  | .openForm form => ["DoCmd.OpenForm ".toList ++ stringLiteral form]
  | .closeForm => ["DoCmd.Close".toList]
  | .requery => ["Me.Requery".toList]

mutual

/-- A gap has no written form of its own and stands as the line it was found on. -/
def intentLines : Intent → List Line
  | .act action _ => actionLines action
  | .gap gap _ => [gap.line.toList]
  | .branch condition thenArm elseArm _ _ =>
    ifThen condition :: (intentsLines thenArm ++
      ((if elseArm.isEmpty then [] else "Else".toList :: intentsLines elseArm) ++ [endIf]))

def intentsLines : List Intent → List Line
  | [] => []
  | i :: rest => intentLines i ++ intentsLines rest

end

def procedureLines (p : Procedure) : List Line :=
  ("Private Sub ".toList ++ (p.name.toList ++ "()".toList)) ::
    (intentsLines p.intents ++ ["End Sub".toList])

def print (ps : List Procedure) : String :=
  String.ofList ((ps.flatMap procedureLines).flatMap (· ++ ['\n']))

def isFieldName (s : String) : Bool :=
  !s.toList.isEmpty && s.toList.all isWord

def isOneLine (s : String) : Bool :=
  s.toList.all (· != '\n')

def isPrintableCondition : Condition → Bool
  | .fieldBlank field => isFieldName field
  | .fieldEquals field value => isFieldName field && isOneLine value && !value.toList.isEmpty
  | .confirm message => isOneLine message
  | .newRecord => true

def isPrintableAction : Action → Bool
  | .validateRequired field message => isFieldName field && isOneLine message
  | .showMessage message => isOneLine message
  | .setValue field value => isFieldName field && isOneLine value
  | .setEnabled control _ => isFieldName control
  | .setVisible control _ => isFieldName control
  | .openForm form => isOneLine form && form.toList.all (· != '"') && !form.toList.isEmpty
  | .saveRecord | .closeForm | .requery => true

mutual

/-- What has a written form: no gap, nothing said yet about how it is carried over, and names and
texts that stand on one line. -/
def isPrintableIntent : Intent → Bool
  | .act action mark => isPrintableAction action && mark.isNone
  | .gap _ _ => false
  | .branch condition thenArm elseArm mapping mark =>
    isPrintableCondition condition && arePrintable thenArm && arePrintable elseArm &&
      mapping.isNone && mark.isNone

def arePrintable : List Intent → Bool
  | [] => true
  | i :: rest => isPrintableIntent i && arePrintable rest

end

def isProcedureName (s : String) : Bool :=
  match s.toList with
  | [] => false
  | c :: rest => (c.isAlpha || c == '_') && rest.all fun d => d.isAlphanum || d == '_'

def isPrintable (p : Procedure) : Bool :=
  isProcedureName p.name && p.trigger == Identifier.trigger p.name && arePrintable p.intents

/-- A piece of a line in which no comment starts and no string is left open. -/
def Closed (cs : Line) : Prop :=
  '\n' ∉ cs ∧ ∀ rest, stripComment false (cs ++ rest) = cs ++ stripComment false rest

theorem Closed.append {a b : Line} (ha : Closed a) (hb : Closed b) : Closed (a ++ b) := by
  refine ⟨?_, ?_⟩
  · rw [List.mem_append, not_or]
    exact ⟨ha.1, hb.1⟩
  · intro rest
    rw [List.append_assoc, ha.2, hb.2, List.append_assoc]

def isCode (c : Char) : Bool :=
  c != '"' && c.toNat != 39 && c != '\n'

theorem closed_of_isCode {cs : Line} (h : cs.all isCode = true) : Closed cs := by
  induction cs with
  | nil => exact ⟨List.not_mem_nil, fun _ => rfl⟩
  | cons c cs ih =>
    rw [List.all_cons, Bool.and_eq_true] at h
    obtain ⟨hc, hcs⟩ := h
    obtain ⟨hfeed, hstrip⟩ := ih hcs
    simp only [isCode, Bool.and_eq_true, bne_iff_ne, ne_eq] at hc
    obtain ⟨⟨hquote, hmark⟩, hline⟩ := hc
    refine ⟨?_, ?_⟩
    · rw [List.mem_cons, not_or]
      exact ⟨fun heq => hline heq.symm, hfeed⟩
    · intro rest
      rw [List.cons_append, stripComment, if_neg hquote, if_neg fun hand => hmark hand.1, hstrip]
      rfl

theorem isCode_of_isWord {c : Char} (h : isWord c = true) : isCode c = true := by
  have hmark : c.toNat = 39 → c = Char.ofNat 39 := fun hc => by rw [← hc, Char.ofNat_toNat]
  simp only [isCode, Bool.and_eq_true, bne_iff_ne, ne_eq]
  refine ⟨⟨?_, ?_⟩, ?_⟩
  · intro hquote
    exact absurd (hquote ▸ h) (by decide)
  · intro hnat
    exact absurd (hmark hnat ▸ h) (by decide)
  · intro hfeed
    exact absurd (hfeed ▸ h) (by decide)

theorem stripComment_doubled (cs rest : Line) :
    stripComment true (doubled cs ++ rest) = doubled cs ++ stripComment true rest := by
  induction cs with
  | nil => rfl
  | cons c cs ih =>
    by_cases hc : c = '"'
    · simp only [doubled, hc, if_true, List.cons_append, stripComment, Bool.not_true, Bool.not_false,
        ih]
    · simp only [doubled, hc, if_false, List.cons_append, stripComment, reduceCtorEq, and_false, ih]

theorem mem_doubled {cs : List Char} {d : Char} (h : d ∈ doubled cs) : d ∈ cs ∨ d = '"' := by
  induction cs with
  | nil => exact absurd h List.not_mem_nil
  | cons c cs ih =>
    by_cases hc : c = '"' <;> simp only [doubled, hc, if_true, if_false, List.mem_cons] at h ⊢ <;>
      grind

theorem closed_stringLiteral {s : String} (h : isOneLine s = true) : Closed (stringLiteral s) := by
  refine ⟨?_, ?_⟩
  · intro hmem
    simp only [stringLiteral, List.mem_cons, List.mem_append, List.not_mem_nil, or_false] at hmem
    rcases hmem with hquote | htext | hquote
    · exact absurd hquote (by decide)
    · rcases mem_doubled htext with hs | hquote
      · rw [isOneLine, List.all_eq_true] at h
        simpa using h '\n' hs
      · exact absurd hquote (by decide)
    · exact absurd hquote (by decide)
  · intro rest
    simp only [stringLiteral, List.cons_append, List.append_assoc, List.nil_append, stripComment,
      if_true, Bool.not_false, Bool.not_true, stripComment_doubled]

theorem closed_memberName {name : String} (h : isFieldName name = true) :
    Closed (memberName name) := by
  refine Closed.append (closed_of_isCode (by decide)) (closed_of_isCode ?_)
  rw [isFieldName, Bool.and_eq_true] at h
  rw [List.all_eq_true] at h ⊢
  exact fun c hc => isCode_of_isWord (h.2 c hc)

def opensLine (c : Char) : Bool :=
  !isBlank c && c.toLower != 'r'

def closesLine (c : Char) : Bool :=
  !isBlank c && c != '_'

/-- A line that is a logical line as it stands. -/
structure Standing (line : Line) : Prop where
  closed : Closed line
  opens : line.head?.any opensLine = true
  closes : line.getLast?.any closesLine = true

theorem Standing.stripComment_eq {line : Line} (h : Standing line) :
    stripComment false line = line := by
  have hall := h.closed.2 []
  rwa [stripComment, List.append_nil] at hall

theorem dropWhile_of_head {p : α → Bool} {xs : List α}
    (h : ∀ x, xs.head? = some x → p x = false) : xs.dropWhile p = xs := by
  cases xs with
  | nil => rfl
  | cons x xs => rw [List.dropWhile_cons, h x rfl, if_neg Bool.false_ne_true]

theorem trimStart_of_head {cs : Line} (h : cs.head?.any (!isBlank ·) = true) :
    trimStart cs = cs := by
  apply dropWhile_of_head
  intro c hc
  simpa [hc] using h

theorem trimEnd_of_last {cs : Line} (h : cs.getLast?.any (!isBlank ·) = true) : trimEnd cs = cs := by
  have hend : cs.reverse.dropWhile isBlank = cs.reverse := by
    apply dropWhile_of_head
    intro c hc
    rw [List.head?_reverse] at hc
    simpa [hc] using h
  rw [trimEnd, hend, List.reverse_reverse]

theorem Standing.trim_eq {line : Line} (h : Standing line) : trim line = line := by
  obtain ⟨c, hhead, hc⟩ := (Option.any_eq_true _ _).mp h.opens
  obtain ⟨d, hlast, hd⟩ := (Option.any_eq_true _ _).mp h.closes
  simp only [opensLine, closesLine, Bool.and_eq_true] at hc hd
  rw [trim, trimStart_of_head, trimEnd_of_last]
  · rw [hlast, Option.any_some, hd.1]
  · rw [hhead, Option.any_some, hc.1]

theorem Standing.continued?_eq {line : Line} (h : Standing line) : continued? line = none := by
  obtain ⟨d, hlast, hd⟩ := (Option.any_eq_true _ _).mp h.closes
  simp only [closesLine, Bool.and_eq_true, bne_iff_ne] at hd
  unfold continued?
  split
  · rename_i head hreverse
    rw [← List.head?_reverse, hreverse, List.head?_cons] at hlast
    exact absurd (Option.some.inj hlast).symm hd.2
  · rfl

theorem Standing.isRemark_eq {line : Line} (h : Standing line) : isRemark line = false := by
  obtain ⟨c, hhead, hc⟩ := (Option.any_eq_true _ _).mp h.opens
  simp only [opensLine, Bool.and_eq_true, bne_iff_ne, ne_eq] at hc
  cases line with
  | nil => rfl
  | cons d line =>
    rw [List.head?_cons, Option.some.injEq] at hhead
    subst hhead
    simp [isRemark, hc.2]

theorem logicalFrom_standing {line : Line} (h : Standing line) (more : List Line) :
    logicalFrom [] (line :: more) = line :: logicalFrom [] more := by
  have hne : line.isEmpty = false := by
    cases line with
    | nil => exact absurd h.opens Bool.false_ne_true
    | cons c cs => rfl
  simp only [logicalFrom, h.stripComment_eq, h.trim_eq, h.continued?_eq, List.nil_append,
    h.isRemark_eq, hne, Bool.or_false, Bool.false_eq_true, if_false]

theorem splitOnP_unlines {ls : List Line} (h : ∀ l ∈ ls, '\n' ∉ l) :
    (ls.flatMap (· ++ ['\n'])).splitOnP (· == '\n') = ls ++ [[]] := by
  induction ls with
  | nil => rfl
  | cons l ls ih =>
    have hl : ∀ c ∈ l, (c == '\n') = false := by
      intro c hc
      rw [beq_eq_false_iff_ne]
      exact fun heq => h l List.mem_cons_self (heq ▸ hc)
    rw [List.flatMap_cons, List.append_assoc, List.singleton_append,
      List.splitOnP_append_cons_of_forall_mem hl '\n' rfl,
      ih fun l hl => h l (List.mem_cons_of_mem _ hl)]
    rfl

theorem Standing.dropReturn_eq {line : Line} (h : Standing line) : dropReturn line = line := by
  obtain ⟨d, hlast, hd⟩ := (Option.any_eq_true _ _).mp h.closes
  unfold dropReturn
  rw [if_neg]
  intro hreturn
  rw [hlast, Option.some.injEq] at hreturn
  exact absurd (hreturn ▸ hd) (by decide)

theorem logicalLines_unlines {ls : List Line} (h : ∀ l ∈ ls, Standing l) :
    logicalLines (ls.flatMap (· ++ ['\n'])) = ls := by
  have hlines : Text.lines (ls.flatMap (· ++ ['\n'])) = ls := by
    have hmap : ls.map dropReturn = ls := by
      rw [List.map_congr_left fun l hl => (h l hl).dropReturn_eq, List.map_id']
    unfold Text.lines
    simp [splitOnP_unlines fun l hl => (h l hl).closed.1, hmap]
  rw [logicalLines, hlines]
  clear hlines
  induction ls with
  | nil => rfl
  | cons l ls ih =>
    rw [logicalFrom_standing (h l List.mem_cons_self),
      ih fun l hl => h l (List.mem_cons_of_mem _ hl)]

theorem closes_append (a : Line) {b : Line} (h : b.getLast?.any closesLine = true) :
    (a ++ b).getLast?.any closesLine = true := by
  obtain ⟨d, hlast, hd⟩ := (Option.any_eq_true _ _).mp h
  rw [List.getLast?_append, hlast, Option.some_or, Option.any_some, hd]

theorem closes_stringLiteral (s : String) :
    (stringLiteral s).getLast?.any closesLine = true :=
  closes_append ('"' :: doubled s.toList) (b := ['"']) (by decide)

theorem Closed.behind {code cs : Line} (h : Closed cs) (hcode : code.all isCode = true) :
    Closed (code ++ cs) :=
  (closed_of_isCode hcode).append h

theorem standing_code {cs : Line} (hcode : cs.all isCode = true)
    (hopens : cs.head?.any opensLine = true) (hcloses : cs.getLast?.any closesLine = true) :
    Standing cs :=
  ⟨closed_of_isCode hcode, hopens, hcloses⟩

theorem standing_append {a b : Line} (ha : Closed a) (hb : Closed b)
    (hopens : a.head?.any opensLine = true) (hcloses : b.getLast?.any closesLine = true) :
    Standing (a ++ b) := by
  refine ⟨ha.append hb, ?_, closes_append a hcloses⟩
  obtain ⟨c, hhead, hc⟩ := (Option.any_eq_true _ _).mp hopens
  rw [List.head?_append, hhead, Option.some_or, Option.any_some, hc]

theorem closed_assignmentTo {field value : String} (hf : isFieldName field = true)
    (hv : isOneLine value = true) : Closed (assignmentTo field value) :=
  (closed_memberName hf).append ((closed_stringLiteral hv).behind (by decide))

theorem closed_conditionText {c : Condition} (h : isPrintableCondition c = true) :
    Closed (conditionText c) := by
  cases c with
  | fieldBlank field =>
    exact ((closed_memberName h).append (closed_of_isCode (by decide))).behind (by decide)
  | fieldEquals field value =>
    simp only [isPrintableCondition, Bool.and_eq_true] at h
    exact closed_assignmentTo h.1.1 h.1.2
  | confirm message =>
    exact ((closed_stringLiteral h).append (closed_of_isCode (by decide))).behind (by decide)
  | newRecord => exact closed_of_isCode (by decide)

theorem standing_ifThen {c : Condition} (h : isPrintableCondition c = true) :
    Standing (ifThen c) :=
  standing_append (closed_of_isCode (by decide))
    ((closed_conditionText h).append (closed_of_isCode (by decide))) (by decide)
    (closes_append _ (by decide))

theorem standing_messageBox {message : String} (h : isOneLine message = true) :
    Standing (messageBox message) :=
  standing_append (closed_of_isCode (by decide)) (closed_stringLiteral h) (by decide)
    (closes_stringLiteral message)

theorem standing_member {name : String} {tail : Line} (h : isFieldName name = true)
    (htail : Closed tail) (hcloses : tail.getLast?.any closesLine = true) :
    Standing (memberName name ++ tail) :=
  standing_append (closed_memberName h) htail rfl hcloses

theorem standing_actionLines {a : Action} (h : isPrintableAction a = true) :
    ∀ l ∈ actionLines a, Standing l := by
  intro l hl
  cases a with
  | validateRequired field message =>
    simp only [isPrintableAction, Bool.and_eq_true] at h
    simp only [actionLines, List.mem_cons, List.not_mem_nil, or_false] at hl
    rcases hl with rfl | rfl | rfl | rfl
    · exact standing_ifThen h.1
    · exact standing_messageBox h.2
    · exact standing_code (by decide) (by decide) (by decide)
    · exact standing_code (by decide) (by decide) (by decide)
  | saveRecord => exact List.mem_singleton.mp hl ▸ standing_code (by decide) (by decide) (by decide)
  | showMessage message => exact List.mem_singleton.mp hl ▸ standing_messageBox h
  | setValue field value =>
    simp only [isPrintableAction, Bool.and_eq_true] at h
    rw [List.mem_singleton.mp hl]
    exact standing_member h.1 ((closed_stringLiteral h.2).behind (by decide))
      (closes_append _ (closes_stringLiteral value))
  | setEnabled control enabled =>
    rw [List.mem_singleton.mp hl]
    cases enabled <;> exact standing_member h (closed_of_isCode (by decide)) (by decide)
  | setVisible control visible =>
    rw [List.mem_singleton.mp hl]
    cases visible <;> exact standing_member h (closed_of_isCode (by decide)) (by decide)
  | openForm form =>
    simp only [isPrintableAction, Bool.and_eq_true] at h
    rw [List.mem_singleton.mp hl]
    exact standing_append (closed_of_isCode (by decide)) (closed_stringLiteral h.1.1) (by decide)
      (closes_stringLiteral form)
  | closeForm => exact List.mem_singleton.mp hl ▸ standing_code (by decide) (by decide) (by decide)
  | requery => exact List.mem_singleton.mp hl ▸ standing_code (by decide) (by decide) (by decide)

mutual

theorem standing_intentLines {i : Intent} (h : isPrintableIntent i = true) :
    ∀ l ∈ intentLines i, Standing l := by
  match i with
  | .act a mark =>
    rw [isPrintableIntent, Bool.and_eq_true] at h
    rw [intentLines]
    exact standing_actionLines h.1
  | .gap g mark => exact absurd h Bool.false_ne_true
  | .branch c thenArm elseArm mapping mark =>
    simp only [isPrintableIntent, Bool.and_eq_true] at h
    obtain ⟨⟨⟨⟨hc, hthen⟩, helse⟩, -⟩, -⟩ := h
    intro l hl
    rw [intentLines, List.mem_cons, List.mem_append, List.mem_append, List.mem_singleton] at hl
    rcases hl with rfl | harm | harm | rfl
    · exact standing_ifThen hc
    · exact standing_intentsLines hthen l harm
    · split at harm
      · exact absurd harm List.not_mem_nil
      · rcases List.mem_cons.mp harm with rfl | harm
        · exact standing_code (by decide) (by decide) (by decide)
        · exact standing_intentsLines helse l harm
    · exact standing_code (by decide) (by decide) (by decide)

theorem standing_intentsLines {is : List Intent} (h : arePrintable is = true) :
    ∀ l ∈ intentsLines is, Standing l := by
  match is with
  | [] => exact fun l hl => absurd hl List.not_mem_nil
  | i :: rest =>
    rw [arePrintable, Bool.and_eq_true] at h
    intro l hl
    rw [intentsLines, List.mem_append] at hl
    rcases hl with hl | hl
    · exact standing_intentLines h.1 l hl
    · exact standing_intentsLines h.2 l hl

end

theorem toNat_lt_of_isAlphanum {c : Char} (h : (c.isAlphanum || c == '_') = true) :
    c.toNat < 128 := by
  have hbound {last : Char} (hlast : c.val ≤ last.val) (hascii : last.toNat < 128) :
      c.toNat < 128 :=
    Nat.lt_of_le_of_lt (UInt32.le_iff_toNat_le.mp hlast) hascii
  have hcases : (c.isUpper || c.isLower || c.isDigit || c == '_') = true := h
  rw [Bool.or_eq_true, Bool.or_eq_true, Bool.or_eq_true, beq_iff_eq] at hcases
  rcases hcases with ((hupper | hlower) | hdigit) | rfl
  · have hrange : c.val ≥ 'A'.val ∧ c.val ≤ 'Z'.val := of_decide_eq_true hupper
    exact hbound hrange.2 (by decide)
  · have hrange : decide (c.val ≤ 'z'.val) = true := (Bool.and_eq_true_iff.mp hlower).2
    exact hbound (of_decide_eq_true hrange) (by decide)
  · have hrange : decide (c.val ≤ '9'.val) = true := (Bool.and_eq_true_iff.mp hdigit).2
    exact hbound (of_decide_eq_true hrange) (by decide)
  · decide

theorem isWord_of_isAlphanum {c : Char} (h : (c.isAlphanum || c == '_') = true) :
    isWord c = true := by
  rw [isWord, if_pos (toNat_lt_of_isAlphanum h)]
  exact h

theorem isAlphanum_of_isAlpha {c : Char} (h : (c.isAlpha || c == '_') = true) :
    (c.isAlphanum || c == '_') = true := by
  rw [Char.isAlphanum, Bool.or_right_comm, h, Bool.true_or]

theorem isWord_of_isProcedureName {name : String} (h : isProcedureName name = true) :
    ∀ c ∈ name.toList, isWord c = true := by
  unfold isProcedureName at h
  split at h
  · contradiction
  · rename_i first rest hname
    rw [Bool.and_eq_true] at h
    rw [List.all_eq_true] at h
    intro c hc
    rw [hname, List.mem_cons] at hc
    apply isWord_of_isAlphanum
    rcases hc with rfl | hc
    · exact isAlphanum_of_isAlpha h.1
    · exact h.2 c hc

theorem standing_procedureLines {p : Procedure} (h : isPrintable p = true) :
    ∀ l ∈ procedureLines p, Standing l := by
  simp only [isPrintable, Bool.and_eq_true] at h
  obtain ⟨⟨hname, -⟩, hintents⟩ := h
  intro l hl
  rw [procedureLines, List.mem_cons, List.mem_append, List.mem_singleton] at hl
  rcases hl with rfl | hl | rfl
  · have hcode : p.name.toList.all isCode = true := by
      rw [List.all_eq_true]
      exact fun c hc => isCode_of_isWord (isWord_of_isProcedureName hname c hc)
    exact standing_append (closed_of_isCode (by decide))
      ((closed_of_isCode hcode).append (closed_of_isCode (by decide))) (by decide)
      (closes_append _ (by decide))
  · exact standing_intentsLines hintents l hl
  · exact standing_code (by decide) (by decide) (by decide)

theorem logicalLines_print {ps : List Procedure} (h : ∀ p ∈ ps, isPrintable p = true) :
    logicalLines (print ps).toList = ps.flatMap procedureLines := by
  rw [print, String.toList_ofList]
  apply logicalLines_unlines
  intro l hl
  obtain ⟨p, hp, hmem⟩ := List.mem_flatMap.mp hl
  exact standing_procedureLines (h p hp) l hmem

end FormScript.Source
