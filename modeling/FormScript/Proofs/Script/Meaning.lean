import FormScript.Proofs.Script.Reader

/-! What scripts do and what intents do, both told as the tests that are made and the calls of the
runtime that follow from their answers. The forms of an intent do what the intent does. -/
namespace FormScript

namespace Script

inductive Value where
  | context
  | keyword (name : String)
  | text (value : String)
  | flag (value : Bool)
  deriving DecidableEq, Repr

structure Call where
  function : String
  arguments : List Value
  deriving DecidableEq, Repr

inductive Test where
  | holds (call : Call)
  | equals (call : Call) (value : Value)
  deriving DecidableEq, Repr

inductive Event where
  | tested (test : Test) (answer : Bool)
  | called (call : Call)
  deriving DecidableEq, Repr

/-- Answers a test, knowing all that happened before it. -/
abbrev Oracle := List Event → Test → Bool

namespace Form

def value? : Form → Option Value
  | .text value => some (.text value)
  | .symbol name =>
    if name = "ctx" then some .context
    else if name = "true" then some (.flag true)
    else if name = "false" then some (.flag false)
    else if name.toList.head? = some ':' then some (.keyword name)
    else none
  | _ => none

def call? : Form → Option Call
  | .list (.symbol name :: arguments) =>
    if "rt/".toList.isPrefixOf name.toList then (arguments.mapM value?).map (⟨name, ·⟩) else none
  | _ => none

def equality? : Form → Option Test
  | .list [.symbol name, left, right] =>
    if name = "=" then left.call?.bind fun call => right.value?.map (.equals call) else none
  | _ => none

def test? (f : Form) : Option Test :=
  f.equality?.or (f.call?.map .holds)

def ask (oracle : Oracle) (past : List Event) (f : Form) : Option (Bool × List Event) :=
  f.test?.map fun test => (oracle past test, past ++ [.tested test (oracle past test)])

end Form

mutual

/-- All that has happened once a form has been evaluated. A literal does nothing. -/
def Form.run (oracle : Oracle) (past : List Event) : Form → Option (List Event)
  | .list (.symbol head :: items) =>
    if head = "do" then runAll oracle past items
    else if head = "when" then
      match items with
      | test :: body => (test.ask oracle past).bind fun (answer, past) =>
        if answer then runAll oracle past body else some past
      | [] => none
    else if head = "when-not" then
      match items with
      | test :: body => (test.ask oracle past).bind fun (answer, past) =>
        if answer then some past else runAll oracle past body
      | [] => none
    else if head = "if" then
      match items with
      | [test, yes, no] => (test.ask oracle past).bind fun (answer, past) =>
        if answer then yes.run oracle past else no.run oracle past
      | _ => none
    else (Form.call? (.list (.symbol head :: items))).map fun call => past ++ [.called call]
  | .text _ => some past
  | _ => none

def runAll (oracle : Oracle) (past : List Event) : List Form → Option (List Event)
  | [] => some past
  | f :: rest => (f.run oracle past).bind fun past => runAll oracle past rest

end

section

variable (oracle : Oracle) (past : List Event)

theorem run_do (items : List Form) :
    (Form.list (.symbol "do" :: items)).run oracle past = runAll oracle past items := by
  unfold Form.run
  rw [if_pos rfl]

theorem run_when (test : Form) (body : List Form) :
    (Form.list (.symbol "when" :: test :: body)).run oracle past =
      (test.ask oracle past).bind fun (answer, past) =>
        if answer then runAll oracle past body else some past := by
  unfold Form.run
  rw [if_neg (by decide), if_pos rfl]

theorem run_whenNot (test : Form) (body : List Form) :
    (Form.list (.symbol "when-not" :: test :: body)).run oracle past =
      (test.ask oracle past).bind fun (answer, past) =>
        if answer then some past else runAll oracle past body := by
  unfold Form.run
  rw [if_neg (by decide), if_neg (by decide), if_pos rfl]

theorem run_if (test yes no : Form) :
    (Form.list [.symbol "if", test, yes, no]).run oracle past =
      (test.ask oracle past).bind fun (answer, past) =>
        if answer then yes.run oracle past else no.run oracle past := by
  conv => lhs; unfold Form.run
  rw [if_neg (by decide), if_neg (by decide), if_neg (by decide), if_pos rfl]

theorem run_other {head : String} (items : List Form)
    (h : head ∉ ["do", "when", "when-not", "if"]) :
    (Form.list (.symbol head :: items)).run oracle past =
      (Form.call? (.list (.symbol head :: items))).map fun call => past ++ [.called call] := by
  simp only [List.mem_cons, List.not_mem_nil, or_false, not_or] at h
  unfold Form.run
  rw [if_neg h.1, if_neg h.2.1, if_neg h.2.2.1, if_neg h.2.2.2]

end

theorem runAll_append (oracle : Oracle) (past : List Event) (a b : List Form) :
    runAll oracle past (a ++ b) = (runAll oracle past a).bind fun past => runAll oracle past b := by
  induction a generalizing past with
  | nil => rfl
  | cons f a ih => simp only [List.cons_append, runAll, ih, Option.bind_assoc]

theorem runAll_singleton (oracle : Oracle) (past : List Event) (f : Form) :
    runAll oracle past [f] = f.run oracle past := by
  simp only [runAll]
  exact Option.bind_fun_some ..

/-- The text that a literal can hold: carriage returns are dropped. -/
def withoutReturns (s : String) : String :=
  String.ofList (s.toList.filter (· != '\r'))

def rtCall (name : String) (arguments : List Value) : Call :=
  ⟨"rt/" ++ name, .context :: arguments⟩

end Script

open Script

def Condition.test : Condition → Test
  | .fieldBlank field => .holds (rtCall "blank?" [.keyword (Emission.keyword field)])
  | .fieldEquals field value =>
    .equals (rtCall "value" [.keyword (Emission.keyword field)]) (.text (withoutReturns value))
  | .confirm message => .holds (rtCall "confirm?" [.text (withoutReturns message)])
  | .newRecord => .holds (rtCall "new-record?" [])

def Action.call : Action → Call
  | .validateRequired field message => rtCall "validate-required!"
      [.keyword (Emission.keyword field), .text (withoutReturns message)]
  | .saveRecord => rtCall "save-record!" []
  | .showMessage message => rtCall "show-message!" [.text (withoutReturns message)]
  | .setValue field value => rtCall "set-value!"
      [.keyword (Emission.keyword field), .text (withoutReturns value)]
  | .setEnabled control enabled => rtCall "set-enabled!"
      [.keyword (Emission.keyword control), .flag enabled]
  | .setVisible control visible => rtCall "set-visible!"
      [.keyword (Emission.keyword control), .flag visible]
  | .openForm form => rtCall "open-form!" [.text (withoutReturns form)]
  | .closeForm => rtCall "close-form!" []
  | .requery => rtCall "requery!" []

mutual

/-- All that has happened once an intent has been carried out. A gap does nothing. -/
def Intent.perform (oracle : Oracle) (past : List Event) : Intent → List Event
  | .act action _ => past ++ [.called action.call]
  | .gap _ _ => past
  | .branch condition thenArm elseArm _ _ =>
    let answer := oracle past condition.test
    let past := past ++ [.tested condition.test answer]
    if answer then performAll oracle past thenArm else performAll oracle past elseArm

def performAll (oracle : Oracle) (past : List Event) : List Intent → List Event
  | [] => past
  | i :: rest => performAll oracle (i.perform oracle past) rest

end

namespace Script

def Value.form : Value → Form
  | .context => .symbol "ctx"
  | .keyword name => .symbol name
  | .text value => .text value
  | .flag value => .symbol (Emission.flag value)

def Call.form (call : Call) : Form :=
  .list (.symbol call.function :: call.arguments.map Value.form)

def Test.form : Test → Form
  | .holds call => call.form
  | .equals call value => .list [.symbol "=", call.form, value.form]

def armForm : List (List Form) → Form
  | [[f]] => f
  | children => .list (.symbol "do" :: children.flatten)

def branchForm (condition : Condition) (thenArm elseArm : List (List Form)) : Form :=
  if elseArm.isEmpty then .list (.symbol "when" :: condition.test.form :: thenArm.flatten)
  else if thenArm.isEmpty then .list (.symbol "when-not" :: condition.test.form :: elseArm.flatten)
  else .list [.symbol "if", condition.test.form, armForm thenArm, armForm elseArm]

end Script

mutual

/-- The forms that stand for an intent: one, or none for a gap. -/
def Intent.forms : Intent → List Form
  | .act action _ => [action.call.form]
  | .gap _ _ => []
  | .branch condition thenArm elseArm _ _ =>
    [branchForm condition (intentsForms thenArm) (intentsForms elseArm)]

def intentsForms : List Intent → List (List Form)
  | [] => []
  | i :: rest => i.forms :: intentsForms rest

end

namespace Script

def Value.isPlain : Value → Bool
  | .keyword name => name.toList.head? = some ':'
  | _ => true

@[simp] theorem head?_keyword (field : String) :
    (Emission.keyword field).toList.head? = some ':' := by
  simp [Emission.keyword]

theorem value?_form {v : Value} (hv : v.isPlain = true) : v.form.value? = some v := by
  cases v with
  | context => rfl
  | text value => rfl
  | flag value => cases value <;> rfl
  | keyword name =>
    have hhead : name.toList.head? = some ':' := by simpa [Value.isPlain] using hv
    have hne (w : String) (hw : w.toList.head? ≠ some ':') : name ≠ w := by
      rintro rfl
      exact hw hhead
    simp [Value.form, Form.value?, hhead, hne "ctx" (by decide), hne "true" (by decide),
      hne "false" (by decide)]

theorem mapM_value?_form {vs : List Value} (hvs : vs.all Value.isPlain = true) :
    (vs.map Value.form).mapM Form.value? = some vs := by
  induction vs with
  | nil => rfl
  | cons v vs ih =>
    simp only [List.all_cons, Bool.and_eq_true] at hvs
    rw [List.map_cons, List.mapM_cons, value?_form hvs.1, ih hvs.2]
    rfl

theorem call?_form (name : String) {vs : List Value} (hvs : vs.all Value.isPlain = true) :
    (rtCall name vs).form.call? = some (rtCall name vs) := by
  have hprefix : "rt/".toList.isPrefixOf ("rt/" ++ name).toList = true := by simp
  have hvalues : ((Value.context :: vs).map Value.form).mapM Form.value? = some (.context :: vs) :=
    mapM_value?_form (by simpa [Value.isPlain] using hvs)
  simp only [rtCall, Call.form, Form.call?, hprefix, hvalues, if_true, Option.map_some]

theorem rtName_not_mem (name : String) : "rt/" ++ name ∉ ["do", "when", "when-not", "if"] := by
  have hne (word : String) (hword : word.toList.head? ≠ some 'r') : "rt/" ++ name ≠ word := by
    rintro rfl
    simp at hword
  simp only [List.mem_cons, List.not_mem_nil, or_false, not_or]
  exact ⟨hne _ (by decide), hne _ (by decide), hne _ (by decide), hne _ (by decide)⟩

theorem run_call (oracle : Oracle) (past : List Event) (name : String) {vs : List Value}
    (hvs : vs.all Value.isPlain = true) :
    (rtCall name vs).form.run oracle past = some (past ++ [.called (rtCall name vs)]) := by
  have hcall := call?_form name hvs
  simp only [rtCall, Call.form] at hcall ⊢
  rw [run_other oracle past _ (rtName_not_mem name), hcall, Option.map_some]

theorem run_action (oracle : Oracle) (past : List Event) (a : Action) :
    a.call.form.run oracle past = some (past ++ [.called a.call]) := by
  cases a <;> exact run_call oracle past _ (by simp [Value.isPlain])

theorem test?_form (c : Condition) : c.test.form.test? = some c.test := by
  have hkeyword (field : String) : [Value.keyword (Emission.keyword field)].all Value.isPlain = true := by
    simp [Value.isPlain]
  cases c with
  | fieldBlank field =>
    have hcall := call?_form "blank?" (hkeyword field)
    have hnot : (rtCall "blank?" [.keyword (Emission.keyword field)]).form.equality? = none := rfl
    simp only [Condition.test, Test.form, Form.test?, hnot, hcall, Option.none_or, Option.map_some]
  | fieldEquals field value =>
    have hcall := call?_form "value" (hkeyword field)
    simp only [Condition.test, Test.form, Form.test?, Form.equality?, hcall, if_true,
      Option.bind_some, value?_form (v := .text (withoutReturns value)) rfl, Option.map_some,
      Option.some_or]
  | confirm message =>
    have hcall := call?_form "confirm?" (show [Value.text (withoutReturns message)].all _ = true by rfl)
    have hnot : (rtCall "confirm?" [.text (withoutReturns message)]).form.equality? = none := rfl
    simp only [Condition.test, Test.form, Form.test?, hnot, hcall, Option.none_or, Option.map_some]
  | newRecord => rfl

theorem ask_form (oracle : Oracle) (past : List Event) (c : Condition) :
    c.test.form.ask oracle past =
      some (oracle past c.test, past ++ [.tested c.test (oracle past c.test)]) := by
  rw [Form.ask, test?_form, Option.map_some]

theorem run_armForm (oracle : Oracle) (past : List Event) (children : List (List Form)) :
    (armForm children).run oracle past = runAll oracle past children.flatten := by
  unfold armForm
  split
  · exact (runAll_singleton oracle past _).symm
  · exact run_do oracle past _

theorem run_branchForm (oracle : Oracle) (past : List Event) (c : Condition)
    (thenArm elseArm : List (List Form)) :
    (branchForm c thenArm elseArm).run oracle past =
      let answer := oracle past c.test
      let past := past ++ [.tested c.test answer]
      if answer then runAll oracle past thenArm.flatten
      else runAll oracle past elseArm.flatten := by
  unfold branchForm
  by_cases helse : elseArm.isEmpty = true
  · rw [if_pos helse, run_when, ask_form, List.isEmpty_iff.mp helse]
    rfl
  rw [if_neg helse]
  by_cases hthen : thenArm.isEmpty = true
  · rw [if_pos hthen, run_whenNot, ask_form, List.isEmpty_iff.mp hthen]
    rfl
  · rw [if_neg hthen, run_if, ask_form]
    simp only [Option.bind_some, run_armForm]

end Script

open Script

mutual

theorem Intent.runAll_forms (oracle : Oracle) (past : List Event) (i : Intent) :
    runAll oracle past i.forms = some (i.perform oracle past) := by
  match i with
  | .act action _ => rw [Intent.forms, Intent.perform, runAll_singleton, run_action]
  | .gap _ _ => rfl
  | .branch condition thenArm elseArm _ _ =>
    rw [Intent.forms, runAll_singleton, run_branchForm, Intent.perform]
    dsimp only
    rw [runAll_intentsForms _ _ thenArm, runAll_intentsForms _ _ elseArm]
    split <;> rfl

/-- The forms of intents make the tests and the calls that the intents stand for. -/
theorem runAll_intentsForms (oracle : Oracle) (past : List Event) (is : List Intent) :
    runAll oracle past (intentsForms is).flatten = some (performAll oracle past is) := by
  match is with
  | [] => rfl
  | i :: rest =>
    rw [intentsForms, List.flatten_cons, runAll_append, i.runAll_forms oracle past,
      Option.bind_some, runAll_intentsForms oracle _ rest, performAll]

end

end FormScript
