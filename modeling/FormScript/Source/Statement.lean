import FormScript.Intent
import FormScript.Source.Pattern

/-! Single statements and conditions of the source, and what each of them means. -/
namespace FormScript.Source

open Text

/-- A statement before it is known what stands around it. -/
inductive Item where
  | intent (intent : Intent)
  /-- Leaves the procedure. -/
  | exit (line : Line)
  /-- Moves the focus to a control. -/
  | focus (line : Line)
  /-- Cancels the event. -/
  | cancel (line : Line)
  deriving DecidableEq, Repr

def Item.ofAction (a : Action) : Item :=
  .intent (.act a none)

def Item.ofGap (line : Line) (reason : String) : Item :=
  .intent (.openGap (String.ofList line) reason)

def Item.unrecognized (line : Line) : Item :=
  .ofGap line "statement has no mechanical mapping"

def isExit (cs : Line) : Bool :=
  isWhole (((after "exit" cs).bind afterBlank).bind (afterAny ["sub", "function"]))

def isCancel (cs : Line) : Bool :=
  isWhole (((after "cancel" cs).bind afterEquals).bind (after "true"))

def isFocus (cs : Line) : Bool :=
  isWhole ((member? cs).bind fun (_, rest) => after ".setfocus" rest)

def isSave (cs : Line) : Bool :=
  isWhole (((after "runcommand" (optionally (after "docmd.") cs)).bind afterBlank).bind
    (after "accmdsaverecord")) ||
  (after "docmd.save" cs).any atWordEnd ||
  isWhole (((after "me.dirty" cs).bind afterEquals).bind (after "false"))

/-- What may follow the text of a message: nothing, a closing parenthesis, or more arguments. -/
def endsMessage (cs : Line) : Bool :=
  match trimStart cs with
  | [] => true
  | [c] => c == ')' || c == ','
  | c :: _ => c == ','

def message? (cs : Line) : Option (List Char) :=
  ((after "msgbox" cs).bind afterQuote).bind (quoted? endsMessage)

def openedForm? (cs : Line) : Option (List Char) := do
  let cs ← (after "docmd.openform" cs).bind afterQuote
  let name := cs.takeWhile (· != '"')
  if name.isEmpty || name.length == cs.length then none else return name

def isClose (cs : Line) : Bool :=
  (after "docmd.close" cs).any atWordEnd

def isRequery (cs : Line) : Bool :=
  isWhole (afterAny ["me.requery", "docmd.requery"] cs)

def truth? (cs : Line) : Option Bool :=
  if isWhole (after "true" cs) then some true
  else if isWhole (after "false" cs) then some false
  else none

def property? (cs : Line) : Option Action := do
  let (control, cs) ← member? cs
  match after ".enabled" cs, after ".visible" cs with
  | some rest, _ => return .setEnabled (String.ofList control) (← (afterEquals rest).bind truth?)
  | none, some rest => return .setVisible (String.ofList control) (← (afterEquals rest).bind truth?)
  | none, none => none

def setValue? (cs : Line) : Option Action := do
  let (field, value) ← assignment? cs
  return .setValue (String.ofList field) (String.ofList (← literal? value))

def statement? (line : Line) : Option Item :=
  if isExit line then some (.exit line)
  else if isFocus line then some (.focus line)
  else if isCancel line then some (.cancel line)
  else if isSave line then some (.ofAction .saveRecord)
  else if let some text := message? line then some (.ofAction (.showMessage (String.ofList text)))
  else if let some name := openedForm? line then some (.ofAction (.openForm (String.ofList name)))
  else if isClose line then some (.ofAction .closeForm)
  else if isRequery line then some (.ofAction .requery)
  else if let some a := property? line then some (.ofAction a)
  else (setValue? line).map .ofAction

def statement (line : Line) : Item :=
  (statement? line).getD (.unrecognized line)

def nullTest? (cs : Line) : Option (List Char) := do
  let cs ← after "isnull(" cs
  let (field, cs) ← member? (trimStart cs)
  if isWhole (after ")" (trimStart cs)) then return field else none

def emptyTest? (cs : Line) : Option (List Char) := do
  let cs ← after "nz(" cs
  let (field, cs) ← member? (trimStart cs)
  let cs := optionally (fun cs => do
    let cs ← after "," cs
    return trimStart (← after "\"\"" (trimStart cs))) (trimStart cs)
  let cs ← (after ")" cs).bind afterEquals
  if isWhole (after "\"\"" cs) then return field else none

def endsConfirm (cs : Line) : Bool :=
  isWhole (((after ")" (cs.dropWhile (· != ')'))).bind afterEquals).bind (after "vbyes"))

def confirm? (cs : Line) : Option (List Char) := do
  let cs ← after "msgbox" cs
  let cs ← after "(" (trimStart cs)
  let cs ← after "\"" (trimStart cs)
  quoted? endsConfirm cs

def isNewRecord (cs : Line) : Bool :=
  (after "me.newrecord" cs).any fun rest =>
    rest.isEmpty || isWhole ((afterEquals rest).bind (after "true"))

/-- A field compared with a value that is written out; the empty text is no value. -/
def comparison? (cs : Line) : Option Condition := do
  let (field, value) ← assignment? cs
  let value ← literal? value
  if value.isEmpty then return .fieldBlank (String.ofList field)
  else return .fieldEquals (String.ofList field) (String.ofList value)

def condition? (text : Line) : Option Condition :=
  let cs := trim text
  if let some field := (nullTest? cs).or (emptyTest? cs) then
    some (.fieldBlank (String.ofList field))
  else if let some text := confirm? cs then some (.confirm (String.ofList text))
  else if isNewRecord cs then some .newRecord
  else comparison? cs

end FormScript.Source
