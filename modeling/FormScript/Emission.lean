import FormScript.Identifier
import FormScript.Mapped
import FormScript.Text.Lines

/-! The generated script: one namespace for a module and one function for each procedure. Every
action has exactly one form, and a gap becomes a comment, so what is written can always be read and
reviewed. A closing parenthesis never lands in a comment. -/
namespace FormScript

structure GenerateStats where
  totalProcedures : Nat
  mechanicalCount : Nat
  gapCount : Nat
  deriving DecidableEq, Repr

structure Generated where
  source : String
  stats : GenerateStats
  deriving DecidableEq, Repr

namespace Emission

def quoteChar (c : Char) : List Char :=
  if c = '"' then ['\\', '"']
  else if c = '\\' then ['\\', '\\']
  else if c = '\n' then ['\\', 'n']
  else if c = '\r' then []
  else [c]

def quote (s : String) : String :=
  String.ofList ('"' :: s.toList.flatMap quoteChar ++ ['"'])

def keyword (name : String) : String :=
  String.ofList (':' :: name.toList.map fun c => if Text.isBlank c then '-' else c)

def isComment (line : String) : Bool :=
  [';', ';'].isPrefixOf (Text.trimStart line.toList)

def indent (lines : List String) : List String :=
  lines.map ("  " ++ ·)

/-- Closes a form on its last line, or below it if that is a comment. -/
def close (lines : List String) : List String :=
  match lines.getLast? with
  | some last => if isComment last then lines ++ [")"] else lines.dropLast ++ [last ++ ")"]
  | none => [")"]

def form (head : String) (children : List (List String)) : List String :=
  close (head :: children.flatMap indent)

/-- One expression for the arm of a conditional: its only child, unless that is but a comment, or
all children in a block. -/
def arm (children : List (List String)) : List String :=
  match children with
  | [child] => if child.all isComment then form "(do" [child] else child
  | _ => form "(do" children

def commentLines (label : String) (text : String) : List String :=
  match Text.textLines text with
  | [] => [";; " ++ String.ofList (Text.trimEnd label.toList)]
  | first :: rest => (";; " ++ label ++ first) :: rest.map (";;   " ++ ·)

def conditionForm : Condition → String
  | .fieldBlank field => "(rt/blank? ctx " ++ keyword field ++ ")"
  | .fieldEquals field value => "(= (rt/value ctx " ++ keyword field ++ ") " ++ quote value ++ ")"
  | .confirm message => "(rt/confirm? ctx " ++ quote message ++ ")"
  | .newRecord => "(rt/new-record? ctx)"

def flag (value : Bool) : String :=
  if value then "true" else "false"

def actionForm : Action → String
  | .validateRequired field message =>
    "(rt/validate-required! ctx " ++ keyword field ++ " " ++ quote message ++ ")"
  | .saveRecord => "(rt/save-record! ctx)"
  | .showMessage message => "(rt/show-message! ctx " ++ quote message ++ ")"
  | .setValue field value => "(rt/set-value! ctx " ++ keyword field ++ " " ++ quote value ++ ")"
  | .setEnabled control enabled =>
    "(rt/set-enabled! ctx " ++ keyword control ++ " " ++ flag enabled ++ ")"
  | .setVisible control visible =>
    "(rt/set-visible! ctx " ++ keyword control ++ " " ++ flag visible ++ ")"
  | .openForm name => "(rt/open-form! ctx " ++ quote name ++ ")"
  | .closeForm => "(rt/close-form! ctx)"
  | .requery => "(rt/requery! ctx)"

def gapLines (g : Gap) : List String :=
  let id := g.id.getD "?"
  match g.resolution with
  | some r => commentLines ("GAP RESOLVED [" ++ id ++ "] (" ++ r.resolvedBy ++ "): ") r.answer
  | none => commentLines ("GAP [" ++ id ++ "]: ") g.reason ++ commentLines "  vba: " g.line

/-- A branch with an empty arm tests for the other one only. -/
def branchLines (condition : Condition) (thenArm elseArm : List (List String)) : List String :=
  let test := conditionForm condition
  if elseArm.isEmpty then form ("(when " ++ test) thenArm
  else if thenArm.isEmpty then form ("(when-not " ++ test) elseArm
  else form ("(if " ++ test) [arm thenArm, arm elseArm]

mutual

def intentLines : Intent → List String
  | .act a _ => [actionForm a]
  | .gap g _ => gapLines g
  | .branch c thenArm elseArm _ _ => branchLines c (intentsLines thenArm) (intentsLines elseArm)

def intentsLines : List Intent → List (List String)
  | [] => []
  | i :: rest => intentLines i :: intentsLines rest

end

mutual

def actionCount : Intent → Nat
  | .act _ _ => 1
  | .gap _ _ => 0
  | .branch _ thenArm elseArm _ _ => actionCountOf thenArm + actionCountOf elseArm

def actionCountOf : List Intent → Nat
  | [] => 0
  | i :: rest => actionCount i + actionCountOf rest

end

def docText (p : Procedure) : String :=
  if p.trigger.isEmpty then p.name else p.name ++ " (" ++ p.trigger ++ ")"

def procedureLines (p : Procedure) : List String :=
  form ("(defn " ++ Identifier.orElse p.name "procedure")
    ([quote (docText p)] :: ["[ctx]"] :: intentsLines p.intents)

def namespaceLines (moduleName : String) : List String :=
  ["(ns forms." ++ Identifier.orElse moduleName "module",
   "  " ++ quote ("Generated from legacy module " ++ moduleName ++ "."),
   "  (:require [app.forms.runtime :as rt]))"]

def sections (m : Mapped) (moduleName : String) : List (List String) :=
  let procedures :=
    if m.procedures.isEmpty then [[";; no event procedures"]] else m.procedures.map procedureLines
  namespaceLines moduleName :: procedures

def generate (m : Mapped) (moduleName : String) : Generated where
  source := "\n\n".intercalate ((sections m moduleName).map Text.joinLines) ++ "\n"
  stats :=
    { totalProcedures := m.procedures.length
      mechanicalCount := actionCountOf (m.procedures.flatMap Procedure.intents)
      gapCount := m.gapNodes.length }

end Emission

end FormScript
