import FormScript.Text.Blank
import FormScript.Text.Case

/-! Names of generated functions and namespaces. Mixed, Pascal and snake case become lower case
words joined by hyphens: `btnSave_Click` becomes `btn-save-click`. -/
namespace FormScript.Identifier

open Text

def isBreak (c : Char) : Bool :=
  c == '_' || isBlank c

/-- The lower case words of a run of characters without a break. A word ends where an upper case
character follows a lower case one; `word` is what the current one holds so far. -/
def humps (afterLower : Bool) (word : List Char) : List Char → List (List Char)
  | [] => if word.isEmpty then [] else [word]
  | c :: rest =>
    if isUpper c && afterLower && !word.isEmpty then
      word :: humps (isLower c) (lower c) rest
    else
      humps (isLower c) (word ++ lower c) rest

def words (name : List Char) : List (List Char) :=
  (name.splitOnP isBreak).flatMap (humps false [])

def hyphenate (name : String) : String :=
  String.ofList (['-'].intercalate (words name.toList))

def orElse (name fallback : String) : String :=
  let hyphenated := hyphenate name
  if hyphenated.isEmpty then fallback else hyphenated

/-- What follows the last underscore of a procedure name is the event that starts it. -/
def trigger (name : String) : String :=
  match name.toList.reverse.span (· != '_') with
  | (event, _ :: _) => hyphenate (String.ofList event.reverse)
  | (_, []) => ""

end FormScript.Identifier
