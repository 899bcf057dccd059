import FormScript.Source.Statement

/-! What a line does to the structure of a procedure: it opens or closes a conditional, divides or
ends something, declares something, or is a statement. -/
namespace FormScript.Source

open Text

inductive Shape where
  | endSub
  | endIf
  | otherwise
  | elseIf
  | declaration
  /-- Opens a conditional over several lines. -/
  | ifBlock (condition : Line)
  /-- A whole conditional on one line. -/
  | ifLine (condition thenPart : Line) (elsePart : Option Line)
  | plain
  deriving DecidableEq, Repr

def header? (line : Line) : Option (List Char) := do
  let cs := optionally
    (fun cs => (afterAny ["public", "private", "friend"] cs).bind afterBlank) line
  let cs := optionally (fun cs => (after "static" cs).bind afterBlank) cs
  let cs ← (afterAny ["sub", "function"] cs).bind afterBlank
  match cs with
  | [] => none
  | c :: rest =>
    if (foldCase c).isLower || c == '_' then return c :: rest.takeWhile isWord else none

def isEndSub (line : Line) : Bool :=
  isWhole (((after "end" line).bind afterBlank).bind (afterAny ["sub", "function"]))

def isEndIf (line : Line) : Bool :=
  isWhole (((after "end" line).map trimStart).bind (after "if"))

def isElse (line : Line) : Bool :=
  isWhole (after "else" line)

def isDeclaration (line : Line) : Bool :=
  ((afterAny ["dim", "const", "static"] line).bind afterBlank).isSome

def untilThen? (opening : String) (line : Line) : Option Line := do
  let cs ← after opening line
  let between := cs.take (cs.length - 4)
  if isWhole (after "then" (cs.drop (cs.length - 4))) && decide (3 ≤ between.length) &&
      between.head?.any isBlank && between.getLast?.any isBlank then
    return between
  else none

/-- Splits a line at the first place, not at its start, where a word stands with white space before
it and white space and something else after it. -/
def splitAtWord (word : String) : Line → Option (Line × Line)
  | [] => none
  | c :: rest =>
    match ((afterBlank rest).bind (after word)).bind afterBlank with
    | some (d :: after) => some ([c], d :: after)
    | _ => (splitAtWord word rest).map fun (before, after) => (c :: before, after)

def splitElse (cs : Line) : Line × Option Line :=
  match splitAtWord "else" cs with
  | some (thenPart, elsePart) => (thenPart, some elsePart)
  | none => (cs, none)

/-- A conditional with its statements on one line. Where no condition stands before the word
"then", three blanks or more before that word leave a blank one. -/
def ifLine? (line : Line) : Option Shape := do
  let cs ← after "if" line
  let rest ← afterBlank cs
  match splitAtWord "then" rest with
  | some (condition, statements) =>
    let (thenPart, elsePart) := splitElse statements
    return .ifLine condition thenPart elsePart
  | none =>
    let statements ← (after "then" rest).bind afterBlank
    if rest.length + 3 ≤ cs.length && !statements.isEmpty then
      let (thenPart, elsePart) := splitElse statements
      return .ifLine [' '] thenPart elsePart
    else none

def shape (line : Line) : Shape :=
  if isEndSub line then .endSub
  else if isEndIf line then .endIf
  else if isElse line then .otherwise
  else if (untilThen? "elseif" line).isSome then .elseIf
  else if isDeclaration line then .declaration
  else if let some condition := untilThen? "if" line then .ifBlock condition
  else (ifLine? line).getD .plain

end FormScript.Source
