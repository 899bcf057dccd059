import FormScript.Text.Blank
import FormScript.Text.Lines

/-! Logical lines of event-procedure source: comments, remarks and blank lines are gone, and a line
that ends in a space and an underscore goes on in the next one. -/
namespace FormScript.Source

abbrev Line := List Char

def stripComment (inString : Bool) : Line → Line
  | [] => []
  | c :: rest =>
    if c = '"' then c :: stripComment (!inString) rest
    else if c.toNat = 39 ∧ inString = false then []
    else c :: stripComment inString rest

def continued? (line : Line) : Option Line :=
  match line.reverse with
  | '_' :: ' ' :: head => some head.reverse
  | _ => none

/-- A remark: the word alone, or the word and a space, in either case. -/
def isRemark (line : Line) : Bool :=
  line.map Char.toLower == "rem".toList || (line.take 4).map Char.toLower == "rem ".toList

/-- `pending` holds what the lines before have left to be continued. -/
def logicalFrom (pending : Line) : List Line → List Line
  | [] => if (Text.trim pending).isEmpty then [] else [Text.trim pending]
  | raw :: more =>
    let line := Text.trim (stripComment false raw)
    match continued? line with
    | some head => logicalFrom (pending ++ Text.trim head ++ [' ']) more
    | none =>
      let full := Text.trim (pending ++ line)
      if full.isEmpty || isRemark full then logicalFrom [] more
      else full :: logicalFrom [] more

def logicalLines (source : List Char) : List Line :=
  logicalFrom [] (Text.lines source)

end FormScript.Source
