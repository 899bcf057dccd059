import FormScript.Json.Reader
import FormScript.Text.Blank
import FormScript.Text.Find

/-! JSON inside other text. The text may be JSON itself, hold it in a fenced block, or hold it
somewhere between its first opening and its last closing bracket; the first of the three that can
be read counts. -/
namespace FormScript.Json

open Text

/-- The body of the first fenced block, without the line that opens it. -/
def fenced? (cs : List Char) : Option (List Char) := do
  let (_, after) ← cut "```".toList cs
  let (_, body) ← cut ['\n'] after
  let (inside, _) ← cut "```".toList body
  return trim inside

def isOpening (c : Char) : Bool :=
  c == '{' || c == '['

def isClosing (c : Char) : Bool :=
  c == '}' || c == ']'

/-- From the first opening bracket to the last closing one after it. -/
def bracketed (cs : List Char) : List Char :=
  ((cs.dropWhile (!isOpening ·)).reverse.dropWhile (!isClosing ·)).reverse

def readEmbedded (text : String) : Option Json :=
  let cs := trim text.toList
  readWithin maxDepth cs <|> (fenced? cs).bind (readWithin maxDepth) <|>
    readWithin maxDepth (bracketed cs)

end FormScript.Json
