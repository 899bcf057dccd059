import FormScript.Source.Line
import FormScript.Text.Word

/-! The pieces that the statements of a source line are made of. Each takes its piece off the front
of a line and gives back what follows. Letters match in either case. -/
namespace FormScript.Source

open Text

/-- The lower case ASCII letter that a character counts as; the long s and the Kelvin sign count as
the letters they stand for. -/
def foldCase (c : Char) : Char :=
  if c.toNat = 0x17F then 's' else if c.toNat = 0x212A then 'k' else c.toLower

def afterChars : List Char → Line → Option Line
  | [], cs => some cs
  | w :: ws, c :: cs => if foldCase c = w then afterChars ws cs else none
  | _ :: _, [] => none

def after (word : String) (cs : Line) : Option Line :=
  afterChars word.toList cs

def afterAny (words : List String) (cs : Line) : Option Line :=
  words.findSome? (after · cs)

def afterBlank : Line → Option Line
  | [] => none
  | c :: cs => if isBlank c then some (trimStart cs) else none

def optionally (piece : Line → Option Line) (cs : Line) : Line :=
  (piece cs).getD cs

def afterEquals (cs : Line) : Option Line :=
  (after "=" (trimStart cs)).map trimStart

/-- What follows a quote, with white space and one parenthesis allowed before it. -/
def afterQuote (cs : Line) : Option Line :=
  after "\"" (trimStart (optionally (after "(") (trimStart cs)))

def isWhole (rest : Option Line) : Bool :=
  rest == some []

def atWordEnd (cs : Line) : Bool :=
  cs.head?.all (!isWord ·)

def member? (cs : Line) : Option (List Char × Line) := do
  let cs ← afterAny ["me.", "me!"] cs
  let cs := optionally (after "[") cs
  let name := cs.takeWhile isWord
  if name.isEmpty then none
  else return (name, optionally (after "]") (cs.dropWhile isWord))

/-- The text of a string literal from behind its opening quote, where a doubled quote stands for
one. The literal is taken as long as it can be while what follows it passes `tail`. -/
def quoted? (tail : Line → Bool) : Line → Option (List Char)
  | [] => none
  | '"' :: '"' :: rest =>
    match quoted? tail rest with
    | some text => some ('"' :: text)
    | none => if tail ('"' :: rest) then some [] else none
  | '"' :: rest => if tail rest then some [] else none
  | c :: rest => (quoted? tail rest).map (c :: ·)

def isNumber (cs : Line) : Bool :=
  let cs := optionally (after "-") cs
  match cs.dropWhile isDigit with
  | [] => !cs.isEmpty
  | '.' :: rest => !(cs.takeWhile isDigit).isEmpty && !rest.isEmpty && rest.all isDigit
  | _ => false

def literal? (value : Line) : Option (List Char) :=
  let value := trim value
  match (after "\"" value).bind (quoted? (·.isEmpty)) with
  | some text => some text
  | none =>
    if isNumber value || isWhole (afterAny ["true", "false", "null"] value) then some value
    else none

def assignment? (cs : Line) : Option (List Char × Line) := do
  let (field, cs) ← member? cs
  let value ← after "=" (trimStart (optionally (after ".value") cs))
  if value.isEmpty then none else return (field, value)

end FormScript.Source
