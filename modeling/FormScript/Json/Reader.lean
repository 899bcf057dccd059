import FormScript.Json.Token

/-! Reading JSON text. Tokens are taken one by one; what is open around the next one is kept on a
stack, and the stack never grows beyond the depth that the caller allows. -/
namespace FormScript.Json

inductive Frame where
  /-- An array, with its items so far, latest first. -/
  | array (items : List Json)
  /-- An object, with its fields so far, latest first, and the key whose value comes next. -/
  | object (fields : List (String × Json)) (key : String)
  deriving Repr

/-- What may come next. `stack` is what is open around it, innermost first. -/
inductive State where
  | value (stack : List Frame)
  /-- An item, or the end of an empty array. -/
  | firstItem (stack : List Frame)
  /-- A key, or the end of an empty object. -/
  | firstKey (stack : List Frame)
  | key (fields : List (String × Json)) (stack : List Frame)
  | colon (fields : List (String × Json)) (key : String) (stack : List Frame)
  /-- A value has just ended. -/
  | done (value : Json) (stack : List Frame)
  deriving Repr

/-- The start of a value. The outermost bracket is at depth one. -/
def State.begin (limit : Nat) (stack : List Frame) : Token → Option State
  | .scalar v => some (.done v stack)
  | .text s => some (.done (.str s) stack)
  | .beginArray => if stack.length < limit then some (.firstItem stack) else none
  | .beginObject => if stack.length < limit then some (.firstKey stack) else none
  | _ => none

def State.step (limit : Nat) : State → Token → Option State
  | .value stack, token => State.begin limit stack token
  | .firstItem stack, .endArray => some (.done (.arr []) stack)
  | .firstItem stack, token => State.begin limit (.array [] :: stack) token
  | .firstKey stack, .endObject => some (.done (.obj []) stack)
  | .firstKey stack, .text k => some (.colon [] k stack)
  | .key fields stack, .text k => some (.colon fields k stack)
  | .colon fields k stack, .colon => some (.value (.object fields k :: stack))
  | .done v (.array items :: stack), .comma => some (.value (.array (v :: items) :: stack))
  | .done v (.array items :: stack), .endArray => some (.done (.arr (v :: items).reverse) stack)
  | .done v (.object fields k :: stack), .comma => some (.key ((k, v) :: fields) stack)
  | .done v (.object fields k :: stack), .endObject =>
    some (.done (.obj ((k, v) :: fields).reverse) stack)
  | _, _ => none

def State.run (limit : Nat) (state : State) (tokens : List Token) : Option State :=
  tokens.foldlM (State.step limit) state

/-- The value of a text that holds exactly one, its brackets nested at most `limit` deep. -/
def readWithin (limit : Nat) (cs : List Char) : Option Json :=
  match (lex cs).bind (State.run limit (.value [])) with
  | some (.done v []) => some v
  | _ => none

def maxDepth : Nat := 127

def read (text : String) : Option Json :=
  readWithin maxDepth text.toList

end FormScript.Json
