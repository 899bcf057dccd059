import FormScript.Json.Basic

/-! Decoding JSON values into records. A record is an object, or an array of its fields in order;
fields that it does not have are ignored. Only a field that may be missing takes `null`. -/
namespace FormScript.Wire

def text? : Json → Option String
  | .str s => some s
  | _ => none

def flag? : Json → Option Bool
  | .bool b => some b
  | _ => none

def count? : Json → Option Nat
  | .int (.ofNat n) => some n
  | _ => none

def listOf? (item : Json → Option α) : Json → Option (List α)
  | .arr items => items.mapM item
  | _ => none

abbrev Fields := String → Option Json

/-- The fields of an object, or of an array that lists those named, perhaps not all of them. -/
def fields? (names : List String) : Json → Option Fields
  | .obj fields => some fun key => Json.fieldOf key fields
  | .arr items =>
    if items.length ≤ names.length then some fun key => (names.zip items).lookup key else none
  | _ => none

def Fields.required (fields : Fields) (key : String) (decode : Json → Option α) : Option α :=
  (fields key).bind decode

def Fields.optional (fields : Fields) (key : String) (decode : Json → Option α) :
    Option (Option α) :=
  match Json.nonNull (fields key) with
  | none => some none
  | some v => (decode v).map some

/-- A field that may be missing but not `null`. -/
def Fields.defaulted (fields : Fields) (key : String) (default : α) (decode : Json → Option α) :
    Option α :=
  match fields key with
  | none => some default
  | some v => decode v

/-- Whether a value may stand as what a name carries, which is nothing. Inside a value that was
held back until its kind was known, an empty object is nothing too. -/
def isUnit (held : Bool) : Json → Bool
  | .null => true
  | .obj [] => held
  | _ => false

def named? (held : Bool) (name : α → String) (all : List α) : Json → Option α
  | .str s => all.find? (name · = s)
  | .obj ((k, v) :: rest) =>
    if rest.all (·.1 = k) && ((Json.fieldOf k ((k, v) :: rest)).any (isUnit held)) then
      all.find? (name · = k)
    else none
  | _ => none

def tag? (held : Bool) (names : List String) : Json → Option String
  | .str s => names.find? (· = s)
  | .int (.ofNat n) => if held then names[n]? else none
  | _ => none

end FormScript.Wire
