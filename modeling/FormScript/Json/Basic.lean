/-! JSON values. An object keeps its fields as they stand in the text; where a key occurs more than
once, the last field with that key is the one that counts. -/
namespace FormScript

inductive Json where
  | null
  | bool (value : Bool)
  | int (value : Int)
  /-- A number that is not a machine integer: `significand` times ten to the power `exponent`. -/
  | decimal (significand exponent : Int)
  | str (value : String)
  | arr (items : List Json)
  | obj (fields : List (String × Json))
  deriving Repr, Inhabited

namespace Json

/-- The value a list of fields gives a key: that of the last field with this key. -/
def fieldOf (key : String) : List (String × Json) → Option Json
  | [] => none
  | (k, v) :: rest =>
    match fieldOf key rest with
    | some found => some found
    | none => if k = key then some v else none

@[simp] theorem fieldOf_nil (key : String) : fieldOf key [] = none := rfl

theorem fieldOf_append (key : String) (earlier later : List (String × Json)) :
    fieldOf key (earlier ++ later) = (fieldOf key later).or (fieldOf key earlier) := by
  induction earlier with
  | nil => simp
  | cons field rest ih =>
    obtain ⟨k, v⟩ := field
    rw [List.cons_append, fieldOf, ih, fieldOf]
    cases fieldOf key later <;> simp

def get? (key : String) : Json → Option Json
  | .obj fields => fieldOf key fields
  | _ => none

def isNull : Json → Bool
  | .null => true
  | _ => false

def nonNull (value : Option Json) : Option Json :=
  value.filter (!·.isNull)

@[simp] theorem nonNull_none : nonNull none = none := rfl

@[simp] theorem nonNull_null : nonNull (some .null) = none := rfl

/-- An optional field: written only when there is something to write. -/
def optional (key : String) : Option Json → List (String × Json)
  | some value => [(key, value)]
  | none => []

end Json

end FormScript
