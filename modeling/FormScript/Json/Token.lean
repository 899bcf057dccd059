import FormScript.Json.Number

/-! The tokens of JSON text: brackets, separators, strings and the other scalars. -/
namespace FormScript.Json

inductive Token where
  | beginArray
  | endArray
  | beginObject
  | endObject
  | comma
  | colon
  | text (value : String)
  | scalar (value : Json)
  deriving Repr

def isSpace (c : Char) : Bool :=
  c == ' ' || c == '\n' || c == '\t' || c == '\r'

def punctuation? : Char → Option Token
  | '[' => some .beginArray
  | ']' => some .endArray
  | '{' => some .beginObject
  | '}' => some .endObject
  | ',' => some .comma
  | ':' => some .colon
  | _ => none

def hexDigit? (c : Char) : Option Nat :=
  if '0' ≤ c ∧ c ≤ '9' then some (c.toNat - '0'.toNat)
  else if 'a' ≤ c ∧ c ≤ 'f' then some (c.toNat - 'a'.toNat + 10)
  else if 'A' ≤ c ∧ c ≤ 'F' then some (c.toNat - 'A'.toNat + 10)
  else none

def hexUnit? (a b c d : Char) : Option Nat := do
  return 4096 * (← hexDigit? a) + 256 * (← hexDigit? b) + 16 * (← hexDigit? c) + (← hexDigit? d)

def escaped? : Char → Option Char
  | '"' => some '"'
  | '\\' => some '\\'
  | '/' => some '/'
  | 'b' => some '\x08'
  | 'f' => some '\x0c'
  | 'n' => some '\n'
  | 'r' => some '\r'
  | 't' => some '\t'
  | _ => none

def isHighHalf (n : Nat) : Bool :=
  decide (0xD800 ≤ n) && decide (n ≤ 0xDBFF)

def isLowHalf (n : Nat) : Bool :=
  decide (0xDC00 ≤ n) && decide (n ≤ 0xDFFF)

def joinHalves (high low : Nat) : Char :=
  Char.ofNat (0x10000 + (high - 0xD800) * 0x400 + (low - 0xDC00))

/-- Reads up to the closing quote; `acc` holds the characters read so far, latest first. Control
characters must be escaped, and a half of a pair must not stand alone. -/
def readString (acc : List Char) : List Char → Option (String × List Char)
  | '"' :: rest => some (String.ofList acc.reverse, rest)
  | '\\' :: 'u' :: a :: b :: c :: d :: rest =>
    match hexUnit? a b c d with
    | none => none
    | some high =>
      if isLowHalf high then none
      else if isHighHalf high then
        match rest with
        | '\\' :: 'u' :: e :: f :: g :: h :: rest =>
          match hexUnit? e f g h with
          | some low => if isLowHalf low then readString (joinHalves high low :: acc) rest else none
          | none => none
        | _ => none
      else readString (Char.ofNat high :: acc) rest
  | '\\' :: c :: rest =>
    match escaped? c with
    | some found => readString (found :: acc) rest
    | none => none
  | c :: rest => if c.toNat < 32 ∨ c = '\\' then none else readString (c :: acc) rest
  | [] => none

theorem readString_length {acc cs : List Char} {s : String} {rest : List Char}
    (h : readString acc cs = some (s, rest)) : rest.length < cs.length := by
  fun_induction readString acc cs <;> simp_all <;> omega

def readScalar : List Char → Option (Json × List Char)
  | 't' :: 'r' :: 'u' :: 'e' :: rest => some (.bool true, rest)
  | 'f' :: 'a' :: 'l' :: 's' :: 'e' :: rest => some (.bool false, rest)
  | 'n' :: 'u' :: 'l' :: 'l' :: rest => some (.null, rest)
  | cs => readNumber cs

theorem readScalar_length {cs rest : List Char} {v : Json}
    (h : readScalar cs = some (v, rest)) : rest.length < cs.length := by
  unfold readScalar at h
  split at h
  · simp at h; simp [← h.2]; omega
  · simp at h; simp [← h.2]; omega
  · simp at h; simp [← h.2]; omega
  · exact readNumber_length h

def lex (cs : List Char) : Option (List Token) :=
  match cs with
  | [] => some []
  | '"' :: rest =>
    match _h : readString [] rest with
    | some (s, after) => (lex after).map (.text s :: ·)
    | none => none
  | c :: rest =>
    if isSpace c then lex rest
    else match punctuation? c with
      | some token => (lex rest).map (token :: ·)
      | none =>
        match _h : readScalar (c :: rest) with
        | some (v, after) => (lex after).map (.scalar v :: ·)
        | none => none
termination_by cs.length
decreasing_by
  all_goals simp_wf
  · have := readString_length _h; omega
  · have := readScalar_length _h; simp at this; omega

end FormScript.Json
