import FormScript.Json.Basic

/-! Writing JSON text, either on one line or with two spaces of indentation for each level. -/
namespace FormScript.Json

structure Layout where
  /-- What stands before an item, and before the bracket that closes a level, at a depth. -/
  newline : Nat → List Char
  /-- What stands between a key and its value. -/
  colon : List Char

def Layout.compact : Layout where
  newline := fun _ => []
  colon := [':']

def Layout.pretty : Layout where
  newline := fun depth => '\n' :: List.replicate (2 * depth) ' '
  colon := [':', ' ']

def hexChar (n : Nat) : Char :=
  Nat.digitChar (n % 16)

/-- Quotes, backslashes and control characters are escaped; all else stands for itself. -/
def escape (c : Char) : List Char :=
  match c with
  | '"' => ['\\', '"']
  | '\\' => ['\\', '\\']
  | '\x08' => ['\\', 'b']
  | '\x0c' => ['\\', 'f']
  | '\n' => ['\\', 'n']
  | '\r' => ['\\', 'r']
  | '\t' => ['\\', 't']
  | _ =>
    if c.toNat < 32 then ['\\', 'u', '0', '0', hexChar (c.toNat / 16), hexChar c.toNat] else [c]

def writeString (s : String) : List Char :=
  '"' :: s.toList.flatMap escape ++ ['"']

def writeInt : Int → List Char
  | .ofNat n => Nat.toDigits 10 n
  | .negSucc n => '-' :: Nat.toDigits 10 (n + 1)

mutual

def write (layout : Layout) (depth : Nat) : Json → List Char
  | .null => ['n', 'u', 'l', 'l']
  | .bool true => ['t', 'r', 'u', 'e']
  | .bool false => ['f', 'a', 'l', 's', 'e']
  | .int n => writeInt n
  | .decimal m e => writeInt m ++ 'e' :: writeInt e
  | .str s => writeString s
  | .arr [] => ['[', ']']
  | .arr (v :: vs) =>
    '[' :: layout.newline (depth + 1) ++ write layout (depth + 1) v ++
      writeItems layout (depth + 1) vs ++ layout.newline depth ++ [']']
  | .obj [] => ['{', '}']
  | .obj ((k, v) :: fields) =>
    '{' :: layout.newline (depth + 1) ++ writeString k ++ layout.colon ++
      write layout (depth + 1) v ++ writeFields layout (depth + 1) fields ++
      layout.newline depth ++ ['}']

def writeItems (layout : Layout) (depth : Nat) : List Json → List Char
  | [] => []
  | v :: vs => ',' :: layout.newline depth ++ write layout depth v ++ writeItems layout depth vs

def writeFields (layout : Layout) (depth : Nat) : List (String × Json) → List Char
  | [] => []
  | (k, v) :: fields =>
    ',' :: layout.newline depth ++ writeString k ++ layout.colon ++ write layout depth v ++
      writeFields layout depth fields

end

def compact (v : Json) : String :=
  String.ofList (write .compact 0 v)

def pretty (v : Json) : String :=
  String.ofList (write .pretty 0 v)

end FormScript.Json
