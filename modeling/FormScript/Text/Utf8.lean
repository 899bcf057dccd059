/-! Bytes as text where some of them may be no text: each longest run of bytes that begins a
character and does not finish it is read as one replacement character. -/
namespace FormScript.Text.Utf8

def replacement : Char := Char.ofNat 0xFFFD

def following (lead : UInt8) : Option Nat :=
  if lead < 0x80 then some 0
  else if lead < 0xC2 then none
  else if lead < 0xE0 then some 1
  else if lead < 0xF0 then some 2
  else if lead < 0xF5 then some 3
  else none

def isTail (b : UInt8) : Bool :=
  0x80 ≤ b && b ≤ 0xBF

/-- Whether `b` may be the second byte of a character: the ranges are narrower after the first
bytes where a shorter form, a surrogate or a code point beyond the last one would arise. -/
def isSecond (lead b : UInt8) : Bool :=
  if lead == 0xE0 then 0xA0 ≤ b && b ≤ 0xBF
  else if lead == 0xED then 0x80 ≤ b && b ≤ 0x9F
  else if lead == 0xF0 then 0x90 ≤ b && b ≤ 0xBF
  else if lead == 0xF4 then 0x80 ≤ b && b ≤ 0x8F
  else isTail b

/-- The bytes that continue the character begun by `lead`, at most `count` of them. -/
def continuation (lead : UInt8) (count : Nat) (bytes : List UInt8) : List UInt8 :=
  match bytes.take count with
  | [] => []
  | b :: rest => if isSecond lead b then b :: rest.takeWhile isTail else []

def codePoint (lead : UInt8) (tail : List UInt8) : Nat :=
  let high := match tail.length with
    | 0 => lead.toNat
    | 1 => lead.toNat % 32
    | 2 => lead.toNat % 16
    | _ => lead.toNat % 8
  tail.foldl (fun n b => n * 64 + b.toNat % 64) high

def decodeLossy : List UInt8 → List Char
  | [] => []
  | lead :: rest =>
    match following lead with
    | none => replacement :: decodeLossy rest
    | some count =>
      let tail := continuation lead count rest
      (if tail.length = count then Char.ofNat (codePoint lead tail) else replacement) ::
        decodeLossy (rest.drop tail.length)
termination_by bytes => bytes.length

end FormScript.Text.Utf8
