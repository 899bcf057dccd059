import FormScript.Json.Basic

/-! Numbers as they are written in JSON text. A number without fraction and exponent is an integer
when it fits 64 bits, signed below zero and unsigned otherwise; every other number is a decimal.
A decimal too large for a double is no number at all. -/
namespace FormScript.Json

structure Numeral where
  negative : Bool
  whole : List Char
  fraction : List Char
  /-- Absent when no exponent is written. -/
  exponent : Option Int
  deriving Repr

def maxUnsigned : Nat := 18446744073709551615

def maxNegated : Nat := 9223372036854775808

/-- Rounds to 53 significant bits, a half going to the even neighbour. -/
def roundBits (n : Nat) : Nat :=
  if n.log2 < 53 then n
  else
    let unit := Nat.pow 2 (n.log2 - 52)
    let q := n / unit
    let r := n % unit
    let up := decide (unit < 2 * r) || (2 * r == unit && q % 2 == 1)
    (if up then q + 1 else q) * unit

/-- Leading digits as far as they fit 64 bits, and how many of the digits were left over. -/
def leading (start : Nat) : List Char → Nat × Nat
  | [] => (start, 0)
  | c :: rest =>
    let next := start * 10 + (c.toNat - '0'.toNat)
    if maxUnsigned < next then (start, rest.length + 1) else leading next rest

/-- The size of a decimal as a double is computed from the leading digits and a power of ten, each
rounded, and their rounded product; digits after the point that do not fit are ignored. -/
def Numeral.tooLarge (n : Numeral) : Bool :=
  let (whole, extra) := leading 0 n.whole
  let (digits, ignored) := leading whole n.fraction
  let e : Int := extra - (n.fraction.length - ignored : Nat) + n.exponent.getD 0
  let size := fun power => (roundBits (roundBits digits * roundBits (Nat.pow 10 power))).log2
  digits != 0 && (decide (309 ≤ e) || (decide (0 ≤ e) && decide (1024 ≤ size e.toNat)))

def signed (negative : Bool) (n : Nat) : Int :=
  if negative then -n else n

def Numeral.toJson (n : Numeral) : Option Json :=
  let digits := Nat.ofDigitChars 10 (n.whole ++ n.fraction) 0
  let isInt := n.fraction.isEmpty && n.exponent.isNone &&
    if n.negative then digits != 0 && decide (digits ≤ maxNegated)
    else decide (digits ≤ maxUnsigned)
  if isInt then some (.int (signed n.negative digits))
  else if n.tooLarge then none
  else some (.decimal (signed n.negative digits) (n.exponent.getD 0 - n.fraction.length))

def readDigits (cs : List Char) : Option (List Char × List Char) :=
  if (cs.takeWhile Char.isDigit).isEmpty then none
  else some (cs.takeWhile Char.isDigit, cs.dropWhile Char.isDigit)

def readWhole : List Char → Option (List Char × List Char)
  | '0' :: rest => some (['0'], rest)
  | cs => readDigits cs

def readFraction : List Char → Option (List Char × List Char)
  | '.' :: cs => readDigits cs
  | cs => some ([], cs)

def readMinus : List Char → Bool × List Char
  | '-' :: cs => (true, cs)
  | cs => (false, cs)

def readSign : List Char → Bool × List Char
  | '+' :: cs => (false, cs)
  | cs => readMinus cs

def readExponent : List Char → Option (Option Int × List Char)
  | [] => some (none, [])
  | c :: cs =>
    if c = 'e' ∨ c = 'E' then
      (readDigits (readSign cs).2).map fun (digits, rest) =>
        (some (signed (readSign cs).1 (Nat.ofDigitChars 10 digits 0)), rest)
    else some (none, c :: cs)

def readNumber (cs : List Char) : Option (Json × List Char) :=
  (readWhole (readMinus cs).2).bind fun (whole, cs1) =>
  (readFraction cs1).bind fun (fraction, cs2) =>
  (readExponent cs2).bind fun (exponent, cs3) =>
  (Numeral.toJson ⟨(readMinus cs).1, whole, fraction, exponent⟩).map (·, cs3)

theorem readDigits_length {cs digits rest : List Char} (h : readDigits cs = some (digits, rest)) :
    rest.length < cs.length := by
  unfold readDigits at h
  split at h
  · simp at h
  · rename_i hne
    simp only [Option.some.injEq, Prod.mk.injEq] at h
    rw [h.1] at hne
    have hl := congrArg List.length (List.takeWhile_append_dropWhile (p := Char.isDigit) (l := cs))
    rw [List.length_append, h.1, h.2] at hl
    cases digits with
    | nil => simp at hne
    | cons => simp at hl; omega

theorem readWhole_length {cs whole rest : List Char} (h : readWhole cs = some (whole, rest)) :
    rest.length < cs.length := by
  unfold readWhole at h
  split at h
  · simp at h; simp [h.2]
  · exact readDigits_length h

theorem readFraction_length {cs fraction rest : List Char}
    (h : readFraction cs = some (fraction, rest)) : rest.length ≤ cs.length := by
  unfold readFraction at h
  split at h
  · have := readDigits_length h; simp; omega
  · simp at h; simp [h.2]

theorem readMinus_length (cs : List Char) : (readMinus cs).2.length ≤ cs.length := by
  unfold readMinus; split <;> simp

theorem readSign_length (cs : List Char) : (readSign cs).2.length ≤ cs.length := by
  unfold readSign
  split
  · simp
  · exact readMinus_length _

theorem readExponent_length {cs rest : List Char} {exponent : Option Int}
    (h : readExponent cs = some (exponent, rest)) : rest.length ≤ cs.length := by
  unfold readExponent at h
  split at h
  · simp at h; simp [h.2]
  · rename_i c cs
    split at h
    · obtain ⟨⟨digits, after⟩, hd, he⟩ := Option.map_eq_some_iff.1 h
      have h1 := readDigits_length hd
      have h2 := readSign_length cs
      simp only [Prod.mk.injEq] at he
      rw [← he.2, List.length_cons]
      omega
    · simp at h; simp [← h.2]

theorem readNumber_length {cs rest : List Char} {v : Json} (h : readNumber cs = some (v, rest)) :
    rest.length < cs.length := by
  unfold readNumber at h
  obtain ⟨⟨whole, c1⟩, hw, h⟩ := Option.bind_eq_some_iff.1 h
  obtain ⟨⟨fraction, c2⟩, hf, h⟩ := Option.bind_eq_some_iff.1 h
  obtain ⟨⟨exponent, c3⟩, he, h⟩ := Option.bind_eq_some_iff.1 h
  obtain ⟨value, -, hr⟩ := Option.map_eq_some_iff.1 h
  have h0 := readMinus_length cs
  have h1 := readWhole_length hw
  have h2 := readFraction_length hf
  have h3 := readExponent_length he
  simp only [Prod.mk.injEq] at hr
  rw [← hr.2]
  omega

end FormScript.Json
