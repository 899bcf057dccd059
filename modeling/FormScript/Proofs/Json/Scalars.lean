import FormScript.Json.Token
import FormScript.Json.Writer

/-! The tokens of written strings and numbers. A string is read back as it was. A number is read
back as it was if it is an integer of 64 bits; a larger one comes back as a decimal, or not at all. -/
namespace FormScript.Json

theorem hexDigit?_hexChar (n : Nat) : hexDigit? (hexChar n) = some (n % 16) := by
  have hall : ∀ d < 16, hexDigit? (Nat.digitChar d) = some d := by decide
  exact hall (n % 16) (Nat.mod_lt n (by decide))

theorem hexUnit?_control {n : Nat} (h : n < 32) :
    hexUnit? '0' '0' (hexChar (n / 16)) (hexChar n) = some n := by
  have hzero : hexDigit? '0' = some 0 := by decide
  simp only [hexUnit?, hexDigit?_hexChar, hzero, Option.bind_eq_bind, Option.bind_some,
    Option.pure_def, Option.some.injEq]
  omega

theorem readString_plain (acc : List Char) {c : Char} (hquote : c ≠ '"') (hslash : c ≠ '\\')
    (hcontrol : ¬c.toNat < 32) (rest : List Char) :
    readString acc (c :: rest) = readString (c :: acc) rest := by
  rw [readString.eq_def]
  split
  · simp_all
  · simp_all
  · simp_all
  · rename_i heq
    cases heq
    rw [if_neg (not_or.mpr ⟨hcontrol, hslash⟩)]
  · simp_all

theorem readString_escape (acc : List Char) (c : Char) (rest : List Char) :
    readString acc (escape c ++ rest) = readString (c :: acc) rest := by
  unfold escape
  split
  iterate 7 simp [readString, escaped?]
  split
  · rename_i hcontrol
    have hlow : isLowHalf c.toNat = false := by simp [isLowHalf]; omega
    have hhigh : isHighHalf c.toNat = false := by simp [isHighHalf]; omega
    simp only [List.cons_append, List.nil_append, readString, hexUnit?_control hcontrol, hlow,
      hhigh, Char.ofNat_toNat]
    simp
  · apply readString_plain <;> simp_all

theorem readString_written (acc cs rest : List Char) :
    readString acc (cs.flatMap escape ++ '"' :: rest) =
      some (String.ofList (acc.reverse ++ cs), rest) := by
  induction cs generalizing acc with
  | nil => simp [readString]
  | cons c cs ih =>
    rw [List.flatMap_cons, List.append_assoc, readString_escape, ih, List.reverse_cons,
      List.append_assoc]
    rfl

theorem lex_string (s : String) (rest : List Char) :
    lex (writeString s ++ rest) = (lex rest).map (.text s :: ·) := by
  have hread : readString [] (s.toList.flatMap escape ++ '"' :: rest) = some (s, rest) := by
    simp [readString_written]
  simp only [writeString, List.cons_append, List.append_assoc, List.nil_append]
  rw [lex]
  split
  · rename_i s' after h
    rw [hread] at h
    cases h
    rfl
  · rename_i h
    rw [hread] at h
    contradiction

theorem isSpace_of_punctuation {c : Char} {token : Token} (h : punctuation? c = some token) :
    isSpace c = false ∧ c ≠ '"' := by
  unfold punctuation? at h
  split at h
  iterate 6 decide
  contradiction

theorem lex_punctuation {c : Char} {token : Token} (h : punctuation? c = some token)
    (rest : List Char) : lex (c :: rest) = (lex rest).map (token :: ·) := by
  obtain ⟨hspace, hquote⟩ := isSpace_of_punctuation h
  rw [lex.eq_def]
  split
  · contradiction
  · simp_all
  · simp_all

theorem lex_space {c : Char} (h : isSpace c = true) (rest : List Char) :
    lex (c :: rest) = lex rest := by
  have hquote : c ≠ '"' := by
    rintro rfl
    contradiction
  rw [lex.eq_def]
  split
  · contradiction
  · simp_all
  · simp_all

theorem lex_spaces {cs : List Char} (h : ∀ c ∈ cs, isSpace c = true) (rest : List Char) :
    lex (cs ++ rest) = lex rest := by
  induction cs with
  | nil => rfl
  | cons c cs ih =>
    rw [List.cons_append, lex_space (h c List.mem_cons_self)]
    exact ih fun d hd => h d (List.mem_cons_of_mem c hd)

theorem lex_scalar {c : Char} (hquote : c ≠ '"') (hspace : isSpace c = false)
    (hpunctuation : punctuation? c = none) (cs : List Char) :
    lex (c :: cs) = (readScalar (c :: cs)).bind fun p => (lex p.2).map (.scalar p.1 :: ·) := by
  rw [lex.eq_def]
  split
  · contradiction
  · simp_all
  · rename_i d rest hd heq
    cases heq
    simp only [hspace, hpunctuation, Bool.false_eq_true, if_false]
    split
    · rename_i v after h
      rw [h]
      rfl
    · rename_i h
      rw [h]
      rfl

/-- What may follow a number without becoming part of it. -/
def Stops (cs : List Char) : Prop :=
  ∀ c ∈ cs.head?, c.isDigit = false ∧ c ≠ '.' ∧ c ≠ 'e' ∧ c ≠ 'E'

theorem isDigit_toDigits (n : Nat) : ∀ c ∈ Nat.toDigits 10 n, c.isDigit = true :=
  fun _ hc => Nat.isDigit_of_mem_toDigits (by decide) (by decide) hc

theorem readDigits_append {digits rest : List Char} (hdigits : ∀ c ∈ digits, c.isDigit = true)
    (hne : digits ≠ []) (hrest : ∀ c ∈ rest.head?, c.isDigit = false) :
    readDigits (digits ++ rest) = some (digits, rest) := by
  have hstop : rest.takeWhile Char.isDigit = [] ∧ rest.dropWhile Char.isDigit = rest := by
    cases rest with
    | nil => exact ⟨rfl, rfl⟩
    | cons c cs => simp [hrest c rfl]
  simp [readDigits, List.takeWhile_append_of_pos hdigits, List.dropWhile_append_of_pos hdigits,
    hstop, hne]

theorem toDigits_eq_cons {n : Nat} (h : 0 < n) :
    ∃ d ds, Nat.toDigits 10 n = d :: ds ∧ d ≠ '0' := by
  induction n using Nat.strongRecOn with
  | ind n ih =>
    by_cases hlt : n < 10
    · have hdigit : ∀ k < 10, 0 < k → Nat.digitChar k ≠ '0' := by decide
      exact ⟨_, [], Nat.toDigits_of_lt_base hlt, hdigit n hlt h⟩
    · obtain ⟨d, ds, hds, hd⟩ := ih (n / 10) (by omega) (by omega)
      refine ⟨d, ds ++ [(n % 10).digitChar], ?_, hd⟩
      rw [Nat.toDigits_of_base_le (by decide) (by omega), hds]
      rfl

theorem readWhole_toDigits (n : Nat) {rest : List Char}
    (hrest : ∀ c ∈ rest.head?, c.isDigit = false) :
    readWhole (Nat.toDigits 10 n ++ rest) = some (Nat.toDigits 10 n, rest) := by
  rcases Nat.eq_zero_or_pos n with rfl | hpos
  · rfl
  · obtain ⟨d, ds, hds, hd⟩ := toDigits_eq_cons hpos
    have hread := readDigits_append (isDigit_toDigits n) Nat.toDigits_ne_nil hrest
    rw [hds] at hread ⊢
    rw [readWhole.eq_def]
    split
    · simp_all
    · exact hread

theorem writeInt_eq (n : Int) :
    writeInt n = (if n < 0 then ['-'] else []) ++ Nat.toDigits 10 n.natAbs := by
  cases n with
  | ofNat n => simp [writeInt]
  | negSucc n => simp [writeInt, Int.negSucc_lt_zero]

theorem readMinus_digits {digits : List Char} (h : ∀ c ∈ digits, c.isDigit = true)
    (hne : digits ≠ []) (rest : List Char) :
    readMinus (digits ++ rest) = (false, digits ++ rest) := by
  rw [readMinus.eq_def]
  split
  · rename_i cs heq
    cases digits with
    | nil => exact absurd rfl hne
    | cons d ds =>
      cases heq
      exact absurd (h '-' List.mem_cons_self) (by decide)
  · rfl

theorem readMinus_writeInt (n : Int) (rest : List Char) :
    readMinus (writeInt n ++ rest) = (decide (n < 0), Nat.toDigits 10 n.natAbs ++ rest) := by
  rw [writeInt_eq]
  by_cases hn : n < 0
  · simp [hn, readMinus]
  · simp [hn, readMinus_digits (isDigit_toDigits n.natAbs) Nat.toDigits_ne_nil]

theorem readSign_writeInt (n : Int) (rest : List Char) :
    readSign (writeInt n ++ rest) = (decide (n < 0), Nat.toDigits 10 n.natAbs ++ rest) := by
  rw [← readMinus_writeInt, readSign.eq_def]
  split
  · rename_i cs heq
    rw [writeInt_eq] at heq
    split at heq
    · simp at heq
    · cases hds : Nat.toDigits 10 n.natAbs with
      | nil => exact absurd hds Nat.toDigits_ne_nil
      | cons d ds =>
        simp only [hds, List.nil_append, List.cons_append, List.cons.injEq] at heq
        exact absurd (isDigit_toDigits n.natAbs d (by simp [hds])) (by simp [heq.1])
  · rfl

theorem signed_natAbs (n : Int) : signed (decide (n < 0)) n.natAbs = n := by
  unfold signed
  by_cases hn : n < 0
  · rw [decide_eq_true hn, if_pos rfl]
    omega
  · rw [decide_eq_false hn, if_neg Bool.false_ne_true]
    omega

theorem readFraction_of_stops {rest : List Char} (h : ∀ c ∈ rest.head?, c ≠ '.') :
    readFraction rest = some ([], rest) := by
  rw [readFraction.eq_def]
  split
  · exact absurd rfl (h '.' rfl)
  · rfl

theorem readExponent_of_stops {rest : List Char} (h : Stops rest) :
    readExponent rest = some (none, rest) := by
  rw [readExponent.eq_def]
  split
  · rfl
  · rename_i c cs
    obtain ⟨-, -, he, hE⟩ := h c rfl
    rw [if_neg (not_or.mpr ⟨he, hE⟩)]

theorem readExponent_writeInt (n : Int) {rest : List Char} (h : Stops rest) :
    readExponent ('e' :: (writeInt n ++ rest)) = some (some n, rest) := by
  have hrest : ∀ c ∈ rest.head?, c.isDigit = false := fun c hc => (h c hc).1
  rw [readExponent, if_pos (Or.inl rfl), readSign_writeInt]
  simp only [readDigits_append (isDigit_toDigits n.natAbs) Nat.toDigits_ne_nil hrest,
    Option.map_some, Nat.ofDigitChars_ten_toDigits, signed_natAbs]

def numeral (n : Int) (exponent : Option Int) : Numeral :=
  ⟨decide (n < 0), Nat.toDigits 10 n.natAbs, [], exponent⟩

theorem readNumber_int (n : Int) {rest : List Char} (h : Stops rest) :
    readNumber (writeInt n ++ rest) = (numeral n none).toJson.map (·, rest) := by
  have hrest : ∀ c ∈ rest.head?, c.isDigit = false := fun c hc => (h c hc).1
  have hdot : ∀ c ∈ rest.head?, c ≠ '.' := fun c hc => (h c hc).2.1
  simp only [readNumber, readMinus_writeInt, readWhole_toDigits _ hrest, Option.bind_some,
    readFraction_of_stops hdot, readExponent_of_stops h, numeral]

theorem readNumber_decimal (m e : Int) {rest : List Char} (h : Stops rest) :
    readNumber (writeInt m ++ 'e' :: (writeInt e ++ rest)) =
      (numeral m (some e)).toJson.map (·, rest) := by
  have hrest : ∀ c ∈ ('e' :: (writeInt e ++ rest)).head?, c.isDigit = false := by simp
  have hdot : ∀ c ∈ ('e' :: (writeInt e ++ rest)).head?, c ≠ '.' := by simp
  simp only [readNumber, readMinus_writeInt, readWhole_toDigits _ hrest, Option.bind_some,
    readFraction_of_stops hdot, readExponent_writeInt e h, numeral]

theorem writeInt_eq_cons (n : Int) :
    ∃ c cs, writeInt n = c :: cs ∧ (c.isDigit = true ∨ c = '-') := by
  rw [writeInt_eq]
  split
  · exact ⟨'-', _, rfl, Or.inr rfl⟩
  · cases hds : Nat.toDigits 10 n.natAbs with
    | nil => exact absurd hds Nat.toDigits_ne_nil
    | cons d ds => exact ⟨d, ds, rfl, Or.inl (isDigit_toDigits n.natAbs d (by simp [hds]))⟩

def BeginsNumber (c : Char) : Prop :=
  c ≠ 't' ∧ c ≠ 'f' ∧ c ≠ 'n' ∧ c ≠ '"' ∧ isSpace c = false ∧ punctuation? c = none

theorem beginsNumber_of_isDigit {c : Char} (h : c.isDigit = true) : BeginsNumber c := by
  have hall : ∀ n < 58, (Char.ofNat n).isDigit = true →
      Char.ofNat n ≠ 't' ∧ Char.ofNat n ≠ 'f' ∧ Char.ofNat n ≠ 'n' ∧ Char.ofNat n ≠ '"' ∧
        isSpace (Char.ofNat n) = false ∧ (punctuation? (Char.ofNat n)).isNone = true := by
    decide
  have hlt : c.toNat < 58 := by
    simp only [Char.isDigit, Bool.and_eq_true, decide_eq_true_eq] at h
    have hle := UInt32.le_iff_toNat_le.mp h.2
    simp only [Char.toNat]
    exact Nat.lt_succ_of_le hle
  have hc := hall c.toNat hlt
  rw [Char.ofNat_toNat] at hc
  simpa [BeginsNumber] using hc h

theorem lex_number {c : Char} (h : BeginsNumber c) (cs : List Char) :
    lex (c :: cs) = (readNumber (c :: cs)).bind fun p => (lex p.2).map (.scalar p.1 :: ·) := by
  obtain ⟨ht, hf, hn, hquote, hspace, hpunctuation⟩ := h
  have hscalar : readScalar (c :: cs) = readNumber (c :: cs) := by
    rw [readScalar.eq_def]
    split <;> simp_all
  rw [lex_scalar hquote hspace hpunctuation, hscalar]

theorem lex_writeInt (n : Int) (rest : List Char) :
    lex (writeInt n ++ rest) =
      (readNumber (writeInt n ++ rest)).bind fun p => (lex p.2).map (.scalar p.1 :: ·) := by
  obtain ⟨c, cs, hcs, hc⟩ := writeInt_eq_cons n
  rw [hcs, List.cons_append]
  apply lex_number
  rcases hc with hdigit | rfl
  · exact beginsNumber_of_isDigit hdigit
  · simp [BeginsNumber, isSpace, punctuation?]

theorem toJson_numeral {n : Nat} (h : n ≤ maxUnsigned) :
    (numeral n none).toJson = some (.int n) := by
  have hsign : ¬(n : Int) < 0 := by omega
  simp [numeral, Numeral.toJson, Nat.ofDigitChars_ten_toDigits, h, hsign, signed]

theorem le_of_toJson_numeral {n : Nat} {k : Int} (h : (numeral n none).toJson = some (.int k)) :
    n ≤ maxUnsigned := by
  have hsign : ¬(n : Int) < 0 := by omega
  by_cases hle : n ≤ maxUnsigned
  · exact hle
  · simp only [numeral, Numeral.toJson, Int.natAbs_natCast, List.append_nil,
      Nat.ofDigitChars_ten_toDigits, hle, hsign] at h
    split at h
    · simp_all
    · split at h <;> simp_all

end FormScript.Json
