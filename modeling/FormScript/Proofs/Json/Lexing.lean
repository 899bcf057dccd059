import FormScript.Json.Embedded
import FormScript.Proofs.Json.Scalars

/-! Pieces of JSON text. A reader of strings or of other scalars takes a piece off the front and
leaves the rest as it is, so a text that ends in a closing bracket has its tokens whatever follows.
In a text that has tokens, every string is closed, and each character stands in a string or
outside of all of them. -/
namespace FormScript.Json

inductive Region where
  | code
  | text
  /-- In a string, behind a backslash. -/
  | escape
  deriving DecidableEq, Repr

namespace Region

/-- Where the next character stands. There are no backticks outside strings, and no control
characters in them. -/
def next? : Region → Char → Option Region
  | code, c => if c = '"' then some text else if c = '\x60' then none else some code
  | text, c =>
    if c = '"' then some code
    else if c = '\\' then some escape
    else if c.toNat < 32 then none
    else some text
  | escape, c => if c.toNat < 32 then none else some text

def walk (r : Region) (cs : List Char) : Option Region :=
  cs.foldlM next? r

theorem walk_cons (r : Region) (c : Char) (cs : List Char) :
    r.walk (c :: cs) = (r.next? c).bind (walk · cs) := rfl

theorem walk_append (r : Region) (a b : List Char) : r.walk (a ++ b) = (r.walk a).bind (walk · b) :=
  List.foldlM_append

theorem walk_code {cs : List Char} (h : ∀ c ∈ cs, c ≠ '"' ∧ c ≠ '\x60') :
    code.walk cs = some code := by
  induction cs with
  | nil => rfl
  | cons c cs ih =>
    obtain ⟨hc, hcs⟩ := List.forall_mem_cons.mp h
    rw [walk_cons, next?, if_neg hc.1, if_neg hc.2]
    exact ih hcs

theorem eq_code_of_newline {r next : Region} (h : r.next? '\n' = some next) :
    r = code ∧ next = code := by
  cases r with
  | code =>
    cases h
    exact ⟨rfl, rfl⟩
  | text => contradiction
  | escape => contradiction

end Region

theorem next?_of_hexDigit? {c : Char} {n : Nat} (h : hexDigit? c = some n) :
    Region.text.next? c = some .text := by
  have hcode : 48 ≤ c.toNat ∧ c.toNat ≤ 57 ∨ 97 ≤ c.toNat ∧ c.toNat ≤ 102 ∨
      65 ≤ c.toNat ∧ c.toNat ≤ 70 := by
    unfold hexDigit? at h
    simp only [Char.le_def, UInt32.le_iff_toNat_le] at h
    split at h
    · rename_i hd
      exact Or.inl hd
    split at h
    · rename_i hd
      exact Or.inr (Or.inl hd)
    split at h
    · rename_i hd
      exact Or.inr (Or.inr hd)
    · contradiction
  have hquote : c ≠ '"' := by
    rintro rfl
    exact absurd hcode (by decide)
  have hslash : c ≠ '\\' := by
    rintro rfl
    exact absurd hcode (by decide)
  rw [Region.next?, if_neg hquote, if_neg hslash, if_neg (by omega)]

theorem walk_hexUnit {a b c d : Char} {n : Nat} (h : hexUnit? a b c d = some n) (cs : List Char) :
    Region.escape.walk ('u' :: a :: b :: c :: d :: cs) = Region.text.walk cs := by
  obtain ⟨x, hx, h⟩ := Option.bind_eq_some_iff.mp h
  obtain ⟨y, hy, h⟩ := Option.bind_eq_some_iff.mp h
  obtain ⟨z, hz, h⟩ := Option.bind_eq_some_iff.mp h
  obtain ⟨w, hw, -⟩ := Option.bind_eq_some_iff.mp h
  have hu : Region.escape.next? 'u' = some .text := by decide
  simp only [Region.walk_cons, hu, next?_of_hexDigit? hx, next?_of_hexDigit? hy,
    next?_of_hexDigit? hz, next?_of_hexDigit? hw, Option.bind_some]

theorem next?_of_escaped? {c found : Char} (h : escaped? c = some found) :
    Region.escape.next? c = some .text := by
  unfold escaped? at h
  split at h
  iterate 8 decide
  contradiction

theorem readString_used {acc cs rest : List Char} {s : String}
    (h : readString acc cs = some (s, rest)) :
    ∃ used, cs = used ++ rest ∧ Region.text.walk used = some .code ∧
      ∀ more, readString acc (used ++ more) = some (s, more) := by
  fun_induction readString acc cs with
  | case1 acc after =>
    cases h
    exact ⟨['"'], rfl, by decide, fun more => by rw [List.singleton_append, readString]⟩
  | case4 acc a b c d high hunit hlow hhigh e f g k after low hunit' hlow' ih =>
    obtain ⟨used, rfl, hwalk, hread⟩ := ih h
    refine ⟨'\\' :: 'u' :: a :: b :: c :: d :: '\\' :: 'u' :: e :: f :: g :: k :: used, rfl, ?_, ?_⟩
    · have hslash : Region.text.next? '\\' = some .escape := by decide
      rw [Region.walk_cons, hslash, Option.bind_some, walk_hexUnit hunit, Region.walk_cons, hslash,
        Option.bind_some, walk_hexUnit hunit', hwalk]
    · intro more
      rw [← hread more]
      simp [readString, hunit, hunit', hlow, hhigh, hlow']
  | case8 acc a b c d after high hunit hlow hhigh ih =>
    obtain ⟨used, rfl, hwalk, hread⟩ := ih h
    refine ⟨'\\' :: 'u' :: a :: b :: c :: d :: used, rfl, ?_, ?_⟩
    · have hslash : Region.text.next? '\\' = some .escape := by decide
      rw [Region.walk_cons, hslash, Option.bind_some, walk_hexUnit hunit, hwalk]
    · intro more
      rw [← hread more]
      simp [readString, hunit, hlow, hhigh]
  | case9 acc c after hunit found hescaped ih =>
    obtain ⟨used, rfl, hwalk, hread⟩ := ih h
    refine ⟨'\\' :: c :: used, rfl, ?_, ?_⟩
    · have hslash : Region.text.next? '\\' = some .escape := by decide
      rw [Region.walk_cons, hslash, Option.bind_some, Region.walk_cons, next?_of_escaped? hescaped,
        Option.bind_some, hwalk]
    · intro more
      have hu : c ≠ 'u' := by
        rintro rfl
        contradiction
      rw [← hread more, List.cons_append, List.cons_append, readString.eq_def]
      simp [hu, hescaped]
  | case12 acc c after hquote hunit hslash hplain ih =>
    obtain ⟨used, rfl, hwalk, hread⟩ := ih h
    rw [not_or] at hplain
    refine ⟨c :: used, rfl, ?_, ?_⟩
    · rw [Region.walk_cons, Region.next?, if_neg hquote, if_neg hplain.2, if_neg hplain.1,
        Option.bind_some, hwalk]
    · intro more
      rw [List.cons_append, readString_plain acc hquote hplain.2 hplain.1, hread]
  | _ => contradiction

def isScalarChar (c : Char) : Bool :=
  c.isAlphanum || c == '-' || c == '+' || c == '.'

def Takes (cs rest : List Char) : Prop :=
  ∃ used, used.all isScalarChar = true ∧ cs = used ++ rest

theorem Takes.refl (cs : List Char) : Takes cs cs :=
  ⟨[], rfl, rfl⟩

theorem Takes.cons {c : Char} {cs rest : List Char} (hc : isScalarChar c = true)
    (h : Takes cs rest) : Takes (c :: cs) rest := by
  obtain ⟨used, hused, rfl⟩ := h
  exact ⟨c :: used, by simp [hc, hused], rfl⟩

theorem Takes.trans {a b c : List Char} (h : Takes a b) (h' : Takes b c) : Takes a c := by
  obtain ⟨used, hused, rfl⟩ := h
  obtain ⟨used', hused', rfl⟩ := h'
  exact ⟨used ++ used', by simp [hused, hused'], by simp⟩

theorem Takes.ne_nil {cs rest : List Char} (h : Takes cs rest) (hne : rest ≠ []) : cs ≠ [] := by
  obtain ⟨used, -, rfl⟩ := h
  exact List.append_ne_nil_of_right_ne_nil used hne

/-- A reader that takes characters of scalars and looks no further than one behind them. -/
structure IsScalarReader {α : Type} (f : List Char → Option (α × List Char)) : Prop where
  takes : ∀ {cs rest a}, f cs = some (a, rest) → Takes cs rest
  more : ∀ {cs rest a}, f cs = some (a, rest) → rest ≠ [] → ∀ y, f (cs ++ y) = some (a, rest ++ y)

theorem isScalarReader_digits : IsScalarReader readDigits where
  takes := by
    intro cs rest digits h
    unfold readDigits at h
    split at h
    · contradiction
    · cases h
      refine ⟨cs.takeWhile Char.isDigit, ?_, List.takeWhile_append_dropWhile.symm⟩
      refine List.all_eq_true.mpr fun c hc => ?_
      have hdigit : c.isDigit = true := List.all_eq_true.mp List.all_takeWhile c hc
      simp [isScalarChar, Char.isAlphanum, hdigit]
  more := by
    intro cs rest digits h hne y
    unfold readDigits at h ⊢
    split at h
    · contradiction
    · rename_i hdigits
      cases h
      have hstop : ¬(cs.dropWhile Char.isDigit).isEmpty = true := by rwa [List.isEmpty_iff]
      have hshort : (cs.takeWhile Char.isDigit).length ≠ cs.length := by
        have hlength := congrArg List.length
          (List.takeWhile_append_dropWhile (p := Char.isDigit) (l := cs))
        have hpos := List.length_pos_iff.mpr hne
        rw [List.length_append] at hlength
        omega
      rw [List.takeWhile_append, if_neg hshort, List.dropWhile_append, if_neg hstop, if_neg hdigits]

theorem isScalarReader_whole : IsScalarReader readWhole where
  takes := by
    intro cs rest digits h
    unfold readWhole at h
    split at h
    · cases h
      exact .cons (by decide) (.refl _)
    · exact isScalarReader_digits.takes h
  more := by
    intro cs rest digits h hne y
    unfold readWhole at h
    split at h
    · cases h
      rfl
    · rename_i hzero
      have htakes := isScalarReader_digits.takes h
      have hread := isScalarReader_digits.more h hne y
      obtain ⟨c, cs, rfl⟩ := List.exists_cons_of_ne_nil (htakes.ne_nil hne)
      have hc : c ≠ '0' := fun heq => hzero cs (by rw [heq])
      rw [List.cons_append] at hread ⊢
      rw [readWhole.eq_def]
      simpa [hc] using hread

theorem isScalarReader_fraction : IsScalarReader readFraction where
  takes := by
    intro cs rest digits h
    unfold readFraction at h
    split at h
    · exact .cons (by decide) (isScalarReader_digits.takes h)
    · cases h
      exact .refl _
  more := by
    intro cs rest digits h hne y
    unfold readFraction at h
    split at h
    · exact isScalarReader_digits.more h hne y
    · rename_i hpoint
      cases h
      obtain ⟨c, cs, rfl⟩ := List.exists_cons_of_ne_nil hne
      have hc : c ≠ '.' := fun heq => hpoint cs (by rw [heq])
      rw [List.cons_append, readFraction.eq_def]
      simp [hc]

theorem takes_readMinus (cs : List Char) : Takes cs (readMinus cs).2 := by
  unfold readMinus
  split
  · exact .cons (by decide) (.refl _)
  · exact .refl _

theorem takes_readSign (cs : List Char) : Takes cs (readSign cs).2 := by
  unfold readSign
  split
  · exact .cons (by decide) (.refl _)
  · exact takes_readMinus _

theorem readMinus_append {cs : List Char} (hne : cs ≠ []) (y : List Char) :
    readMinus (cs ++ y) = ((readMinus cs).1, (readMinus cs).2 ++ y) := by
  obtain ⟨c, cs, rfl⟩ := List.exists_cons_of_ne_nil hne
  by_cases hc : c = '-'
  · subst hc
    rfl
  · simp [readMinus, hc]

theorem readSign_append {cs : List Char} (hne : cs ≠ []) (y : List Char) :
    readSign (cs ++ y) = ((readSign cs).1, (readSign cs).2 ++ y) := by
  have hminus := readMinus_append hne y
  obtain ⟨c, cs, rfl⟩ := List.exists_cons_of_ne_nil hne
  by_cases hc : c = '+'
  · subst hc
    rfl
  · rw [List.cons_append] at hminus ⊢
    simp [readSign, hc, hminus]

theorem isScalarReader_exponent : IsScalarReader readExponent where
  takes := by
    intro cs rest exponent h
    unfold readExponent at h
    split at h
    · cases h
      exact .refl _
    · rename_i c cs
      split at h
      · rename_i hc
        obtain ⟨⟨digits, after⟩, hdigits, heq⟩ := Option.map_eq_some_iff.mp h
        cases heq
        refine .cons ?_ ((takes_readSign cs).trans (isScalarReader_digits.takes hdigits))
        rcases hc with rfl | rfl <;> decide
      · cases h
        exact .refl _
  more := by
    intro cs rest exponent h hne y
    unfold readExponent at h
    split at h
    · cases h
      contradiction
    · rename_i c cs
      rw [List.cons_append, readExponent]
      split at h
      · rename_i hc
        obtain ⟨⟨digits, after⟩, hdigits, heq⟩ := Option.map_eq_some_iff.mp h
        cases heq
        have htakes := (takes_readSign cs).trans (isScalarReader_digits.takes hdigits)
        have hsign := readSign_append (htakes.ne_nil hne) y
        rw [if_pos hc, hsign, isScalarReader_digits.more hdigits hne y]
        rfl
      · rename_i hc
        cases h
        rw [if_neg hc]
        rfl

theorem isScalarReader_number : IsScalarReader readNumber where
  takes := by
    intro cs rest v h
    obtain ⟨⟨whole, behind⟩, hwhole, h⟩ := Option.bind_eq_some_iff.mp h
    obtain ⟨⟨fraction, behind'⟩, hfraction, h⟩ := Option.bind_eq_some_iff.mp h
    obtain ⟨⟨exponent, last⟩, hexponent, h⟩ := Option.bind_eq_some_iff.mp h
    obtain ⟨found, -, heq⟩ := Option.map_eq_some_iff.mp h
    cases heq
    exact (takes_readMinus cs).trans <| (isScalarReader_whole.takes hwhole).trans <|
      (isScalarReader_fraction.takes hfraction).trans (isScalarReader_exponent.takes hexponent)
  more := by
    intro cs rest v h hne y
    obtain ⟨⟨whole, behind⟩, hwhole, h⟩ := Option.bind_eq_some_iff.mp h
    obtain ⟨⟨fraction, behind'⟩, hfraction, h⟩ := Option.bind_eq_some_iff.mp h
    obtain ⟨⟨exponent, last⟩, hexponent, h⟩ := Option.bind_eq_some_iff.mp h
    obtain ⟨found, hfound, heq⟩ := Option.map_eq_some_iff.mp h
    cases heq
    have hexpNe := (isScalarReader_exponent.takes hexponent).ne_nil hne
    have hfracNe := (isScalarReader_fraction.takes hfraction).ne_nil hexpNe
    have hwholeNe := (isScalarReader_whole.takes hwhole).ne_nil hfracNe
    have hminus := readMinus_append ((takes_readMinus cs).ne_nil hwholeNe) y
    simp only [readNumber, hminus, isScalarReader_whole.more hwhole hfracNe y,
      isScalarReader_fraction.more hfraction hexpNe y, isScalarReader_exponent.more hexponent hne y,
      Option.bind_some, hfound, Option.map_some]

theorem readNumber_eq_none {c : Char} (hminus : c ≠ '-') (hdigit : c.isDigit = false)
    (cs : List Char) : readNumber (c :: cs) = none := by
  have hzero : c ≠ '0' := by
    rintro rfl
    contradiction
  simp [readNumber, readMinus, readWhole, readDigits, hminus, hzero, hdigit]

theorem isScalarReader_scalar : IsScalarReader readScalar where
  takes := by
    intro cs rest v h
    unfold readScalar at h
    split at h
    · cases h
      exact ⟨['t', 'r', 'u', 'e'], by decide, rfl⟩
    · cases h
      exact ⟨['f', 'a', 'l', 's', 'e'], by decide, rfl⟩
    · cases h
      exact ⟨['n', 'u', 'l', 'l'], by decide, rfl⟩
    · exact isScalarReader_number.takes h
  more := by
    intro cs rest v h hne y
    unfold readScalar at h
    split at h
    · cases h
      rfl
    · cases h
      rfl
    · cases h
      rfl
    · have hread := isScalarReader_number.more h hne y
      obtain ⟨c, cs, rfl⟩ := List.exists_cons_of_ne_nil
        ((isScalarReader_number.takes h).ne_nil hne)
      rw [List.cons_append] at hread ⊢
      rw [readScalar.eq_def]
      split
      iterate 3
        rename_i heq
        rw [(List.cons.inj heq).1, readNumber_eq_none (by decide) (by decide)] at h
        contradiction
      exact hread

inductive Lexes : List Char → List Token → Prop
  | nil : Lexes [] []
  | space {c : Char} {cs : List Char} {ts : List Token} (hc : isSpace c = true)
    (h : Lexes cs ts) : Lexes (c :: cs) ts
  | mark {c : Char} {cs : List Char} {token : Token} {ts : List Token}
    (hc : punctuation? c = some token) (h : Lexes cs ts) : Lexes (c :: cs) (token :: ts)
  | text {cs after : List Char} {s : String} {ts : List Token}
    (hread : readString [] cs = some (s, after)) (h : Lexes after ts) :
    Lexes ('"' :: cs) (.text s :: ts)
  | scalar {c : Char} {cs after : List Char} {v : Json} {ts : List Token} (hquote : c ≠ '"')
    (hspace : isSpace c = false) (hmark : punctuation? c = none)
    (hread : readScalar (c :: cs) = some (v, after)) (h : Lexes after ts) :
    Lexes (c :: cs) (.scalar v :: ts)

theorem lexes_of_lex {cs : List Char} {ts : List Token} (h : lex cs = some ts) : Lexes cs ts := by
  fun_induction lex cs generalizing ts with
  | case1 =>
    cases h
    exact .nil
  | case2 cs s after hread ih =>
    obtain ⟨more, hmore, rfl⟩ := Option.map_eq_some_iff.mp h
    exact .text hread (ih hmore)
  | case4 c cs hquote hspace ih => exact .space hspace (ih h)
  | case5 c cs hquote hspace token hmark ih =>
    obtain ⟨more, hmore, rfl⟩ := Option.map_eq_some_iff.mp h
    exact .mark hmark (ih hmore)
  | case6 c cs hquote hspace hmark v after hread ih =>
    obtain ⟨more, hmore, rfl⟩ := Option.map_eq_some_iff.mp h
    exact .scalar hquote (by simpa using hspace) hmark hread (ih hmore)
  | _ => contradiction

theorem lex_text {cs after : List Char} {s : String} (h : readString [] cs = some (s, after)) :
    lex ('"' :: cs) = (lex after).map (.text s :: ·) := by
  rw [lex]
  split
  · rename_i found hfound
    rw [h] at hfound
    cases hfound
    rfl
  · rename_i hnone
    rw [h] at hnone
    contradiction

theorem Lexes.isSpace_of_nil {cs : List Char} (h : Lexes cs []) : ∀ c ∈ cs, isSpace c = true := by
  generalize hts : ([] : List Token) = ts at h
  induction h with
  | nil => simp
  | space hc _ ih => exact List.forall_mem_cons.mpr ⟨hc, ih hts⟩
  | _ => contradiction

theorem code_of_isScalarChar {c : Char} (h : isScalarChar c = true) : c ≠ '"' ∧ c ≠ '\x60' := by
  constructor
  · rintro rfl
    contradiction
  · rintro rfl
    contradiction

theorem Takes.walk_eq {cs rest : List Char} (h : Takes cs rest) :
    Region.code.walk cs = Region.code.walk rest := by
  obtain ⟨used, hused, rfl⟩ := h
  have hcode := Region.walk_code fun c hc => code_of_isScalarChar (List.all_eq_true.mp hused c hc)
  rw [Region.walk_append, hcode, Option.bind_some]

/-- In a text that has tokens all strings are closed, and backticks stand in them only. -/
theorem Lexes.walk_eq {cs : List Char} {ts : List Token} (h : Lexes cs ts) :
    Region.code.walk cs = some .code := by
  induction h with
  | nil => rfl
  | @space c cs ts hc _ ih =>
    have hnext : Region.code.next? c = some .code := by
      simp only [isSpace, Bool.or_eq_true, beq_iff_eq] at hc
      rcases hc with ((rfl | rfl) | rfl) | rfl <;> decide
    rw [Region.walk_cons, hnext, Option.bind_some, ih]
  | @mark c cs token ts hc _ ih =>
    have hnext : Region.code.next? c = some .code := by
      unfold punctuation? at hc
      split at hc
      iterate 6 decide
      contradiction
    rw [Region.walk_cons, hnext, Option.bind_some, ih]
  | text hread _ ih =>
    obtain ⟨used, rfl, hwalk, -⟩ := readString_used hread
    have hquote : Region.code.next? '"' = some .text := by decide
    rw [Region.walk_cons, hquote, Option.bind_some, Region.walk_append, hwalk, Option.bind_some, ih]
  | scalar _ _ _ hread _ ih => rw [(isScalarReader_scalar.takes hread).walk_eq, ih]

theorem eq_of_isClosing {c : Char} (h : isClosing c = true) : c = '}' ∨ c = ']' := by
  simpa [isClosing] using h

theorem closes_append (used : List Char) {rest : List Char}
    (h : (used ++ rest).getLast?.all isClosing = true) : rest.getLast?.all isClosing = true := by
  rw [List.getLast?_append] at h
  cases hlast : rest.getLast? with
  | none => rfl
  | some c => rwa [hlast, Option.some_or] at h

/-- Behind a closing bracket, whatever follows is read as it would be on its own. -/
theorem Lexes.lex_append {cs : List Char} {ts : List Token} (h : Lexes cs ts)
    (hlast : cs.getLast?.all isClosing = true) (more : List Char) :
    lex (cs ++ more) = (lex more).map (ts ++ ·) := by
  induction h with
  | nil => simp
  | @space c cs ts hc _ ih =>
    rw [List.cons_append, lex_space hc, ih (closes_append [c] hlast)]
  | @mark c cs token ts hc _ ih =>
    rw [List.cons_append, lex_punctuation hc, ih (closes_append [c] hlast),
      Option.map_map]
    rfl
  | @text cs after s ts hread _ ih =>
    obtain ⟨used, rfl, -, hused⟩ := readString_used hread
    have hmore : readString [] (used ++ (after ++ more)) = some (s, after ++ more) := hused _
    rw [List.cons_append, List.append_assoc, lex_text hmore,
      ih (closes_append ('"' :: used) hlast), Option.map_map]
    rfl
  | @scalar c cs after v ts hquote hspace hmark hread _ ih =>
    obtain ⟨used, hused, hcs⟩ := isScalarReader_scalar.takes hread
    have hafter : after ≠ [] := by
      rintro rfl
      rw [List.append_nil] at hcs
      have hmem := List.getLast_mem (List.cons_ne_nil c cs)
      rw [List.getLast?_eq_some_getLast (List.cons_ne_nil c cs), Option.all_some] at hlast
      generalize (c :: cs).getLast _ = d at hmem hlast
      rw [hcs] at hmem
      have hscalar := List.all_eq_true.mp hused d hmem
      rcases eq_of_isClosing hlast with rfl | rfl <;> contradiction
    have hmore := isScalarReader_scalar.more hread hafter more
    rw [List.cons_append] at hmore ⊢
    rw [lex_scalar hquote hspace hmark, hmore, Option.bind_some,
      ih (closes_append used (hcs ▸ hlast)), Option.map_map]
    rfl

end FormScript.Json
