import FormScript.Proofs.Json.Scalars
import FormScript.Timestamp
import Mathlib.Algebra.Group.Nat.Defs

/-! Reading a written point in time. Numbers are written with as many digits as are read, so that
each of them ends where the next separator stands. -/
namespace FormScript.Timestamp

theorem isBlank_of_isDigit {c : Char} (h : c.isDigit = true) : Text.isBlank c = false := by
  simp only [Char.isDigit, Bool.and_eq_true, decide_eq_true_eq] at h
  have hlow : 48 ≤ c.toNat := UInt32.le_iff_toNat_le.mp h.1
  have hhigh : c.toNat ≤ 57 := UInt32.le_iff_toNat_le.mp h.2
  simp only [Text.isBlank, Bool.or_eq_false_iff, Bool.and_eq_false_iff, decide_eq_false_iff_not,
    beq_eq_false_iff_ne]
  omega

section Padded

variable {width n : Nat}

theorem isDigit_padded {c : Char} (h : c ∈ padded width n) : c.isDigit = true := by
  rcases List.mem_append.mp h with hzero | hdigit
  · rw [List.eq_of_mem_replicate hzero]
    rfl
  · exact Json.isDigit_toDigits n c hdigit

theorem padded_eq_cons (width n : Nat) : ∃ d ds, padded width n = d :: ds ∧ d.isDigit = true := by
  cases hcs : padded width n with
  | nil =>
    have hdigits := (List.append_eq_nil_iff.mp hcs).2
    exact absurd hdigits Nat.toDigits_ne_nil
  | cons d ds => exact ⟨d, ds, rfl, isDigit_padded (by rw [hcs]; exact List.mem_cons_self)⟩

theorem length_padded (hwidth : 0 < width) (h : n < 10 ^ width) :
    (padded width n).length = width := by
  have hle := (Nat.length_toDigits_le_iff (by decide) hwidth).mpr h
  rw [padded, List.length_append, List.length_replicate]
  omega

theorem ofDigitChars_padded (width n : Nat) : Nat.ofDigitChars 10 (padded width n) 0 = n := by
  rw [padded, Nat.ofDigitChars_append, Nat.ofDigitChars_replicate_zero, Nat.mul_zero,
    Nat.ofDigitChars_ten_toDigits]

theorem trimStart_padded (width n : Nat) (rest : List Char) :
    Text.trimStart (padded width n ++ rest) = padded width n ++ rest := by
  obtain ⟨d, ds, hds, hd⟩ := padded_eq_cons width n
  rw [hds, List.cons_append, Text.trimStart, List.dropWhile_cons, isBlank_of_isDigit hd,
    if_neg Bool.false_ne_true]

theorem takeWhile_padded {rest : List Char} (h : rest.takeWhile Char.isDigit = []) :
    (padded width n ++ rest).takeWhile Char.isDigit = padded width n := by
  rw [List.takeWhile_append_of_pos fun _ => isDigit_padded, h, List.append_nil]

theorem dropWhile_padded {rest : List Char} (h : rest.dropWhile Char.isDigit = rest) :
    (padded width n ++ rest).dropWhile Char.isDigit = rest := by
  rw [List.dropWhile_append_of_pos fun _ => isDigit_padded, h]

theorem readDigits_padded {most : Nat} {rest : List Char} (h : (padded width n).length ≤ most)
    (hrest : (rest.take (most - (padded width n).length)).takeWhile Char.isDigit = []) :
    readDigits most (padded width n ++ rest) = some (n, rest) := by
  have hne : (padded width n).isEmpty = false := by
    obtain ⟨d, ds, hds, -⟩ := padded_eq_cons width n
    rw [hds]
    rfl
  simp only [readDigits, List.take_append, List.take_of_length_le h, takeWhile_padded hrest, hne,
    ofDigitChars_padded, List.drop_left, Bool.false_eq_true, if_false]

theorem readNumber_padded (hwidth : 0 < width) (h : n < 10 ^ width) (rest : List Char) :
    readNumber width (padded width n ++ rest) = some (n, rest) := by
  have hlength := length_padded hwidth h
  rw [readNumber, trimStart_padded, readDigits_padded (Nat.le_of_eq hlength)]
  rw [hlength, Nat.sub_self, List.take_zero]
  rfl

end Padded

theorem readMark_cons {mark : Char} (h : Text.isBlank mark = false) (rest : List Char) :
    readMark mark (mark :: rest) = some rest := by
  rw [readMark, Text.trimStart, List.dropWhile_cons, h, if_neg Bool.false_ne_true]
  exact if_pos rfl

theorem readYear_padded {n : Nat} (h : n < 10 ^ 4) (rest : List Char) :
    readYear (padded 4 n ++ rest) = some (↑n, rest) := by
  have hread : readDigits 4 (padded 4 n ++ rest) = some (n, rest) := by
    have hread := readNumber_padded (by decide) h rest
    rwa [readNumber, trimStart_padded] at hread
  obtain ⟨d, ds, hds, hd⟩ := padded_eq_cons 4 n
  rw [readYear, trimStart_padded]
  rw [hds, List.cons_append] at hread ⊢
  split
  · rename_i heq
    cases heq
    contradiction
  · rename_i heq
    cases heq
    contradiction
  · rw [hread]
    rfl

theorem readDigits_signed (n : Nat) (rest : List Char) :
    readDigits (padded 4 n ++ '-' :: rest).length (padded 4 n ++ '-' :: rest) =
      some (n, '-' :: rest) := by
  apply readDigits_padded
  · rw [List.length_append]
    exact Nat.le_add_right _ _
  · rw [List.length_append, Nat.add_sub_cancel_left, List.take_length]
    rfl

theorem readYear_write (year : Int) (rest : List Char) :
    readYear (writeYear year ++ '-' :: rest) = some (year, '-' :: rest) := by
  rw [writeYear]
  split
  · rename_i hyear
    rw [readYear_padded (by omega), Int.toNat_of_nonneg hyear.1]
  · by_cases hneg : year < 0
    · have hread : readYear ('-' :: (padded 4 year.natAbs ++ '-' :: rest)) =
          some (-↑year.natAbs, '-' :: rest) := by
        rw [readYear, show Text.trimStart ('-' :: _) = '-' :: _ from rfl]
        simp only [readDigits_signed, Option.map_some]
      have habs : -(year.natAbs : Int) = year := by omega
      rw [if_pos hneg, List.cons_append, hread, habs]
    · have hread : readYear ('+' :: (padded 4 year.natAbs ++ '-' :: rest)) =
          some (↑year.natAbs, '-' :: rest) := by
        rw [readYear, show Text.trimStart ('+' :: _) = '+' :: _ from rfl]
        simp only [readDigits_signed, Option.map_some]
      have habs : (year.natAbs : Int) = year := by omega
      rw [if_neg hneg, List.cons_append, hread, habs]

/-- Of the nine places those are written after which only zeros would follow. -/
theorem readNanos_padded {width n : Nat} (hwidth : 0 < width) (hnine : width ≤ 9)
    (h : n < 10 ^ width) (rest : List Char) :
    readNanos ('.' :: (padded width n ++ 'Z' :: rest)) = some (n * 10 ^ (9 - width), 'Z' :: rest) := by
  have hlength := length_padded hwidth h
  have htake : (padded width n).take 9 = padded width n := List.take_of_length_le (by omega)
  have hne : (padded width n).isEmpty = false := by
    rw [List.isEmpty_eq_false_iff, ← List.length_pos_iff]
    omega
  have hdigits : (padded width n ++ 'Z' :: rest).takeWhile Char.isDigit = padded width n :=
    takeWhile_padded rfl
  have hrest : (padded width n ++ 'Z' :: rest).dropWhile Char.isDigit = 'Z' :: rest :=
    dropWhile_padded rfl
  simp only [readNanos, hdigits, htake, hne, hlength, ofDigitChars_padded, hrest,
    Bool.false_eq_true, if_false]
  rfl

theorem readNanos_write {nanos : Nat} (h : nanos < 1000000000) (rest : List Char) :
    readNanos (writeNanos nanos ++ 'Z' :: rest) = some (nanos, 'Z' :: rest) := by
  rw [writeNanos]
  split
  · rename_i hzero
    rw [hzero]
    rfl
  · split
    · rw [List.cons_append, readNanos_padded (by decide) (by decide) (by omega)]
      congr 2
      omega
    · split
      · rw [List.cons_append, readNanos_padded (by decide) (by decide) (by omega)]
        congr 2
        omega
      · rw [List.cons_append, readNanos_padded (by decide) (by decide) (by omega)]
        congr 2
        omega

theorem ofFields?_eq (t : Timestamp) :
    ofFields? t.year t.month t.day t.hour t.minute t.second t.nanos = some t := by
  rw [ofFields?, dif_pos t.isDay, dif_pos t.isTime]

theorem atOffset?_zero (t : Timestamp) : atOffset? 0 t = some t := by
  have htime := t.isTime
  simp only [FormScript.isTime, Bool.and_eq_true, decide_eq_true_eq] at htime
  have hday : ¬(t.hour * 60 + t.minute - 0 : Int) < 0 := by omega
  have hnext : ¬1440 ≤ (t.hour * 60 + t.minute - 0 : Int) := by omega
  have hminutes : ((t.hour * 60 + t.minute - 0 : Int) % 1440).toNat = t.hour * 60 + t.minute := by
    omega
  have hhour : (t.hour * 60 + t.minute) / 60 = t.hour := by omega
  have hminute : (t.hour * 60 + t.minute) % 60 = t.minute := by omega
  rw [atOffset?]
  simp only [hday, hnext, if_false, hminutes, hhour, hminute, ofFields?_eq]

@[simp] theorem read_write (t : Timestamp) : read t.write = some t := by
  have hday := t.isDay
  have htime := t.isTime
  simp only [FormScript.isDay, FormScript.isTime, Bool.and_eq_true, decide_eq_true_eq] at hday htime
  have hlast : daysInMonth t.year t.month ≤ 31 := by
    unfold daysInMonth
    repeat' split
    all_goals decide
  have hpair {n : Nat} (h : n < 100) (rest : List Char) :
      readNumber 2 (padded 2 n ++ rest) = some (n, rest) :=
    readNumber_padded (by decide) h rest
  have hminus : Text.isBlank '-' = false := by decide
  have hcolon : Text.isBlank ':' = false := by decide
  have hdivider (rest : List Char) : readDivider ('T' :: rest) = some rest := rfl
  have hoffset : readOffset (Text.trimStart ['Z']) = some (0, []) := by decide
  have hbind {α β : Type} (a : α) (f : α → Option β) : (some a >>= f) = f a := rfl
  rw [read, write, String.toList_ofList]
  simp only [List.append_assoc, List.cons_append, readYear_write, readMark_cons hminus,
    readMark_cons hcolon, hdivider, hpair (by omega : t.month < 100),
    hpair (by omega : t.day < 100), hpair (by omega : t.hour < 100),
    hpair (by omega : t.minute < 100), hpair (by omega : t.second < 100),
    readNanos_write htime.2, hoffset, ofFields?_eq, atOffset?_zero, hbind]
  rfl

end FormScript.Timestamp
