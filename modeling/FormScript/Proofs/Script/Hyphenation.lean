import FormScript.Proofs.Script.FunctionNames
import Mathlib.Data.List.TakeDrop

/-! Names in words. An underscore parts a name for good: what stands before it and what stands
behind it are hyphenated on their own, so that the name of a function ends with the event of its
procedure. Lower case is taken once: a hyphenated name has no underscore and no white space in it,
and where lower case leaves no capital behind, it is its own hyphenated name. -/
namespace FormScript

namespace Text

theorem lowerShifts_valid : ∀ s ∈ lowerShifts, 0 ≤ s.span.first + s.offset ∧
    (s.span.last + s.offset < 0xD800 ∨
      0xDFFF < s.span.first + s.offset ∧ s.span.last + s.offset < 0x110000) := by
  decide +kernel

theorem cases_of_mem_lower {c d : Char} (h : d ∈ lower c) :
    d = c ∧ lower c = [c] ∨
    d = c.toLower ∧ c.toNat < 128 ∨
    d ∈ ['i', Char.ofNat 0x307] ∨
    ∃ s ∈ lowerShifts, s.span.contains c.toNat = true ∧ (d.toNat : Int) = c.toNat + s.offset := by
  rw [lower] at h
  split at h
  · rename_i hascii
    exact Or.inr (Or.inl ⟨List.mem_singleton.mp h, hascii⟩)
  rename_i hascii
  split at h
  · exact Or.inr (Or.inr (Or.inl h))
  rename_i hdotted
  split at h
  · rename_i s hs
    have hmem := List.mem_of_find?_eq_some hs
    have hin := List.find?_some hs
    obtain ⟨hzero, hvalid⟩ := lowerShifts_valid s hmem
    refine Or.inr (Or.inr (Or.inr ⟨s, hmem, hin, ?_⟩))
    simp only [Span.contains, Bool.and_eq_true, decide_eq_true_eq] at hin
    have hchar : (c.toNat + s.offset).toNat.isValidChar := by
      unfold Nat.isValidChar
      omega
    rw [List.mem_singleton.mp h, Char.ofNat, dif_pos hchar]
    change ((c.toNat + s.offset).toNat : Int) = _
    omega
  · rename_i hnone
    refine Or.inl ⟨List.mem_singleton.mp h, ?_⟩
    rw [lower, if_neg hascii, if_neg hdotted, hnone]

/-- Nothing that a run of characters is shifted to lies in the other run: the two are apart, or the
other takes every second character and what is shifted falls between. -/
def Shift.isClearOf (s : Shift) (t : Span) : Bool :=
  let first := (s.span.first + s.offset).toNat
  Nat.blt (s.span.last + s.offset).toNat t.first || Nat.blt t.last first ||
    (t.stride == 2 && (first - t.first) % 2 == 1 &&
      (s.span.stride == 2 || s.span.first == s.span.last))

theorem lowerShifts_clear :
    lowerShifts.all (fun s => lowerShifts.all fun t => s.isClearOf t.span) = true := by
  decide +kernel

theorem Shift.not_contains_of_isClearOf {s : Shift} {t : Span} {n m : Nat}
    (h : s.isClearOf t = true) (hin : s.span.contains n = true) (hm : (m : Int) = n + s.offset) :
    t.contains m = false := by
  by_contra hcontains
  simp only [Span.contains, Bool.not_eq_false, Bool.and_eq_true, decide_eq_true_eq,
    beq_iff_eq] at hin hcontains
  simp only [isClearOf, Bool.or_eq_true, Bool.and_eq_true, beq_iff_eq, Nat.blt_eq] at h
  obtain ⟨⟨hfirst, hlast⟩, hstep⟩ := hin
  obtain ⟨⟨hfirst', hlast'⟩, hstep'⟩ := hcontains
  rcases h with (hbelow | habove) | ⟨⟨htwo, hodd⟩, hsteps⟩
  · omega
  · omega
  · rw [htwo] at hstep'
    rcases hsteps with htwo' | hone
    · rw [htwo'] at hstep
      omega
    · omega

theorem lower_eq_self {c : Char} (hascii : c.toNat < 65 ∨ 90 < c.toNat) (hdotted : c.toNat ≠ 0x130)
    (hshifts : ∀ t ∈ lowerShifts, t.span.contains c.toNat = false) : lower c = [c] := by
  have hnone : lowerShifts.find? (·.span.contains c.toNat) = none := by
    simpa using hshifts
  rw [lower, if_neg hdotted, hnone]
  split
  · rename_i hlow
    have hall : ∀ n < 128, n < 65 ∨ 90 < n → (Char.ofNat n).toLower = Char.ofNat n := by decide
    have hc := hall c.toNat hlow hascii
    rw [Char.ofNat_toNat] at hc
    rw [hc]
  · rfl

theorem lower_of_mem_lower {c d : Char} (h : d ∈ lower c) : lower d = [d] := by
  rcases cases_of_mem_lower h with ⟨rfl, hsame⟩ | ⟨rfl, hascii⟩ | hdot | ⟨s, hs, hin, hcode⟩
  · exact hsame
  · have hall : ∀ n < 128, lower (Char.ofNat n).toLower = [(Char.ofNat n).toLower] := by decide
    have hc := hall c.toNat hascii
    rwa [Char.ofNat_toNat] at hc
  · have hall : ['i', Char.ofNat 0x307].all (fun d => lower d == [d]) = true := by decide
    simpa using List.all_eq_true.mp hall d hdot
  · have hfar : ∀ s ∈ lowerShifts, 90 < s.span.first + s.offset ∧
        (s.span.last + s.offset < 0x130 ∨ 0x130 < s.span.first + s.offset) := by
      decide +kernel
    obtain ⟨hascii, hdotted⟩ := hfar s hs
    have hclear := List.all_eq_true.mp (List.all_eq_true.mp lowerShifts_clear s hs)
    have hapart : ∀ t ∈ lowerShifts, t.span.contains d.toNat = false :=
      fun t ht => Shift.not_contains_of_isClearOf (hclear t ht) hin hcode
    simp only [Span.contains, Bool.and_eq_true, decide_eq_true_eq] at hin
    exact lower_eq_self (by omega) (by omega) hapart

theorem isBreak_of_mem_lower {c d : Char} (h : d ∈ lower c) (hd : Identifier.isBreak d = true) :
    Identifier.isBreak c = true := by
  rcases cases_of_mem_lower h with ⟨rfl, -⟩ | ⟨rfl, hascii⟩ | hdot | ⟨s, hs, hin, hcode⟩
  · exact hd
  · have hall : ∀ n < 128, Identifier.isBreak (Char.ofNat n).toLower = true →
        Identifier.isBreak (Char.ofNat n) = true := by decide
    have hc := hall c.toNat hascii
    rw [Char.ofNat_toNat] at hc
    exact hc hd
  · have hall : ['i', Char.ofNat 0x307].all (fun d => !Identifier.isBreak d) = true := by decide
    have hnone := List.all_eq_true.mp hall d hdot
    rw [hd] at hnone
    contradiction
  · simp only [Span.contains, Bool.and_eq_true, decide_eq_true_eq] at hin
    rw [Identifier.isBreak, Bool.or_eq_true, beq_iff_eq] at hd
    rcases hd with rfl | hblank
    · have hunder : ∀ s ∈ lowerShifts, 95 < s.span.first + s.offset := by decide +kernel
      have hfar := hunder s hs
      change (95 : Int) = _ at hcode
      omega
    · have hnone : Script.isSymbolChar d = false := by simp [Script.isSymbolChar, hblank]
      obtain ⟨run, hrun, hfirst, hlast⟩ := Script.exists_reserved hnone
      have hapart := Script.lowerShifts_apart s hs run hrun
      omega

end Text

open Text

namespace Identifier

theorem words_append (a b : List Char) : words (a ++ '_' :: b) = words a ++ words b := by
  rw [words, List.splitOnP_append_cons a b (by decide), List.flatMap_append]
  rfl

theorem hyphenate_eq (name : String) :
    hyphenate name = "-".intercalate ((words name.toList).map String.ofList) := by
  rw [← String.toList_inj, hyphenate, String.toList_ofList, String.toList_intercalate, List.map_map]
  simp

theorem hyphenate_eq_empty_iff {name : String} : hyphenate name = "" ↔ words name.toList = [] := by
  constructor
  · intro h
    cases hwords : words name.toList with
    | nil => rfl
    | cons word rest =>
      have hne : word ≠ [] := ne_nil_of_mem_words (hwords ▸ List.mem_cons_self)
      have hlist := congrArg String.toList h
      rw [hyphenate, String.toList_ofList, hwords] at hlist
      cases rest with
      | nil => exact absurd hlist (by simpa using hne)
      | cons next rest => simp at hlist
  · intro h
    rw [hyphenate, h]
    rfl

/-- Names put together with hyphens. One with nothing in it is left out. -/
def joined (parts : List String) : String :=
  "-".intercalate (parts.filter (!·.isEmpty))

theorem joined_pair (a b : String) :
    joined [a, b] = if a = "" then b else if b = "" then a else a ++ "-" ++ b := by
  by_cases ha : a = "" <;> by_cases hb : b = "" <;>
    simp [joined, ha, hb, String.append_assoc]

theorem hyphenate_append (a b : String) :
    hyphenate (a ++ "_" ++ b) = joined [hyphenate a, hyphenate b] := by
  have hwords : words (a ++ "_" ++ b).toList = words a.toList ++ words b.toList := by
    rw [String.append_assoc, String.toList_append, String.toList_append]
    exact words_append a.toList b.toList
  rw [joined_pair, hyphenate_eq (a ++ "_" ++ b), hwords, List.map_append]
  by_cases ha : words a.toList = []
  · rw [if_pos (hyphenate_eq_empty_iff.mpr ha), ha, hyphenate_eq b]
    rfl
  by_cases hb : words b.toList = []
  · rw [if_neg (mt hyphenate_eq_empty_iff.mp ha), if_pos (hyphenate_eq_empty_iff.mpr hb), hb,
      hyphenate_eq a]
    simp
  · rw [if_neg (mt hyphenate_eq_empty_iff.mp ha), if_neg (mt hyphenate_eq_empty_iff.mp hb),
      String.intercalate_append_of_ne_nil (by simpa using ha) (by simpa using hb), hyphenate_eq a,
      hyphenate_eq b]

theorem trigger_append {form event : String} (h : '_' ∉ event.toList) :
    trigger (form ++ "_" ++ event) = hyphenate event := by
  have hname : (form ++ "_" ++ event).toList.reverse =
      event.toList.reverse ++ '_' :: form.toList.reverse := by
    simp
  have hevent : ∀ c ∈ event.toList.reverse, (c != '_') = true := by
    intro c hc
    rw [bne_iff_ne]
    rintro rfl
    exact h (List.mem_reverse.mp hc)
  have hspan : (form ++ "_" ++ event).toList.reverse.span (· != '_') =
      (event.toList.reverse, '_' :: form.toList.reverse) := by
    rw [List.span_eq_takeWhile_dropWhile, hname, List.takeWhile_append_of_pos hevent,
      List.dropWhile_append_of_pos hevent]
    simp
  rw [trigger, hspan]
  simp

theorem exists_event {name : String} (h : '_' ∈ name.toList) :
    ∃ form event, name = form ++ "_" ++ event ∧ '_' ∉ event.toList := by
  obtain ⟨event, form, hname, hevent⟩ := List.eq_append_cons_of_mem (List.mem_reverse.mpr h)
  refine ⟨String.ofList form.reverse, String.ofList event.reverse, ?_, by simpa using hevent⟩
  rw [← String.toList_inj, ← List.reverse_inj, hname]
  simp

theorem mem_hyphenate {name : String} {d : Char} (h : d ∈ (hyphenate name).toList) :
    d = '-' ∨ ∃ c ∈ name.toList, isBreak c = false ∧ d ∈ lower c := by
  rw [hyphenate, String.toList_ofList] at h
  rcases Script.mem_intercalate h with hhyphen | ⟨word, hword, hd⟩
  · exact Or.inl (List.mem_singleton.mp hhyphen)
  · have hflat : d ∈ (words name.toList).flatten := List.mem_flatten.mpr ⟨word, hword, hd⟩
    rw [Script.flatten_words] at hflat
    obtain ⟨c, hc, hlower⟩ := List.mem_flatMap.mp hflat
    rw [List.mem_filter, Bool.not_eq_true'] at hc
    exact Or.inr ⟨c, hc.1, hc.2, hlower⟩

theorem isBreak_of_mem_hyphenate {name : String} {d : Char} (h : d ∈ (hyphenate name).toList) :
    isBreak d = false := by
  rcases mem_hyphenate h with rfl | ⟨c, -, hc, hlower⟩
  · decide
  · by_contra hd
    rw [Bool.not_eq_false] at hd
    exact absurd ((isBreak_of_mem_lower hlower hd).symm.trans hc) (by decide)

theorem lower_of_mem_hyphenate {name : String} {d : Char} (h : d ∈ (hyphenate name).toList) :
    lower d = [d] := by
  rcases mem_hyphenate h with rfl | ⟨c, -, -, hlower⟩
  · decide
  · exact lower_of_mem_lower hlower

theorem humps_of_not_isUpper {afterLower : Bool} {word cs : List Char}
    (h : ∀ c ∈ cs, isUpper c = false) :
    humps afterLower word cs =
      if (word ++ cs.flatMap lower).isEmpty then [] else [word ++ cs.flatMap lower] := by
  fun_induction humps afterLower word cs with
  | case1 _ word hempty => simp [hempty]
  | case2 _ word hne => simp [hne]
  | case3 afterLower word c rest hcut ih =>
    rw [h c List.mem_cons_self] at hcut
    contradiction
  | case4 afterLower word c rest _ ih =>
    rw [ih fun d hd => h d (List.mem_cons_of_mem c hd)]
    simp

theorem hyphenate_eq_self {name : String} (hbreak : ∀ c ∈ name.toList, isBreak c = false)
    (hupper : ∀ c ∈ name.toList, isUpper c = false) (hlower : ∀ c ∈ name.toList, lower c = [c]) :
    hyphenate name = name := by
  have hsame : name.toList.flatMap lower = name.toList := by
    rw [List.flatMap_congr hlower]
    simp
  have hwords : words name.toList = if name.toList.isEmpty then [] else [name.toList] := by
    rw [words, List.splitOnP_eq_singleton hbreak, List.flatMap_singleton,
      humps_of_not_isUpper hupper, List.nil_append, hsame]
  rw [← String.toList_inj, hyphenate, String.toList_ofList, hwords]
  split
  · rename_i hempty
    exact (List.isEmpty_iff.mp hempty).symm
  · rw [List.intercalate_singleton]

/-- Underscores part a name, so that its hyphenated form ends with its trigger; nothing that parts
names is left in it, and where lower case leaves no capital, hyphenating it again changes
nothing. -/
theorem hyphenate_splits (a b name : String) :
    hyphenate (a ++ "_" ++ b) = joined [hyphenate a, hyphenate b] ∧
    ('_' ∈ name.toList → ∃ form event, name = form ++ "_" ++ event ∧ '_' ∉ event.toList ∧
      trigger name = hyphenate event ∧
      (trigger name).toList <:+ (hyphenate name).toList ∧
      (hyphenate form ≠ "" → trigger name ≠ "" →
        ("-" ++ trigger name).toList <:+ (hyphenate name).toList)) ∧
    (∀ c ∈ (hyphenate name).toList, c ≠ '_' ∧ isBlank c = false) ∧
    ((∀ c ∈ name.toList, ∀ d ∈ lower c, isUpper d = false) →
      hyphenate (hyphenate name) = hyphenate name) := by
  refine ⟨hyphenate_append a b, ?_, ?_, ?_⟩
  · intro hname
    obtain ⟨form, event, rfl, hevent⟩ := exists_event hname
    refine ⟨form, event, rfl, hevent, trigger_append hevent, ?_⟩
    rw [trigger_append hevent, hyphenate_append, joined_pair]
    constructor
    · split
      · exact List.suffix_refl _
      split
      · rename_i hempty
        rw [hempty]
        exact List.nil_suffix
      · rw [String.toList_append]
        exact List.suffix_append _ _
    · intro hform hevent
      rw [if_neg hform, if_neg hevent, String.append_assoc]
      simp only [String.toList_append]
      exact List.suffix_append _ _
  · intro c hc
    have hbreak := isBreak_of_mem_hyphenate hc
    rw [isBreak, Bool.or_eq_false_iff] at hbreak
    exact ⟨by simpa using hbreak.1, hbreak.2⟩
  · intro hupper
    refine hyphenate_eq_self (fun c hc => isBreak_of_mem_hyphenate hc) ?_
      fun c hc => lower_of_mem_hyphenate hc
    intro d hd
    rcases mem_hyphenate hd with rfl | ⟨c, hc, -, hlower⟩
    · decide
    · exact hupper c hc d hlower

/-- Two underscores and a blank part it, and its first letter is two characters in lower case. -/
theorem hyphenate_splits_dotted :
    let name := "İnfo__Before Update"
    '_' ∈ name.toList ∧ (∀ c ∈ name.toList, ∀ d ∈ lower c, isUpper d = false) ∧
      hyphenate name = "i̇nfo-before-update" ∧ trigger name = "before-update" ∧
      (trigger name).toList <:+ (hyphenate name).toList ∧
      hyphenate (hyphenate name) = hyphenate name := by
  intro name
  have hunderscore : '_' ∈ name.toList := by decide
  have hall : name.toList.all (fun c => (lower c).all fun d => !isUpper d) = true := by
    decide +kernel
  have hupper : ∀ c ∈ name.toList, ∀ d ∈ lower c, isUpper d = false := by
    intro c hc d hd
    simpa using List.all_eq_true.mp (List.all_eq_true.mp hall c hc) d hd
  obtain ⟨-, hevent, -, hself⟩ := hyphenate_splits "" "" name
  obtain ⟨_, _, -, -, -, hsuffix, -⟩ := hevent hunderscore
  exact ⟨hunderscore, hupper, by decide +kernel, by decide +kernel, hsuffix, hself hupper⟩

example : hyphenate "A𝐁" = "a𝐁" ∧ hyphenate "a𝐁" = "a-𝐁" := by decide +kernel

end Identifier

end FormScript
