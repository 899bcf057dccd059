import FormScript.Proofs.Script.Layout

/-! Names in scripts. What is written for the name of a procedure, a module, a field or a control is
one symbol, as long as the name has no bracket, quote or semicolon in it: lower case never brings in
a character that would end a symbol. -/
namespace FormScript.Script

open Text

/-- The code points that end a symbol, in runs from the first to the last. -/
def reserved : List (Nat × Nat) :=
  [(9, 13), (0x20, 0x20), (0x22, 0x22), (0x28, 0x29), (0x3B, 0x3B), (0x5B, 0x5B), (0x5D, 0x5D),
   (0x85, 0x85), (0xA0, 0xA0), (0x1680, 0x1680), (0x2000, 0x200A), (0x2028, 0x2029),
   (0x202F, 0x202F), (0x205F, 0x205F), (0x3000, 0x3000)]

theorem exists_reserved {c : Char} (h : isSymbolChar c = false) :
    ∃ run ∈ reserved, run.1 ≤ c.toNat ∧ c.toNat ≤ run.2 := by
  by_cases hblank : isBlank c = true
  · simp only [isBlank, Bool.or_eq_true, Bool.and_eq_true, decide_eq_true_eq, beq_iff_eq] at hblank
    simp only [reserved, List.mem_cons, List.not_mem_nil, or_false, exists_eq_or_imp,
      exists_eq_left]
    omega
  · have hmark : c ∈ marks := by simpa [isSymbolChar, hblank] using h
    have hall : marks.all (fun m => reserved.any fun run =>
        decide (run.1 ≤ m.toNat ∧ m.toNat ≤ run.2)) = true := by
      decide
    simpa only [List.any_eq_true, decide_eq_true_eq] using List.all_eq_true.mp hall c hmark

theorem lowerShifts_apart : ∀ s ∈ lowerShifts, ∀ run ∈ reserved,
    (run.2 : Int) < s.span.first + s.offset ∨ s.span.last + s.offset < (run.1 : Int) := by
  decide +kernel

theorem isSymbolChar_toLower : ∀ n < 128, isSymbolChar (Char.ofNat n) = true →
    isSymbolChar (Char.ofNat n).toLower = true := by
  decide +kernel

theorem toNat_ofNat (n : Nat) : (Char.ofNat n).toNat = n ∨ (Char.ofNat n).toNat = 0 := by
  unfold Char.ofNat
  by_cases hvalid : n.isValidChar
  · rw [dif_pos hvalid]
    exact Or.inl rfl
  · rw [dif_neg hvalid]
    exact Or.inr rfl

theorem isSymbolChar_lower {c d : Char} (hc : isSymbolChar c = true) (hd : d ∈ lower c) :
    isSymbolChar d = true := by
  unfold lower at hd
  split at hd
  · rename_i hascii
    have hlower := isSymbolChar_toLower c.toNat hascii
    rw [Char.ofNat_toNat] at hlower
    rw [List.mem_singleton.mp hd]
    exact hlower hc
  split at hd
  · have hdot : ['i', Char.ofNat 0x307].all isSymbolChar = true := by decide
    exact List.all_eq_true.mp hdot d hd
  split at hd
  · rename_i s hs
    by_contra hnot
    rw [Bool.not_eq_true] at hnot
    obtain ⟨run, hrun, hfirst, hlast⟩ := exists_reserved hnot
    have hapart := lowerShifts_apart s (List.mem_of_find?_eq_some hs) run hrun
    have hpos : ∀ run ∈ reserved, 0 < run.1 := by decide
    have hrunPos := hpos run hrun
    have hin := List.find?_some hs
    simp only [Span.contains, Bool.and_eq_true, decide_eq_true_eq] at hin
    rw [List.mem_singleton.mp hd] at hfirst hlast
    rcases toNat_ofNat (c.toNat + s.offset).toNat with hcode | hcode <;> omega
  · rw [List.mem_singleton.mp hd]
    exact hc
def isPlainName (name : String) : Bool :=
  name.toList.all (!marks.contains ·)

theorem mem_of_mem_splitOnP {p : α → Bool} {xs piece : List α} {x : α}
    (hpiece : piece ∈ xs.splitOnP p) (hx : x ∈ piece) : x ∈ xs ∧ p x = false := by
  induction xs generalizing piece with
  | nil =>
    rw [List.splitOnP_nil, List.mem_singleton] at hpiece
    simp [hpiece] at hx
  | cons y xs ih =>
    rw [List.splitOnP_cons_eq_if_modifyHead] at hpiece
    split at hpiece
    · rcases List.mem_cons.mp hpiece with rfl | hmem
      · contradiction
      · exact ⟨List.mem_cons_of_mem y (ih hmem hx).1, (ih hmem hx).2⟩
    · rename_i hy
      cases hsplit : xs.splitOnP p with
      | nil => simp [hsplit] at hpiece
      | cons first rest =>
        rw [hsplit] at hpiece ih
        rcases List.mem_cons.mp hpiece with rfl | hmem
        · rcases List.mem_cons.mp hx with rfl | htail
          · exact ⟨List.mem_cons_self, by simpa using hy⟩
          · have := ih List.mem_cons_self htail
            exact ⟨List.mem_cons_of_mem y this.1, this.2⟩
        · have := ih (List.mem_cons_of_mem first hmem) hx
          exact ⟨List.mem_cons_of_mem y this.1, this.2⟩

theorem isSymbolChar_humps {afterLower : Bool} {word cs w : List Char} {c : Char}
    (hword : ∀ c ∈ word, isSymbolChar c = true) (hcs : ∀ c ∈ cs, isSymbolChar c = true)
    (hw : w ∈ Identifier.humps afterLower word cs) (hc : c ∈ w) : isSymbolChar c = true := by
  fun_induction Identifier.humps afterLower word cs with
  | case1 => simp at hw
  | case2 =>
    rw [List.mem_singleton.mp hw] at hc
    exact hword c hc
  | case3 afterLower word d rest _ ih =>
    rcases List.mem_cons.mp hw with rfl | hmem
    · exact hword c hc
    · apply ih _ (fun e he => hcs e (List.mem_cons_of_mem d he)) hmem
      intro e he
      exact isSymbolChar_lower (hcs d List.mem_cons_self) he
  | case4 afterLower word d rest _ ih =>
    apply ih _ (fun e he => hcs e (List.mem_cons_of_mem d he)) hw
    intro e he
    rcases List.mem_append.mp he with hold | hnew
    · exact hword e hold
    · exact isSymbolChar_lower (hcs d List.mem_cons_self) hnew

theorem mem_intercalate {sep : List α} {xss : List (List α)} {x : α}
    (h : x ∈ sep.intercalate xss) : x ∈ sep ∨ ∃ xs ∈ xss, x ∈ xs := by
  induction xss with
  | nil => simp at h
  | cons xs xss ih =>
    cases xss with
    | nil => exact Or.inr ⟨xs, List.mem_cons_self, by simpa using h⟩
    | cons ys xss =>
      rw [List.intercalate_cons_cons, List.mem_append, List.mem_append] at h
      rcases h with (hxs | hsep) | hrest
      · exact Or.inr ⟨xs, List.mem_cons_self, hxs⟩
      · exact Or.inl hsep
      · rcases ih hrest with hsep | ⟨zs, hzs, hx⟩
        · exact Or.inl hsep
        · exact Or.inr ⟨zs, List.mem_cons_of_mem xs hzs, hx⟩

theorem isSymbolChar_hyphenate {name : String} (hname : isPlainName name = true) {c : Char}
    (hc : c ∈ (Identifier.hyphenate name).toList) : isSymbolChar c = true := by
  rw [Identifier.hyphenate, String.toList_ofList] at hc
  rcases mem_intercalate hc with hdash | ⟨word, hword, hmem⟩
  · rw [List.mem_singleton.mp hdash]
    decide
  · obtain ⟨piece, hpiece, hhump⟩ := List.mem_flatMap.mp hword
    apply isSymbolChar_humps (by simp) _ hhump hmem
    intro d hd
    obtain ⟨hmemName, hbreak⟩ := mem_of_mem_splitOnP hpiece hd
    have hplain := List.all_eq_true.mp hname d hmemName
    simp only [Identifier.isBreak, Bool.or_eq_false_iff] at hbreak
    simp only [isSymbolChar, hbreak.2, hplain, Bool.not_false, Bool.and_self]

/-- A name that is written as words, or as the fallback where it has none. -/
theorem isReadable_orElse {name fallback : String} (hname : isPlainName name = true)
    (hfallback : (Form.symbol fallback).isReadable = true) :
    (Form.symbol (Identifier.orElse name fallback)).isReadable = true := by
  unfold Identifier.orElse
  dsimp only
  split
  · exact hfallback
  · rename_i hne
    simp only [Form.isReadable, Bool.and_eq_true, Bool.not_eq_true', List.isEmpty_eq_false_iff]
    constructor
    · intro hnil
      exact hne (by simpa using hnil)
    · exact List.all_eq_true.mpr fun c hc => isSymbolChar_hyphenate hname hc

theorem isReadable_keyword {field : String} (hfield : isPlainName field = true) :
    (Form.symbol (Emission.keyword field)).isReadable = true := by
  simp only [Form.isReadable, Emission.keyword, String.toList_ofList, List.isEmpty_cons,
    Bool.not_false, Bool.true_and, List.all_cons, Bool.and_eq_true, List.all_map]
  refine ⟨by decide, List.all_eq_true.mpr ?_⟩
  intro c hc
  have hplain := List.all_eq_true.mp hfield c hc
  by_cases hblank : isBlank c = true
  · simp only [Function.comp_apply, hblank, if_true]
    decide
  · rw [Bool.not_eq_true] at hblank
    simpa [isSymbolChar, hblank] using hplain

end FormScript.Script
