import FormScript.Proofs.Source.WellNested

/-! Two well-nested pieces with the same items can stand for each other anywhere in a source: inside
an arm that is kept or given up, in a body that is not closed, or outside of all procedures. -/
namespace FormScript.Source

/-- `Swapped a b l l'`: where the piece `a` stands in `l`, `b` stands in `l'`. -/
inductive Swapped (a b : List Line) : List Line → List Line → Prop
  | here (rest : List Line) : Swapped a b (a ++ rest) (b ++ rest)
  | behind (line : Line) {l l' : List Line} (h : Swapped a b l l') :
    Swapped a b (line :: l) (line :: l')

theorem swapped_append (a b before rest : List Line) :
    Swapped a b (before ++ (a ++ rest)) (before ++ (b ++ rest)) := by
  induction before with
  | nil => exact .here rest
  | cons line before ih => exact .behind line ih

/-- What is left of two such lists behind a block: either the piece has been read, or it stands
behind the line that ends the block. -/
inductive SwappedBehind (a b : List Line) : List Line → List Line → Prop
  | same (l : List Line) : SwappedBehind a b l l
  | behind (line : Line) {l l' : List Line} (h : Swapped a b l l') :
    SwappedBehind a b (line :: l) (line :: l')

variable {b b' : WellNested}

theorem Swapped.skipConditional_eq {l l' : List Line} (h : Swapped b.lines b'.lines l l')
    (depth : Nat) :
    skipConditional depth l = skipConditional depth l' ∨
      Swapped b.lines b'.lines (skipConditional depth l) (skipConditional depth l') := by
  induction h generalizing depth with
  | here rest =>
    left
    rw [b.skipConditional_lines, b'.skipConditional_lines]
  | behind line h ih =>
    cases hs : shape line with
    | endIf =>
      cases depth with
      | zero =>
        simp only [skipConditional, hs]
        exact Or.inr h
      | succ depth =>
        simp only [skipConditional, hs]
        exact ih depth
    | endSub =>
      simp only [skipConditional, hs]
      exact Or.inr (.behind line h)
    | ifBlock | otherwise | elseIf | declaration | ifLine | plain =>
      simp only [skipConditional, hs]
      exact ih _

theorem SwappedBehind.resume_eq {l l' : List Line} (h : SwappedBehind b.lines b'.lines l l') :
    resume l = resume l' ∨ Swapped b.lines b'.lines (resume l) (resume l') := by
  cases h with
  | same => exact Or.inl rfl
  | behind line h =>
    rw [resume, resume]
    split
    · exact Or.inr (.behind line h)
    · exact h.skipConditional_eq 0

theorem conditional_swapped {l l' : List Line} (line condition : Line)
    (hblock : ∀ m m' : List Line, m.length ≤ l.length → Swapped b.lines b'.lines m m' →
      (block m).val.1 = (block m').val.1 ∧
        SwappedBehind b.lines b'.lines (block m).val.2 (block m').val.2)
    (h : Swapped b.lines b'.lines l l') :
    (conditional line condition l).val.1 = (conditional line condition l').val.1 ∧
      ((conditional line condition l).val.2 = (conditional line condition l').val.2 ∨
        Swapped b.lines b'.lines (conditional line condition l).val.2
          (conditional line condition l').val.2) := by
  obtain ⟨hitems, hbehind⟩ := hblock l l' (Nat.le_refl _) h
  have hle := (block l).property
  rw [conditional_eq, conditional_eq]
  rcases hfound : (block l).val with ⟨items, mid⟩
  rcases hfound' : (block l').val with ⟨items', mid'⟩
  rw [hfound] at hle
  rw [hfound, hfound'] at hitems hbehind
  cases hitems
  cases hbehind with
  | same => exact ⟨rfl, Or.inl rfl⟩
  | @behind last m m' hm =>
    dsimp only
    split
    · exact ⟨rfl, Or.inr hm⟩
    split
    · obtain ⟨helse, hafter⟩ := hblock m m' (Nat.le_of_succ_le hle) hm
      rcases helse' : (block m).val with ⟨elseItems, after⟩
      rcases helse'' : (block m').val with ⟨elseItems', after'⟩
      rw [helse', helse''] at helse hafter
      cases helse
      cases hafter with
      | same => exact ⟨rfl, Or.inl rfl⟩
      | behind last' hn =>
        dsimp only
        split
        · exact ⟨rfl, Or.inr hn⟩
        · exact ⟨rfl, SwappedBehind.resume_eq (.behind last' hn)⟩
    · exact ⟨rfl, SwappedBehind.resume_eq (.behind last hm)⟩

theorem Swapped.block_eq (hitems : b.items = b'.items) {l l' : List Line}
    (h : Swapped b.lines b'.lines l l') :
    (block l).val.1 = (block l').val.1 ∧
      SwappedBehind b.lines b'.lines (block l).val.2 (block l').val.2 := by
  cases h with
  | here rest =>
    rw [b.block_lines, b'.block_lines, hitems]
    exact ⟨rfl, .same _⟩
  | @behind line m m' hm =>
    have hrest := hm.block_eq hitems
    cases hs : shape line with
    | endSub | endIf | otherwise | elseIf =>
      have hends : (shape line).endsBlock = true := by rw [hs]; rfl
      rw [block_of_endsBlock m hends, block_of_endsBlock m' hends]
      exact ⟨rfl, .behind line hm⟩
    | declaration =>
      rw [block_declaration m hs, block_declaration m' hs]
      exact hrest
    | plain =>
      rw [block_plain m hs, block_plain m' hs]
      exact ⟨congrArg (List.cons _) hrest.1, hrest.2⟩
    | ifLine condition thenPart elsePart =>
      rw [block_ifLine m hs, block_ifLine m' hs]
      exact ⟨congrArg (List.cons _) hrest.1, hrest.2⟩
    | ifBlock condition =>
      obtain ⟨hitem, hbehind⟩ := conditional_swapped line condition
        (fun n n' hle hn => hn.block_eq hitems) hm
      have hle := (conditional line condition m).property
      rw [block_ifBlock m hs, block_ifBlock m' hs]
      dsimp only
      rw [hitem]
      rcases hbehind with hsame | hn
      · rw [hsame]
        exact ⟨rfl, .same _⟩
      · have hon := hn.block_eq hitems
        exact ⟨congrArg (List.cons _) hon.1, hon.2⟩
termination_by l.length
decreasing_by
  all_goals subst_vars; simp only [List.length_cons]; omega

theorem Swapped.body_eq (hitems : b.items = b'.items) {l l' : List Line}
    (h : Swapped b.lines b'.lines l l') :
    (body l).val.1 = (body l').val.1 ∧
      ((body l).val.2 = (body l').val.2 ∨
        Swapped b.lines b'.lines (body l).val.2 (body l').val.2) := by
  obtain ⟨hblock, hbehind⟩ := h.block_eq hitems
  have hle := (block l).property
  rw [Source.body_eq, Source.body_eq]
  rcases hfound : (block l).val with ⟨items, mid⟩
  rcases hfound' : (block l').val with ⟨items', mid'⟩
  rw [hfound] at hle
  rw [hfound, hfound'] at hblock hbehind
  cases hblock
  cases hbehind with
  | same => exact ⟨rfl, Or.inl rfl⟩
  | @behind last m m' hm =>
    have hrest := hm.body_eq hitems
    dsimp only
    split
    · exact ⟨rfl, Or.inr hm⟩
    · exact ⟨by rw [hrest.1], hrest.2⟩
termination_by l.length
decreasing_by exact hle

theorem procedures_of_headers {lines : List Line} (h : ∀ line ∈ lines, header? line = none)
    (rest : List Line) : procedures (lines ++ rest) = procedures rest := by
  induction lines with
  | nil => rfl
  | cons line lines ih =>
    obtain ⟨hline, hlines⟩ := List.forall_mem_cons.mp h
    rw [List.cons_append, procedures_outside hline, ih hlines]

/-- Outside of a procedure a piece must not open one, as it would be read as a body there. -/
theorem Swapped.procedures_eq (hitems : b.items = b'.items)
    (hheaders : ∀ line ∈ b.lines, header? line = none)
    (hheaders' : ∀ line ∈ b'.lines, header? line = none) {l l' : List Line}
    (h : Swapped b.lines b'.lines l l') : procedures l = procedures l' := by
  cases h with
  | here rest => rw [procedures_of_headers hheaders, procedures_of_headers hheaders']
  | @behind line m m' hm =>
    cases hheader : header? line with
    | none =>
      rw [procedures_outside hheader, procedures_outside hheader]
      exact hm.procedures_eq hitems hheaders hheaders'
    | some chars =>
      obtain ⟨hbody, hafter⟩ := hm.body_eq hitems
      have hle := (body m).property
      rw [procedures_header hheader, procedures_header hheader, hbody]
      rcases hafter with hsame | hn
      · rw [hsame]
      · rw [hn.procedures_eq hitems hheaders hheaders']
termination_by l.length
decreasing_by
  all_goals subst_vars; simp only [List.length_cons]; omega

end FormScript.Source
