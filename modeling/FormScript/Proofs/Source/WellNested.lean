import FormScript.Proofs.Source.Openings

/-! Lines in which every conditional is closed are read by their structure. A conditional that is
kept is found by reading its arms, one that is not by counting, and both come to the same end line,
however the two kinds stand inside each other. -/
namespace FormScript.Source

open Text

def standsAlone (line : Line) : Bool :=
  !isEndSub line && !isEndIf line && !isElse line && (untilThen? "elseif" line).isNone &&
    (untilThen? "if" line).isNone

mutual

/-- Lines that stand alone and conditionals, each with a first arm, any further arms and an end. -/
inductive WellNested where
  | nil
  | single (line : Line) (alone : standsAlone line = true) (rest : WellNested)
  | conditional (opening condition : Line) (opens : untilThen? "if" opening = some condition)
    (first : WellNested) (arms : FurtherArms) (closing : Line) (closes : isEndIf closing = true)
    (rest : WellNested)

inductive FurtherArms where
  | nil
  | cons (divider : Line)
    (divides : (isElse divider || (untilThen? "elseif" divider).isSome) = true)
    (arm : WellNested) (rest : FurtherArms)

end

mutual

def WellNested.lines : WellNested → List Line
  | .nil => []
  | .single line _ rest => line :: rest.lines
  | .conditional opening _ _ first arms closing _ rest =>
    opening :: (first.lines ++ (arms.lines ++ closing :: rest.lines))

def FurtherArms.lines : FurtherArms → List Line
  | .nil => []
  | .cons divider _ arm rest => divider :: (arm.lines ++ rest.lines)

end

def lineItems (line : Line) : List Item :=
  match shape line with
  | .declaration => []
  | .ifLine condition thenPart elsePart =>
    [buildBranch line condition [statement thenPart] (elsePart.toList.map statement)]
  | _ => [statement line]

/-- One item for each conditional: a branch if it has one arm, or two with an "else" between them,
and otherwise a gap with the line that opens it. -/
def WellNested.items : WellNested → List Item
  | .nil => []
  | .single line _ rest => lineItems line ++ rest.items
  | .conditional opening condition _ first .nil _ _ rest =>
    buildBranch opening condition first.items [] :: rest.items
  | .conditional opening condition _ first (.cons divider _ arm .nil) _ _ rest =>
    (if isElse divider then buildBranch opening condition first.items arm.items
      else .abandoned opening) :: rest.items
  | .conditional opening _ _ _ (.cons _ _ _ (.cons _ _ _ _)) _ _ rest =>
    .abandoned opening :: rest.items

theorem ifLine?_eq_none_or (line : Line) :
    ifLine? line = none ∨
      ∃ condition thenPart elsePart, ifLine? line = some (.ifLine condition thenPart elsePart) := by
  cases h : ifLine? line with
  | none => exact Or.inl rfl
  | some found =>
    right
    obtain ⟨cs, -, h⟩ := Option.bind_eq_some_iff.mp h
    obtain ⟨rest, -, h⟩ := Option.bind_eq_some_iff.mp h
    split at h
    · cases h
      exact ⟨_, _, _, rfl⟩
    · obtain ⟨statements, -, h⟩ := Option.bind_eq_some_iff.mp h
      split at h
      · cases h
        exact ⟨_, _, _, rfl⟩
      · contradiction

theorem shape_of_standsAlone {line : Line} (h : standsAlone line = true) :
    shape line = .declaration ∨ shape line = .plain ∨
      ∃ condition thenPart elsePart, shape line = .ifLine condition thenPart elsePart := by
  simp only [standsAlone, Bool.and_eq_true, Bool.not_eq_true', Option.isNone_iff_eq_none] at h
  obtain ⟨⟨⟨⟨hsub, hif⟩, helse⟩, helseIf⟩, hopens⟩ := h
  have hshape : shape line =
      if isDeclaration line then .declaration else (ifLine? line).getD .plain := by
    simp only [shape, hsub, hif, helse, helseIf, hopens, Option.isSome_none, Bool.false_eq_true,
      if_false]
  rw [hshape]
  split
  · exact Or.inl rfl
  · right
    rcases ifLine?_eq_none_or line with hnone | ⟨condition, thenPart, elsePart, hsome⟩
    · exact Or.inl (by rw [hnone]; rfl)
    · exact Or.inr ⟨condition, thenPart, elsePart, by rw [hsome]; rfl⟩

theorem standsAlone_of_shape {line : Line}
    (h : shape line = .plain ∨
      ∃ condition thenPart elsePart, shape line = .ifLine condition thenPart elsePart) :
    standsAlone line = true := by
  unfold shape at h
  split at h
  · simp at h
  split at h
  · simp at h
  split at h
  · simp at h
  split at h
  · simp at h
  split at h
  · simp at h
  split at h
  · simp at h
  · rename_i hsub hif helse helseIf _ _ hopens
    have hnone := Option.eq_none_iff_forall_ne_some.mpr hopens
    simp_all [standsAlone]

theorem lineItems_of_plain {line : Line} (h : shape line = .plain) :
    lineItems line = [statement line] := by
  rw [lineItems, h]

theorem shape_of_isEndIf {line : Line} (h : isEndIf line = true) : shape line = .endIf := by
  have hsub : isEndSub line = false := by
    obtain ⟨cs, hcs, hif⟩ := Option.bind_eq_some_iff.mp (isWhole_iff.mp h)
    obtain ⟨rest, hend, rfl⟩ := Option.map_eq_some_iff.mp hcs
    rw [isEndSub, hend]
    cases rest with
    | nil => rfl
    | cons c rest =>
      cases hc : isBlank c with
      | false => simp [afterBlank, hc, isWhole]
      | true =>
        have hstart : trimStart (c :: rest) = trimStart rest := List.dropWhile_cons_of_pos hc
        rw [hstart] at hif
        have hnone : afterAny ["sub", "function"] (trimStart rest) = none :=
          afterAny_apart hif (by decide)
        simp [afterBlank, hc, isWhole, hnone]
  simp only [shape, hsub, h, Bool.false_eq_true, if_false, if_true]

theorem shape_of_divides {line : Line}
    (h : (isElse line || (untilThen? "elseif" line).isSome) = true) :
    shape line = if isElse line then .otherwise else .elseIf := by
  have hend : after "end" line = none := by
    rcases Bool.or_eq_true_iff.mp h with helse | helseIf
    · have hword : after "else" line = some [] := isWhole_iff.mp helse
      exact after_apart hword (by decide)
    · obtain ⟨condition, hfound⟩ := Option.isSome_iff_exists.mp helseIf
      obtain ⟨cs, hword, -⟩ := Option.bind_eq_some_iff.mp hfound
      exact after_apart hword (by decide)
  have hsub : isEndSub line = false := by
    rw [isEndSub, hend]
    rfl
  have hif : isEndIf line = false := by
    rw [isEndIf, hend]
    rfl
  simp only [shape, hsub, hif, Bool.false_eq_true, if_false]
  split
  · rfl
  · rename_i helse
    rw [Bool.or_eq_true_iff, or_iff_right helse] at h
    rw [if_pos h]

theorem Reads.ofLine {line : Line} (h : standsAlone line = true) {rest after : List Line}
    {items : List Item} (hrest : Reads rest items after) :
    Reads (line :: rest) (lineItems line ++ items) after := by
  rcases shape_of_standsAlone h with hs | hs | ⟨condition, thenPart, elsePart, hs⟩
  · rw [lineItems, hs]
    exact .declaration hs hrest
  · rw [lineItems, hs]
    exact .plain hs hrest
  · rw [lineItems, hs]
    exact .ifLine hs hrest

mutual

theorem WellNested.skipConditional_lines (b : WellNested) (depth : Nat) (rest : List Line) :
    skipConditional depth (b.lines ++ rest) = skipConditional depth rest := by
  match b with
  | .nil => rfl
  | .single line h more =>
    rw [WellNested.lines, List.cons_append, ← more.skipConditional_lines depth rest]
    rcases shape_of_standsAlone h with hs | hs | ⟨condition, thenPart, elsePart, hs⟩ <;>
      simp only [skipConditional, hs]
  | .conditional opening condition hopens first arms closing hcloses more =>
    simp only [WellNested.lines, List.cons_append, List.append_assoc, skipConditional,
      shape_of_opens hopens, first.skipConditional_lines, arms.skipConditional_lines,
      shape_of_isEndIf hcloses, more.skipConditional_lines]

theorem FurtherArms.skipConditional_lines (arms : FurtherArms) (depth : Nat) (rest : List Line) :
    skipConditional depth (arms.lines ++ rest) = skipConditional depth rest := by
  match arms with
  | .nil => rfl
  | .cons divider hdivides arm more =>
    have hdivider (lines : List Line) :
        skipConditional depth (divider :: lines) = skipConditional depth lines := by
      have hs := shape_of_divides hdivides
      split at hs <;> simp only [skipConditional, hs]
    simp only [FurtherArms.lines, List.cons_append, List.append_assoc, hdivider,
      arm.skipConditional_lines, more.skipConditional_lines]

end

/-- From the line behind which it is given up, a conditional is passed over to its own end. -/
theorem resume_arms {divider closing : Line}
    (hdivides : (isElse divider || (untilThen? "elseif" divider).isSome) = true)
    (hcloses : isEndIf closing = true) (arm : WellNested) (arms : FurtherArms) (rest : List Line) :
    resume (divider :: (arm.lines ++ (arms.lines ++ closing :: rest))) = rest := by
  have hdivider := shape_of_divides hdivides
  have hend : shape divider ≠ .endSub := by
    rw [hdivider]
    split <;> exact Shape.noConfusion
  rw [resume, if_neg hend, arm.skipConditional_lines, arms.skipConditional_lines]
  simp only [skipConditional, shape_of_isEndIf hcloses]

theorem endsBlock_of_divides {line : Line}
    (h : (isElse line || (untilThen? "elseif" line).isSome) = true) :
    (shape line).endsBlock = true := by
  rw [shape_of_divides h]
  split <;> rfl

/-- Whatever follows a well-nested piece is read as it would be on its own. -/
theorem WellNested.reads_lines (b : WellNested) {rest after : List Line} {items : List Item}
    (h : Reads rest items after) : Reads (b.lines ++ rest) (b.items ++ items) after := by
  -- The reader knows at most one `Else`, so the further arms are split as it tells them apart:
  -- none, one that ends the conditional, and one with another divider behind it.
  match b with
  | .nil => exact h
  | .single line halone more =>
    rw [WellNested.lines, WellNested.items, List.cons_append, List.append_assoc]
    exact .ofLine halone (more.reads_lines h)
  | .conditional opening condition hopens first .nil closing hcloses more =>
    have hclosing := shape_of_isEndIf hcloses
    have hfirst := first.reads_lines (.stop (more.lines ++ rest) (by rw [hclosing]; rfl))
    simp only [WellNested.lines, FurtherArms.lines, WellNested.items, List.cons_append,
      List.append_assoc, List.append_nil, List.nil_append] at hfirst ⊢
    exact .oneArm (shape_of_opens hopens) hfirst hclosing (more.reads_lines h)
  | .conditional opening condition hopens first (.cons divider hdivides arm .nil) closing hcloses
      more =>
    have hclosing := shape_of_isEndIf hcloses
    have hdivider := shape_of_divides hdivides
    have hmore := more.reads_lines h
    have hfirst := first.reads_lines (.stop (arm.lines ++ closing :: (more.lines ++ rest))
      (endsBlock_of_divides hdivides))
    have harm := arm.reads_lines (.stop (more.lines ++ rest) (by rw [hclosing]; rfl))
    have hresume := resume_arms hdivides hcloses arm .nil (more.lines ++ rest)
    simp only [WellNested.lines, FurtherArms.lines, WellNested.items, List.cons_append,
      List.append_assoc, List.append_nil, List.nil_append] at hfirst harm hresume ⊢
    split at hdivider
    · rename_i helse
      rw [if_pos helse]
      exact .twoArms (shape_of_opens hopens) hfirst hdivider harm hclosing hmore
    · rename_i helse
      rw [if_neg helse]
      exact .lost (shape_of_opens hopens) hfirst (by simp [hdivider]) (by rwa [hresume])
  | .conditional opening condition hopens first (.cons divider hdivides arm
      (.cons divider' hdivides' arm' arms)) closing hcloses more =>
    have hdivider := shape_of_divides hdivides
    have hdivider' := shape_of_divides hdivides'
    have hmore := more.reads_lines h
    have hfirst := first.reads_lines (.stop
      (arm.lines ++ divider' :: (arm'.lines ++ (arms.lines ++ closing :: (more.lines ++ rest))))
      (endsBlock_of_divides hdivides))
    have harm := arm.reads_lines (.stop (arm'.lines ++ (arms.lines ++ closing ::
      (more.lines ++ rest))) (endsBlock_of_divides hdivides'))
    have hresume := resume_arms hdivides hcloses arm (.cons divider' hdivides' arm' arms)
      (more.lines ++ rest)
    have hresume' := resume_arms hdivides' hcloses arm' arms (more.lines ++ rest)
    simp only [WellNested.lines, FurtherArms.lines, WellNested.items, List.cons_append,
      List.append_assoc, List.append_nil] at hfirst harm hresume ⊢
    split at hdivider
    · have hend : shape divider' ≠ .endIf := by
        rw [hdivider']
        split <;> exact Shape.noConfusion
      exact .lostElse (shape_of_opens hopens) hfirst hdivider harm (by simpa using hend)
        (by rwa [hresume'])
    · exact .lost (shape_of_opens hopens) hfirst (by simp [hdivider]) (by rwa [hresume])

theorem WellNested.block_lines (b : WellNested) (rest : List Line) :
    (block (b.lines ++ rest)).val = (b.items ++ (block rest).val.1, (block rest).val.2) :=
  (b.reads_lines (reads_block rest)).block_eq

theorem recognize_wellNested (source : String) {header : Line} {name : List Char} (b : WellNested)
    (last : Option Line)
    (hlines : logicalLines source.toList = header :: (b.lines ++ last.toList))
    (hheader : header? header = some name) (hlast : last.all isEndSub = true) :
    recognize source =
      [⟨String.ofList name, Identifier.trigger (String.ofList name), bodyIntents b.items⟩] := by
  have hbody : (body (b.lines ++ last.toList)).val = (b.items, []) := by
    rw [body_eq, b.block_lines]
    cases last with
    | none => simp
    | some last =>
      have hend : shape last = .endSub := by
        rw [Option.all_some] at hlast
        simp only [shape, hlast, if_true]
      rw [Option.toList_some, block_of_endsBlock [] (by rw [hend]; rfl), List.append_nil]
      exact if_pos hend
  rw [recognize, hlines, procedures_header hheader, hbody, procedures]

/-- A block is a well-nested piece up to the line that ends it, or up to the end of the source, and
all that is read of it are the items of that piece. -/
theorem block_wellNested (b : WellNested) {rest : List Line}
    (h : rest.head?.all (fun last => (shape last).endsBlock) = true) :
    (block (b.lines ++ rest)).val = (b.items, rest) := by
  have hrest : (block rest).val = ([], rest) := by
    cases rest with
    | nil => exact block_nil
    | cons last rest => exact block_of_endsBlock rest h
  rw [b.block_lines, hrest, List.append_nil]

/-- A given-up conditional inside a kept one, with a kept one in its last arm and lines behind each
of them. -/
def mixedNesting : WellNested :=
  .single "Dim total As Long".toList (by decide +kernel) <|
  .conditional "If Me.NewRecord Then".toList " Me.NewRecord ".toList (by decide +kernel)
    (.conditional "If IsNull(Me.Total) Then".toList " IsNull(Me.Total) ".toList (by decide +kernel)
      (.single "Exit Sub".toList (by decide +kernel) .nil)
      (.cons "ElseIf Me.Total = 0 Then".toList (by decide +kernel) .nil <|
        .cons "Else".toList (by decide +kernel)
          (.conditional "If Me.Open = 1 Then".toList " Me.Open = 1 ".toList (by decide +kernel) .nil
            .nil "EndIf".toList (by decide +kernel) .nil) .nil)
      "End If".toList (by decide +kernel)
      (.single "Me.Requery".toList (by decide +kernel) .nil))
    (.cons "Else".toList (by decide +kernel)
      (.single "If Me.Total = 1 Then DoCmd.Close".toList (by decide +kernel) .nil) .nil)
    "End If".toList (by decide +kernel) <|
  .single "DoCmd.Save".toList (by decide +kernel) .nil

theorem block_wellNested_mixed :
    ["End Sub".toList].head?.all (fun last => (shape last).endsBlock) = true ∧
      mixedNesting.items =
        [.intent (.branch .newRecord
          [.openGap "If IsNull(Me.Total) Then" "multi-way or unterminated conditional",
            .act .requery none]
          [.branch (.fieldEquals "Total" "1") [.act .closeForm none] [] none none] none none),
         .ofAction .saveRecord] ∧
      (block (mixedNesting.lines ++ ["End Sub".toList])).val =
        (mixedNesting.items, ["End Sub".toList]) :=
  ⟨by decide, by decide +kernel, block_wellNested mixedNesting (by decide)⟩

end FormScript.Source
