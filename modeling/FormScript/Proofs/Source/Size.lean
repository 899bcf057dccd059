import FormScript.Proofs.Source.Reading

/-! How much can come of a source: no more than two intents and procedures from a line, and no more
lines than the text has characters. -/
namespace FormScript.Source

open Intent Text

def itemCount (items : List Item) : Nat :=
  leafCountOf (items.map Item.toIntent)

theorem itemCount_append (a b : List Item) : itemCount (a ++ b) = itemCount a + itemCount b := by
  unfold itemCount
  rw [List.map_append, leafCountOf_append]

theorem itemCount_cons (item : Item) (rest : List Item) :
    itemCount (item :: rest) = item.toIntent.leafCount + itemCount rest :=
  rfl

@[simp] theorem itemCount_nil : itemCount [] = 0 := rfl

@[simp] theorem leafCount_ofGap (line : Line) (reason : String) :
    (Item.ofGap line reason).toIntent.leafCount = 1 :=
  rfl

theorem leafCount_statement (line : Line) : (statement line).toIntent.leafCount = 1 := by
  unfold statement statement?
  repeat' split
  all_goals try rfl
  cases setValue? line <;> rfl

theorem itemCount_map_statement (lines : List Line) :
    itemCount (lines.map statement) = lines.length := by
  induction lines with
  | nil => rfl
  | cons line rest ih =>
    rw [List.map_cons, itemCount_cons, leafCount_statement, ih, List.length_cons]
    omega

/-- A conditional comes to what its arms come to, or to a single intent. -/
theorem leafCount_buildBranch_le (line condition : Line) (thenItems elseItems : List Item) :
    (buildBranch line condition thenItems elseItems).toIntent.leafCount ≤
      max 1 (itemCount thenItems + itemCount elseItems) := by
  unfold buildBranch
  split
  · exact Nat.le_max_left _ _
  · rename_i c _
    cases hvalid : validation? c thenItems elseItems with
    | none => exact Nat.le_max_right _ _
    | some i =>
      unfold validation? at hvalid
      split at hvalid
      · split at hvalid
        · cases hvalid
          exact Nat.le_max_left _ _
        · contradiction
      · contradiction

theorem Reads.itemCount_le {lines after : List Line} {items : List Item}
    (h : Reads lines items after) : itemCount items + 2 * after.length ≤ 2 * lines.length := by
  induction h with
  | nil => exact Nat.le_refl _
  | stop rest _ => simp
  | declaration _ _ ih =>
    rw [List.length_cons]
    omega
  | plain _ _ ih =>
    rw [itemCount_cons, leafCount_statement, List.length_cons]
    omega
  | @ifLine line condition thenPart elsePart rest after items _ _ ih =>
    have hbranch := leafCount_buildBranch_le line condition [statement thenPart]
      (elsePart.toList.map statement)
    have helse : elsePart.toList.length ≤ 1 := by cases elsePart <;> simp
    rw [itemCount_cons, leafCount_statement, itemCount_nil, itemCount_map_statement] at hbranch
    rw [itemCount_cons, List.length_cons]
    omega
  | @oneArm line condition last rest mid after thenItems items _ _ _ _ ihthen ih =>
    have hbranch := leafCount_buildBranch_le line condition thenItems []
    rw [itemCount_nil] at hbranch
    rw [List.length_cons] at ihthen
    rw [itemCount_cons, List.length_cons]
    omega
  | @twoArms line condition last last' rest mid mid' after thenItems elseItems items _ _ _ _ _ _
      ihthen ihelse ih =>
    have hbranch := leafCount_buildBranch_le line condition thenItems elseItems
    rw [List.length_cons] at ihthen ihelse
    rw [itemCount_cons, List.length_cons]
    omega
  | @lost line condition rest mid after thenItems items _ _ _ _ ihthen ih =>
    have hresume := length_resume_le mid
    rw [itemCount_cons, Item.abandoned, leafCount_ofGap, List.length_cons]
    omega
  | @lostElse line condition last rest mid mid' after thenItems elseItems items _ _ _ _ _ _ ihthen
      ihelse ih =>
    have hresume := length_resume_le mid'
    rw [List.length_cons] at ihthen
    rw [itemCount_cons, Item.abandoned, leafCount_ofGap, List.length_cons]
    omega

theorem itemCount_body_le (lines : List Line) :
    itemCount (body lines).val.1 + 2 * (body lines).val.2.length ≤ 2 * lines.length := by
  have hblock := (reads_block lines).itemCount_le
  rw [body_eq]
  rcases hfound : (block lines).val with ⟨items, _ | ⟨last, rest⟩⟩
  · rwa [hfound] at hblock
  · have hle : rest.length + 1 ≤ lines.length := by
      simpa [hfound] using (block lines).property
    rw [hfound, List.length_cons] at hblock
    dsimp only at hblock ⊢
    by_cases hend : shape last = .endSub
    · rw [if_pos hend]
      dsimp only
      omega
    · have hrest := itemCount_body_le rest
      rw [if_neg hend, itemCount_append, itemCount_cons, leafCount_ofGap]
      dsimp only
      omega
termination_by lines.length
decreasing_by omega

theorem leafCountOf_bodyIntents_le (items : List Item) :
    leafCountOf (bodyIntents items) ≤ itemCount items := by
  fun_induction bodyIntents items with
  | case1 => exact Nat.le_refl _
  | case2 line => exact Nat.zero_le _
  | case3 item rest hexit ih =>
    rw [leafCountOf, itemCount_cons]
    omega

theorem leafCount_procedures_le (lines : List Line) :
    leafCountOf ((procedures lines).flatMap Procedure.intents) + (procedures lines).length ≤
      2 * lines.length := by
  match lines with
  | [] =>
    rw [procedures]
    exact Nat.le_refl _
  | line :: rest =>
    cases hheader : header? line with
    | none =>
      have hrest := leafCount_procedures_le rest
      rw [procedures_outside hheader, List.length_cons]
      omega
    | some chars =>
      have hbody := itemCount_body_le rest
      have hintents := leafCountOf_bodyIntents_le (body rest).val.1
      have hafter := (body rest).property
      have hrest := leafCount_procedures_le (body rest).val.2
      rw [procedures_header hheader, List.flatMap_cons, leafCountOf_append, List.length_cons,
        List.length_cons]
      dsimp only
      omega
termination_by lines.length
decreasing_by
  all_goals simp only [List.length_cons]; omega

theorem length_logicalFrom_le (pending : Line) (lines : List Line) :
    (logicalFrom pending lines).length ≤ lines.length + (if pending.isEmpty then 0 else 1) := by
  fun_induction logicalFrom pending lines with
  | case1 pending hempty => exact Nat.zero_le _
  | case2 pending hempty =>
    cases pending with
    | nil => exact absurd rfl hempty
    | cons c cs => exact Nat.le_refl _
  | case3 pending raw more line head hcontinued ih =>
    have hpending : (pending ++ trim head ++ [' ']).isEmpty = false := by simp
    rw [hpending] at ih
    simp only [Bool.false_eq_true, if_false] at ih
    rw [List.length_cons]
    omega
  | case4 pending raw more line hcontinued full hskip ih =>
    simp only [List.isEmpty_nil, if_true] at ih
    rw [List.length_cons]
    omega
  | case5 pending raw more line hcontinued full hkeep ih =>
    simp only [List.isEmpty_nil, if_true] at ih
    rw [List.length_cons, List.length_cons]
    omega

theorem length_of_splitOnP {p : Char → Bool} {cs last : List Char} {pieces : List (List Char)}
    (h : cs.splitOnP p = pieces ++ [last]) : pieces.length + last.length ≤ cs.length := by
  induction cs generalizing pieces last with
  | nil =>
    have hlength := congrArg List.length h
    have hlast : last = [] := by
      have hmem : last ∈ List.splitOnP p [] := by simp [h]
      simpa using hmem
    simp only [List.splitOnP_nil, List.length_append, List.length_singleton] at hlength
    rw [hlast, List.length_nil]
    omega
  | cons c cs ih =>
    rw [List.splitOnP_cons_eq_if_modifyHead] at h
    split at h
    · cases pieces with
      | nil => simp [List.splitOnP_ne_nil] at h
      | cons piece pieces =>
        have hrest := ih (List.cons.inj h).2
        rw [List.length_cons, List.length_cons]
        omega
    · rcases hsplit : cs.splitOnP p with _ | ⟨first, rest⟩
      · exact absurd hsplit (List.splitOnP_ne_nil p cs)
      · rw [hsplit, List.modifyHead_cons] at h
        cases pieces with
        | nil =>
          obtain ⟨rfl, rfl⟩ := List.cons.inj h
          have hfirst := ih (show cs.splitOnP p = [] ++ [first] from hsplit)
          rw [List.length_nil] at hfirst
          rw [List.length_nil, List.length_cons, List.length_cons]
          omega
        | cons piece pieces =>
          obtain ⟨-, rfl⟩ := List.cons.inj h
          have hrest := ih (show cs.splitOnP p = (first :: pieces) ++ [last] from hsplit)
          rw [List.length_cons] at hrest
          rw [List.length_cons, List.length_cons]
          omega

theorem length_lines_le (cs : List Char) : (lines cs).length ≤ cs.length := by
  obtain ⟨pieces, last, hsplit, hlines⟩ := exists_pieces cs
  have hpieces := length_of_splitOnP hsplit
  have hlast : ([last].filter (!·.isEmpty)).length ≤ last.length := by
    cases last <;> simp
  rw [hlines, List.length_append, List.length_map]
  omega

theorem leafCount_recognize_le (source : String) :
    leafCountOf ((recognize source).flatMap Procedure.intents) + (recognize source).length ≤
      2 * source.length := by
  have hprocedures := leafCount_procedures_le (logicalLines source.toList)
  have hlogical : (logicalLines source.toList).length ≤ (lines source.toList).length :=
    length_logicalFrom_le [] (lines source.toList)
  have hlines := length_lines_le source.toList
  rw [String.length_toList] at hlines
  rw [recognize]
  omega

end FormScript.Source
