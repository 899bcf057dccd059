import FormScript.Source.Recognition

/-! What the reading of a block can come to, said once: one case for each kind of line, and for a
conditional over several lines one for each way in which it can end. A procedure's body is a block,
with whatever follows each line that ends nothing. -/
namespace FormScript.Source

theorem block_ifLine {line condition thenPart : Line} {elsePart : Option Line} (rest : List Line)
    (h : shape line = .ifLine condition thenPart elsePart) :
    (block (line :: rest)).val =
      (buildBranch line condition [statement thenPart] (elsePart.toList.map statement) ::
        (block rest).val.1, (block rest).val.2) := by
  rw [block]
  simp only [h]

/-- Where reading goes on behind a conditional that cannot be kept. -/
def resume : List Line → List Line
  | [] => []
  | last :: rest => if shape last = .endSub then last :: rest else skipConditional 0 rest

theorem length_resume_le (lines : List Line) : (resume lines).length ≤ lines.length := by
  cases lines with
  | nil => exact Nat.le_refl _
  | cons last rest =>
    have hskip := length_skipConditional_le 0 rest
    rw [resume]
    split
    · exact Nat.le_refl _
    · rw [List.length_cons]
      omega

theorem conditional_eq (line condition : Line) (lines : List Line) :
    (conditional line condition lines).val =
      match (block lines).val with
      | (_, []) => (.abandoned line, [])
      | (thenItems, last :: rest) =>
        if shape last = .endIf then (buildBranch line condition thenItems [], rest)
        else if shape last = .otherwise then
          match (block rest).val with
          | (_, []) => (.abandoned line, [])
          | (elseItems, last' :: rest') =>
            if shape last' = .endIf then (buildBranch line condition thenItems elseItems, rest')
            else (.abandoned line, resume (last' :: rest'))
        else (.abandoned line, resume (last :: rest)) := by
  rw [conditional]
  rcases block lines with ⟨⟨thenItems, _ | ⟨last, rest⟩⟩, hle⟩
  · rfl
  · dsimp only
    rcases block rest with ⟨⟨elseItems, _ | ⟨last', rest'⟩⟩, hle'⟩
    · dsimp only
      cases hs : shape last <;> simp [resume, hs]
    · dsimp only
      cases hs : shape last <;> cases hs' : shape last' <;> simp [resume, hs, hs']

/-- `Reads lines items after`: the block at the start of `lines` has these items, and `after` are
the lines from the one that ends it on. -/
inductive Reads : List Line → List Item → List Line → Prop
  | nil : Reads [] [] []
  | stop {line : Line} (rest : List Line) (h : (shape line).endsBlock = true) :
    Reads (line :: rest) [] (line :: rest)
  | declaration {line : Line} {rest after : List Line} {items : List Item}
    (h : shape line = .declaration) (hrest : Reads rest items after) :
    Reads (line :: rest) items after
  | plain {line : Line} {rest after : List Line} {items : List Item}
    (h : shape line = .plain) (hrest : Reads rest items after) :
    Reads (line :: rest) (statement line :: items) after
  | ifLine {line condition thenPart : Line} {elsePart : Option Line} {rest after : List Line}
    {items : List Item} (h : shape line = .ifLine condition thenPart elsePart)
    (hrest : Reads rest items after) :
    Reads (line :: rest) (buildBranch line condition [statement thenPart]
      (elsePart.toList.map statement) :: items) after
  | oneArm {line condition last : Line} {rest mid after : List Line} {thenItems items : List Item}
    (h : shape line = .ifBlock condition) (hthen : Reads rest thenItems (last :: mid))
    (hlast : shape last = .endIf) (hrest : Reads mid items after) :
    Reads (line :: rest) (buildBranch line condition thenItems [] :: items) after
  | twoArms {line condition last last' : Line} {rest mid mid' after : List Line}
    {thenItems elseItems items : List Item} (h : shape line = .ifBlock condition)
    (hthen : Reads rest thenItems (last :: mid)) (hlast : shape last = .otherwise)
    (helse : Reads mid elseItems (last' :: mid')) (hlast' : shape last' = .endIf)
    (hrest : Reads mid' items after) :
    Reads (line :: rest) (buildBranch line condition thenItems elseItems :: items) after
  /-- Its first arm does not end as an arm does. -/
  | lost {line condition : Line} {rest mid after : List Line} {thenItems items : List Item}
    (h : shape line = .ifBlock condition) (hthen : Reads rest thenItems mid)
    (hlast : ∀ last ∈ mid.head?, shape last ≠ .endIf ∧ shape last ≠ .otherwise)
    (hrest : Reads (resume mid) items after) :
    Reads (line :: rest) (.abandoned line :: items) after
  /-- Its second arm does not end as the last arm does. -/
  | lostElse {line condition last : Line} {rest mid mid' after : List Line}
    {thenItems elseItems items : List Item} (h : shape line = .ifBlock condition)
    (hthen : Reads rest thenItems (last :: mid)) (hlast : shape last = .otherwise)
    (helse : Reads mid elseItems mid') (hlast' : ∀ last ∈ mid'.head?, shape last ≠ .endIf)
    (hrest : Reads (resume mid') items after) :
    Reads (line :: rest) (.abandoned line :: items) after

theorem block_of_conditional {line condition : Line} {lines behind : List Line} {item : Item}
    (hs : shape line = .ifBlock condition)
    (hfound : (conditional line condition lines).val = (item, behind)) :
    (block (line :: lines)).val = (item :: (block behind).val.1, (block behind).val.2) := by
  rw [block_ifBlock lines hs, hfound]

theorem reads_block (lines : List Line) : Reads lines (block lines).val.1 (block lines).val.2 := by
  match lines with
  | [] =>
    rw [block_nil]
    exact .nil
  | line :: rest =>
    have hrest := reads_block rest
    cases hs : shape line with
    | endSub | endIf | otherwise | elseIf =>
      have hends : (shape line).endsBlock = true := by rw [hs]; rfl
      rw [block_of_endsBlock rest hends]
      exact .stop rest hends
    | declaration =>
      rw [block_declaration rest hs]
      exact .declaration hs hrest
    | plain =>
      rw [block_plain rest hs]
      exact .plain hs hrest
    | ifLine condition thenPart elsePart =>
      rw [block_ifLine rest hs]
      exact .ifLine hs hrest
    | ifBlock condition =>
      rcases hfound : (conditional line condition rest).val with ⟨item, behind⟩
      have hbehind : behind.length ≤ rest.length := by
        simpa [hfound] using (conditional line condition rest).property
      have hon := reads_block behind
      rw [block_of_conditional hs hfound]
      rw [conditional_eq] at hfound
      split at hfound
      · rename_i thenItems heq
        cases hfound
        rw [heq] at hrest
        exact .lost hs hrest (by simp) hon
      rename_i thenItems last mid heq
      rw [heq] at hrest
      have hmid : mid.length + 1 ≤ rest.length := by
        simpa [heq] using (block rest).property
      split at hfound
      · rename_i hlast
        cases hfound
        exact .oneArm hs hrest hlast hon
      rename_i hendIf
      split at hfound
      · rename_i hlast
        have helse := reads_block mid
        split at hfound
        · rename_i elseItems heq'
          cases hfound
          rw [heq'] at helse
          exact .lostElse hs hrest hlast helse (by simp) hon
        rename_i elseItems last' mid' heq'
        rw [heq'] at helse
        split at hfound
        · rename_i hlast'
          cases hfound
          exact .twoArms hs hrest hlast helse hlast' hon
        · rename_i hlast'
          cases hfound
          exact .lostElse hs hrest hlast helse (by simpa using hlast') hon
      · rename_i hotherwise
        cases hfound
        exact .lost hs hrest (by simpa using ⟨hendIf, hotherwise⟩) hon
termination_by lines.length
decreasing_by
  all_goals simp only [List.length_cons]; omega

theorem Reads.block_eq {lines after : List Line} {items : List Item} (h : Reads lines items after) :
    (block lines).val = (items, after) := by
  induction h with
  | nil => exact block_nil
  | stop rest hends => exact block_of_endsBlock rest hends
  | declaration hs _ ih => rw [block_declaration _ hs, ih]
  | plain hs _ ih => rw [block_plain _ hs, ih]
  | ifLine hs _ ih => rw [block_ifLine _ hs, ih]
  | @oneArm line condition last rest mid after thenItems items hs _ hlast _ ihthen ih =>
    have hfound : (conditional line condition rest).val =
        (buildBranch line condition thenItems [], mid) := by
      rw [conditional_eq, ihthen]
      exact if_pos hlast
    rw [block_of_conditional hs hfound, ih]
  | @twoArms line condition last last' rest mid mid' after thenItems elseItems items hs _ hlast _
      hlast' _ ihthen ihelse ih =>
    have hfound : (conditional line condition rest).val =
        (buildBranch line condition thenItems elseItems, mid') := by
      rw [conditional_eq, ihthen]
      simp [hlast, ihelse, hlast']
    rw [block_of_conditional hs hfound, ih]
  | @lost line condition rest mid after thenItems items hs _ hlast _ ihthen ih =>
    have hfound : (conditional line condition rest).val = (.abandoned line, resume mid) := by
      rw [conditional_eq, ihthen]
      cases mid with
      | nil => rfl
      | cons last mid =>
        obtain ⟨hendIf, hotherwise⟩ := hlast last rfl
        simp [hendIf, hotherwise]
    rw [block_of_conditional hs hfound, ih]
  | @lostElse line condition last rest mid mid' after thenItems elseItems items hs _ hlast _ hlast'
      _ ihthen ihelse ih =>
    have hfound : (conditional line condition rest).val = (.abandoned line, resume mid') := by
      rw [conditional_eq, ihthen]
      cases mid' with
      | nil => simp [hlast, ihelse, resume]
      | cons last' mid' => simp [hlast, ihelse, hlast' last' rfl]
    rw [block_of_conditional hs hfound, ih]

theorem body_eq (lines : List Line) :
    (body lines).val =
      match (block lines).val with
      | (items, []) => (items, [])
      | (items, last :: rest) =>
        if shape last = .endSub then (items, rest)
        else (items ++ .ofGap last "unbalanced conditional" :: (body rest).val.1,
          (body rest).val.2) := by
  rw [body]
  rcases block lines with ⟨⟨items, _ | ⟨last, rest⟩⟩, hle⟩
  · rfl
  · dsimp only
    split <;> rfl

theorem procedures_header {line : Line} {chars : List Char} (h : header? line = some chars)
    (rest : List Line) :
    procedures (line :: rest) =
      ⟨String.ofList chars, Identifier.trigger (String.ofList chars),
        bodyIntents (body rest).val.1⟩ :: procedures (body rest).val.2 := by
  rw [procedures]
  simp only [h]

theorem procedures_outside {line : Line} (h : header? line = none) (rest : List Line) :
    procedures (line :: rest) = procedures rest := by
  rw [procedures]
  simp only [h]

end FormScript.Source
