import FormScript.Source.Shape

/-! Blocks of statements. A block ends before the first line that ends or divides something it did
not open. A conditional over several lines with one arm, or with two arms, becomes a branch; any
other one becomes a single gap, and reading goes on behind its own end. -/
namespace FormScript.Source

def Item.intent? : Item → Option Intent
  | .intent i => some i
  | _ => none

/-- Whether a statement keeps the rest of the event from happening. -/
def Item.stops : Item → Bool
  | .exit _ => true
  | .cancel _ => true
  | _ => false

/-- Outside the procedure's end and a required field, leaving is a gap, and so is anything done to
focus or event. -/
def Item.toIntent : Item → Intent
  | .intent i => i
  | .exit line => .openGap (String.ofList line) "early exit has no structural equivalent"
  | .focus line => .openGap (String.ofList line) "focus/cancel handling is not mapped"
  | .cancel line => .openGap (String.ofList line) "focus/cancel handling is not mapped"

/-- The intents of a procedure body: leaving the procedure at its very end does nothing. -/
def bodyIntents : List Item → List Intent
  | [] => []
  | [.exit _] => []
  | item :: rest => item.toIntent :: bodyIntents rest

/-- A message and an exit for a blank field are the check that the field has a value. -/
def validation? (condition : Condition) (thenItems elseItems : List Item) : Option Intent :=
  match condition, elseItems, thenItems.filterMap Item.intent? with
  | .fieldBlank field, [], [.act (.showMessage message) _] =>
    if thenItems.any Item.stops then some (.act (.validateRequired field message) none) else none
  | _, _, _ => none

def buildBranch (line condition : Line) (thenItems elseItems : List Item) : Item :=
  match condition? condition with
  | none =>
    .ofGap line ("condition not recognized: " ++ String.ofList (Text.trim condition))
  | some c =>
    .intent ((validation? c thenItems elseItems).getD
      (.branch c (thenItems.map Item.toIntent) (elseItems.map Item.toIntent) none none))

def Item.abandoned (line : Line) : Item :=
  .ofGap line "multi-way or unterminated conditional"

/-- What follows the end of a conditional inside which `depth` others are open. The end of the
procedure is left in place. -/
def skipConditional (depth : Nat) : List Line → List Line
  | [] => []
  | line :: rest =>
    match shape line with
    | .ifBlock _ => skipConditional (depth + 1) rest
    | .endIf =>
      match depth with
      | 0 => rest
      | depth + 1 => skipConditional depth rest
    | .endSub => line :: rest
    | _ => skipConditional depth rest

theorem length_skipConditional_le (depth : Nat) (lines : List Line) :
    (skipConditional depth lines).length ≤ lines.length := by
  fun_induction skipConditional depth lines <;> simp_all <;> omega

mutual

/-- The statements of a block, and the lines from the one that ends it on. -/
def block (lines : List Line) : { r : List Item × List Line // r.2.length ≤ lines.length } :=
  match lines with
  | [] => ⟨([], []), Nat.le_refl _⟩
  | line :: rest =>
    match shape line with
    | .endSub => ⟨([], line :: rest), Nat.le_refl _⟩
    | .endIf => ⟨([], line :: rest), Nat.le_refl _⟩
    | .otherwise => ⟨([], line :: rest), Nat.le_refl _⟩
    | .elseIf => ⟨([], line :: rest), Nat.le_refl _⟩
    | .declaration =>
      let ⟨(items, after), h⟩ := block rest
      ⟨(items, after), Nat.le_succ_of_le h⟩
    | .plain =>
      let ⟨(items, after), h⟩ := block rest
      ⟨(statement line :: items, after), Nat.le_succ_of_le h⟩
    | .ifLine condition thenPart elsePart =>
      let item := buildBranch line condition [statement thenPart] (elsePart.toList.map statement)
      let ⟨(items, after), h⟩ := block rest
      ⟨(item :: items, after), Nat.le_succ_of_le h⟩
    | .ifBlock condition =>
      let ⟨(item, behind), hb⟩ := conditional line condition rest
      have : behind.length ≤ rest.length := hb
      let ⟨(items, after), h⟩ := block behind
      ⟨(item :: items, after), Nat.le_succ_of_le (Nat.le_trans h hb)⟩
termination_by 2 * lines.length
decreasing_by
  all_goals simp only [List.length_cons]; omega

def conditional (line condition : Line) (lines : List Line) :
    { r : Item × List Line // r.2.length ≤ lines.length } :=
  let ⟨(thenItems, after), h⟩ := block lines
  match after with
  | [] => ⟨(.abandoned line, []), Nat.zero_le _⟩
  | last :: rest =>
    have hr : rest.length + 1 ≤ lines.length := h
    match shape last with
    | .endIf => ⟨(buildBranch line condition thenItems [], rest), Nat.le_of_succ_le hr⟩
    | .otherwise =>
      let ⟨(elseItems, after'), h'⟩ := block rest
      match after' with
      | [] => ⟨(.abandoned line, []), Nat.zero_le _⟩
      | last' :: rest' =>
        have hr' : rest'.length + 1 ≤ rest.length := h'
        have hl : rest'.length + 1 ≤ lines.length := Nat.le_trans hr' (Nat.le_of_succ_le hr)
        match shape last' with
        | .endIf => ⟨(buildBranch line condition thenItems elseItems, rest'), Nat.le_of_succ_le hl⟩
        | .endSub => ⟨(.abandoned line, last' :: rest'), hl⟩
        | _ => ⟨(.abandoned line, skipConditional 0 rest'),
            Nat.le_trans (length_skipConditional_le 0 rest') (Nat.le_of_succ_le hl)⟩
    | .endSub => ⟨(.abandoned line, last :: rest), hr⟩
    | _ => ⟨(.abandoned line, skipConditional 0 rest),
        Nat.le_trans (length_skipConditional_le 0 rest) (Nat.le_of_succ_le hr)⟩
termination_by 2 * lines.length + 1
decreasing_by
  all_goals omega

end

@[simp] theorem block_nil : (block []).val = ([], []) := by
  rw [block]

def Shape.endsBlock : Shape → Bool
  | .endSub | .endIf | .otherwise | .elseIf => true
  | _ => false

theorem block_of_endsBlock {line : Line} (rest : List Line) (h : (shape line).endsBlock = true) :
    (block (line :: rest)).val = ([], line :: rest) := by
  rw [block]
  cases hs : shape line <;> simp_all [Shape.endsBlock]

theorem block_declaration {line : Line} (rest : List Line) (h : shape line = .declaration) :
    (block (line :: rest)).val = (block rest).val := by
  rw [block]
  simp only [h]

theorem block_plain {line : Line} (rest : List Line) (h : shape line = .plain) :
    (block (line :: rest)).val = (statement line :: (block rest).val.1, (block rest).val.2) := by
  rw [block]
  simp only [h]

theorem block_ifBlock {line condition : Line} (rest : List Line)
    (h : shape line = .ifBlock condition) :
    (block (line :: rest)).val =
      let found := (conditional line condition rest).val
      (found.1 :: (block found.2).val.1, (block found.2).val.2) := by
  rw [block]
  simp only [h]

theorem conditional_endIf (line condition : Line) {lines rest : List Line} {items : List Item}
    {last : Line} (hb : (block lines).val = (items, last :: rest)) (hl : shape last = .endIf) :
    (conditional line condition lines).val = (buildBranch line condition items [], rest) := by
  rw [conditional]
  split
  rename_i heq
  rw [heq] at hb
  cases hb
  simp only [hl]

end FormScript.Source
