import FormScript.Proofs.Source.GapOrigins

/-! Reading by position. The lines stay where they are and a position moves over them: one forward
for each line that is taken, and one back where the end of a procedure was taken by a conditional
that it does not belong to. Each move is refused where it would leave the lines, so that a result
means that none did. There always is one, after no more than two calls inside one another for each
line, and it is that of reading lines off the front. -/
namespace FormScript.Source

namespace Cursor

/-- Why there may be no result. -/
inductive Halt where
  /-- Too many calls inside one another. -/
  | spent
  /-- A position would leave the lines, or a number would fall below zero. -/
  | outside
  /-- The line before a position is not the one that a block has ended with. -/
  | astray
  deriving DecidableEq, Repr

inductive Ending where
  | endOfLines
  | endSub
  | endIf
  | otherwise
  | elseIf
  deriving DecidableEq, Repr

namespace Ending

def shape? : Ending → Option Shape
  | endOfLines => none
  | endSub => some .endSub
  | endIf => some .endIf
  | otherwise => some .otherwise
  | elseIf => some .elseIf

def isStray : Ending → Bool
  | endIf | otherwise | elseIf => true
  | _ => false

end Ending

def oneLess (n : Nat) : Except Halt Nat :=
  if 0 < n then .ok (n - 1) else .error .outside

section Reading

variable (lines : List Line)

def take (pos : Nat) : Except Halt (Option Line × Nat) :=
  match lines[pos]? with
  | none => .ok (none, pos)
  | some line => if pos + 1 ≤ lines.length then .ok (some line, pos + 1) else .error .outside

def lineAt (pos : Nat) : Except Halt Line :=
  match lines[pos]? with
  | none => .error .outside
  | some line => .ok line

/-- Goes behind the end of a conditional inside which `depth` others are open. -/
def skip : Nat → Nat → Nat → Except Halt Nat
  | 0, _, _ => .error .spent
  | fuel + 1, depth, pos => do
    match ← take lines pos with
    | (none, pos) => return pos
    | (some line, pos) =>
      match shape line with
      | .ifBlock _ => skip fuel (depth + 1) pos
      | .endIf => if depth = 0 then return pos else skip fuel (← oneLess depth) pos
      | .endSub => oneLess pos
      | _ => skip fuel depth pos

def abandon (fuel : Nat) (ending : Ending) (pos : Nat) : Except Halt Nat :=
  match ending with
  | .elseIf | .otherwise => skip lines fuel 0 pos
  | .endSub => oneLess pos
  | _ => .ok pos

mutual

/-- The items of a block, what it ended with, and the position behind that. -/
def readBlock : Nat → Nat → Except Halt (List Item × Ending × Nat)
  | 0, _ => .error .spent
  | fuel + 1, pos => do
    match ← take lines pos with
    | (none, pos) => return ([], .endOfLines, pos)
    | (some line, pos) =>
      match shape line with
      | .endSub => return ([], .endSub, pos)
      | .endIf => return ([], .endIf, pos)
      | .otherwise => return ([], .otherwise, pos)
      | .elseIf => return ([], .elseIf, pos)
      | .declaration => readBlock fuel pos
      | .plain =>
        let (items, ending, pos) ← readBlock fuel pos
        return (statement line :: items, ending, pos)
      | .ifLine condition thenPart elsePart =>
        let (items, ending, pos) ← readBlock fuel pos
        return (buildBranch line condition [statement thenPart] (elsePart.toList.map statement) ::
          items, ending, pos)
      | .ifBlock condition =>
        let (item, pos) ← readConditional fuel line condition pos
        let (items, ending, pos) ← readBlock fuel pos
        return (item :: items, ending, pos)

def readConditional : Nat → Line → Line → Nat → Except Halt (Item × Nat)
  | 0, _, _, _ => .error .spent
  | fuel + 1, line, condition, pos => do
    let (thenItems, ending, pos) ← readBlock fuel pos
    match ending with
    | .endIf => return (buildBranch line condition thenItems [], pos)
    | .otherwise =>
      let (elseItems, ending, pos) ← readBlock fuel pos
      match ending with
      | .endIf => return (buildBranch line condition thenItems elseItems, pos)
      | ending => return (.abandoned line, ← abandon lines fuel ending pos)
    | ending => return (.abandoned line, ← abandon lines fuel ending pos)

end

/-- The line before a position, with which a block has ended. -/
def strayAt (ending : Ending) (pos : Nat) : Except Halt Line := do
  let stray ← lineAt lines (← oneLess pos)
  if ending.shape? = some (shape stray) then return stray else throw .astray

def readRound (fuel : Nat) (ending : Ending) (pos : Nat) :
    Except Halt (List Item × Ending × Nat) := do
  let stray ← strayAt lines ending pos
  let (more, ending, pos) ← readBlock lines fuel pos
  return (.ofGap stray "unbalanced conditional" :: more, ending, pos)

def readStrays : Nat → List Item → Ending → Nat → Except Halt (List Item × Nat)
  | 0, _, _, _ => .error .spent
  | fuel + 1, items, ending, pos =>
    if ending.isStray then do
      let (more, ending, pos) ← readRound lines fuel ending pos
      readStrays fuel (items ++ more) ending pos
    else .ok (items, pos)

def readProcedures : Nat → Nat → Except Halt (List Procedure × Nat)
  | 0, _ => .error .spent
  | fuel + 1, pos => do
    match ← take lines pos with
    | (none, pos) => return ([], pos)
    | (some line, pos) =>
      match header? line with
      | none => readProcedures fuel pos
      | some chars =>
        let (items, ending, pos) ← readBlock lines fuel pos
        let (items, pos) ← readStrays lines fuel items ending pos
        let (rest, pos) ← readProcedures fuel pos
        let name := String.ofList chars
        return (⟨name, Identifier.trigger name, bodyIntents items⟩ :: rest, pos)

end Reading

def place (lines rest : List Line) : Nat :=
  lines.length - rest.length

/-- What a block has ended with, if these are the lines from its ending on. -/
def endingOf : List Line → Ending
  | [] => .endOfLines
  | last :: _ =>
    match shape last with
    | .endIf => .endIf
    | .otherwise => .otherwise
    | .elseIf => .elseIf
    | _ => .endSub

variable {lines rest : List Line} {line : Line}

theorem place_le (lines rest : List Line) : place lines rest ≤ lines.length :=
  Nat.sub_le _ _

theorem place_drop {pos : Nat} (h : pos ≤ lines.length) : place lines (lines.drop pos) = pos := by
  rw [place, List.length_drop]
  omega

theorem place_cons (h : line :: rest <:+ lines) :
    place lines (line :: rest) + 1 = place lines rest ∧
      lines[place lines (line :: rest)]? = some line := by
  obtain ⟨before, rfl⟩ := h
  have hplace : place (before ++ line :: rest) (line :: rest) = before.length := by
    rw [place, List.length_append, Nat.add_sub_cancel]
  refine ⟨?_, by rw [hplace, List.getElem?_append_right (Nat.le_refl _), Nat.sub_self]; rfl⟩
  rw [hplace, place, List.length_append, List.length_cons]
  omega

theorem take_nil (lines : List Line) :
    take lines (place lines []) = .ok (none, place lines []) := by
  simp [take, place]

theorem take_cons (h : line :: rest <:+ lines) :
    take lines (place lines (line :: rest)) = .ok (some line, place lines rest) := by
  obtain ⟨hnext, hline⟩ := place_cons h
  have hle := place_le lines rest
  rw [← hnext] at hle ⊢
  simp only [take, hline, if_pos hle]

theorem oneLess_place (h : line :: rest <:+ lines) :
    oneLess (place lines rest) = .ok (place lines (line :: rest)) := by
  rw [← (place_cons h).1, oneLess, if_pos (Nat.succ_pos _), Nat.add_sub_cancel]

theorem suffix_of_cons (h : line :: rest <:+ lines) : rest <:+ lines :=
  (List.suffix_cons line rest).trans h

theorem skip_place (depth : Nat) {fuel : Nat} (h : rest <:+ lines) (hfuel : rest.length < fuel) :
    skip lines fuel depth (place lines rest) = .ok (place lines (skipConditional depth rest)) := by
  induction rest generalizing fuel depth with
  | nil =>
    obtain ⟨fuel, rfl⟩ := Nat.exists_eq_add_of_lt hfuel
    simp [skip, take_nil, skipConditional, bind, Except.bind, pure, Except.pure]
  | cons line rest ih =>
    obtain ⟨fuel, rfl⟩ : ∃ less, fuel = less + 1 := ⟨fuel - 1, by omega⟩
    have hrest : rest.length < fuel := Nat.lt_of_succ_lt_succ hfuel
    have hon depth := ih depth (suffix_of_cons h) hrest
    simp only [skip, take_cons h, skipConditional, bind, Except.bind, pure, Except.pure]
    cases shape line with
    | ifBlock => exact hon _
    | endSub => exact oneLess_place h
    | endIf =>
      cases depth with
      | zero => rfl
      | succ depth => exact hon depth
    | _ => exact hon depth

theorem block_suffix (lines : List Line) : (block lines).val.2 <:+ lines :=
  (reads_block lines).drawn.suffix

theorem endsBlock_of_reads {after : List Line} {items : List Item} (h : Reads lines items after) :
    ∀ last ∈ after.head?, (shape last).endsBlock = true := by
  induction h with
  | nil => simp
  | stop rest h => simpa using h
  | declaration _ _ ih | plain _ _ ih | ifLine _ _ ih => exact ih
  | oneArm _ _ _ _ _ ih | lost _ _ _ _ _ ih => exact ih
  | twoArms _ _ _ _ _ _ _ _ ih | lostElse _ _ _ _ _ _ _ _ ih => exact ih

theorem conditional_suffix (line condition : Line) (lines : List Line) :
    (conditional line condition lines).val.2 <:+ lines := by
  have hfirst := block_suffix lines
  rw [conditional_eq]
  rcases hfound : (block lines).val with ⟨items, _ | ⟨last, rest⟩⟩
  · exact List.nil_suffix
  rw [hfound] at hfirst
  have hrest := suffix_of_cons hfirst
  have hsecond := (block_suffix rest).trans hrest
  dsimp only
  split
  · exact hrest
  split
  · rcases hfound' : (block rest).val with ⟨items', _ | ⟨last', rest'⟩⟩
    · exact List.nil_suffix
    rw [hfound'] at hsecond
    dsimp only
    split
    · exact suffix_of_cons hsecond
    · exact (resume_suffix _).trans hsecond
  · exact (resume_suffix _).trans hfirst

theorem endingOf_cons {last : Line} (rest : List Line) (h : (shape last).endsBlock = true) :
    (endingOf (last :: rest)).shape? = some (shape last) := by
  rw [endingOf]
  cases hs : shape last <;> simp_all [Shape.endsBlock, Ending.shape?]

theorem abandon_place (fuel : Nat) (h : rest <:+ lines) (hfuel : rest.length ≤ fuel)
    (hends : ∀ last ∈ rest.head?, (shape last).endsBlock = true)
    (hopen : ∀ last ∈ rest.head?, shape last ≠ .endIf) :
    abandon lines fuel (endingOf rest) (place lines rest.tail) =
      .ok (place lines (resume rest)) := by
  cases rest with
  | nil => rfl
  | cons last rest =>
    have hskip := skip_place 0 (suffix_of_cons h) hfuel
    have hback := oneLess_place h
    have hlast := hends last rfl
    have hnot := hopen last rfl
    rw [endingOf, resume, List.tail_cons]
    cases hs : shape last with
    | endSub => simpa [abandon] using hback
    | otherwise | elseIf => simpa [abandon] using hskip
    | _ => simp_all [Shape.endsBlock]

def blockAt (lines rest : List Line) : List Item × Ending × Nat :=
  ((block rest).val.1, endingOf (block rest).val.2, place lines (block rest).val.2.tail)

def conditionalAt (lines : List Line) (line condition : Line) (rest : List Line) : Item × Nat :=
  let found := (conditional line condition rest).val
  (found.1, place lines found.2)

/-- So many calls inside one another are enough for blocks of fewer than half as many lines. -/
def BlocksRead (lines : List Line) (fuel : Nat) : Prop :=
  ∀ rest, rest <:+ lines → 2 * rest.length < fuel →
    readBlock lines fuel (place lines rest) = .ok (blockAt lines rest)

def ConditionalsRead (lines : List Line) (fuel : Nat) : Prop :=
  ∀ line condition rest, rest <:+ lines → 2 * rest.length + 1 < fuel →
    readConditional lines fuel line condition (place lines rest) =
      .ok (conditionalAt lines line condition rest)

theorem readBlock_step {fuel : Nat} (hblocks : BlocksRead lines fuel)
    (hconditionals : ConditionalsRead lines fuel) : BlocksRead lines (fuel + 1) := by
  intro rest hsuffix hfuel
  cases rest with
  | nil =>
    simp [readBlock, take_nil, blockAt, endingOf, bind, Except.bind, pure, Except.pure]
  | cons line rest =>
    have hrest := suffix_of_cons hsuffix
    rw [List.length_cons] at hfuel
    have hon := hblocks rest hrest (by omega)
    simp only [readBlock, take_cons hsuffix, bind, Except.bind, pure, Except.pure]
    cases hs : shape line with
    | endSub | endIf | otherwise | elseIf =>
      have hends : (shape line).endsBlock = true := by rw [hs]; rfl
      simp only [blockAt, block_of_endsBlock rest hends, endingOf, hs, List.tail_cons]
    | declaration =>
      simp only [hon, blockAt, block_declaration rest hs]
    | plain =>
      simp only [hon, blockAt, block_plain rest hs]
    | ifLine condition thenPart elsePart =>
      simp only [hon, blockAt, block_ifLine rest hs]
    | ifBlock condition =>
      have hfound := hconditionals line condition rest hrest (by omega)
      have hle := (conditional line condition rest).property
      have hbehind := hblocks (conditional line condition rest).val.2
        ((conditional_suffix line condition rest).trans hrest) (by omega)
      simp only [hfound, conditionalAt, hbehind, blockAt, block_ifBlock rest hs]

theorem readConditional_step {fuel : Nat} (hblocks : BlocksRead lines fuel) :
    ConditionalsRead lines (fuel + 1) := by
  intro line condition rest hrest hfuel
  have hfirst := hblocks rest hrest (by omega)
  have hmid := (block_suffix rest).trans hrest
  have hlen := (block rest).property
  have hends := endsBlock_of_reads (reads_block rest)
  rw [conditionalAt, conditional_eq]
  simp only [readConditional, hfirst, blockAt, bind, Except.bind, pure, Except.pure]
  rcases hfound : (block rest).val with ⟨thenItems, _ | ⟨last, mid⟩⟩
  · rfl
  rw [hfound] at hmid hlen hends
  rw [List.length_cons] at hlen
  have hbehind := suffix_of_cons hmid
  by_cases hendIf : shape last = .endIf
  · simp only [endingOf, hendIf, if_true, List.tail_cons]
  dsimp only
  rw [if_neg hendIf]
  by_cases helse : shape last = .otherwise
  · have hsecond := hblocks mid hbehind (by omega)
    have hmid' := (block_suffix mid).trans hbehind
    have hlen' := (block mid).property
    have hends' := endsBlock_of_reads (reads_block mid)
    have hending : endingOf (last :: mid) = .otherwise := by simp only [endingOf, helse]
    rw [if_pos helse]
    simp only [hending, List.tail_cons, hsecond, blockAt]
    rcases hfound' : (block mid).val with ⟨elseItems, _ | ⟨last', mid'⟩⟩
    · rfl
    rw [hfound'] at hmid' hlen' hends'
    rw [List.length_cons] at hlen'
    by_cases hendIf' : shape last' = .endIf
    · simp only [endingOf, hendIf', if_true, List.tail_cons]
    have hback := abandon_place fuel hmid' (by rw [List.length_cons]; omega) hends'
      (by simpa using hendIf')
    have hlast' := hends' last' rfl
    dsimp only at hback ⊢
    rw [if_neg hendIf']
    rw [endingOf] at hback ⊢
    cases hs : shape last' <;> simp_all [Shape.endsBlock]
  · have hback := abandon_place fuel hmid (by rw [List.length_cons]; omega) hends
      (by simpa using hendIf)
    have hlast := hends last rfl
    dsimp only at hback
    rw [if_neg helse]
    rw [endingOf] at hback ⊢
    cases hs : shape last <;> simp_all [Shape.endsBlock]

/-- A block needs its conditionals and a conditional needs its blocks. -/
theorem reads_place (lines : List Line) (fuel : Nat) :
    BlocksRead lines fuel ∧ ConditionalsRead lines fuel := by
  induction fuel with
  | zero => exact ⟨fun _ _ h => absurd h (by omega), fun _ _ _ _ h => absurd h (by omega)⟩
  | succ fuel ih => exact ⟨readBlock_step ih.1 ih.2, readConditional_step ih.1⟩

theorem strayAt_place (h : line :: rest <:+ lines) {ending : Ending}
    (hending : ending.shape? = some (shape line)) :
    strayAt lines ending (place lines rest) = .ok line := by
  have hline : lineAt lines (place lines (line :: rest)) = .ok line := by
    simp only [lineAt, (place_cons h).2]
  simp [strayAt, oneLess_place h, hline, hending, bind, Except.bind, pure, Except.pure]

theorem readRound_place {fuel : Nat} (h : line :: rest <:+ lines) (hfuel : 2 * rest.length < fuel)
    {ending : Ending} (hending : ending.shape? = some (shape line)) :
    readRound lines fuel ending (place lines rest) =
      .ok (.ofGap line "unbalanced conditional" :: (blockAt lines rest).1,
        (blockAt lines rest).2) := by
  have hon := (reads_place lines fuel).1 rest (suffix_of_cons h) hfuel
  simp only [readRound, strayAt_place h hending, hon, bind, Except.bind, pure, Except.pure]

theorem isStray_endingOf {last : Line} (hends : (shape last).endsBlock = true) :
    (endingOf (last :: rest)).isStray = !decide (shape last = .endSub) := by
  rw [endingOf]
  cases hs : shape last <;> simp_all [Shape.endsBlock, Ending.isStray]

theorem body_suffix (lines : List Line) : (body lines).val.2 <:+ lines :=
  (drawn_body lines).suffix

theorem readStrays_place {fuel : Nat} (items : List Item) (h : rest <:+ lines)
    (hfuel : 2 * rest.length < fuel) :
    readStrays lines fuel (items ++ (blockAt lines rest).1) (blockAt lines rest).2.1
        (blockAt lines rest).2.2 =
      .ok (items ++ (body rest).val.1, place lines (body rest).val.2) := by
  induction fuel generalizing items rest with
  | zero => exact absurd hfuel (Nat.not_lt_zero _)
  | succ fuel ih =>
    have hafter := (block_suffix rest).trans h
    have hends := endsBlock_of_reads (reads_block rest)
    have hlen := (block rest).property
    have hbody := body_eq rest
    rcases hfound : (block rest).val with ⟨found, _ | ⟨last, behind⟩⟩
    · rw [hfound] at hbody
      rw [hbody, blockAt, hfound]
      rfl
    have hread : blockAt lines rest = (found, endingOf (last :: behind), place lines behind) := by
      rw [blockAt, hfound]
      rfl
    rw [hfound] at hafter hends hlen hbody
    rw [List.length_cons] at hlen
    have hlast := hends last rfl
    rw [hread, hbody, readStrays, isStray_endingOf hlast]
    by_cases hend : shape last = .endSub
    · simp [hend]
    · have hbehind : 2 * behind.length < fuel := by omega
      have hround := readRound_place hafter hbehind (endingOf_cons behind hlast)
      have hon := ih (items ++ found ++ [.ofGap last "unbalanced conditional"])
        (suffix_of_cons hafter) hbehind
      simpa [hend, hround, bind, Except.bind] using hon

theorem readProcedures_place {fuel : Nat} (h : rest <:+ lines) (hfuel : 2 * rest.length < fuel) :
    readProcedures lines fuel (place lines rest) = .ok (procedures rest, lines.length) := by
  induction fuel generalizing rest with
  | zero => exact absurd hfuel (Nat.not_lt_zero _)
  | succ fuel ih =>
    cases rest with
    | nil =>
      rw [procedures]
      simp only [readProcedures, take_nil, bind, Except.bind, pure, Except.pure]
      rfl
    | cons line rest =>
      have hrest := suffix_of_cons h
      rw [List.length_cons] at hfuel
      have hless : 2 * rest.length < fuel := by omega
      simp only [readProcedures, take_cons h, bind, Except.bind, pure, Except.pure]
      cases hheader : header? line with
      | none =>
        rw [procedures_outside hheader]
        exact ih hrest hless
      | some chars =>
        have hlen := (body rest).property
        have hblock := (reads_place lines fuel).1 rest hrest hless
        have hstrays := readStrays_place [] hrest hless
        have hon := ih ((body_suffix rest).trans hrest) (by omega)
        rw [List.nil_append, List.nil_append] at hstrays
        rw [procedures_header hheader]
        simp only [hblock, hstrays, hon]

def EndsAt (lines : List Line) (ending : Ending) (pos : Nat) : Prop :=
  match ending.shape? with
  | none => pos = lines.length
  | some s => 0 < pos ∧ ∃ line ∈ lines[pos - 1]?, shape line = s

def Advances (lines : List Line) (start stop : Nat) : Prop :=
  stop ≤ lines.length ∧ (start < stop ∨ start = stop ∧ stop = lines.length)

/-- Reading from a position goes on, and stays inside the lines. -/
structure ReadsInside (lines : List Line) (fuel start : Nat) : Prop where
  blocks : ∃ ending stop,
    readBlock lines fuel start = .ok ((block (lines.drop start)).val.1, ending, stop) ∧
      Advances lines start stop ∧ EndsAt lines ending stop
  /-- Only before the end of a procedure does a conditional leave the position where it was. -/
  conditionals : ∀ line condition, ∃ stop,
    readConditional lines fuel line condition start =
        .ok ((conditional line condition (lines.drop start)).val.1, stop) ∧
      (Advances lines start stop ∨
        start = stop ∧ ∃ last ∈ lines[stop]?, shape last = .endSub)
  rounds : ∀ ending, ending.isStray = true → EndsAt lines ending start →
    ∃ stray ∈ lines[start - 1]?, some (shape stray) = ending.shape? ∧ ∃ ending' stop,
      readRound lines fuel ending start =
          .ok (.ofGap stray "unbalanced conditional" :: (block (lines.drop start)).val.1,
            ending', stop) ∧
        Advances lines start stop ∧ EndsAt lines ending' stop

theorem endsAt_block (h : rest <:+ lines) :
    EndsAt lines (blockAt lines rest).2.1 (blockAt lines rest).2.2 := by
  have hafter := (block_suffix rest).trans h
  have hends := endsBlock_of_reads (reads_block rest)
  rw [blockAt]
  cases hfound : (block rest).val.2 with
  | nil => rfl
  | cons last behind =>
    rw [hfound] at hafter hends
    obtain ⟨hnext, hline⟩ := place_cons hafter
    dsimp only
    rw [EndsAt, endingOf_cons behind (hends last rfl), List.tail_cons, ← hnext, Nat.add_sub_cancel]
    exact ⟨Nat.succ_pos _, last, hline, rfl⟩

theorem advances_of_length_lt {after : List Line} (h : rest <:+ lines)
    (hlen : after.length < rest.length) :
    Advances lines (place lines rest) (place lines after) := by
  have hle := h.length_le
  refine ⟨place_le _ _, Or.inl ?_⟩
  rw [place, place]
  omega

theorem advances_nil (lines rest : List Line) :
    Advances lines (place lines rest) (place lines []) := by
  have hle := place_le lines rest
  refine ⟨place_le _ _, ?_⟩
  rw [show place lines [] = lines.length from rfl]
  omega

theorem advances_block (h : rest <:+ lines) :
    Advances lines (place lines rest) (blockAt lines rest).2.2 := by
  have hlen := (block rest).property
  rw [blockAt]
  cases hfound : (block rest).val.2 with
  | nil => exact advances_nil lines rest
  | cons last behind =>
    rw [hfound] at hlen
    exact advances_of_length_lt h hlen

def IsPast (n : Nat) (after : List Line) : Prop :=
  after.length < n ∨ after = [] ∨ ∃ last ∈ after.head?, shape last = .endSub

theorem isPast_resume (last : Line) (rest : List Line) :
    IsPast (last :: rest).length (resume (last :: rest)) := by
  rw [resume]
  split
  · rename_i hend
    exact Or.inr (Or.inr ⟨last, rfl, hend⟩)
  · exact Or.inl (Nat.lt_succ_of_le (length_skipConditional_le 0 rest))

theorem IsPast.mono {n m : Nat} {after : List Line} (h : IsPast n after) (hle : n ≤ m) :
    IsPast m after :=
  h.imp_left fun hlt => Nat.lt_of_lt_of_le hlt hle

theorem isPast_conditional (line condition : Line) (rest : List Line) :
    IsPast rest.length (conditional line condition rest).val.2 := by
  have hlen := (block rest).property
  rw [conditional_eq]
  rcases hfound : (block rest).val with ⟨items, _ | ⟨last, mid⟩⟩
  · exact Or.inr (Or.inl rfl)
  rw [hfound] at hlen
  have hmid : mid.length < rest.length := hlen
  dsimp only
  split
  · exact Or.inl hmid
  split
  · have hlen' := (block mid).property
    rcases hfound' : (block mid).val with ⟨items', _ | ⟨last', mid'⟩⟩
    · exact Or.inr (Or.inl rfl)
    rw [hfound'] at hlen'
    dsimp only
    split
    · exact Or.inl (Nat.lt_of_lt_of_le hlen' (Nat.le_of_lt hmid))
    · exact (isPast_resume last' mid').mono (Nat.le_trans hlen' (Nat.le_of_lt hmid))
  · exact (isPast_resume last mid).mono hlen

theorem advances_conditional (line condition : Line) (h : rest <:+ lines) :
    let stop := (conditionalAt lines line condition rest).2
    Advances lines (place lines rest) stop ∨
      place lines rest = stop ∧ ∃ last ∈ lines[stop]?, shape last = .endSub := by
  have hsuffix := (conditional_suffix line condition rest).trans h
  have hle := (conditional line condition rest).property
  have hpast := isPast_conditional line condition rest
  rw [conditionalAt]
  dsimp only
  generalize (conditional line condition rest).val.2 = after at hsuffix hle hpast ⊢
  rcases hpast with hlt | rfl | ⟨last, hhead, hend⟩
  · exact Or.inl (advances_of_length_lt h hlt)
  · exact Or.inl (advances_nil lines rest)
  · obtain ⟨behind, rfl⟩ := List.head?_eq_some_iff.mp hhead
    rcases Nat.lt_or_eq_of_le hle with hlt | heq
    · exact Or.inl (advances_of_length_lt h hlt)
    · exact Or.inr ⟨by rw [place, place, heq], last, (place_cons hsuffix).2, hend⟩

theorem cons_drop_suffix {pos : Nat} (hpos : 0 < pos) (h : lines[pos - 1]? = some line) :
    line :: lines.drop pos <:+ lines := by
  obtain ⟨hlt, rfl⟩ := List.getElem?_eq_some_iff.mp h
  have hdrop := List.drop_eq_getElem_cons hlt
  rw [Nat.sub_add_cancel hpos] at hdrop
  rw [← hdrop]
  exact List.drop_suffix _ lines

theorem Ending.exists_shape_of_isStray {ending : Ending} (h : ending.isStray = true) :
    ∃ s, ending.shape? = some s := by
  cases ending <;> first | contradiction | exact ⟨_, rfl⟩

theorem readsInside_of_le {fuel start : Nat} (hstart : start ≤ lines.length)
    (hfuel : 2 * (lines.length - start) + 1 < fuel) : ReadsInside lines fuel start := by
  have hplace := place_drop hstart
  have hsuffix := List.drop_suffix start lines
  rw [← List.length_drop] at hfuel
  have hless : 2 * (lines.drop start).length < fuel := Nat.lt_of_succ_lt hfuel
  have hends := endsAt_block hsuffix
  have hadvances := advances_block hsuffix
  have hread := (reads_place lines fuel).1 _ hsuffix hless
  rw [hplace] at hadvances hread
  refine ⟨⟨_, _, hread, hadvances, hends⟩, ?_, ?_⟩
  · intro line condition
    have hmoves := advances_conditional line condition hsuffix
    have hfound := (reads_place lines fuel).2 line condition _ hsuffix hfuel
    rw [hplace] at hmoves hfound
    exact ⟨_, hfound, hmoves⟩
  · intro ending hstray hbefore
    obtain ⟨s, hs⟩ := Ending.exists_shape_of_isStray hstray
    rw [EndsAt, hs] at hbefore
    obtain ⟨hpos, stray, hline, rfl⟩ := hbefore
    have hround := readRound_place (cons_drop_suffix hpos hline) hless hs
    rw [hplace] at hround
    exact ⟨stray, hline, hs.symm, _, _, hround, hadvances, hends⟩

/-- Of all lines the procedures are found without a move out of the lines, and so is every block,
every conditional and every round behind a line that ends nothing, wherever it begins. -/
theorem reads_inside (lines : List Line) :
    (∀ fuel, 2 * lines.length < fuel →
      readProcedures lines fuel 0 = .ok (procedures lines, lines.length)) ∧
    ∀ start, start ≤ lines.length → ∀ fuel, 2 * (lines.length - start) + 1 < fuel →
      ReadsInside lines fuel start := by
  refine ⟨fun fuel hfuel => ?_, fun start hstart fuel hfuel => readsInside_of_le hstart hfuel⟩
  have hread := readProcedures_place (List.suffix_refl lines) hfuel
  rwa [place, Nat.sub_self] at hread

/-- A conditional that goes back to the end of its procedure, and lines that end nothing. -/
theorem reads_inside_unbalanced :
    let lines := ["Sub btnSave_Click()", "If Me.Dirty Then", "ElseIf Me.Locked Then", "End Sub",
      "Sub btnClose_Click()", "Else", "End If"].map String.toList
    readProcedures lines 15 0 = .ok (procedures lines, 7) ∧
      (EndsAt lines .otherwise 6 ∧ ∃ stray ∈ lines[5]?, shape stray = .otherwise ∧
        ∃ ending stop, Advances lines 6 stop ∧ EndsAt lines ending stop ∧
          readRound lines 4 .otherwise 6 =
            .ok (.ofGap stray "unbalanced conditional" :: (block (lines.drop 6)).val.1,
              ending, stop)) := by
  intro lines
  obtain ⟨hprocedures, hinside⟩ := reads_inside lines
  have hbefore : EndsAt lines .otherwise 6 := ⟨by decide, _, rfl, by decide⟩
  refine ⟨hprocedures 15 (by decide), hbefore, ?_⟩
  obtain ⟨stray, hline, hshape, ending, stop, hround, hadvances, hends⟩ :=
    (hinside 6 (by decide) 4 (by decide)).rounds .otherwise rfl hbefore
  exact ⟨stray, hline, Option.some.inj hshape, ending, stop, hadvances, hends, hround⟩

end Cursor

end FormScript.Source
