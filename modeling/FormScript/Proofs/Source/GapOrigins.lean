import FormScript.Proofs.Mapped.Nodes
import FormScript.Proofs.Source.Reading

/-! Where gaps come from. A line leaves at most one gap, its whole text, unless it is a conditional
on one line: that can leave one for each of its two statements. Lines that are passed over leave
none, and the gaps of a source stand in the order of its lines. -/
namespace FormScript.Source

open Intent Text

/-- The gaps of some procedures as they stand in the trees, procedure by procedure, depth first and
the then-arm of a branch before its else-arm. -/
def gapIntents (procedures : List Procedure) : List Intent :=
  (procedures.flatMap fun p => nodesOf p.intents).filter Intent.isGap

def gapsIn (is : List Intent) : List Intent :=
  (nodesOf is).filter Intent.isGap

theorem gapsIn_append (a b : List Intent) : gapsIn (a ++ b) = gapsIn a ++ gapsIn b := by
  rw [gapsIn, nodesOf_append, List.filter_append]
  rfl

theorem gapsIn_cons (i : Intent) (rest : List Intent) :
    gapsIn (i :: rest) = gapsIn [i] ++ gapsIn rest :=
  gapsIn_append [i] rest

theorem gapsIn_branch (c : Condition) (thenArm elseArm : List Intent) (mapping : Option Mapping)
    (m : Option Mark) :
    gapsIn [branch c thenArm elseArm mapping m] = gapsIn thenArm ++ gapsIn elseArm := by
  simp [gapsIn, nodesOf, nodes, Intent.isGap]

theorem gapIntents_cons (p : Procedure) (rest : List Procedure) :
    gapIntents (p :: rest) = gapsIn p.intents ++ gapIntents rest := by
  rw [gapIntents, List.flatMap_cons, List.filter_append]
  rfl

def AtMost (text : Line) (gaps : List Intent) : Prop :=
  gaps = [] ∨ ∃ reason, gaps = [openGap (String.ofList text) reason]

/-- The gaps that come from one line. -/
inductive LineGaps (line : Line) : List Intent → Prop
  | whole {gaps : List Intent} (h : AtMost line gaps) : LineGaps line gaps
  | arms {condition thenPart : Line} {elsePart : Option Line} {first second : List Intent}
    (h : shape line = .ifLine condition thenPart elsePart) (hfirst : AtMost thenPart first)
    (hsecond : second = [] ∨ ∃ text, elsePart = some text ∧ AtMost text second) :
    LineGaps line (first ++ second)

theorem LineGaps.none (line : Line) : LineGaps line [] :=
  .whole (Or.inl rfl)

/-- `Drawn lines after gaps`: from the lines before `after` these gaps come, in this order. -/
inductive Drawn : List Line → List Line → List Intent → Prop
  | refl (lines : List Line) : Drawn lines lines []
  | cons {line : Line} {rest after : List Line} {gaps more : List Intent} (h : LineGaps line gaps)
    (hrest : Drawn rest after more) : Drawn (line :: rest) after (gaps ++ more)

theorem Drawn.skip (line : Line) {rest after : List Line} {gaps : List Intent}
    (h : Drawn rest after gaps) : Drawn (line :: rest) after gaps :=
  .cons (.none line) h

theorem Drawn.trans {lines mid after : List Line} {gaps more : List Intent}
    (h : Drawn lines mid gaps) (h' : Drawn mid after more) : Drawn lines after (gaps ++ more) := by
  induction h with
  | refl => exact h'
  | cons hline _ ih =>
    rw [List.append_assoc]
    exact .cons hline (ih h')

theorem Drawn.of_suffix {lines after : List Line} (h : after <:+ lines) :
    Drawn lines after [] := by
  obtain ⟨passed, rfl⟩ := h
  induction passed with
  | nil => exact .refl after
  | cons line passed ih => exact ih.skip _

theorem Drawn.suffix {lines after : List Line} {gaps : List Intent} (h : Drawn lines after gaps) :
    after <:+ lines := by
  induction h with
  | refl => exact List.suffix_refl _
  | @cons line rest _ _ _ _ _ ih => exact ih.trans (List.suffix_cons line rest)

theorem AtMost.sublist {text : Line} {gaps fewer : List Intent} (h : AtMost text gaps)
    (hsub : fewer.Sublist gaps) : AtMost text fewer := by
  rcases h with rfl | ⟨reason, rfl⟩
  · exact Or.inl (List.sublist_nil.mp hsub)
  · cases hsub with
    | cons _ hnil => exact Or.inl (List.sublist_nil.mp hnil)
    | cons_cons _ hnil => exact Or.inr ⟨reason, by rw [List.sublist_nil.mp hnil]⟩

theorem LineGaps.sublist {line : Line} {gaps fewer : List Intent} (h : LineGaps line gaps)
    (hsub : fewer.Sublist gaps) : LineGaps line fewer := by
  cases h with
  | whole h => exact .whole (h.sublist hsub)
  | arms h hfirst hsecond =>
    obtain ⟨one, two, rfl, hone, htwo⟩ := List.sublist_append_iff.mp hsub
    refine .arms h (hfirst.sublist hone) ?_
    rcases hsecond with rfl | ⟨text, htext, hsecond⟩
    · exact Or.inl (List.sublist_nil.mp htwo)
    · exact Or.inr ⟨text, htext, hsecond.sublist htwo⟩

theorem Drawn.sublist {lines after : List Line} {gaps fewer : List Intent}
    (h : Drawn lines after gaps) (hsub : fewer.Sublist gaps) : Drawn lines after fewer := by
  induction h generalizing fewer with
  | refl lines =>
    rw [List.sublist_nil.mp hsub]
    exact .refl lines
  | cons h _ ih =>
    obtain ⟨one, two, rfl, hone, htwo⟩ := List.sublist_append_iff.mp hsub
    exact .cons (h.sublist hone) (ih htwo)

theorem atMost_statement (line : Line) : AtMost line (gapsIn [(statement line).toIntent]) := by
  unfold statement statement?
  repeat' split
  all_goals first | exact Or.inl rfl | exact Or.inr ⟨_, rfl⟩ | skip
  cases setValue? line with
  | none => exact Or.inr ⟨_, rfl⟩
  | some a => exact Or.inl rfl

theorem gapsIn_buildBranch (line condition : Line) (thenItems elseItems : List Item) :
    AtMost line (gapsIn [(buildBranch line condition thenItems elseItems).toIntent]) ∨
      gapsIn [(buildBranch line condition thenItems elseItems).toIntent] =
        gapsIn (thenItems.map Item.toIntent) ++ gapsIn (elseItems.map Item.toIntent) := by
  unfold buildBranch
  split
  · exact Or.inl (Or.inr ⟨_, rfl⟩)
  · rename_i c _
    cases hvalid : validation? c thenItems elseItems with
    | none => exact Or.inr (gapsIn_branch _ _ _ _ _)
    | some i =>
      unfold validation? at hvalid
      split at hvalid
      · split at hvalid
        · cases hvalid
          exact Or.inl (Or.inl rfl)
        · contradiction
      · contradiction

theorem lineGaps_ifLine {line condition thenPart : Line} {elsePart : Option Line}
    (h : shape line = .ifLine condition thenPart elsePart) :
    LineGaps line (gapsIn [(buildBranch line condition [statement thenPart]
      (elsePart.toList.map statement)).toIntent]) := by
  rcases gapsIn_buildBranch line condition [statement thenPart] (elsePart.toList.map statement)
    with hline | harms
  · exact .whole hline
  · rw [harms]
    refine .arms h (atMost_statement thenPart) ?_
    cases elsePart with
    | none => exact Or.inl rfl
    | some text => exact Or.inr ⟨text, rfl, atMost_statement text⟩

theorem drawn_buildBranch {line : Line} (condition : Line) {thenItems elseItems : List Item}
    {rest after : List Line} (h : Drawn rest after
      (gapsIn (thenItems.map Item.toIntent) ++ gapsIn (elseItems.map Item.toIntent))) :
    Drawn (line :: rest) after
      (gapsIn [(buildBranch line condition thenItems elseItems).toIntent]) := by
  rcases gapsIn_buildBranch line condition thenItems elseItems with hline | harms
  · rw [← List.append_nil (gapsIn _)]
    exact .cons (.whole hline) (.of_suffix h.suffix)
  · rw [harms]
    exact h.skip _

theorem drawn_abandoned (line : Line) {rest after : List Line} (h : after <:+ rest) :
    Drawn (line :: rest) after (gapsIn [(Item.abandoned line).toIntent]) :=
  .cons (.whole (Or.inr ⟨_, rfl⟩)) (.of_suffix h)

theorem skipConditional_suffix (depth : Nat) (lines : List Line) :
    skipConditional depth lines <:+ lines := by
  fun_induction skipConditional depth lines with
  | case1 => exact List.suffix_refl _
  | case2 _ line rest _ _ ih => exact ih.trans (List.suffix_cons line rest)
  | case3 line rest _ => exact List.suffix_cons line rest
  | case4 line rest _ _ ih => exact ih.trans (List.suffix_cons line rest)
  | case5 => exact List.suffix_refl _
  | case6 _ line rest _ _ _ ih => exact ih.trans (List.suffix_cons line rest)

theorem resume_suffix (lines : List Line) : resume lines <:+ lines := by
  cases lines with
  | nil => exact List.suffix_refl _
  | cons last rest =>
    rw [resume]
    split
    · exact List.suffix_refl _
    · exact (skipConditional_suffix 0 rest).trans (List.suffix_cons last rest)

theorem Reads.drawn {lines after : List Line} {items : List Item} (h : Reads lines items after) :
    Drawn lines after (gapsIn (items.map Item.toIntent)) := by
  induction h with
  | nil => exact .refl []
  | stop rest _ => exact .refl _
  | declaration _ _ ih => exact ih.skip _
  | plain _ _ ih =>
    rw [List.map_cons, gapsIn_cons]
    exact .cons (.whole (atMost_statement _)) ih
  | ifLine h _ ih =>
    rw [List.map_cons, gapsIn_cons]
    exact .cons (lineGaps_ifLine h) ih
  | @oneArm line condition last rest mid after thenItems items _ _ _ _ ihthen ih =>
    have harms : Drawn rest mid (gapsIn (thenItems.map Item.toIntent) ++ gapsIn []) :=
      ihthen.trans (.skip last (.refl mid))
    rw [List.map_cons, gapsIn_cons]
    exact (drawn_buildBranch condition harms).trans ih
  | @twoArms line condition last last' rest mid mid' after thenItems elseItems items _ _ _ _ _ _
      ihthen ihelse ih =>
    have harms := ihthen.trans (ihelse.skip last)
    have hends := harms.trans (.skip last' (.refl mid'))
    rw [List.append_nil] at hends
    rw [List.map_cons, gapsIn_cons]
    exact (drawn_buildBranch condition hends).trans ih
  | @lost line condition rest mid after thenItems items _ _ _ _ ihthen ih =>
    rw [List.map_cons, gapsIn_cons]
    exact (drawn_abandoned line ((resume_suffix mid).trans ihthen.suffix)).trans ih
  | @lostElse line condition last rest mid mid' after thenItems elseItems items _ _ _ _ _ _ ihthen
      ihelse ih =>
    have hbehind := (resume_suffix mid').trans (ihelse.skip last).suffix
    rw [List.map_cons, gapsIn_cons]
    exact (drawn_abandoned line (hbehind.trans ihthen.suffix)).trans ih

theorem drawn_body (lines : List Line) :
    Drawn lines (body lines).val.2 (gapsIn ((body lines).val.1.map Item.toIntent)) := by
  have hblock := (reads_block lines).drawn
  rw [body_eq]
  rcases hfound : (block lines).val with ⟨items, _ | ⟨last, rest⟩⟩
  · rwa [hfound] at hblock
  · have hle : rest.length + 1 ≤ lines.length := by
      simpa [hfound] using (block lines).property
    rw [hfound] at hblock
    dsimp only at hblock ⊢
    by_cases hend : shape last = .endSub
    · rw [if_pos hend]
      have hpassed := hblock.trans (.skip last (.refl rest))
      rwa [List.append_nil] at hpassed
    · rw [if_neg hend, List.map_append, gapsIn_append, List.map_cons, gapsIn_cons]
      exact hblock.trans (.cons (.whole (Or.inr ⟨_, rfl⟩)) (drawn_body rest))
termination_by lines.length
decreasing_by omega

theorem gapsIn_bodyIntents_sublist (items : List Item) :
    (gapsIn (bodyIntents items)).Sublist (gapsIn (items.map Item.toIntent)) := by
  induction items using bodyIntents.induct with
  | case1 => exact List.Sublist.refl _
  | case2 line => exact List.nil_sublist _
  | case3 item rest hexit ih =>
    rw [bodyIntents.eq_3 item rest hexit, List.map_cons, gapsIn_cons _ (bodyIntents rest),
      gapsIn_cons _ (rest.map Item.toIntent)]
    exact (List.Sublist.refl _).append ih

theorem drawn_procedures (lines : List Line) : Drawn lines [] (gapIntents (procedures lines)) := by
  match lines with
  | [] =>
    rw [procedures]
    exact .refl []
  | line :: rest =>
    cases hheader : header? line with
    | none =>
      rw [procedures_outside hheader]
      exact (drawn_procedures rest).skip line
    | some chars =>
      have hafter := (body rest).property
      have hbody := (drawn_body rest).sublist (gapsIn_bodyIntents_sublist _)
      rw [procedures_header hheader, gapIntents_cons]
      exact (hbody.trans (drawn_procedures (body rest).val.2)).skip line
termination_by lines.length
decreasing_by
  all_goals simp only [List.length_cons]; omega

theorem suffix_of_after {word : String} {cs rest : Line} (h : after word cs = some rest) :
    rest <:+ cs := by
  unfold after at h
  generalize word.toList = ws at h
  induction ws generalizing cs with
  | nil =>
    cases h
    exact List.suffix_refl _
  | cons w ws ih =>
    cases cs with
    | nil => contradiction
    | cons c cs =>
      rw [afterChars] at h
      split at h
      · exact (ih h).trans (List.suffix_cons c cs)
      · contradiction

theorem suffix_of_afterBlank {cs rest : Line} (h : afterBlank cs = some rest) : rest <:+ cs := by
  cases cs with
  | nil => contradiction
  | cons c cs =>
    rw [afterBlank] at h
    split at h
    · cases h
      exact (List.dropWhile_suffix isBlank).trans (List.suffix_cons c cs)
    · contradiction

theorem splitAtWord_eq {word : String} {cs before behind : Line}
    (h : splitAtWord word cs = some (before, behind)) :
    before ≠ [] ∧ behind ≠ [] ∧ ∃ mid, cs = before ++ (mid ++ behind) := by
  induction cs generalizing before with
  | nil => contradiction
  | cons c cs ih =>
    rw [splitAtWord] at h
    split at h
    · rename_i d found hfound
      cases h
      obtain ⟨atWord, hblank, hfound⟩ := Option.bind_eq_some_iff.mp hfound
      obtain ⟨gap, hgap, hword⟩ := Option.bind_eq_some_iff.mp hblank
      obtain ⟨mid, hmid⟩ := (suffix_of_afterBlank hfound).trans
        ((suffix_of_after hword).trans (suffix_of_afterBlank hgap))
      exact ⟨by simp, by simp, mid, by rw [← hmid]; rfl⟩
    · obtain ⟨⟨first, last⟩, hsplit, heq⟩ := Option.map_eq_some_iff.mp h
      cases heq
      obtain ⟨-, hlast, mid, rfl⟩ := ih hsplit
      exact ⟨by simp, hlast, mid, rfl⟩

theorem splitElse_eq {cs thenPart : Line} {elsePart : Option Line} (hne : cs ≠ [])
    (h : splitElse cs = (thenPart, elsePart)) :
    (thenPart ≠ [] ∧ thenPart <+: cs) ∧
      ∀ text ∈ elsePart, text ≠ [] ∧ ∃ mid, cs = thenPart ++ (mid ++ text) := by
  rw [splitElse] at h
  split at h
  · rename_i first last hsplit
    cases h
    obtain ⟨hfirst, hlast, mid, hcs⟩ := splitAtWord_eq hsplit
    refine ⟨⟨hfirst, mid ++ last, hcs.symm⟩, ?_⟩
    intro text htext
    cases htext
    exact ⟨hlast, mid, hcs⟩
  · cases h
    exact ⟨⟨hne, List.prefix_refl cs⟩, fun text htext => absurd htext (by simp)⟩

theorem ifLine?_eq {line condition thenPart : Line} {elsePart : Option Line}
    (h : ifLine? line = some (.ifLine condition thenPart elsePart)) :
    ∃ statements, statements ≠ [] ∧ statements <:+ line ∧
      splitElse statements = (thenPart, elsePart) := by
  obtain ⟨cs, hif, h⟩ := Option.bind_eq_some_iff.mp h
  obtain ⟨rest, hblank, h⟩ := Option.bind_eq_some_iff.mp h
  have hrest : rest <:+ line := (suffix_of_afterBlank hblank).trans (suffix_of_after hif)
  split at h
  · rename_i _ statements hsplit
    cases h
    obtain ⟨-, hne, mid, heq⟩ := splitAtWord_eq hsplit
    refine ⟨statements, hne, List.IsSuffix.trans ⟨condition ++ mid, ?_⟩ hrest, rfl⟩
    rw [heq, List.append_assoc]
  · obtain ⟨statements, hthen, h⟩ := Option.bind_eq_some_iff.mp h
    obtain ⟨behind, hword, hblank'⟩ := Option.bind_eq_some_iff.mp hthen
    split at h
    · rename_i hlong
      cases h
      refine ⟨statements, ?_, ?_, rfl⟩
      · rintro rfl
        simp at hlong
      · exact ((suffix_of_afterBlank hblank').trans (suffix_of_after hword)).trans hrest
    · contradiction

theorem ifLine?_of_shape {line condition thenPart : Line} {elsePart : Option Line}
    (h : shape line = .ifLine condition thenPart elsePart) :
    ifLine? line = some (.ifLine condition thenPart elsePart) := by
  unfold shape at h
  split at h
  · contradiction
  split at h
  · contradiction
  split at h
  · contradiction
  split at h
  · contradiction
  split at h
  · contradiction
  split at h
  · contradiction
  cases hfound : ifLine? line with
  | none =>
    rw [hfound] at h
    contradiction
  | some found =>
    rw [hfound, Option.getD_some] at h
    rw [h]

/-- A piece of a line that nothing has been said about yet. -/
def IsPiece (line : Line) (gap : Intent) : Prop :=
  ∃ text reason, gap = openGap (String.ofList text) reason ∧ text ≠ [] ∧ text <:+: line

/-- The two statements of a conditional on one line, the first before the second. -/
def AreArms (line : Line) (a b : Intent) : Prop :=
  ∃ condition thenPart elsePart, shape line = .ifLine condition thenPart (some elsePart) ∧
    (∃ reason, a = openGap (String.ofList thenPart) reason) ∧
    (∃ reason, b = openGap (String.ofList elsePart) reason) ∧
    ∃ front mid, line = front ++ (thenPart ++ (mid ++ elsePart))

theorem AtMost.isPiece {line text : Line} {gaps : List Intent} (h : AtMost text gaps)
    (hne : text ≠ []) (hpiece : text <:+: line) : ∀ gap ∈ gaps, IsPiece line gap := by
  rcases h with rfl | ⟨reason, rfl⟩
  · simp
  · intro gap hgap
    exact ⟨text, reason, List.mem_singleton.mp hgap, hne, hpiece⟩

theorem LineGaps.isPiece {line : Line} {gaps : List Intent} (h : LineGaps line gaps)
    (hne : line ≠ []) : ∀ gap ∈ gaps, IsPiece line gap := by
  cases h with
  | whole h => exact h.isPiece hne (List.infix_refl line)
  | arms h hfirst hsecond =>
    obtain ⟨statements, hsome, ⟨front, hline⟩, hsplit⟩ := ifLine?_eq (ifLine?_of_shape h)
    obtain ⟨⟨hthen, hstarts⟩, helse⟩ := splitElse_eq hsome hsplit
    have hstatements : statements <:+: line := ⟨front, [], by simpa using hline⟩
    intro gap hgap
    rcases List.mem_append.mp hgap with hgap | hgap
    · exact hfirst.isPiece hthen (hstarts.isInfix.trans hstatements) gap hgap
    · rcases hsecond with rfl | ⟨text, htext, hsecond⟩
      · contradiction
      · obtain ⟨htextNe, mid, heq⟩ := helse text htext
        have hsuffix : text <:+ statements := ⟨_ ++ mid, by rw [heq, List.append_assoc]⟩
        exact hsecond.isPiece htextNe (hsuffix.isInfix.trans hstatements) gap hgap

theorem LineGaps.pairwise {line : Line} {gaps : List Intent} (h : LineGaps line gaps) :
    gaps.Pairwise (AreArms line) := by
  have hone {text : Line} {gaps : List Intent} (h : AtMost text gaps) :
      gaps.Pairwise (AreArms line) := by
    rcases h with rfl | ⟨reason, rfl⟩
    · exact List.Pairwise.nil
    · exact List.pairwise_singleton _ _
  cases h with
  | whole h => exact hone h
  | @arms condition thenPart elsePart first second h hfirst hsecond =>
    obtain ⟨statements, hsome, ⟨front, hline⟩, hsplit⟩ := ifLine?_eq (ifLine?_of_shape h)
    obtain ⟨-, helse⟩ := splitElse_eq hsome hsplit
    rcases hsecond with rfl | ⟨text, rfl, hsecond⟩
    · rw [List.append_nil]
      exact hone hfirst
    · refine List.pairwise_append.mpr ⟨hone hfirst, hone hsecond, ?_⟩
      intro a ha b hb
      obtain ⟨-, mid, rfl⟩ := helse text rfl
      refine ⟨condition, thenPart, text, h, ?_, ?_, front, mid, hline.symm⟩
      · rcases hfirst with rfl | ⟨reason, rfl⟩
        · contradiction
        · exact ⟨reason, List.mem_singleton.mp ha⟩
      · rcases hsecond with rfl | ⟨reason, rfl⟩
        · contradiction
        · exact ⟨reason, List.mem_singleton.mp hb⟩

/-- The line of the first comes before that of the second, or they are the two statements of a
conditional on one line. -/
def ComesBefore (lines : List Line) (x y : Nat × Intent) : Prop :=
  x.1 < y.1 ∨ x.1 = y.1 ∧ ∃ line ∈ lines[x.1]?, AreArms line x.2 y.2

/-- Gaps, each with the number of the line it stands on. -/
structure ArePlaced (lines : List Line) (placed : List (Nat × Intent)) : Prop where
  piece : ∀ x ∈ placed, ∃ line ∈ lines[x.1]?, IsPiece line x.2
  order : placed.Pairwise (ComesBefore lines)

theorem ArePlaced.cons {line : Line} {rest : List Line} {gaps : List Intent}
    {placed : List (Nat × Intent)} (hline : LineGaps line gaps) (hne : line ≠ [])
    (h : ArePlaced rest placed) :
    ArePlaced (line :: rest) (gaps.map (0, ·) ++ placed.map fun x => (x.1 + 1, x.2)) where
  piece := by
    intro x hx
    rcases List.mem_append.mp hx with hx | hx
    · obtain ⟨gap, hgap, rfl⟩ := List.mem_map.mp hx
      exact ⟨line, rfl, hline.isPiece hne gap hgap⟩
    · obtain ⟨y, hy, rfl⟩ := List.mem_map.mp hx
      exact h.piece y hy
  order := by
    refine List.pairwise_append.mpr ⟨?_, ?_, ?_⟩
    · refine List.pairwise_map.mpr (hline.pairwise.imp fun {a b} harms => ?_)
      exact Or.inr ⟨rfl, line, rfl, harms⟩
    · refine List.pairwise_map.mpr (h.order.imp fun {x y} hbefore => ?_)
      rcases hbefore with hlt | ⟨heq, hshared⟩
      · exact Or.inl (Nat.succ_lt_succ hlt)
      · exact Or.inr ⟨congrArg (· + 1) heq, hshared⟩
    · intro x hx y hy
      obtain ⟨gap, -, rfl⟩ := List.mem_map.mp hx
      obtain ⟨z, -, rfl⟩ := List.mem_map.mp hy
      exact Or.inl (Nat.succ_pos z.1)

theorem Drawn.arePlaced {lines after : List Line} {gaps : List Intent} (h : Drawn lines after gaps)
    (hne : ∀ line ∈ lines, line ≠ []) :
    ∃ placed, placed.map Prod.snd = gaps ∧ ArePlaced lines placed := by
  induction h with
  | refl lines => exact ⟨[], rfl, by simp, List.Pairwise.nil⟩
  | cons hline _ ih =>
    obtain ⟨hfirst, hothers⟩ := List.forall_mem_cons.mp hne
    obtain ⟨placed, hgaps, hplaced⟩ := ih hothers
    refine ⟨_, ?_, hplaced.cons hline hfirst⟩
    rw [List.map_append, List.map_map, List.map_map, ← hgaps]
    exact congrArg (· ++ _) (List.map_id _)

theorem ne_nil_of_mem_logicalFrom {pending : Line} {raws : List Line} {line : Line}
    (h : line ∈ logicalFrom pending raws) : line ≠ [] := by
  induction raws generalizing pending with
  | nil =>
    rw [logicalFrom] at h
    split at h
    · contradiction
    · rename_i hempty
      rwa [List.mem_singleton.mp h, Ne, ← List.isEmpty_iff]
  | cons raw more ih =>
    simp only [logicalFrom] at h
    split at h
    · exact ih h
    split at h
    · exact ih h
    · rename_i hkept
      rcases List.mem_cons.mp h with rfl | h
      · intro hnil
        rw [hnil] at hkept
        exact hkept rfl
      · exact ih h

/-- Every gap of a source is a piece of one of its lines, in the order of the lines. -/
theorem exists_lines_of_gaps (source : String) :
    ∃ placed, placed.map Prod.snd = gapIntents (recognize source) ∧
      ArePlaced (logicalLines source.toList) placed :=
  (drawn_procedures _).arePlaced fun _ => ne_nil_of_mem_logicalFrom

end FormScript.Source
