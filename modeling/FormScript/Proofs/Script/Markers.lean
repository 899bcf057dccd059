import FormScript.Proofs.Script.Containment
import FormScript.Proofs.Script.Skeleton
import FormScript.Proofs.Source.Printer

/-! Gaps in scripts. The comment of a gap begins with a marker that shows its id and whether it is
answered, and all that there is to say about it follows on that line and on the comments below. No
other line can be taken for a marker: the further lines of a comment stand further to the right of
the comment mark, and a line of code begins with a bracket or a quote. -/
namespace FormScript

open Text

def sourceLines (source : String) : List String :=
  (source.toList.splitOnP (· == '\n')).map String.ofList

inductive Marker where
  | unanswered
  | answered
  deriving DecidableEq, Repr

namespace Script

def unindented (line : String) : List Char :=
  line.toList.dropWhile (· == ' ')

def marker? (line : String) : Option Marker :=
  if ";; GAP [".toList.isPrefixOf (unindented line) then some .unanswered
  else if ";; GAP RESOLVED [".toList.isPrefixOf (unindented line) then some .answered
  else none

def isMarker (line : String) : Bool :=
  (marker? line).isSome

/-- A comment that goes on with what a marker has begun. -/
def goesOn (line : String) : Bool :=
  Emission.isComment line && !isMarker line

/-- Each marker of some lines, with the comments that follow it directly. -/
def markerBlocks : List String → List (String × List String)
  | [] => []
  | line :: rest =>
    if isMarker line then (line, rest.takeWhile goesOn) :: markerBlocks rest else markerBlocks rest

/-- A comment line shows a text up to its end, set in or behind a label. -/
def Carries (text line : String) : Prop :=
  ∃ label, unindented line = ";; ".toList ++ label ++ text.toList ∧
    (label = "  ".toList ∨ ": ".toList <:+ label)

end Script

open Script

namespace Gap

def marker (g : Gap) : Marker :=
  if g.isOpen then .unanswered else .answered

def markerText (g : Gap) : String :=
  (if g.isOpen then "GAP [" else "GAP RESOLVED [") ++ g.id.getD "?" ++ "]"

/-- The lines of what there is to say about a gap: its answer, or else its reason and its source. -/
def texts (g : Gap) : List String :=
  match g.resolution with
  | some r => textLines r.answer
  | none => textLines g.reason ++ textLines g.line

end Gap

namespace Script

/-- A marker and the comments below it show a gap. -/
structure Shows (g : Gap) (first : String) (rest : List String) : Prop where
  marker : marker? first = some g.marker
  markerText : ";; ".toList ++ g.markerText.toList <+: unindented first
  goesOn : ∀ line ∈ rest, goesOn line = true
  texts : List.SublistForall₂ Carries g.texts (first :: rest)

/-! ### Indentation -/

@[simp] theorem unindented_indent (line : String) :
    unindented ("  " ++ line) = unindented line := by
  simp [unindented]

@[simp] theorem marker?_indent (line : String) : marker? ("  " ++ line) = marker? line := by
  simp only [marker?, unindented_indent]

@[simp] theorem goesOn_indent (line : String) : goesOn ("  " ++ line) = goesOn line := by
  rw [goesOn, goesOn, isMarker, isMarker, marker?_indent, Block.isComment_indent]

@[simp] theorem carries_indent {text line : String} :
    Carries text ("  " ++ line) ↔ Carries text line := by
  rw [Carries, Carries, unindented_indent]

theorem Shows.indent {g : Gap} {first : String} {rest : List String} (h : Shows g first rest) :
    Shows g ("  " ++ first) (Emission.indent rest) where
  marker := by rw [marker?_indent, h.marker]
  markerText := by rw [unindented_indent]; exact h.markerText
  goesOn := by
    intro line hline
    obtain ⟨l, hl, rfl⟩ := List.mem_map.mp hline
    rw [goesOn_indent, h.goesOn l hl]
  texts := by
    change List.SublistForall₂ Carries g.texts ((first :: rest).map ("  " ++ ·))
    rw [List.sublistForall₂_map_right_iff]
    simpa only [carries_indent] using h.texts

/-! ### Lines of code -/

/-- A line that begins with neither a comment nor a marker, whatever follows it. -/
structure CodeLine (line : String) : Prop where
  start : (trimStart line.toList).head? ≠ some ';'
  newline : '\n' ∉ line.toList

theorem trimStart_dropWhile (cs : List Char) :
    trimStart (cs.dropWhile (· == ' ')) = trimStart cs := by
  induction cs with
  | nil => rfl
  | cons c cs ih =>
    by_cases hc : c = ' '
    · subst hc
      have hblank : isBlank ' ' = true := by decide
      rw [List.dropWhile_cons_of_pos rfl, ih, trimStart, trimStart,
        List.dropWhile_cons_of_pos hblank]
    · rw [List.dropWhile_cons_of_neg (by simpa using hc)]

theorem isComment_of_isMarker {line : String} (h : isMarker line = true) :
    Emission.isComment line = true := by
  obtain ⟨rest, hrest⟩ : ∃ rest, unindented line = ';' :: ';' :: rest := by
    unfold isMarker marker? at h
    split at h
    · rename_i hprefix
      obtain ⟨rest, hrest⟩ := List.isPrefixOf_iff_prefix.mp hprefix
      exact ⟨_, hrest.symm⟩
    split at h
    · rename_i hprefix
      obtain ⟨rest, hrest⟩ := List.isPrefixOf_iff_prefix.mp hprefix
      exact ⟨_, hrest.symm⟩
    · contradiction
  have hmark : ¬ isBlank ';' = true := by decide
  rw [Emission.isComment, ← trimStart_dropWhile, ← unindented, hrest, trimStart,
    List.dropWhile_cons_of_neg hmark]
  rfl

namespace CodeLine

variable {line : String} (h : CodeLine line)

include h

theorem isComment : Emission.isComment line = false := by
  rw [← Bool.not_eq_true]
  intro hcomment
  obtain ⟨rest, hrest⟩ := List.isPrefixOf_iff_prefix.mp hcomment
  exact h.start (by rw [← hrest]; rfl)

theorem isMarker : isMarker line = false := by
  rw [← Bool.not_eq_true]
  intro hmarker
  have hcode := h.isComment
  rw [isComment_of_isMarker hmarker] at hcode
  contradiction

theorem indent : CodeLine ("  " ++ line) where
  start := by
    have hblank : isBlank ' ' = true := by decide
    have htrim : trimStart ("  " ++ line).toList = trimStart line.toList := by
      simp [trimStart, hblank]
    rw [htrim]
    exact h.start
  newline := by simpa using h.newline

theorem close : CodeLine (line ++ ")") where
  start := by
    rw [String.toList_append, trimStart, List.dropWhile_append]
    split
    · decide
    · rename_i hne
      rw [List.head?_append_of_ne_nil _ (by simpa using hne)]
      exact h.start
  newline := by simpa using h.newline

end CodeLine

theorem codeLine_of_head {line : String} {c : Char} (hhead : line.toList.head? = some c)
    (hblank : isBlank c = false) (hne : c ≠ ';') (hnewline : '\n' ∉ line.toList) :
    CodeLine line where
  start := by
    obtain ⟨rest, hline⟩ := List.head?_eq_some_iff.mp hhead
    rw [hline, trimStart, List.dropWhile_cons_of_neg (by simp [hblank])]
    simpa using hne
  newline := hnewline

/-! ### Lines with the gaps that they show -/

/-- `Marks gs lines`: the gaps that some lines show are these, in this order. Between them stand
code and remarks. -/
inductive Marks : List Gap → List String → Prop
  | nil : Marks [] []
  | code {line : String} (hline : CodeLine line) {gs : List Gap} {lines : List String}
    (h : Marks gs lines) : Marks gs (line :: lines)
  | remark {line : String} (hline : goesOn line = true) (hnewline : '\n' ∉ line.toList)
    {gs : List Gap} {lines : List String} (h : Marks gs lines) : Marks gs (line :: lines)
  | gap {g : Gap} {first : String} {rest : List String} (hshows : Shows g first rest)
    (hnewline : ∀ line ∈ first :: rest, '\n' ∉ line.toList) {gs : List Gap} {lines : List String}
    (h : Marks gs lines) : Marks (g :: gs) (first :: rest ++ lines)

inductive MarksAll : List Gap → List (List String) → Prop
  | nil : MarksAll [] []
  | cons {gs hs : List Gap} {lines : List String} {blocks : List (List String)}
    (h : Marks gs lines) (hrest : MarksAll hs blocks) : MarksAll (gs ++ hs) (lines :: blocks)

theorem Shows.isComment {g : Gap} {first : String} {rest : List String} (h : Shows g first rest) :
    ∀ line ∈ first :: rest, Emission.isComment line = true := by
  refine List.forall_mem_cons.mpr ⟨?_, ?_⟩
  · exact isComment_of_isMarker (by rw [isMarker, h.marker]; rfl)
  · intro line hline
    exact (Bool.and_eq_true_iff.mp (h.goesOn line hline)).1

theorem Shows.append {g : Gap} {first : String} {rest more : List String} (h : Shows g first rest)
    (hmore : ∀ line ∈ more, Script.goesOn line = true) : Shows g first (rest ++ more) where
  marker := h.marker
  markerText := h.markerText
  goesOn := List.forall_mem_append.mpr ⟨h.goesOn, hmore⟩
  texts := by
    obtain ⟨carriers, hcarries, hsub⟩ := List.sublistForall₂_iff.mp h.texts
    rw [← List.cons_append]
    exact List.sublistForall₂_iff.mpr
      ⟨carriers, hcarries, hsub.trans (List.sublist_append_left _ _)⟩

namespace Marks

variable {gs hs : List Gap} {lines more : List String}

theorem single {line : String} (hline : CodeLine line) : Marks [] [line] :=
  code hline nil

theorem append (h : Marks gs lines) (h' : Marks hs more) : Marks (gs ++ hs) (lines ++ more) := by
  induction h with
  | nil => exact h'
  | code hline _ ih => exact code hline ih
  | remark hline hnewline _ ih => exact remark hline hnewline ih
  | gap hshows hnewline _ ih =>
    rw [List.append_assoc]
    exact gap hshows hnewline ih

theorem indent (h : Marks gs lines) : Marks gs (Emission.indent lines) := by
  induction h with
  | nil => exact nil
  | code hline _ ih => exact code hline.indent ih
  | remark hline hnewline _ ih =>
    exact remark (by rwa [goesOn_indent]) (by simpa using hnewline) ih
  | gap hshows hnewline _ ih =>
    rw [Emission.indent, List.map_append, List.map_cons]
    refine gap hshows.indent ?_ ih
    rw [Emission.indent, ← List.map_cons, List.forall_mem_map]
    intro line hline
    simpa using hnewline line hline

theorem close (h : Marks gs lines) : Marks gs (Emission.close lines) := by
  have hbracket : CodeLine ")" := codeLine_of_head rfl (by decide) (by decide) (by decide)
  induction h with
  | nil => exact single hbracket
  | @code line hline gs lines h ih =>
    by_cases hlines : lines = []
    · subst hlines
      cases h
      rw [← List.nil_append [line], close_code [] hline.isComment]
      exact single hline.close
    · rw [← List.singleton_append, close_append hlines]
      exact code hline ih
  | @remark line hline hnewline gs lines h ih =>
    by_cases hlines : lines = []
    · subst hlines
      cases h
      rw [← List.nil_append [line], close_comment [] (Bool.and_eq_true_iff.mp hline).1]
      exact remark hline hnewline (single hbracket)
    · rw [← List.singleton_append, close_append hlines]
      exact remark hline hnewline ih
  | @gap g first rest hshows hnewline gs lines h ih =>
    by_cases hlines : lines = []
    · subst hlines
      cases h
      obtain ⟨before, last, hlast⟩ := (List.eq_nil_or_concat' (first :: rest)).resolve_left
        (List.cons_ne_nil _ _)
      have hcomment := hshows.isComment last (by rw [hlast]; simp)
      rw [List.append_nil, hlast, close_comment before hcomment, ← hlast]
      exact gap hshows hnewline (single hbracket)
    · rw [close_append hlines]
      exact gap hshows hnewline ih

theorem newline (h : Marks gs lines) : ∀ line ∈ lines, '\n' ∉ line.toList := by
  induction h with
  | nil => exact fun _ hmem => absurd hmem List.not_mem_nil
  | code hline _ ih => exact List.forall_mem_cons.mpr ⟨hline.newline, ih⟩
  | remark _ hnewline _ ih => exact List.forall_mem_cons.mpr ⟨hnewline, ih⟩
  | gap _ hnewline _ ih => exact List.forall_mem_append.mpr ⟨hnewline, ih⟩

end Marks

theorem markerBlocks_append {lines : List String} (h : ∀ line ∈ lines, isMarker line = false)
    (more : List String) : markerBlocks (lines ++ more) = markerBlocks more := by
  induction lines with
  | nil => rfl
  | cons line rest ih =>
    obtain ⟨hline, hrest⟩ := List.forall_mem_cons.mp h
    rw [List.cons_append, markerBlocks, hline]
    exact ih hrest

theorem map_fst_markerBlocks (lines : List String) :
    (markerBlocks lines).map Prod.fst = lines.filter isMarker := by
  induction lines with
  | nil => rfl
  | cons line rest ih =>
    rw [markerBlocks, List.filter_cons]
    split
    · rw [List.map_cons, ih]
    · exact ih

theorem not_isMarker_of_goesOn {line : String} (h : goesOn line = true) :
    isMarker line = false := by
  simpa using (Bool.and_eq_true_iff.mp h).2

/-- What is read off the lines are the gaps that they show. -/
theorem Marks.forall₂_markerBlocks {gs : List Gap} {lines : List String} (h : Marks gs lines) :
    List.Forall₂ (fun g block => Shows g block.1 block.2) gs (markerBlocks lines) := by
  induction h with
  | nil => exact .nil
  | code hline _ ih =>
    rw [markerBlocks, hline.isMarker]
    exact ih
  | remark hline _ _ ih =>
    rw [markerBlocks, not_isMarker_of_goesOn hline]
    exact ih
  | @gap g first rest hshows _ gs lines _ ih =>
    have hfirst : isMarker first = true := by rw [isMarker, hshows.marker]; rfl
    rw [List.cons_append, markerBlocks, if_pos hfirst,
      markerBlocks_append fun line hline => not_isMarker_of_goesOn (hshows.goesOn line hline),
      List.takeWhile_append_of_pos hshows.goesOn]
    refine .cons (hshows.append ?_) ih
    intro line hline
    exact List.all_eq_true.mp List.all_takeWhile line hline

namespace MarksAll

variable {gs hs : List Gap} {blocks more : List (List String)}

theorem form (h : MarksAll gs blocks) {head : String} (hhead : CodeLine head) :
    Marks gs (Emission.form head blocks) := by
  have hbody : Marks gs (blocks.flatMap Emission.indent) := by
    induction h with
    | nil => exact .nil
    | cons h _ ih => exact h.indent.append ih
  exact (Marks.code hhead hbody).close

theorem arm (h : MarksAll gs blocks) : Marks gs (Emission.arm blocks) := by
  have hword : CodeLine "(do" := codeLine_of_head rfl (by decide) (by decide) (by decide)
  have hdo := h.form hword
  cases h with
  | nil => exact hdo
  | cons h hrest =>
    cases hrest with
    | nil =>
      rw [Emission.arm]
      split
      · exact hdo
      · rw [List.append_nil]
        exact h
    | cons _ _ => exact hdo

theorem intercalate (h : MarksAll gs blocks) : Marks gs ([""].intercalate blocks) := by
  have hempty : CodeLine "" := ⟨by decide, by decide⟩
  induction h with
  | nil => exact .nil
  | cons h hrest ih =>
    cases hrest with
    | nil => simpa using h
    | cons _ _ =>
      rw [List.intercalate_cons_cons, List.append_assoc]
      exact h.append (.code hempty ih)

end MarksAll

theorem newline_not_mem_quote (s : String) : '\n' ∉ (Emission.quote s).toList := by
  have hchar (c : Char) : '\n' ∉ Emission.quoteChar c := by
    unfold Emission.quoteChar
    grind
  simp only [Emission.quote, String.toList_ofList, List.cons_append, List.mem_cons,
    List.mem_append, List.mem_flatMap, not_or]
  refine ⟨by decide, ?_, by decide⟩
  rintro ⟨c, -, hc⟩
  exact hchar c hc

theorem newline_not_mem_keyword (name : String) : '\n' ∉ (Emission.keyword name).toList := by
  have hblank : isBlank '\n' = true := by decide
  simp only [Emission.keyword, String.toList_ofList, List.mem_cons, List.mem_map, not_or]
  refine ⟨by decide, ?_⟩
  rintro ⟨c, -, hc⟩
  split at hc
  · contradiction
  · rename_i hnot
    rw [hc] at hnot
    contradiction

theorem newline_not_mem_conditionForm (c : Condition) :
    '\n' ∉ (Emission.conditionForm c).toList := by
  unfold Emission.conditionForm
  cases c with
  | fieldBlank field => simp [newline_not_mem_keyword]
  | fieldEquals field value => simp [newline_not_mem_keyword, newline_not_mem_quote]
  | confirm message => simp [newline_not_mem_quote]
  | newRecord => decide

theorem codeLine_actionForm (a : Action) : CodeLine (Emission.actionForm a) := by
  have hflag (value : Bool) : '\n' ∉ (Emission.flag value).toList := by cases value <;> decide
  refine codeLine_of_head (c := '(') ?_ (by decide) (by decide) ?_
  · unfold Emission.actionForm
    cases a <;> simp
  · unfold Emission.actionForm
    cases a <;> simp [newline_not_mem_keyword, newline_not_mem_quote, hflag]

theorem MarksAll.branch (c : Condition) {gs hs : List Gap} {thenArm elseArm : List (List String)}
    (hthen : MarksAll gs thenArm) (helse : MarksAll hs elseArm) :
    Marks (gs ++ hs) (Emission.branchLines c thenArm elseArm) := by
  have hhead {word : String} (hround : word.toList.head? = some '(')
      (hword : '\n' ∉ word.toList) : CodeLine (word ++ Emission.conditionForm c) := by
    refine codeLine_of_head (c := '(') ?_ (by decide) (by decide) ?_
    · rw [String.toList_append, List.head?_append, hround]
      rfl
    · simp [hword, newline_not_mem_conditionForm]
  unfold Emission.branchLines
  dsimp only
  split
  · rename_i hempty
    rw [List.isEmpty_iff.mp hempty] at helse
    cases helse
    rw [List.append_nil]
    exact hthen.form (hhead (by decide) (by decide))
  split
  · rename_i hempty
    rw [List.isEmpty_iff.mp hempty] at hthen
    cases hthen
    exact helse.form (hhead (by decide) (by decide))
  · have harms : MarksAll (gs ++ (hs ++ [])) [Emission.arm thenArm, Emission.arm elseArm] :=
      .cons hthen.arm (.cons helse.arm .nil)
    rw [List.append_nil] at harms
    exact harms.form (hhead (by decide) (by decide))

/-! ### The comment of a gap -/

theorem unindented_of_mark {line : String} (h : line.toList.head? = some ';') :
    unindented line = line.toList := by
  obtain ⟨rest, hline⟩ := List.head?_eq_some_iff.mp h
  rw [unindented, hline, List.dropWhile_cons_of_neg (by decide)]

theorem goesOn_of_further {line : String} (h : ";;  ".toList <+: line.toList) :
    goesOn line = true := by
  obtain ⟨rest, hline⟩ := h
  have hline : line.toList = ';' :: ';' :: ' ' :: ' ' :: rest := hline.symm
  have hcomment : Emission.isComment line = true := isComment_spaces (n := 0) hline
  have hmarker : marker? line = none := by
    have hunindented : unindented line = line.toList := unindented_of_mark (by rw [hline]; rfl)
    simp [marker?, hunindented, hline]
  rw [goesOn, hcomment, isMarker, hmarker]
  rfl

theorem carries_margin {text line : String} {label : List Char}
    (h : line.toList = ";; ".toList ++ label ++ text.toList)
    (hlabel : label = "  ".toList ∨ ": ".toList <:+ label) : Carries text line := by
  refine ⟨label, ?_, hlabel⟩
  rw [← h]
  exact unindented_of_mark (by rw [h]; rfl)

theorem trimEnd_label (label : List Char) : trimEnd (label ++ [':', ' ']) = label ++ [':'] := by
  have hblank : isBlank ' ' = true := by decide
  have hcolon : isBlank ':' = false := by decide
  simp [trimEnd, hblank, hcolon]

theorem commentLines_eq (label text : String) :
    ∃ more rest, Emission.commentLines (label ++ ": ") text =
        (";; " ++ label ++ ":" ++ more) :: rest ∧ ∀ line ∈ rest, goesOn line = true := by
  unfold Emission.commentLines
  split
  · refine ⟨"", [], ?_, by simp⟩
    have htrim : String.ofList (trimEnd (label ++ ": ").toList) = label ++ ":" := by
      rw [← String.toList_inj, String.toList_ofList, String.toList_append, String.toList_append]
      exact trimEnd_label label.toList
    rw [htrim, String.append_empty, String.append_assoc]
  · rename_i first rest _
    refine ⟨" " ++ first, rest.map (";;   " ++ ·), ?_, ?_⟩
    · congr 1
      rw [← String.toList_inj]
      simp
    · rw [List.forall_mem_map]
      intro line _
      exact goesOn_of_further (by simp)

theorem carries_commentLines (label text : String) :
    List.SublistForall₂ Carries (textLines text) (Emission.commentLines (label ++ ": ") text) := by
  unfold Emission.commentLines
  split
  · rename_i hnone
    rw [hnone]
    exact .nil
  · rename_i first rest hsome
    rw [hsome]
    refine .cons (carries_margin ?_ (.inr (List.suffix_append label.toList _)))
      (List.sublistForall₂_iff.mpr ⟨_, ?_, .refl _⟩)
    · simp
    · rw [List.forall₂_map_right_iff, List.forall₂_same]
      intro line _
      exact carries_margin (by simp) (.inl rfl)

theorem sublistForall₂_append {α β : Type} {R : α → β → Prop} {a b : List α} {c d : List β}
    (h : List.SublistForall₂ R a c) (h' : List.SublistForall₂ R b d) :
    List.SublistForall₂ R (a ++ b) (c ++ d) := by
  obtain ⟨l, hl, hsub⟩ := List.sublistForall₂_iff.mp h
  obtain ⟨l', hl', hsub'⟩ := List.sublistForall₂_iff.mp h'
  exact List.sublistForall₂_iff.mpr ⟨l ++ l', List.rel_append hl hl', hsub.append hsub'⟩

theorem gapLines_answered {g : Gap} {r : Resolution} (h : g.resolution = some r) :
    Emission.gapLines g =
      Emission.commentLines (g.markerText ++ " (" ++ r.resolvedBy ++ ")" ++ ": ") r.answer := by
  have hlabel : "GAP RESOLVED [" ++ g.id.getD "?" ++ "] (" ++ r.resolvedBy ++ "): " =
      g.markerText ++ " (" ++ r.resolvedBy ++ ")" ++ ": " := by
    rw [← String.toList_inj]
    simp [Gap.markerText, Gap.isOpen, h]
  simp only [Emission.gapLines, h, hlabel]

theorem gapLines_open {g : Gap} (h : g.resolution = none) :
    Emission.gapLines g = Emission.commentLines (g.markerText ++ ": ") g.reason ++
      Emission.commentLines ("  vba" ++ ": ") g.line := by
  have hlabel : "GAP [" ++ g.id.getD "?" ++ "]: " = g.markerText ++ ": " := by
    rw [← String.toList_inj]
    simp [Gap.markerText, Gap.isOpen, h]
  simp only [Emission.gapLines, h, hlabel]
  rfl

theorem carries_gapLines (g : Gap) :
    List.SublistForall₂ Carries g.texts (Emission.gapLines g) := by
  cases h : g.resolution with
  | some r =>
    simp only [gapLines_answered h, Gap.texts, h]
    exact carries_commentLines _ _
  | none =>
    simp only [gapLines_open h, Gap.texts, h]
    exact sublistForall₂_append (carries_commentLines _ _) (carries_commentLines _ _)

theorem gapLines_eq (g : Gap) :
    ∃ more rest, Emission.gapLines g = (";; " ++ g.markerText ++ more) :: rest ∧
      ∀ line ∈ rest, goesOn line = true := by
  cases h : g.resolution with
  | some r =>
    obtain ⟨more, rest, hlines, hrest⟩ :=
      commentLines_eq (g.markerText ++ " (" ++ r.resolvedBy ++ ")") r.answer
    refine ⟨" (" ++ r.resolvedBy ++ ")" ++ ":" ++ more, rest, ?_, hrest⟩
    rw [gapLines_answered h, hlines]
    simp only [String.append_assoc]
  | none =>
    obtain ⟨more, rest, hlines, hrest⟩ := commentLines_eq g.markerText g.reason
    obtain ⟨source, further, hsource, hfurther⟩ := commentLines_eq "  vba" g.line
    refine ⟨":" ++ more, rest ++ (";; " ++ "  vba" ++ ":" ++ source) :: further, ?_, ?_⟩
    · rw [gapLines_open h, hlines, hsource, List.cons_append]
      simp only [String.append_assoc]
    · refine List.forall_mem_append.mpr ⟨hrest, List.forall_mem_cons.mpr ⟨?_, hfurther⟩⟩
      exact goesOn_of_further (by simp)

theorem shows_gapLines (g : Gap) :
    ∃ first rest, Emission.gapLines g = first :: rest ∧ Shows g first rest := by
  obtain ⟨more, rest, hlines, hrest⟩ := gapLines_eq g
  refine ⟨_, rest, hlines, ?_, ?_, hrest, ?_⟩
  · cases h : g.resolution with
    | some r => simp [marker?, unindented, Gap.markerText, Gap.marker, Gap.isOpen, h]
    | none => simp [marker?, unindented, Gap.markerText, Gap.marker, Gap.isOpen, h]
  · simp [unindented]
  · rw [← hlines]
    exact carries_gapLines g

theorem marks_gapLines {g : Gap} (hg : g.isLegible = true) : Marks [g] (Emission.gapLines g) := by
  have hnewline : ∀ line ∈ Emission.gapLines g, '\n' ∉ line.toList := by
    intro line hline
    obtain ⟨rest, hrest, hnone⟩ := commentLine_gapLines hg hline
    rw [hrest]
    simpa using hnone
  obtain ⟨first, rest, hlines, hshows⟩ := shows_gapLines g
  rw [hlines] at hnewline ⊢
  simpa using Marks.gap hshows hnewline .nil

end Script

mutual

theorem marks_intentLines (i : Intent) (h : ∀ g ∈ i.gaps, g.isLegible = true) :
    Marks i.gaps (Emission.intentLines i) := by
  match i with
  | .act a _ => exact .single (codeLine_actionForm a)
  | .gap g _ => exact marks_gapLines (h g List.mem_cons_self)
  | .branch c thenArm elseArm _ _ =>
    obtain ⟨hthen, helse⟩ := List.forall_mem_append.mp h
    exact (marksAll_intentsLines thenArm hthen).branch c (marksAll_intentsLines elseArm helse)

theorem marksAll_intentsLines (is : List Intent) (h : ∀ g ∈ Intent.gapsOf is, g.isLegible = true) :
    MarksAll (Intent.gapsOf is) (Emission.intentsLines is) := by
  match is with
  | [] => exact .nil
  | i :: rest =>
    obtain ⟨hi, hrest⟩ := List.forall_mem_append.mp h
    exact .cons (marks_intentLines i hi) (marksAll_intentsLines rest hrest)

end

theorem marks_procedureLines {p : Procedure} (h : ∀ g ∈ p.gaps, g.isLegible = true) :
    Marks p.gaps (Emission.procedureLines p) := by
  have hdoc : CodeLine (Emission.quote (Emission.docText p)) :=
    codeLine_of_head (c := '"') (by simp [Emission.quote]) (by decide) (by decide)
      (newline_not_mem_quote _)
  have hctx : CodeLine "[ctx]" := codeLine_of_head rfl (by decide) (by decide) (by decide)
  have hname : CodeLine ("(defn " ++ Identifier.orElse p.name "procedure") := by
    refine codeLine_of_head (c := '(') (by simp) (by decide) (by decide) ?_
    simp [newline_not_mem_orElse p.name (show '\n' ∉ "procedure".toList by decide)]
  have hbody : MarksAll ([] ++ ([] ++ p.gaps)) _ :=
    .cons (.single hdoc) (.cons (.single hctx) (marksAll_intentsLines p.intents h))
  exact hbody.form hname

theorem marksAll_procedures {ps : List Procedure}
    (h : ∀ g ∈ ps.flatMap Procedure.gaps, g.isLegible = true) :
    MarksAll (ps.flatMap Procedure.gaps) (ps.map Emission.procedureLines) := by
  induction ps with
  | nil => exact .nil
  | cons p rest ih =>
    rw [List.flatMap_cons] at h ⊢
    obtain ⟨hp, hrest⟩ := List.forall_mem_append.mp h
    exact .cons (marks_procedureLines hp) (ih hrest)

theorem marks_namespaceLines (moduleName : String) :
    Marks [] (Emission.namespaceLines moduleName) := by
  refine .code ?_ (.code ?_ (.code ?_ .nil))
  · refine codeLine_of_head (c := '(') (by simp) (by decide) (by decide) ?_
    simp [newline_not_mem_orElse moduleName (show '\n' ∉ "module".toList by decide)]
  · refine (codeLine_of_head (c := '"') ?_ (by decide) (by decide) ?_).indent
    · simp [Emission.quote]
    · exact newline_not_mem_quote _
  · exact ⟨by decide, by decide⟩

namespace Mapped

theorem marksAll_sections {m : Mapped} (h : ∀ g ∈ m.gapNodes, g.isLegible = true)
    (moduleName : String) : MarksAll m.gapNodes (Emission.sections m moduleName) := by
  rw [← List.nil_append m.gapNodes]
  refine .cons (marks_namespaceLines moduleName) ?_
  split
  · rename_i hnone
    have hgaps : m.gapNodes = [] := by rw [gapNodes, List.isEmpty_iff.mp hnone, List.flatMap_nil]
    rw [hgaps]
    exact .cons (.remark (by decide) (by decide) .nil) .nil
  · exact marksAll_procedures h

theorem sourceLines_generate {m : Mapped} {moduleName : String}
    (h : ∀ line ∈ [""].intercalate (Emission.sections m moduleName), '\n' ∉ line.toList) :
    sourceLines (Emission.generate m moduleName).source =
      [""].intercalate (Emission.sections m moduleName) ++ [""] := by
  have hsource : (Emission.generate m moduleName).source.toList =
      (([""].intercalate (Emission.sections m moduleName)).map String.toList).flatMap
        (· ++ ['\n']) := by
    rw [toList_source, unlines, List.flatMap_map]
  rw [sourceLines, hsource, Source.splitOnP_unlines (List.forall_mem_map.mpr h), List.map_append,
    List.map_map]
  simp

end Mapped

/-- The markers of a script are those of the gaps of the procedures in turn, those in branches where
they stand. Each shows the id of its gap and whether it is answered, and on its line and the
comments that follow it directly stand, line by line, the answer or else the reason and the source,
whatever they say. -/
theorem gaps_marked_in_order (m : Mapped) (moduleName : String)
    (h : ∀ g ∈ m.gapNodes, g.isLegible = true) :
    (markerBlocks (sourceLines (Emission.generate m moduleName).source)).map Prod.fst =
        (sourceLines (Emission.generate m moduleName).source).filter isMarker ∧
      List.Forall₂ (fun g block => Shows g block.1 block.2) m.gapNodes
        (markerBlocks (sourceLines (Emission.generate m moduleName).source)) := by
  refine ⟨map_fst_markerBlocks _, ?_⟩
  have hmarks := (m.marksAll_sections h moduleName).intercalate
  have hempty : CodeLine "" := ⟨by decide, by decide⟩
  have hall := hmarks.append (.single hempty)
  rw [List.append_nil] at hall
  rw [Mapped.sourceLines_generate hmarks.newline]
  exact hall.forall₂_markerBlocks

def forging : Mapped where
  procedures := [⟨"Form_Load", "load",
    [.branch (.confirm ";; GAP [x]:")
      [.gap ⟨"Call Audit\n;; GAP [y]: forged", "no mapping\r\n\n  ;; GAP RESOLVED [y]", none, none⟩
        none]
      [.gap ⟨"Beep", "no mapping", some "Form_Load:1",
        some ⟨"\n;; GAP [z]: forged", "user", ⟨2024, 3, 1, 12, 0, 0, 0, rfl, rfl⟩⟩⟩ none]
      none none,
     .gap ⟨"", "", some ";; GAP [", none⟩ none]⟩]

theorem gaps_marked_in_order_forging :
    (∀ g ∈ forging.gapNodes, g.isLegible = true) ∧
      ((sourceLines (Emission.generate forging "Form_Orders").source).filter isMarker).length = 3 ∧
      List.Forall₂ (fun g block => Shows g block.1 block.2) forging.gapNodes
        (markerBlocks (sourceLines (Emission.generate forging "Form_Orders").source)) := by
  have hlegible : ∀ g ∈ forging.gapNodes, g.isLegible = true := by decide
  obtain ⟨hmarkers, hshown⟩ := gaps_marked_in_order forging "Form_Orders" hlegible
  refine ⟨hlegible, ?_, hshown⟩
  rw [← hmarkers, List.length_map, ← hshown.length_eq]
  rfl

end FormScript
