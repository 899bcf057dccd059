import Mathlib.Logic.Relation
import FormScript.Proofs.Source.Independence
import FormScript.Proofs.Source.WellNested
import FormScript.Proofs.Text.Trim

/-! Recognition does not depend on the layout of a source: on white space at the ends of its lines,
on how they are ended, on comments, on blank lines, or on where a line is broken and continued. Each
edit leaves the logical lines as they are, so any number of them does. One edit is no matter of
layout: a comment that is broken off behind a mark which continues its line takes the place of the
next line. What is left pending when a source ends is not looked at for a remark any more; that is a
slip of the program, and the edits leave out the last line of blanks that would bring it about. -/
namespace FormScript.Source

open Text

/-- What counts of a physical line: its comment and the white space around the rest are gone. -/
def code (raw : Line) : Line :=
  trim (stripComment false raw)

/-- Whether a text ends inside a string; none if it ends inside a comment. -/
def stringState (inString : Bool) : Line → Option Bool
  | [] => some inString
  | c :: rest =>
    if c = '"' then stringState (!inString) rest
    else if c.toNat = 39 ∧ inString = false then none
    else stringState inString rest

/-- `line` is a physical line of a text, between what stands before it and what ends it. -/
structure IsLine (front line behind : List Char) : Prop where
  starts : front.getLast?.all (· == '\n') = true
  whole : '\n' ∉ line
  ends : behind = [] ∨ (∃ more, behind = '\n' :: more) ∨ ∃ more, behind = '\r' :: '\n' :: more
  present : line ≠ [] ∨ behind ≠ []

def isSpacing (cs : List Char) : Bool :=
  cs.all fun c => c == ' ' || c == '\t'

inductive LineEdit : Line → Line → Prop
  | indent {spaces : List Char} (h : isSpacing spaces = true) (line : Line) :
    LineEdit line (spaces ++ line)
  | trail {spaces : List Char} (h : isSpacing spaces = true) (line : Line) :
    LineEdit line (line ++ spaces)
  | comment {line : Line} (h : stringState false line ≠ some true) {text : List Char}
    (htext : '\n' ∉ text) : LineEdit line (line ++ (" '".toList ++ text))

def isFiller (line : Line) : Bool :=
  (trimStart line).head?.all (·.toNat == 39) && line.all (· != '\n')

/-- A space between two pieces of a line at which it can be broken: outside strings and comments,
with no other white space beside it, and with more behind it than the mark that continues a line. -/
def isBreak (p q : Line) : Bool :=
  stringState false p == some false && p.getLast?.any (!isBlank ·) && q.head?.any (!isBlank ·) &&
    code q != ['_']

/-- The edits of a layout. The mark that continues a line may have a comment behind it; the line is
not broken between the two. -/
inductive Edit : List Char → List Char → Prop
  | line {front line line' behind : List Char} (h : IsLine front line behind)
    (hedit : LineEdit line line') : Edit (front ++ (line ++ behind)) (front ++ (line' ++ behind))
  /-- Spaces and tabs that are a last line with no line feed. -/
  | lastLine {front spaces : List Char} (hfront : front.getLast?.all (· == '\n') = true)
    (hspaces : isSpacing spaces = true)
    (hremark : ∀ line ∈ logicalLines front, isRemark line = false) : Edit front (front ++ spaces)
  | carriageReturn (before behind : List Char) :
    Edit (before ++ '\n' :: behind) (before ++ '\r' :: '\n' :: behind)
  | insertFirst {filler : Line} (h : isFiller filler = true) (text : List Char) :
    Edit text (filler ++ '\n' :: text)
  | insertBehind {front line behind : List Char} (h : IsLine front line behind)
    (hline : continued? (code line) = none) {filler : Line} (hfiller : isFiller filler = true) :
    Edit (front ++ (line ++ behind)) (front ++ (line ++ '\n' :: (filler ++ behind)))
  | breakLine {front p q behind : List Char} (h : IsLine front (p ++ ' ' :: q) behind)
    (hbreak : isBreak p q = true) (hcomment : code q = [] → continued? (trim p) = none) :
    Edit (front ++ (p ++ ' ' :: q ++ behind)) (front ++ (p ++ " _".toList ++ '\n' :: (q ++ behind)))

theorem stripComment_append (inString : Bool) (cs u : Line) :
    stripComment inString (cs ++ u) =
      match stringState inString cs with
      | none => stripComment inString cs
      | some state => cs ++ stripComment state u := by
  induction cs generalizing inString with
  | nil => rfl
  | cons c cs ih =>
    simp only [List.cons_append, stripComment, stringState]
    split
    · rw [ih]
      split <;> rfl
    split
    · rfl
    · rw [ih]
      split <;> rfl

theorem stripComment_eq_self {inString state : Bool} {cs : Line}
    (h : stringState inString cs = some state) : stripComment inString cs = cs := by
  have hall := stripComment_append inString cs []
  rw [h, List.append_nil] at hall
  simpa [stripComment] using hall

theorem stringState_of_blank {cs : Line} (h : cs.all isBlank = true) (inString : Bool) :
    stringState inString cs = some inString := by
  induction cs with
  | nil => rfl
  | cons c cs ih =>
    rw [List.all_cons, Bool.and_eq_true] at h
    have hquote : c ≠ '"' := by
      rintro rfl
      exact absurd h.1 (by decide)
    have hmark : c.toNat ≠ 39 := by
      intro hc
      simp [isBlank, hc] at h
    rw [stringState, if_neg hquote, if_neg fun hand => hmark hand.1, ih h.2]

theorem isBlank_of_isSpacing {spaces : List Char} (h : isSpacing spaces = true) :
    spaces.all isBlank = true := by
  simp only [isSpacing, List.all_eq_true, Bool.or_eq_true, beq_iff_eq] at h ⊢
  intro c hc
  rcases h c hc with rfl | rfl <;> rfl

theorem LineEdit.code_eq {line line' : Line} (h : LineEdit line line') : code line = code line' := by
  cases h with
  | @indent spaces h line =>
    have hblank := isBlank_of_isSpacing h
    rw [code, code, stripComment_append, stringState_of_blank hblank, trim_blank_append hblank]
  | @trail spaces h line =>
    have hblank := isBlank_of_isSpacing h
    rw [code, code, stripComment_append]
    cases hstate : stringState false line with
    | none => rfl
    | some state =>
      dsimp only
      rw [stripComment_eq_self hstate, stripComment_eq_self (stringState_of_blank hblank state),
        trim_append_of_blank hblank]
  | @comment line h text htext =>
    rw [code, code, stripComment_append]
    cases hstate : stringState false line with
    | none => rfl
    | some state =>
      cases state with
      | true => exact absurd hstate h
      | false =>
        have hmark : stripComment false (" '".toList ++ text) = [' '] := rfl
        dsimp only
        rw [stripComment_eq_self hstate, hmark, trim_append_of_blank (by decide)]

theorem code_of_isFiller {line : Line} (h : isFiller line = true) : code line = [] := by
  rw [isFiller, Bool.and_eq_true] at h
  obtain ⟨lead, hlead, heq⟩ := exists_lead line
  have hrest : stripComment false (trimStart line) = [] := by
    cases hstart : trimStart line with
    | nil => rfl
    | cons c rest =>
      rw [hstart, List.head?_cons, Option.all_some, beq_iff_eq] at h
      have hquote : c ≠ '"' := by
        rintro rfl
        exact absurd h.1 (by decide)
      rw [stripComment, if_neg hquote, if_pos ⟨h.1, rfl⟩]
  rw [code, heq, stripComment_append, stringState_of_blank hlead]
  dsimp only
  rw [hrest, trim_blank_append hlead]
  rfl

theorem logicalFrom_congr {raws raws' : List Line} (h : raws.map code = raws'.map code)
    (pending : Line) : logicalFrom pending raws = logicalFrom pending raws' := by
  induction raws generalizing pending raws' with
  | nil => rw [List.map_eq_nil_iff.mp h.symm]
  | cons raw raws ih =>
    cases raws' with
    | nil => contradiction
    | cons raw' raws' =>
      rw [List.map_cons, List.map_cons, List.cons.injEq] at h
      simp only [code] at h
      simp only [logicalFrom, h.1, ih h.2]

theorem logicalFrom_append_congr {raws raws' : List Line}
    (h : ∀ pending, logicalFrom pending raws = logicalFrom pending raws') (before : List Line)
    (pending : Line) :
    logicalFrom pending (before ++ raws) = logicalFrom pending (before ++ raws') := by
  induction before generalizing pending with
  | nil => exact h pending
  | cons raw before ih => simp only [List.cons_append, logicalFrom, ih]

theorem lines_append_of_starts {front : List Char} (h : front.getLast?.all (· == '\n') = true)
    (text : List Char) : Text.lines (front ++ text) = Text.lines front ++ Text.lines text := by
  cases hlast : front.getLast? with
  | none =>
    rw [List.getLast?_eq_none_iff.mp hlast]
    rfl
  | some c =>
    rw [hlast, Option.all_some, beq_iff_eq] at h
    subst h
    obtain ⟨cs, rfl⟩ := List.getLast?_eq_some_iff.mp hlast
    rw [List.append_assoc, List.singleton_append, lines_append, lines_append]
    simp [Text.lines]

theorem splitOnP_line {line : Line} (h : '\n' ∉ line) : line.splitOnP (· == '\n') = [line] := by
  apply List.splitOnP_eq_singleton
  intro c hc
  rw [beq_eq_false_iff_ne]
  rintro rfl
  exact h hc

theorem lines_cons_newline (line : Line) (h : '\n' ∉ line) (more : List Char) :
    Text.lines (line ++ '\n' :: more) = dropReturn line :: Text.lines more := by
  rw [lines_append, splitOnP_line h]
  rfl

theorem tail_lines_newline (more : List Char) :
    (Text.lines ('\n' :: more)).tail = Text.lines more :=
  congrArg List.tail (lines_cons_newline [] List.not_mem_nil more)

theorem tail_lines_return (more : List Char) :
    (Text.lines ('\r' :: '\n' :: more)).tail = Text.lines more :=
  congrArg List.tail (lines_cons_newline ['\r'] (by decide) more)

theorem lines_singleton {line : Line} (h : '\n' ∉ line) (hne : line ≠ []) :
    Text.lines line = [line] := by
  unfold Text.lines
  simp [splitOnP_line h, hne]

theorem IsLine.codes {front line behind : List Char} (h : IsLine front line behind) :
    (Text.lines (line ++ behind)).map code = (line :: (Text.lines behind).tail).map code := by
  rcases h.ends with rfl | ⟨more, rfl⟩ | ⟨more, rfl⟩
  · have hne : line ≠ [] := by simpa using h.present
    rw [List.append_nil, lines_singleton h.whole hne]
    rfl
  · have hreturn : code (dropReturn line) = code line := trim_stripComment_dropReturn line
    rw [lines_cons_newline line h.whole, tail_lines_newline, List.map_cons, List.map_cons, hreturn]
  · have hwhole : '\n' ∉ line ++ ['\r'] := by
      simpa using h.whole
    have hreturn : dropReturn (line ++ ['\r']) = line := by
      simp [dropReturn]
    rw [List.append_cons, lines_cons_newline _ hwhole, hreturn, tail_lines_return]

theorem IsLine.logicalFrom_eq {front line behind : List Char} (h : IsLine front line behind)
    (pending : Line) :
    logicalFrom pending (Text.lines (line ++ behind)) =
      logicalFrom pending (line :: (Text.lines behind).tail) :=
  logicalFrom_congr h.codes pending

theorem IsLine.logicalLines_eq {front line behind : List Char} (h : IsLine front line behind) :
    logicalLines (front ++ (line ++ behind)) =
      logicalFrom [] (Text.lines front ++ line :: (Text.lines behind).tail) := by
  rw [logicalLines, lines_append_of_starts h.starts]
  exact logicalFrom_append_congr h.logicalFrom_eq _ []

theorem exists_line (text : List Char) :
    ∃ front line, text = front ++ line ∧ front.getLast?.all (· == '\n') = true ∧ '\n' ∉ line := by
  by_cases hmem : '\n' ∈ text
  · obtain ⟨back, front, heq, hback⟩ := List.eq_append_cons_of_mem (List.mem_reverse.mpr hmem)
    refine ⟨front.reverse ++ ['\n'], back.reverse, ?_, by simp, by simpa using hback⟩
    rw [← List.reverse_reverse text, heq]
    simp
  · exact ⟨[], text, rfl, rfl, hmem⟩

theorem logicalFrom_filler {filler : Line} (h : code filler = []) (more : List Line) :
    logicalFrom [] (filler :: more) = logicalFrom [] more := by
  have hcontinued : continued? [] = none := rfl
  rw [code] at h
  simp only [logicalFrom, h, hcontinued]
  rfl

theorem continued?_eq_some_iff {line head : Line} :
    continued? line = some head ↔ line = head ++ " _".toList := by
  constructor
  · intro h
    unfold continued? at h
    split at h
    · rename_i back hback
      cases h
      rw [← List.reverse_reverse line, hback]
      simp
    · contradiction
  · rintro rfl
    simp [continued?]

/-- The mark that continues a line is found in its last piece, if that is more than the mark. -/
theorem continued?_append (head : Line) {piece : Line} (hne : piece ≠ []) (hmark : piece ≠ ['_']) :
    continued? (head ++ ' ' :: piece) =
      (continued? piece).map fun start => head ++ ' ' :: start := by
  refine Option.ext fun found => ?_
  simp only [continued?_eq_some_iff, Option.map_eq_some_iff]
  constructor
  · intro heq
    have hline : " _".toList <:+ head ++ ' ' :: piece := ⟨found, heq.symm⟩
    have hpiece : piece <:+ head ++ ' ' :: piece := ⟨head ++ [' '], by simp⟩
    have hsuffix : " _".toList <:+ piece := by
      rcases List.suffix_or_suffix_of_suffix hline hpiece with h | h
      · exact h
      rcases List.suffix_cons_iff.mp h with rfl | h
      · exact List.suffix_refl _
      rcases List.suffix_cons_iff.mp h with rfl | h
      · exact absurd rfl hmark
      · exact absurd (List.suffix_nil.mp h) hne
    obtain ⟨start, rfl⟩ := hsuffix
    have hsame : head ++ ' ' :: start ++ " _".toList = found ++ " _".toList := by
      simpa using heq
    exact ⟨start, rfl, List.append_cancel_right hsame⟩
  · rintro ⟨start, rfl, rfl⟩
    simp

theorem head?_stripComment {q : Line} (hne : stripComment false q ≠ []) :
    (stripComment false q).head? = q.head? := by
  cases q with
  | nil => rfl
  | cons c q =>
    rw [stripComment] at hne ⊢
    split
    · rfl
    · rename_i hquote
      rw [if_neg hquote] at hne
      split at hne
      · contradiction
      · rename_i hmark
        rw [if_neg hmark]
        rfl

theorem logicalFrom_cons_continued {raw head : Line} (h : continued? (code raw) = some head)
    (pending : Line) (more : List Line) :
    logicalFrom pending (raw :: more) = logicalFrom (pending ++ trim head ++ [' ']) more := by
  rw [code] at h
  simp only [logicalFrom, h]

theorem logicalFrom_cons_ended {raw : Line} (h : continued? (code raw) = none) (pending : Line)
    (more : List Line) :
    logicalFrom pending (raw :: more) =
      if (trim (pending ++ code raw)).isEmpty || isRemark (trim (pending ++ code raw)) then
        logicalFrom [] more
      else trim (pending ++ code raw) :: logicalFrom [] more := by
  rw [code] at h ⊢
  simp only [logicalFrom, h]

section

variable {p q : Line}

theorem trimStart_of_isBreak (h : isBreak p q = true) :
    trimStart p = trim p ∧ trim p ≠ [] := by
  simp only [isBreak, Bool.and_eq_true] at h
  obtain ⟨d, hlast, hd⟩ := (Option.any_eq_true _ _).mp h.1.1.2
  have hall : p.getLast?.all (!isBlank ·) = true := by
    rw [hlast, Option.all_some, hd]
  have hne : p ≠ [] := by
    rintro rfl
    contradiction
  rw [trim_eq_trimStart hall]
  exact ⟨rfl, trimStart_ne_nil_of_last hne hall⟩

theorem code_broken (h : isBreak p q = true) : code (p ++ " _".toList) = trim p ++ " _".toList := by
  obtain ⟨hstart, hne⟩ := trimStart_of_isBreak h
  simp only [isBreak, Bool.and_eq_true, beq_iff_eq] at h
  have hmark : stripComment false " _".toList = " _".toList := by decide
  rw [code, stripComment_append, h.1.1.1]
  dsimp only
  rw [hmark]
  have htrim := (trim_append_space (p := p) (r := ['_']) (by rwa [hstart]) (by decide)).1
  rwa [hstart] at htrim

theorem code_unbroken (h : isBreak p q = true) :
    code (p ++ ' ' :: q) = if code q = [] then trim p else trim p ++ ' ' :: code q := by
  obtain ⟨hstart, hne⟩ := trimStart_of_isBreak h
  simp only [isBreak, Bool.and_eq_true, beq_iff_eq] at h
  have hstrip : stripComment false (p ++ ' ' :: q) = p ++ ' ' :: stripComment false q := by
    rw [stripComment_append, h.1.1.1]
    rfl
  rw [code, hstrip]
  by_cases hq : stripComment false q = []
  · rw [code, hq, if_pos (by rfl)]
    exact trim_append_of_blank (by decide : [' '].all isBlank = true) p
  · have hhead : (stripComment false q).head?.any (!isBlank ·) = true := by
      rw [head?_stripComment hq]
      exact h.1.2
    obtain ⟨htrim, hcode⟩ := trim_append_space (p := p) (by rwa [hstart]) hhead
    rw [htrim, hstart]
    exact (if_neg hcode).symm

/-- A line and the same line broken in two leave the same to be continued. -/
theorem logicalFrom_break (h : isBreak p q = true)
    (hcomment : code q = [] → continued? (trim p) = none) (pending : Line) (more : List Line) :
    logicalFrom pending ((p ++ " _".toList) :: q :: more) =
      logicalFrom pending ((p ++ ' ' :: q) :: more) := by
  have hfirst : continued? (code (p ++ " _".toList)) = some (trim p) := by
    rw [code_broken h, continued?_eq_some_iff]
  have hwhole := code_unbroken h
  rw [logicalFrom_cons_continued hfirst, trim_trim]
  -- Joined, a second half with no code in it leaves `p` as the end of the line, where a ` _` of
  -- `p` itself would come to count.
  by_cases hq : code q = []
  · rw [if_pos hq] at hwhole
    have hended : continued? (code q) = none := by
      rw [hq]
      rfl
    rw [logicalFrom_cons_ended hended, logicalFrom_cons_ended (by rw [hwhole, hcomment hq]), hq,
      hwhole, List.append_nil, trim_append_of_blank (by decide)]
  · rw [if_neg hq] at hwhole
    have hmark : code q ≠ ['_'] := by
      simp only [isBreak, Bool.and_eq_true, bne_iff_ne] at h
      exact h.2
    have hcontinued := continued?_append (trim p) hq hmark
    rw [← hwhole] at hcontinued
    cases hended : continued? (code q) with
    | none =>
      rw [hended] at hcontinued
      rw [logicalFrom_cons_ended hended, logicalFrom_cons_ended hcontinued, hwhole]
      simp only [List.append_assoc, List.singleton_append]
    | some head =>
      rw [hended] at hcontinued
      have hhead : head.head?.any (!isBlank ·) = true := by
        have hfirst (c : Char) (hc : (code q).head? = some c) : isBlank c = false :=
          isBlank_of_head?_trim hc
        rw [continued?_eq_some_iff.mp hended] at hfirst
        cases head with
        | nil => exact absurd (hfirst ' ' rfl) (by decide)
        | cons c head => simp [hfirst c rfl]
      have hstart : trimStart (trim p) = trim p := trimStart_eq_self fun c => isBlank_of_head?_trim
      have hne := (trimStart_of_isBreak h).2
      rw [logicalFrom_cons_continued hended, logicalFrom_cons_continued hcontinued,
        (trim_append_space (by rwa [hstart]) hhead).1, hstart]
      simp only [List.append_assoc, List.cons_append, List.nil_append]

end

theorem LineEdit.whole {line line' : Line} (h : LineEdit line line') (hline : '\n' ∉ line) :
    '\n' ∉ line' := by
  have hspaces {spaces : List Char} (h : isSpacing spaces = true) : '\n' ∉ spaces :=
    fun hmem => absurd (List.all_eq_true.mp h '\n' hmem) (by decide)
  cases h with
  | indent h =>
    rw [List.mem_append, not_or]
    exact ⟨hspaces h, hline⟩
  | trail h =>
    rw [List.mem_append, not_or]
    exact ⟨hline, hspaces h⟩
  | comment h htext =>
    rw [List.mem_append, List.mem_append, not_or, not_or]
    exact ⟨hline, by decide, htext⟩

theorem LineEdit.ne_nil {line line' : Line} (h : LineEdit line line') (hline : line ≠ []) :
    line' ≠ [] := by
  cases h with
  | indent h => exact List.append_ne_nil_of_right_ne_nil _ hline
  | trail h => exact List.append_ne_nil_of_left_ne_nil hline _
  | comment h htext => exact List.append_ne_nil_of_left_ne_nil hline _

section

variable {front line behind : List Char}

theorem IsLine.edited (h : IsLine front line behind) {line' : Line} (hedit : LineEdit line line') :
    IsLine front line' behind :=
  ⟨h.starts, hedit.whole h.whole, h.ends, h.present.imp_left hedit.ne_nil⟩

theorem isLine_newline (hfront : front.getLast?.all (· == '\n') = true) (hline : '\n' ∉ line)
    (more : List Char) : IsLine front line ('\n' :: more) :=
  ⟨hfront, hline, Or.inr (Or.inl ⟨more, rfl⟩), Or.inr (List.cons_ne_nil _ _)⟩

theorem logicalLines_carriageReturn (before behind : List Char) :
    logicalLines (before ++ '\n' :: behind) = logicalLines (before ++ '\r' :: '\n' :: behind) := by
  obtain ⟨front, line, rfl, hfront, hline⟩ := exists_line before
  have hreturn : IsLine front line ('\r' :: '\n' :: behind) :=
    ⟨hfront, hline, Or.inr (Or.inr ⟨behind, rfl⟩), Or.inr (List.cons_ne_nil _ _)⟩
  rw [List.append_assoc, List.append_assoc, (isLine_newline hfront hline behind).logicalLines_eq,
    hreturn.logicalLines_eq, tail_lines_newline, tail_lines_return]

theorem isFiller_whole {filler : Line} (h : isFiller filler = true) : '\n' ∉ filler := by
  rw [isFiller, Bool.and_eq_true] at h
  intro hmem
  exact absurd (List.all_eq_true.mp h.2 '\n' hmem) (by decide)

theorem IsLine.logicalFrom_filler (h : IsLine front line behind) {filler : Line}
    (hfiller : isFiller filler = true) :
    logicalFrom [] (Text.lines (filler ++ behind)) = logicalFrom [] (Text.lines behind).tail := by
  by_cases hpresent : filler ≠ [] ∨ behind ≠ []
  · have hline : IsLine [] filler behind := ⟨rfl, isFiller_whole hfiller, h.ends, hpresent⟩
    rw [hline.logicalFrom_eq, Source.logicalFrom_filler (code_of_isFiller hfiller)]
  · simp only [not_or, not_not] at hpresent
    rw [hpresent.1, hpresent.2]
    rfl

theorem IsLine.logicalLines_inserted (h : IsLine front line behind)
    (hline : continued? (code line) = none) {filler : Line} (hfiller : isFiller filler = true) :
    logicalLines (front ++ (line ++ behind)) =
      logicalLines (front ++ (line ++ '\n' :: (filler ++ behind))) := by
  rw [h.logicalLines_eq, (isLine_newline h.starts h.whole _).logicalLines_eq, tail_lines_newline,
    logicalFrom_append [] _ hline (Text.lines behind).tail,
    logicalFrom_append [] _ hline (Text.lines (filler ++ behind)), h.logicalFrom_filler hfiller]

theorem IsLine.logicalLines_broken {p q : Line} (h : IsLine front (p ++ ' ' :: q) behind)
    (hbreak : isBreak p q = true) (hcomment : code q = [] → continued? (trim p) = none) :
    logicalLines (front ++ (p ++ ' ' :: q ++ behind)) =
      logicalLines (front ++ (p ++ " _".toList ++ '\n' :: (q ++ behind))) := by
  have hwhole := h.whole
  rw [List.mem_append, List.mem_cons, not_or, not_or] at hwhole
  have hfirst : '\n' ∉ p ++ " _".toList := by
    rw [List.mem_append, not_or]
    exact ⟨hwhole.1, by decide⟩
  have hq : q ≠ [] := by
    rintro rfl
    simp [isBreak] at hbreak
  have hsecond : IsLine [] q behind := ⟨rfl, hwhole.2.2, h.ends, Or.inl hq⟩
  rw [h.logicalLines_eq, (isLine_newline h.starts hfirst _).logicalLines_eq, tail_lines_newline]
  apply logicalFrom_append_congr
  intro pending
  rw [← logicalFrom_break hbreak hcomment]
  exact (logicalFrom_append_congr hsecond.logicalFrom_eq [p ++ " _".toList] pending).symm

theorem logicalLines_lastLine {spaces : List Char}
    (hfront : front.getLast?.all (· == '\n') = true) (hspaces : isSpacing spaces = true)
    (hremark : ∀ line ∈ logicalLines front, isRemark line = false) :
    logicalLines front = logicalLines (front ++ spaces) := by
  by_cases hne : spaces = []
  · rw [hne, List.append_nil]
  · have hedit : LineEdit [] spaces := .trail hspaces []
    have hline : IsLine front spaces [] :=
      ⟨hfront, hedit.whole List.not_mem_nil, Or.inl rfl, Or.inl hne⟩
    have hempty : logicalLines (front ++ spaces) = logicalFrom [] (Text.lines front ++ [[]]) := by
      rw [← List.append_nil spaces, hline.logicalLines_eq]
      apply logicalFrom_congr
      rw [List.map_append, List.map_append, List.map_cons, List.map_cons, hedit.code_eq]
      rfl
    rw [hempty, logicalLines]
    rcases logicalFrom_emptyLine [] (Text.lines front) with hsame | ⟨remark, hisRemark, hextra⟩
    · exact hsame
    · have hmem : remark ∈ logicalLines front := by
        rw [logicalLines, hextra]
        exact List.mem_append_right _ List.mem_cons_self
      rw [hremark remark hmem] at hisRemark
      contradiction

end

theorem Edit.logicalLines_eq {s t : List Char} (h : Edit s t) : logicalLines s = logicalLines t := by
  cases h with
  | line h hedit =>
    rw [h.logicalLines_eq, (h.edited hedit).logicalLines_eq]
    apply logicalFrom_congr
    rw [List.map_append, List.map_append, List.map_cons, List.map_cons, hedit.code_eq]
  | lastLine hfront hspaces hremark => exact logicalLines_lastLine hfront hspaces hremark
  | carriageReturn before behind => exact logicalLines_carriageReturn before behind
  | @insertFirst filler hfiller _ =>
    have hline : IsLine [] filler ('\n' :: s) := isLine_newline rfl (isFiller_whole hfiller) s
    have hlines := hline.logicalLines_eq
    rw [tail_lines_newline] at hlines
    exact (hlines.trans (logicalFrom_filler (code_of_isFiller hfiller) _)).symm
  | insertBehind h hline hfiller => exact h.logicalLines_inserted hline hfiller
  | breakLine h hbreak hcomment => exact h.logicalLines_broken hbreak hcomment

theorem logicalLines_edited {s t : List Char} (h : Relation.EqvGen Edit s t) :
    logicalLines s = logicalLines t := by
  induction h with
  | rel _ _ hedit => exact hedit.logicalLines_eq
  | refl _ => rfl
  | symm _ _ _ ih => exact ih.symm
  | trans _ _ _ _ _ ih ih' => exact ih.trans ih'

/-- After any number of edits, and of edits taken back, the same procedures are recognized. -/
theorem recognize_edited {s t : String} (h : Relation.EqvGen Edit s.toList t.toList) :
    recognize s = recognize t := by
  rw [recognize, recognize, logicalLines_edited h]

def tidied : String :=
  "Sub a_Click()\nMe.x = \"it's\"\nEnd Sub\n"

/-- A quote in a comment, an apostrophe in a string, and a comment where a line is broken off. -/
def laidOut : String :=
  "Sub a_Click()\n'\"\n\tMe.x = _ 'set\r\n\"it's\"\nEnd Sub\n"

theorem recognize_edited_laidOut :
    Relation.EqvGen Edit tidied.toList laidOut.toList ∧ recognize tidied = recognize laidOut := by
  have hwhole : IsLine "Sub a_Click()\n".toList ("Me.x =".toList ++ ' ' :: "\"it's\"".toList)
      "\nEnd Sub\n".toList :=
    ⟨by decide, by decide, Or.inr (Or.inl ⟨_, rfl⟩), Or.inr (by decide)⟩
  have hbroken : Edit tidied.toList "Sub a_Click()\nMe.x = _\n\"it's\"\nEnd Sub\n".toList := by
    simpa [tidied] using Edit.breakLine hwhole (by decide) (by decide)
  have hfirst : IsLine "Sub a_Click()\n".toList "Me.x = _".toList
      "\n\"it's\"\nEnd Sub\n".toList :=
    ⟨by decide, by decide, Or.inr (Or.inl ⟨_, rfl⟩), Or.inr (by decide)⟩
  have hcomment : LineEdit "Me.x = _".toList ("Me.x = _".toList ++ (" '".toList ++ "set".toList)) :=
    .comment (by decide) (by decide)
  have hcommented : Edit "Sub a_Click()\nMe.x = _\n\"it's\"\nEnd Sub\n".toList
      "Sub a_Click()\nMe.x = _ 'set\n\"it's\"\nEnd Sub\n".toList := by
    simpa using Edit.line hfirst hcomment
  have hindent : LineEdit "Me.x = _ 'set".toList (['\t'] ++ "Me.x = _ 'set".toList) :=
    .indent (by decide) _
  have hindented : Edit "Sub a_Click()\nMe.x = _ 'set\n\"it's\"\nEnd Sub\n".toList
      "Sub a_Click()\n\tMe.x = _ 'set\n\"it's\"\nEnd Sub\n".toList := by
    simpa using Edit.line (hfirst.edited hcomment) hindent
  have hreturned : Edit "Sub a_Click()\n\tMe.x = _ 'set\n\"it's\"\nEnd Sub\n".toList
      "Sub a_Click()\n\tMe.x = _ 'set\r\n\"it's\"\nEnd Sub\n".toList := by
    simpa using Edit.carriageReturn "Sub a_Click()\n\tMe.x = _ 'set".toList
      "\"it's\"\nEnd Sub\n".toList
  have hheader : IsLine [] "Sub a_Click()".toList
      "\n\tMe.x = _ 'set\r\n\"it's\"\nEnd Sub\n".toList :=
    ⟨by decide, by decide, Or.inr (Or.inl ⟨_, rfl⟩), Or.inr (by decide)⟩
  have hfiller : isFiller "'\"".toList = true := by decide
  have hinserted : Edit "Sub a_Click()\n\tMe.x = _ 'set\r\n\"it's\"\nEnd Sub\n".toList
      laidOut.toList := by
    simpa [laidOut] using Edit.insertBehind hheader (by decide) hfiller
  have hedits : Relation.EqvGen Edit tidied.toList laidOut.toList :=
    .trans _ _ _ (.rel _ _ hbroken) (.trans _ _ _ (.rel _ _ hcommented)
      (.trans _ _ _ (.rel _ _ hindented) (.trans _ _ _ (.rel _ _ hreturned) (.rel _ _ hinserted))))
  exact ⟨hedits, recognize_edited hedits⟩

/-- The layout shows where a comment is broken off behind a mark that continues its line. It also
shows, by a slip, where a source ends in a remark that goes on: left pending there, the remark is
taken for a statement. -/
theorem layout_shows :
    (isBreak "Me.x = _".toList "'why".toList = true ∧
      recognize "Sub a_Click()\nMe.x = _ 'why\n1\nEnd Sub\n" ≠
        recognize "Sub a_Click()\nMe.x = _ _\n'why\n1\nEnd Sub\n") ∧
      recognize "Sub a_Click()\nRem x _\n  " ≠ recognize "Sub a_Click()\nRem x _\n" := by
  have hheader : header? "Sub a_Click()".toList = some "a_Click".toList := by decide +kernel
  refine ⟨⟨by decide, ?_⟩, ?_⟩
  · have hjoined := recognize_wellNested "Sub a_Click()\nMe.x = _ 'why\n1\nEnd Sub\n"
      (.single "Me.x = 1".toList (by decide +kernel) .nil) (some "End Sub".toList)
      (by decide +kernel) hheader (by decide)
    have hbroken := recognize_wellNested "Sub a_Click()\nMe.x = _ _\n'why\n1\nEnd Sub\n"
      (.single "Me.x = _".toList (by decide +kernel) (.single "1".toList (by decide +kernel) .nil))
      (some "End Sub".toList) (by decide +kernel) hheader (by decide)
    rw [hjoined, hbroken]
    decide +kernel
  · have hblank := recognize_wellNested "Sub a_Click()\nRem x _\n  " .nil none (by decide +kernel)
      hheader (by decide)
    have hempty := recognize_wellNested "Sub a_Click()\nRem x _\n"
      (.single "Rem x".toList (by decide +kernel) .nil) none (by decide +kernel) hheader (by decide)
    rw [hblank, hempty]
    decide +kernel

end FormScript.Source
