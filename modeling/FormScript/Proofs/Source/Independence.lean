import FormScript.Proofs.Source.Reading
import Mathlib.Data.List.TakeWhile

/-! Procedures are recognized one by one. Whatever is left open or never opened inside a procedure,
its reading ends at the first line that ends a procedure, so that nothing of what stands behind that
line has a part in it. -/
namespace FormScript.Source

open Text

def fromEnd (lines : List Line) : List Line :=
  lines.dropWhile fun line => shape line != .endSub

theorem fromEnd_cons {line : Line} (h : shape line ≠ .endSub) (rest : List Line) :
    fromEnd (line :: rest) = fromEnd rest :=
  List.dropWhile_cons_of_pos (by simpa using h)

theorem fromEnd_ne_nil_iff {lines : List Line} :
    fromEnd lines ≠ [] ↔ ∃ line ∈ lines, shape line = .endSub := by
  simp [fromEnd, List.dropWhile_eq_nil_iff]

theorem fromEnd_skipConditional (depth : Nat) (lines : List Line) :
    fromEnd (skipConditional depth lines) = fromEnd lines := by
  fun_induction skipConditional depth lines with
  | case1 depth => rfl
  | case2 depth line rest condition hs ih => rw [ih, fromEnd_cons (by simp [hs])]
  | case3 line rest hs => rw [fromEnd_cons (by simp [hs])]
  | case4 line rest hs depth ih => rw [ih, fromEnd_cons (by simp [hs])]
  | case5 depth line rest hs => rfl
  | case6 depth line rest hif hendIf hendSub ih => rw [ih, fromEnd_cons hendSub]

theorem fromEnd_resume (lines : List Line) : fromEnd (resume lines) = fromEnd lines := by
  cases lines with
  | nil => rfl
  | cons last rest =>
    rw [resume]
    split
    · rfl
    · rename_i hs
      rw [fromEnd_skipConditional, fromEnd_cons hs]

theorem Reads.fromEnd_eq {lines after : List Line} {items : List Item}
    (h : Reads lines items after) : fromEnd after = fromEnd lines := by
  induction h with
  | nil => rfl
  | stop rest hends => rfl
  | declaration hs _ ih => rw [ih, fromEnd_cons (by simp [hs])]
  | plain hs _ ih => rw [ih, fromEnd_cons (by simp [hs])]
  | ifLine hs _ ih => rw [ih, fromEnd_cons (by simp [hs])]
  | oneArm hs _ hlast _ ihthen ih =>
    rw [ih, fromEnd_cons (by simp [hs]), ← ihthen, fromEnd_cons (by simp [hlast])]
  | twoArms hs _ hlast _ hlast' _ ihthen ihelse ih =>
    rw [ih, fromEnd_cons (by simp [hs]), ← ihthen, fromEnd_cons (by simp [hlast]), ← ihelse,
      fromEnd_cons (by simp [hlast'])]
  | lost hs _ _ _ ihthen ih => rw [ih, fromEnd_resume, ihthen, fromEnd_cons (by simp [hs])]
  | lostElse hs _ hlast _ _ _ ihthen ihelse ih =>
    rw [ih, fromEnd_resume, ihelse, fromEnd_cons (by simp [hs]), ← ihthen,
      fromEnd_cons (by simp [hlast])]

theorem skipConditional_append (depth : Nat) {lines : List Line} (h : fromEnd lines ≠ [])
    (more : List Line) :
    skipConditional depth (lines ++ more) = skipConditional depth lines ++ more := by
  fun_induction skipConditional depth lines with
  | case1 depth => exact absurd rfl h
  | case2 depth line rest condition hs ih =>
    rw [fromEnd_cons (by simp [hs])] at h
    simpa only [List.cons_append, skipConditional, hs] using ih h
  | case3 line rest hs => simp only [List.cons_append, skipConditional, hs]
  | case4 line rest hs depth ih =>
    rw [fromEnd_cons (by simp [hs])] at h
    simpa only [List.cons_append, skipConditional, hs] using ih h
  | case5 depth line rest hs => simp only [List.cons_append, skipConditional, hs]
  | case6 depth line rest hif hendIf hendSub ih =>
    rw [fromEnd_cons hendSub] at h
    simpa only [List.cons_append, skipConditional] using ih h

theorem resume_append {lines : List Line} (h : fromEnd lines ≠ []) (more : List Line) :
    resume (lines ++ more) = resume lines ++ more := by
  cases lines with
  | nil => exact absurd rfl h
  | cons last rest =>
    rw [List.cons_append, resume, resume]
    split
    · rfl
    · rename_i hs
      rw [fromEnd_cons hs] at h
      exact skipConditional_append 0 h more

theorem head?_append_of_fromEnd {lines : List Line} (h : fromEnd lines ≠ []) (more : List Line) :
    (lines ++ more).head? = lines.head? := by
  cases lines with
  | nil => exact absurd rfl h
  | cons line rest => rfl

theorem Reads.append {lines after : List Line} {items : List Item} (h : Reads lines items after)
    (hend : fromEnd lines ≠ []) (more : List Line) :
    Reads (lines ++ more) items (after ++ more) := by
  induction h with
  | nil => exact absurd rfl hend
  | stop rest hends => exact .stop (rest ++ more) hends
  | declaration hs _ ih =>
    rw [fromEnd_cons (by simp [hs])] at hend
    exact .declaration hs (ih hend)
  | plain hs _ ih =>
    rw [fromEnd_cons (by simp [hs])] at hend
    exact .plain hs (ih hend)
  | ifLine hs _ ih =>
    rw [fromEnd_cons (by simp [hs])] at hend
    exact .ifLine hs (ih hend)
  | oneArm hs hthen hlast _ ihthen ih =>
    rw [fromEnd_cons (by simp [hs])] at hend
    have hmid := hthen.fromEnd_eq
    rw [fromEnd_cons (by simp [hlast])] at hmid
    exact .oneArm hs (ihthen hend) hlast (ih (hmid ▸ hend))
  | twoArms hs hthen hlast helse hlast' _ ihthen ihelse ih =>
    rw [fromEnd_cons (by simp [hs])] at hend
    have hmid := hthen.fromEnd_eq
    rw [fromEnd_cons (by simp [hlast])] at hmid
    have hmid' := helse.fromEnd_eq
    rw [fromEnd_cons (by simp [hlast']), hmid] at hmid'
    exact .twoArms hs (ihthen hend) hlast (ihelse (hmid ▸ hend)) hlast' (ih (hmid' ▸ hend))
  | @lost line condition rest mid after thenItems items hs hthen hlast _ ihthen ih =>
    rw [fromEnd_cons (by simp [hs])] at hend
    have hmid : fromEnd mid ≠ [] := hthen.fromEnd_eq ▸ hend
    refine .lost hs (ihthen hend) ?_ ?_
    · rwa [head?_append_of_fromEnd hmid]
    · rw [resume_append hmid]
      exact ih (by rwa [fromEnd_resume])
  | @lostElse line condition last rest mid mid' after thenItems elseItems items hs hthen hlast helse
      hlast' _ ihthen ihelse ih =>
    rw [fromEnd_cons (by simp [hs])] at hend
    have hmid := hthen.fromEnd_eq
    rw [fromEnd_cons (by simp [hlast])] at hmid
    have hmid' : fromEnd mid' ≠ [] := helse.fromEnd_eq ▸ hmid ▸ hend
    refine .lostElse hs (ihthen hend) hlast (ihelse (hmid ▸ hend)) ?_ ?_
    · rwa [head?_append_of_fromEnd hmid']
    · rw [resume_append hmid']
      exact ih (by rwa [fromEnd_resume])

def endsBody (lines : List Line) : Bool :=
  let ⟨(_, after), h⟩ := block lines
  match after with
  | [] => false
  | last :: rest =>
    have : rest.length + 1 ≤ lines.length := h
    shape last = .endSub || endsBody rest
termination_by lines.length
decreasing_by omega

theorem endsBody_eq (lines : List Line) :
    endsBody lines =
      match (block lines).val.2 with
      | [] => false
      | last :: rest => shape last = .endSub || endsBody rest := by
  rw [endsBody]
  rcases block lines with ⟨⟨items, _ | ⟨last, rest⟩⟩, hle⟩ <;> rfl

/-- Unbalanced conditionals do not keep a procedure from its end, nor does anything else. -/
theorem endsBody_iff (lines : List Line) : endsBody lines = true ↔ fromEnd lines ≠ [] := by
  rw [endsBody_eq]
  rw [← (reads_block lines).fromEnd_eq]
  split
  · rename_i hafter
    simp [hafter, fromEnd]
  · rename_i last rest hafter
    have hle : rest.length + 1 ≤ lines.length := by
      simpa [hafter] using (block lines).property
    rw [hafter]
    by_cases hs : shape last = .endSub
    · simp [hs, fromEnd_ne_nil_iff]
    · rw [fromEnd_cons hs, ← endsBody_iff rest]
      simp [hs]
termination_by lines.length
decreasing_by omega

theorem body_append {lines : List Line} (h : fromEnd lines ≠ []) (more : List Line) :
    (body (lines ++ more)).val = ((body lines).val.1, (body lines).val.2 ++ more) := by
  have hreads := reads_block lines
  rw [body_eq, (hreads.append h more).block_eq, body_eq]
  rcases hblock : (block lines).val with ⟨items, _ | ⟨last, rest⟩⟩
  · rw [hblock] at hreads
    exact absurd hreads.fromEnd_eq.symm h
  · have hle : rest.length + 1 ≤ lines.length := by
      simpa [hblock] using (block lines).property
    rw [hblock] at hreads
    by_cases hs : shape last = .endSub
    · simp [hs]
    · have hrest : fromEnd rest ≠ [] := by
        rwa [← hreads.fromEnd_eq, fromEnd_cons hs] at h
      simp [hs, body_append hrest more]
termination_by lines.length
decreasing_by omega

def allEnded (lines : List Line) : Bool :=
  match lines with
  | [] => true
  | line :: rest =>
    match header? line with
    | none => allEnded rest
    | some _ =>
      have : (body rest).val.2.length ≤ rest.length := (body rest).property
      endsBody rest && allEnded (body rest).val.2
termination_by lines.length
decreasing_by
  all_goals simp only [List.length_cons]; omega

theorem procedures_append {lines : List Line} (h : allEnded lines = true) (more : List Line) :
    procedures (lines ++ more) = procedures lines ++ procedures more := by
  fun_induction allEnded lines with
  | case1 => simp [procedures]
  | case2 line rest hheader ih =>
    rw [List.cons_append, procedures_outside hheader, procedures_outside hheader, ih h]
  | case3 line rest chars hheader hle ih =>
    rw [Bool.and_eq_true, endsBody_iff] at h
    have hbody := body_append h.1 more
    rw [List.cons_append, procedures_header hheader, procedures_header hheader, hbody, ih h.2]
    rfl

theorem trim_concat {c : Char} (hc : isBlank c = true) (cs : List Char) :
    trim (cs ++ [c]) = trim cs := by
  have hend (xs : List Char) : trimEnd (xs ++ [c]) = trimEnd xs := by
    simp [trimEnd, hc]
  unfold trim trimStart
  rw [List.dropWhile_append]
  split
  · rename_i hempty
    rw [List.isEmpty_iff.mp hempty, List.dropWhile_cons_of_pos hc]
    rfl
  · exact hend _

theorem stripComment_concat {c : Char} (hquote : c ≠ '"') (hmark : c.toNat ≠ 39) (inString : Bool)
    (cs : Line) :
    stripComment inString (cs ++ [c]) = stripComment inString cs ∨
      stripComment inString (cs ++ [c]) = stripComment inString cs ++ [c] := by
  induction cs generalizing inString with
  | nil => exact Or.inr (by simp [stripComment, hquote, hmark])
  | cons d cs ih =>
    simp only [List.cons_append, stripComment]
    split
    · rcases ih (!inString) with h | h <;> simp [h]
    split
    · exact Or.inl rfl
    · rcases ih inString with h | h <;> simp [h]

theorem trim_stripComment_dropReturn (raw : Line) :
    trim (stripComment false (dropReturn raw)) = trim (stripComment false raw) := by
  unfold dropReturn
  split
  · rename_i hlast
    obtain ⟨cs, rfl⟩ := List.getLast?_eq_some_iff.mp hlast
    rw [List.dropLast_concat]
    rcases stripComment_concat (c := '\r') (by decide) (by decide) false cs with h | h
    · rw [h]
    · rw [h, trim_concat (by decide)]
  · rfl

theorem logicalFrom_append (pending : Line) (before : List Line) {raw : Line}
    (h : continued? (trim (stripComment false raw)) = none) (more : List Line) :
    logicalFrom pending (before ++ raw :: more) =
      logicalFrom pending (before ++ [raw]) ++ logicalFrom [] more := by
  induction before generalizing pending with
  | nil =>
    simp only [List.nil_append, logicalFrom, h]
    split <;> simp [trim, trimStart, trimEnd]
  | cons first before ih =>
    simp only [List.cons_append, logicalFrom]
    split
    · exact ih _
    · split
      · exact ih _
      · rw [ih, List.cons_append]

theorem logicalFrom_dropReturn (pending : Line) (before : List Line) (raw : Line) :
    logicalFrom pending (before ++ [dropReturn raw]) = logicalFrom pending (before ++ [raw]) := by
  induction before generalizing pending with
  | nil => simp only [List.nil_append, logicalFrom, trim_stripComment_dropReturn]
  | cons first before ih => simp only [List.cons_append, logicalFrom, ih]

/-- An empty line at the end ends what was to be continued, and so does the end itself; only a
remark is left there. -/
theorem logicalFrom_emptyLine (pending : Line) (before : List Line) :
    logicalFrom pending before = logicalFrom pending (before ++ [[]]) ∨
      ∃ remark, isRemark remark = true ∧
        logicalFrom pending before = logicalFrom pending (before ++ [[]]) ++ [remark] := by
  induction before generalizing pending with
  | nil =>
    have hline : logicalFrom pending [[]] =
        if (trim pending).isEmpty || isRemark (trim pending) then [] else [trim pending] := by
      have hempty : trim (stripComment false []) = [] := rfl
      have hcontinued : continued? [] = none := rfl
      simp only [logicalFrom, hempty, hcontinued, List.append_nil]
      rfl
    rw [List.nil_append, hline, logicalFrom]
    by_cases hblank : (trim pending).isEmpty = true
    · exact Or.inl (by simp only [hblank, Bool.true_or])
    by_cases hremark : isRemark (trim pending) = true
    · refine Or.inr ⟨trim pending, hremark, ?_⟩
      rw [if_neg hblank, hremark, Bool.or_true, if_pos rfl, List.nil_append]
    · rw [Bool.not_eq_true] at hremark
      exact Or.inl (by rw [hremark, Bool.or_false])
  | cons first before ih =>
    simp only [List.cons_append, logicalFrom]
    split
    · exact ih _
    · split
      · exact ih _
      · rcases ih [] with h | ⟨remark, hremark, h⟩
        · exact Or.inl (by rw [h])
        · exact Or.inr ⟨remark, hremark, by rw [h, List.cons_append]⟩

/-- Whether the last line of a text goes on in a next one. A text that ends in a line feed has an
empty last line. -/
def endsContinued (source : List Char) : Bool :=
  (source.splitOnP (· == '\n')).getLast?.any fun line =>
    (continued? (trim (stripComment false line))).isSome

/-- The logical lines of two texts put together are those of both, but that a remark which would
have gone on at the end of the first is one no more. -/
theorem logicalLines_append {s : List Char} (h : endsContinued s = false) (t : List Char) :
    ∃ before, logicalLines (s ++ '\n' :: t) = before ++ logicalLines t ∧
      (logicalLines s = before ∨
        ∃ remark, isRemark remark = true ∧ logicalLines s = before ++ [remark]) := by
  obtain ⟨pieces, last, hpieces, hlines⟩ := exists_pieces s
  have hlast : continued? (trim (stripComment false (dropReturn last))) = none := by
    simpa [endsContinued, hpieces, trim_stripComment_dropReturn] using h
  refine ⟨logicalFrom [] (pieces.map dropReturn ++ [dropReturn last]), ?_, ?_⟩
  · rw [logicalLines, lines_append, hpieces, List.map_append, List.append_assoc]
    exact logicalFrom_append [] _ hlast _
  · rw [logicalLines, hlines, logicalFrom_dropReturn]
    by_cases hempty : last = []
    · subst hempty
      simpa using logicalFrom_emptyLine [] (pieces.map dropReturn)
    · exact Or.inl (by simp [hempty])

theorem ifLine?_ne_endSub (line : Line) : ifLine? line ≠ some .endSub := by
  intro h
  obtain ⟨cs, -, h⟩ := Option.bind_eq_some_iff.mp h
  obtain ⟨rest, -, h⟩ := Option.bind_eq_some_iff.mp h
  split at h
  · cases h
  · obtain ⟨statements, -, h⟩ := Option.bind_eq_some_iff.mp h
    split at h <;> cases h

theorem isEndSub_of_shape {line : Line} (h : shape line = .endSub) : isEndSub line = true := by
  by_contra hend
  rw [shape, if_neg hend] at h
  repeat' split at h
  any_goals contradiction
  cases hif : ifLine? line with
  | none => simp [hif] at h
  | some found =>
    rw [hif, Option.getD_some] at h
    exact ifLine?_ne_endSub line (h ▸ hif)

theorem after_eq_none {word : String} {c : Char}
    (h : word.toList.head?.any (· != foldCase c) = true) (cs : Line) :
    after word (c :: cs) = none := by
  obtain ⟨w, hw, hne⟩ := (Option.any_eq_true _ _).mp h
  obtain ⟨ws, hws⟩ := List.head?_eq_some_iff.mp hw
  rw [after, hws, afterChars, if_neg (Ne.symm (bne_iff_ne.mp hne))]

theorem afterAny_eq_none {words : List String} {c : Char}
    (h : ∀ word ∈ words, word.toList.head?.any (· != foldCase c) = true) (cs : Line) :
    afterAny words (c :: cs) = none :=
  List.findSome?_eq_none_iff.mpr fun word hword => after_eq_none (h word hword) cs

theorem foldCase_of_isRemark {line : Line} (h : isRemark line = true) :
    ∃ c cs, line = c :: cs ∧ foldCase c = 'r' := by
  cases line with
  | nil => exact absurd h (by decide)
  | cons c cs =>
    have hc : c.toLower = 'r' := by
      simp only [isRemark, Bool.or_eq_true, beq_iff_eq, List.take_succ_cons, List.map_cons] at h
      rcases h with h | h <;> exact (List.cons.inj h).1
    refine ⟨c, cs, rfl, ?_⟩
    have hne {n : Nat} (hn : (Char.ofNat n).toLower ≠ 'r') : c.toNat ≠ n := by
      rintro rfl
      exact hn (by rwa [Char.ofNat_toNat])
    rw [foldCase, if_neg (hne (by decide)), if_neg (hne (by decide)), hc]

theorem header?_of_isRemark {line : Line} (h : isRemark line = true) : header? line = none := by
  obtain ⟨c, cs, rfl, hc⟩ := foldCase_of_isRemark h
  have hscope : afterAny ["public", "private", "friend"] (c :: cs) = none :=
    afterAny_eq_none (by rw [hc]; decide) cs
  have hstatic : after "static" (c :: cs) = none := after_eq_none (by rw [hc]; decide) cs
  have hkind : afterAny ["sub", "function"] (c :: cs) = none :=
    afterAny_eq_none (by rw [hc]; decide) cs
  simp only [header?, optionally, hscope, hstatic, hkind, Option.bind_none, Option.getD_none]
  rfl

theorem shape_of_isRemark {line : Line} (h : isRemark line = true) : shape line ≠ .endSub := by
  obtain ⟨c, cs, rfl, hc⟩ := foldCase_of_isRemark h
  intro hs
  have hend := isEndSub_of_shape hs
  rw [isEndSub, after_eq_none (by rw [hc]; decide) cs] at hend
  contradiction

theorem allEnded_of_concat {lines : List Line} {line : Line} (hs : shape line ≠ .endSub)
    (h : allEnded (lines ++ [line]) = true) : allEnded lines = true := by
  fun_induction allEnded lines with
  | case1 => rfl
  | case2 first rest hheader ih =>
    rw [List.cons_append, allEnded] at h
    simp only [hheader] at h
    exact ih h
  | case3 first rest chars hheader hle ih =>
    rw [List.cons_append, allEnded] at h
    simp only [hheader, Bool.and_eq_true, endsBody_iff] at h
    have hend : fromEnd rest ≠ [] := by
      obtain ⟨last, hlast, hshape⟩ := fromEnd_ne_nil_iff.mp h.1
      rcases List.mem_append.mp hlast with hmem | hmem
      · exact fromEnd_ne_nil_iff.mpr ⟨last, hmem, hshape⟩
      · exact absurd hshape (List.mem_singleton.mp hmem ▸ hs)
    rw [body_append hend] at h
    rw [Bool.and_eq_true, endsBody_iff]
    exact ⟨hend, ih h.2⟩

/-- Of two texts one after the other each gives its own procedures, if every procedure that the
first one opens is ended in it; its conditionals need not be balanced. -/
theorem recognize_append {s t : String} (hlast : endsContinued s.toList = false)
    (hended : allEnded (logicalLines s.toList) = true) :
    recognize (s ++ "\n" ++ t) = recognize s ++ recognize t := by
  obtain ⟨before, hlines, hbefore⟩ := logicalLines_append hlast t.toList
  have htext : (s ++ "\n" ++ t).toList = s.toList ++ '\n' :: t.toList := by simp
  rw [recognize, htext, hlines, recognize, recognize]
  rcases hbefore with rfl | ⟨remark, hremark, hs⟩
  · exact procedures_append hended _
  · rw [hs] at hended ⊢
    have hbefore := allEnded_of_concat (shape_of_isRemark hremark) hended
    have hnone : procedures [remark] = [] := by
      rw [procedures_outside (header?_of_isRemark hremark), procedures]
    rw [procedures_append hbefore, procedures_append hbefore, hnone, List.append_nil]

def unbalanced : String :=
  "Sub Open_Load()\r\nEnd If\nIf x Then\nElse\nIf y Then\nEnd Function ' all _"

def balanced : String :=
  "End If\nPrivate Sub btnSave_Click()\nDoCmd.Close\nEnd Sub"

theorem recognize_append_unbalanced :
    endsContinued unbalanced.toList = false ∧ allEnded (logicalLines unbalanced.toList) = true ∧
      recognize (unbalanced ++ "\n" ++ balanced) = recognize unbalanced ++ recognize balanced := by
  have hlast : endsContinued unbalanced.toList = false := by decide +kernel
  have hended : allEnded (logicalLines unbalanced.toList) = true := by decide +kernel
  exact ⟨hlast, hended, recognize_append hlast hended⟩

end FormScript.Source
