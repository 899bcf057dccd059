import FormScript.Proofs.Script.Faithful

/-! What a gap says stays in comments. Scripts whose trees differ in nothing but what their gaps say
have the same lines of code, as long as what stands on the first line of a gap's comment has no line
feed in it; what follows such a line feed is a line of its own. -/
namespace FormScript

open Text

def codeLines (source : String) : List String :=
  (textLines source).filter (!Emission.isComment ·)

namespace Script

/-- The code that a written line comes to, which is more than one line where there are line feeds in
it. -/
def codeIn (line : String) : List String :=
  ((line.toList.splitOnP (· == '\n')).map fun piece => String.ofList (dropReturn piece)).filter
    (!Emission.isComment ·)

theorem codeLines_unlines (lines : List String) :
    codeLines (String.ofList (unlines lines)) = lines.flatMap codeIn := by
  unfold codeLines textLines
  rw [String.toList_ofList]
  induction lines with
  | nil => rfl
  | cons line rest ih =>
    have hsplit : unlines (line :: rest) = line.toList ++ '\n' :: unlines rest := by
      simp [unlines]
    rw [hsplit, lines_append, List.map_append, List.filter_append, ih, List.flatMap_cons, codeIn,
      List.map_map]
    rfl

/-- A line that begins as a comment, whatever it holds. -/
def Marked (line : String) : Prop :=
  ∃ n rest, line.toList = List.replicate n ' ' ++ ';' :: ';' :: rest

theorem trimStart_spaces (n : Nat) (cs : List Char) :
    trimStart (List.replicate n ' ' ++ cs) = trimStart cs := by
  have hblank : isBlank ' ' = true := by decide
  induction n with
  | zero => rfl
  | succ n ih =>
    rw [List.replicate_succ, List.cons_append, trimStart, List.dropWhile_cons_of_pos hblank]
    exact ih

theorem isComment_spaces {line : String} {n : Nat} {rest : List Char}
    (h : line.toList = List.replicate n ' ' ++ ';' :: ';' :: rest) :
    Emission.isComment line = true := by
  have hmark : ¬isBlank ';' = true := by decide
  rw [Emission.isComment, h, trimStart_spaces, trimStart, List.dropWhile_cons_of_neg hmark]
  rfl

theorem dropReturn_marked (n : Nat) (cs : List Char) :
    ∃ rest, dropReturn (List.replicate n ' ' ++ ';' :: ';' :: cs) =
      List.replicate n ' ' ++ ';' :: ';' :: rest := by
  rcases List.eq_nil_or_concat' cs with rfl | ⟨before, last, rfl⟩
  · refine ⟨[], ?_⟩
    simp [dropReturn]
  · unfold dropReturn
    split
    · refine ⟨before, ?_⟩
      rw [← List.cons_append, ← List.cons_append, ← List.append_assoc, List.dropLast_concat]
    · exact ⟨before ++ [last], rfl⟩

theorem splitOnP_of_not_mem {p : Char → Bool} {before rest first : List Char}
    {pieces : List (List Char)} (h : ∀ c ∈ before, p c = false)
    (hrest : rest.splitOnP p = first :: pieces) :
    (before ++ rest).splitOnP p = (before ++ first) :: pieces := by
  induction before with
  | nil => exact hrest
  | cons c before ih =>
    obtain ⟨hc, hbefore⟩ := List.forall_mem_cons.mp h
    rw [List.cons_append, List.splitOnP_cons_eq_if_modifyHead, ih hbefore, hc]
    rfl

theorem codeIn_marked {line : String} {n : Nat} {rest first : List Char}
    {pieces : List (List Char)} (h : line.toList = List.replicate n ' ' ++ ';' :: ';' :: rest)
    (hrest : rest.splitOnP (· == '\n') = first :: pieces) :
    codeIn line = (pieces.map fun piece => String.ofList (dropReturn piece)).filter
      (!Emission.isComment ·) := by
  have hbefore : ∀ c ∈ List.replicate n ' ' ++ [';', ';'], (c == '\n') = false := by
    intro c hc
    rcases List.mem_append.mp hc with hspace | hmark
    · rw [(List.mem_replicate.mp hspace).2]
      rfl
    · have hmark : c = ';' := by simpa using hmark
      rw [hmark]
      rfl
  have hsplit : line.toList.splitOnP (· == '\n') =
      (List.replicate n ' ' ++ ';' :: ';' :: first) :: pieces := by
    have hsplit := splitOnP_of_not_mem hbefore hrest
    simpa [h] using hsplit
  obtain ⟨cut, hcut⟩ := dropReturn_marked n first
  have hcomment : Emission.isComment (String.ofList (dropReturn
      (List.replicate n ' ' ++ ';' :: ';' :: first))) = true :=
    isComment_spaces (by rw [String.toList_ofList, hcut])
  rw [codeIn, hsplit, List.map_cons, List.filter_cons_of_neg (by simp [hcomment])]

namespace Marked

variable {line : String} (h : Marked line)

include h

theorem isComment : Emission.isComment line = true := by
  obtain ⟨n, rest, h⟩ := h
  exact isComment_spaces h

theorem indent : Marked ("  " ++ line) := by
  obtain ⟨n, rest, h⟩ := h
  exact ⟨n + 2, rest, by simp [h, List.replicate_succ]⟩

theorem codeIn_indent : codeIn ("  " ++ line) = codeIn line := by
  obtain ⟨n, rest, h⟩ := h
  obtain ⟨first, pieces, hrest⟩ := List.exists_cons_of_ne_nil
    (List.splitOnP_ne_nil (· == '\n') rest)
  have hindent : ("  " ++ line).toList = List.replicate (n + 2) ' ' ++ ';' :: ';' :: rest := by
    simp [h, List.replicate_succ]
  rw [codeIn_marked h hrest, codeIn_marked hindent hrest]

end Marked

theorem codeIn_commentLine {line : String} (h : CommentLine line) : codeIn line = [] := by
  obtain ⟨rest, hline, hrest⟩ := h
  have hsplit : rest.splitOnP (· == '\n') = [rest] :=
    List.splitOnP_eq_singleton fun c hc => by
      rw [beq_eq_false_iff_ne]
      rintro rfl
      exact hrest hc
  exact codeIn_marked (n := 0) hline hsplit

/-- `Like n a b`: `a` and `b` are the same but for the comments of gaps, which are at the same
places. Those of `b` hold no code, those of `a` hold `n` lines of it. -/
inductive Like : Nat → List String → List String → Prop
  | nil : Like 0 [] []
  | same (line : String) {n : Nat} {a b : List String} (h : Like n a b) :
    Like n (line :: a) (line :: b)
  | gap {c c' : List String} (hne : c ≠ []) (hne' : c' ≠ []) (hc : ∀ line ∈ c, Marked line)
    (hc' : ∀ line ∈ c', Marked line) (hcode : c'.flatMap codeIn = []) {n : Nat}
    {a b : List String} (h : Like n a b) :
    Like ((c.flatMap codeIn).length + n) (c ++ a) (c' ++ b)

inductive Likes : Nat → List (List String) → List (List String) → Prop
  | nil : Likes 0 [] []
  | cons {n k : Nat} {a b : List String} {as bs : List (List String)} (h : Like n a b)
    (hrest : Likes k as bs) : Likes (n + k) (a :: as) (b :: bs)

theorem close_append {lines : List String} (h : lines ≠ []) (before : List String) :
    Emission.close (before ++ lines) = before ++ Emission.close lines := by
  rcases List.eq_nil_or_concat' lines with rfl | ⟨init, last, rfl⟩
  · exact absurd rfl h
  rw [← List.append_assoc]
  by_cases hcomment : Emission.isComment last = true
  · rw [close_comment _ hcomment, close_comment _ hcomment]
    simp only [List.append_assoc]
  · rw [Bool.not_eq_true] at hcomment
    rw [close_code _ hcomment, close_code _ hcomment, List.append_assoc]

theorem close_marked {lines : List String} (hne : lines ≠ []) (h : ∀ line ∈ lines, Marked line) :
    Emission.close lines = lines ++ [")"] := by
  rcases List.eq_nil_or_concat' lines with rfl | ⟨before, last, rfl⟩
  · exact absurd rfl hne
  exact close_comment before (h last (by simp)).isComment

theorem flatMap_codeIn_indent {lines : List String} (h : ∀ line ∈ lines, Marked line) :
    (Emission.indent lines).flatMap codeIn = lines.flatMap codeIn := by
  rw [Emission.indent, List.flatMap_map]
  apply List.flatMap_congr
  intro line hline
  exact (h line hline).codeIn_indent

theorem marked_of_mem_indent {lines : List String} (h : ∀ line ∈ lines, Marked line) :
    ∀ line ∈ Emission.indent lines, Marked line := by
  intro line hline
  obtain ⟨l, hl, rfl⟩ := List.mem_map.mp hline
  exact (h l hl).indent

namespace Like

theorem refl (lines : List String) : Like 0 lines lines := by
  induction lines with
  | nil => exact nil
  | cons line rest ih => exact same line ih

theorem append {n k : Nat} {a b c d : List String} (h : Like n a b) (h' : Like k c d) :
    Like (n + k) (a ++ c) (b ++ d) := by
  induction h with
  | nil => simpa using h'
  | same line _ ih => exact same line ih
  | gap hne hne' hc hc' hcode _ ih =>
    rw [List.append_assoc, List.append_assoc, Nat.add_assoc]
    exact gap hne hne' hc hc' hcode ih

theorem of_nil {n : Nat} {b : List String} (h : Like n [] b) : n = 0 ∧ b = [] := by
  generalize ha : ([] : List String) = a at h
  cases h with
  | nil => exact ⟨rfl, rfl⟩
  | same line _ => contradiction
  | gap hne _ _ _ _ _ =>
    rw [eq_comm, List.append_eq_nil_iff] at ha
    exact absurd ha.1 hne

theorem ne_nil {n : Nat} {a b : List String} (h : Like n a b) (ha : a ≠ []) : b ≠ [] := by
  cases h with
  | nil => exact absurd rfl ha
  | same line _ => exact List.cons_ne_nil _ _
  | gap _ hne' _ _ _ _ => simp [hne']

theorem indent {n : Nat} {a b : List String} (h : Like n a b) :
    Like n (Emission.indent a) (Emission.indent b) := by
  induction h with
  | nil => exact nil
  | same line _ ih => exact same _ ih
  | @gap c c' hne hne' hc hc' hcode n a b _ ih =>
    have hlines {lines : List String} (h : lines ≠ []) : Emission.indent lines ≠ [] := by
      simpa [Emission.indent] using h
    have hcode' := (flatMap_codeIn_indent hc').trans hcode
    have hgap := gap (hlines hne) (hlines hne') (marked_of_mem_indent hc)
      (marked_of_mem_indent hc') hcode' ih
    rw [flatMap_codeIn_indent hc] at hgap
    simpa [Emission.indent] using hgap

theorem close {n : Nat} {a b : List String} (h : Like n a b) :
    Like n (Emission.close a) (Emission.close b) := by
  induction h with
  | nil => exact refl _
  | @same line n a b h ih =>
    by_cases ha : a = []
    · subst ha
      obtain ⟨rfl, rfl⟩ := h.of_nil
      exact refl _
    · have hb := h.ne_nil ha
      rw [← List.singleton_append, ← List.singleton_append (l := b), close_append ha, close_append hb]
      exact same line ih
  | @gap c c' hne hne' hc hc' hcode n a b h ih =>
    by_cases ha : a = []
    · subst ha
      obtain ⟨rfl, rfl⟩ := h.of_nil
      rw [List.append_nil, List.append_nil, close_marked hne hc, close_marked hne' hc']
      exact gap hne hne' hc hc' hcode (refl _)
    · rw [close_append ha, close_append (h.ne_nil ha)]
      exact gap hne hne' hc hc' hcode ih

theorem all_isComment {n : Nat} {a b : List String} (h : Like n a b) :
    a.all Emission.isComment = b.all Emission.isComment := by
  induction h with
  | nil => rfl
  | same line _ ih => rw [List.all_cons, List.all_cons, ih]
  | gap _ _ hc hc' _ _ ih =>
    have hall {lines : List String} (h : ∀ line ∈ lines, Marked line) :
        lines.all Emission.isComment = true :=
      List.all_eq_true.mpr fun line hline => (h line hline).isComment
    rw [List.all_append, List.all_append, hall hc, hall hc', ih]

theorem code {n : Nat} {a b : List String} (h : Like n a b) :
    (b.flatMap codeIn).Sublist (a.flatMap codeIn) ∧
      (a.flatMap codeIn).length = (b.flatMap codeIn).length + n := by
  induction h with
  | nil => exact ⟨.refl _, rfl⟩
  | same line _ ih =>
    rw [List.flatMap_cons, List.flatMap_cons, List.length_append, List.length_append]
    refine ⟨(List.Sublist.refl _).append ih.1, ?_⟩
    omega
  | gap _ _ _ _ hcode _ ih =>
    rw [List.flatMap_append, List.flatMap_append, hcode, List.nil_append, List.length_append]
    refine ⟨List.sublist_append_of_sublist_right ih.1, ?_⟩
    omega

theorem code_eq_iff {n : Nat} {a b : List String} (h : Like n a b) :
    a.flatMap codeIn = b.flatMap codeIn ↔ n = 0 := by
  obtain ⟨hsub, hlength⟩ := h.code
  constructor
  · intro heq
    rw [heq] at hlength
    omega
  · rintro rfl
    exact (hsub.eq_of_length hlength.symm).symm

end Like

namespace Likes

variable {n : Nat} {as bs : List (List String)}

theorem isEmpty_eq (h : Likes n as bs) : as.isEmpty = bs.isEmpty := by
  cases h <;> rfl

theorem form (h : Likes n as bs) (head : String) :
    Like n (Emission.form head as) (Emission.form head bs) := by
  have hbody : Like n (as.flatMap Emission.indent) (bs.flatMap Emission.indent) := by
    induction h with
    | nil => exact .nil
    | cons h _ ih => exact h.indent.append ih
  exact (Like.same head hbody).close

theorem arm (h : Likes n as bs) : Like n (Emission.arm as) (Emission.arm bs) := by
  have hdo := h.form "(do"
  cases h with
  | nil => exact hdo
  | cons h hrest =>
    cases hrest with
    | nil =>
      rw [Emission.arm, Emission.arm, h.all_isComment]
      split
      · exact hdo
      · exact h
    | cons _ _ => exact hdo

theorem branch (c : Condition) {k : Nat} {cs ds : List (List String)} (hthen : Likes n as bs)
    (helse : Likes k cs ds) :
    Like (n + k) (Emission.branchLines c as cs) (Emission.branchLines c bs ds) := by
  unfold Emission.branchLines
  dsimp only
  rw [hthen.isEmpty_eq, helse.isEmpty_eq]
  split
  · rename_i hempty
    rw [List.isEmpty_iff.mp hempty] at helse
    cases helse
    exact hthen.form _
  split
  · rename_i hempty
    rw [List.isEmpty_iff.mp hempty] at hthen
    cases hthen
    rw [Nat.zero_add]
    exact helse.form _
  · exact form (.cons hthen.arm (.cons helse.arm .nil)) _

theorem intercalate (h : Likes n as bs) : Like n ([""].intercalate as) ([""].intercalate bs) := by
  induction h with
  | nil => exact .nil
  | cons h hrest ih =>
    cases hrest with
    | nil => simpa using h
    | cons _ _ =>
      rw [List.intercalate_cons_cons, List.intercalate_cons_cons, List.append_assoc,
        List.append_assoc]
      exact h.append (.same "" ih)

end Likes

theorem marked_commentLines (label text : String) :
    ∀ line ∈ Emission.commentLines label text, Marked line := by
  intro line hline
  unfold Emission.commentLines at hline
  split at hline
  · rw [List.mem_singleton.mp hline]
    exact ⟨0, ' ' :: trimEnd label.toList, by simp⟩
  · rename_i first rest _
    rcases List.mem_cons.mp hline with rfl | hmem
    · exact ⟨0, ' ' :: (label.toList ++ first.toList), by simp⟩
    · obtain ⟨l, -, rfl⟩ := List.mem_map.mp hmem
      exact ⟨0, ' ' :: ' ' :: ' ' :: l.toList, by simp⟩

theorem commentLines_ne_nil (label text : String) : Emission.commentLines label text ≠ [] := by
  unfold Emission.commentLines
  split <;> exact List.cons_ne_nil _ _

theorem marked_gapLines (g : Gap) : ∀ line ∈ Emission.gapLines g, Marked line := by
  unfold Emission.gapLines
  dsimp only
  split
  · exact marked_commentLines _ _
  · rw [List.forall_mem_append]
    exact ⟨marked_commentLines _ _, marked_commentLines _ _⟩

theorem gapLines_ne_nil (g : Gap) : Emission.gapLines g ≠ [] := by
  unfold Emission.gapLines
  dsimp only
  split
  · exact commentLines_ne_nil _ _
  · simp [commentLines_ne_nil]

end Script

open Script

def Gap.blank : Gap := ⟨"", "", none, none⟩

/-- The lines of code into which the comment of a gap runs. -/
def Gap.strayLines (g : Gap) : List String :=
  (Emission.gapLines g).flatMap codeIn

theorem Gap.strayLines_of_isLegible {g : Gap} (h : g.isLegible = true) : g.strayLines = [] := by
  rw [strayLines, List.flatMap_eq_nil_iff]
  intro line hline
  exact codeIn_commentLine (commentLine_gapLines h hline)

def strayCount (gaps : List Gap) : Nat :=
  (gaps.flatMap Gap.strayLines).length

theorem strayCount_append (a b : List Gap) :
    strayCount (a ++ b) = strayCount a + strayCount b := by
  rw [strayCount, List.flatMap_append, List.length_append]
  rfl

theorem strayCount_eq_zero_iff {gaps : List Gap} :
    strayCount gaps = 0 ↔ ∀ g ∈ gaps, g.strayLines = [] := by
  rw [strayCount, List.length_eq_zero_iff, List.flatMap_eq_nil_iff]

theorem like_gapLines (g : Gap) :
    Like g.strayLines.length (Emission.gapLines g) (Emission.gapLines .blank) := by
  have hblank : Gap.blank.strayLines = [] := Gap.strayLines_of_isLegible rfl
  have hgap := Like.gap (gapLines_ne_nil g) (gapLines_ne_nil .blank) (marked_gapLines g)
    (marked_gapLines .blank) hblank .nil
  rwa [List.append_nil, List.append_nil] at hgap

mutual

theorem like_intentLines (i : Intent) :
    Like (strayCount i.gaps) (Emission.intentLines i)
      (Emission.intentLines (i.mapGaps fun _ => .blank)) := by
  match i with
  | .act a m => exact .refl _
  | .gap g m =>
    have hcount : strayCount [g] = g.strayLines.length := by simp [strayCount]
    rw [Intent.gaps, hcount]
    exact like_gapLines g
  | .branch c thenArm elseArm mapping m =>
    rw [Intent.gaps, strayCount_append]
    exact (likes_intentsLines thenArm).branch c (likes_intentsLines elseArm)

theorem likes_intentsLines (is : List Intent) :
    Likes (strayCount (Intent.gapsOf is)) (Emission.intentsLines is)
      (Emission.intentsLines (Intent.mapGapsOf (fun _ => .blank) is)) := by
  match is with
  | [] => exact .nil
  | i :: rest =>
    rw [Intent.gapsOf, strayCount_append]
    exact .cons (like_intentLines i) (likes_intentsLines rest)

end

theorem like_procedureLines (p : Procedure) :
    Like (strayCount p.gaps) (Emission.procedureLines p)
      (Emission.procedureLines (p.mapGaps fun _ => .blank)) := by
  have hbody := Likes.cons (.refl [Emission.quote (Emission.docText p)])
    (.cons (.refl ["[ctx]"]) (likes_intentsLines p.intents))
  rw [Nat.zero_add, Nat.zero_add] at hbody
  exact hbody.form _

namespace Mapped

/-- The procedures with nothing said in their gaps. -/
def skeleton (m : Mapped) : Mapped :=
  { procedures := m.procedures.map (.mapGaps fun _ => .blank) }

/-- Nothing but what gaps say is different. -/
def SameButGaps (m m' : Mapped) : Prop :=
  m.skeleton = m'.skeleton

theorem likes_sections (m : Mapped) (moduleName : String) :
    Likes (strayCount m.gapNodes) (Emission.sections m moduleName)
      (Emission.sections m.skeleton moduleName) := by
  have hprocedures : Likes (strayCount m.gapNodes) (m.procedures.map Emission.procedureLines)
      (m.skeleton.procedures.map Emission.procedureLines) := by
    unfold gapNodes skeleton
    induction m.procedures with
    | nil => exact .nil
    | cons p rest ih =>
      rw [List.flatMap_cons, strayCount_append]
      exact .cons (like_procedureLines p) ih
  rw [← Nat.zero_add (strayCount m.gapNodes)]
  refine .cons (.refl _) ?_
  have hempty : m.skeleton.procedures.isEmpty = m.procedures.isEmpty := List.isEmpty_map
  rw [hempty]
  split
  · rename_i hnone
    have hgaps : m.gapNodes = [] := by rw [gapNodes, List.isEmpty_iff.mp hnone, List.flatMap_nil]
    rw [hgaps]
    exact .cons (.refl _) .nil
  · exact hprocedures

theorem codeLines_source (m : Mapped) (moduleName : String) :
    codeLines (Emission.generate m moduleName).source =
      ([""].intercalate (Emission.sections m moduleName)).flatMap codeIn := by
  rw [← codeLines_unlines, ← toList_source, String.ofList_toList]

theorem codeLines_eq_skeleton_iff (m : Mapped) (moduleName : String) :
    codeLines (Emission.generate m moduleName).source =
        codeLines (Emission.generate m.skeleton moduleName).source ↔
      ∀ g ∈ m.gapNodes, g.strayLines = [] := by
  rw [codeLines_source, codeLines_source, (m.likes_sections moduleName).intercalate.code_eq_iff,
    strayCount_eq_zero_iff]

end Mapped

/-- A script has the code of its skeleton exactly if no comment of a gap runs into code. It cannot
where neither the id of the gap nor the name of who answered it has a line feed in it, whatever else
the gap says, so scripts that differ in nothing but such gaps have the same code. -/
theorem gap_text_is_no_code {m m' : Mapped} (hsame : m.SameButGaps m') (moduleName : String) :
    (codeLines (Emission.generate m moduleName).source =
        codeLines (Emission.generate m.skeleton moduleName).source ↔
      ∀ g ∈ m.gapNodes, g.strayLines = []) ∧
    ((∀ g ∈ m.gapNodes ++ m'.gapNodes, g.isLegible = true) →
      codeLines (Emission.generate m moduleName).source =
        codeLines (Emission.generate m' moduleName).source) := by
  refine ⟨m.codeLines_eq_skeleton_iff moduleName, ?_⟩
  intro hlegible
  obtain ⟨hm, hm'⟩ := List.forall_mem_append.mp hlegible
  have hcode := (m.codeLines_eq_skeleton_iff moduleName).mpr
    fun g hg => Gap.strayLines_of_isLegible (hm g hg)
  have hcode' := (m'.codeLines_eq_skeleton_iff moduleName).mpr
    fun g hg => Gap.strayLines_of_isLegible (hm' g hg)
  rw [hcode, hcode', hsame]

def exporting (g : Gap) : Mapped where
  procedures := [⟨"btnExport_Click", "click",
    [.branch .newRecord [.gap g none] [.act .requery none] none none]⟩]

/-- Texts that look like code or like the end of a form, and no answer against an answer. -/
theorem gap_text_is_no_code_exporting :
    let g : Gap := ⟨"DoCmd.TransferText acExport\n(rt/close-form! ctx)", ")\r\n)", none, none⟩
    let g' : Gap := ⟨"", "", some "btnExport_Click:0",
      some ⟨"\n(rt/export! ctx)", "user", ⟨2024, 2, 29, 0, 0, 0, 0, rfl, rfl⟩⟩⟩
    (exporting g).SameButGaps (exporting g') ∧
      (∀ gap ∈ (exporting g).gapNodes ++ (exporting g').gapNodes, gap.isLegible = true) ∧
      codeLines (Emission.generate (exporting g) "Form_Orders").source =
        codeLines (Emission.generate (exporting g') "Form_Orders").source := by
  intro g g'
  have hsame : (exporting g).SameButGaps (exporting g') := rfl
  have hlegible : ∀ gap ∈ (exporting g).gapNodes ++ (exporting g').gapNodes,
      gap.isLegible = true := by
    decide
  exact ⟨hsame, hlegible, (gap_text_is_no_code hsame "Form_Orders").2 hlegible⟩

/-- With a line feed in the id of a gap, the rest of the id is a call. -/
theorem gap_id_becomes_code :
    let g : Gap := ⟨"", "", some "0", none⟩
    let g' : Gap := ⟨"", "", some "0\n(rt/close-form! ctx) ;", none⟩
    (exporting g).SameButGaps (exporting g') ∧
      codeLines (Emission.generate (exporting g) "Form_Orders").source ≠
        codeLines (Emission.generate (exporting g') "Form_Orders").source := by
  intro g g'
  have hsame : (exporting g).SameButGaps (exporting g') := rfl
  have hlegible : ∀ gap ∈ (exporting g).gapNodes, gap.isLegible = true := by decide
  have hmem : g' ∈ (exporting g').gapNodes := List.mem_singleton.mpr rfl
  have hstray : g'.strayLines ≠ [] := by decide +kernel
  refine ⟨hsame, ?_⟩
  intro heq
  have hcode := ((exporting g).codeLines_eq_skeleton_iff "Form_Orders").mpr
    fun gap hgap => Gap.strayLines_of_isLegible (hlegible gap hgap)
  rw [hcode, hsame] at heq
  exact hstray (((exporting g').codeLines_eq_skeleton_iff "Form_Orders").mp heq.symm g' hmem)

end FormScript
