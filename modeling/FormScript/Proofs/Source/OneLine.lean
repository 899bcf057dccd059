import FormScript.Proofs.Source.Replacement
import FormScript.Proofs.Source.Legible
import FormScript.Proofs.Text.Trim

/-! A conditional on one line against the same conditional over several lines. The line is divided
at the first "then" and behind it at the first "else" that have white space around them, whether or
not they stand in a string. Where these are the words between the parts, both ways of writing mean
the same anywhere in a source; where they are not, the line falls into other parts. -/
namespace FormScript.Source

open Text

def arms (s : Line) (e : Option Line) : Line :=
  s ++ e.elim [] (" Else ".toList ++ ·)

def oneLine (c s : Line) (e : Option Line) : Line :=
  "If ".toList ++ (c ++ (" Then ".toList ++ arms s e))

def overLines (c s : Line) (e : Option Line) : List Line :=
  ("If ".toList ++ (c ++ " Then".toList)) ::
    s :: (e.elim [] (["Else".toList, ·]) ++ ["End If".toList])

def startsWithWord (word : String) (cs : Line) : Bool :=
  ((afterBlank cs).bind (after word)).any (·.head?.all isBlank)

/-- The word stands in a text, not at its start. -/
def holdsWord (word : String) : Line → Bool
  | [] => false
  | _ :: rest => startsWithWord word rest || holdsWord word rest

def endsInWord (word : String) : Line → Bool
  | [] => false
  | c :: rest => (isBlank c && isWhole (after word rest)) || endsInWord word rest

def isDividedAtElse (s : Line) (e : Option Line) : Bool :=
  match e with
  | none => (splitAtWord "else" s).isNone
  | some _ => !holdsWord "else" s

/-- The words at which a line is divided are those between its parts, and its end opens nothing. -/
def isDivided (c s : Line) (e : Option Line) : Bool :=
  !holdsWord "then" (trim c) && isDividedAtElse s e && !endsInWord "then" (e.getD s)

theorem foldCase_ne_of_isBlank {c w : Char} (hw : w.isLower = true) (hc : isBlank c = true) :
    foldCase c ≠ w := by
  rintro rfl
  rw [isBlank_of_isWord (isWord_of_foldCase hw)] at hc
  contradiction

theorem after_append_of_blank {word : String} (hword : word.toList.all Char.isLower = true)
    {u : Line} (hu : u.head?.all isBlank = true) (cs : Line) :
    after word (cs ++ u) = (after word cs).map (· ++ u) := by
  apply afterChars_append
  intro w hw c hc
  rw [hc] at hu
  exact foldCase_ne_of_isBlank (List.all_eq_true.mp hword w hw) hu

theorem afterBlank_append {gap : Line} (hne : gap ≠ []) (hgap : gap.all isBlank = true) (cs : Line) :
    afterBlank (gap ++ cs) = some (trimStart cs) := by
  cases gap with
  | nil => contradiction
  | cons b gap =>
    rw [List.all_cons, Bool.and_eq_true] at hgap
    rw [List.cons_append, afterBlank, if_pos hgap.1, trimStart_append_of_blank hgap.2]

/-- What follows a part of the line: white space, the word, white space and the next part. -/
structure Divider (word : String) (u x : Line) : Prop where
  letters : word.toList.all Char.isLower = true
  splits : ((afterBlank u).bind (after word)).bind afterBlank = some x
  head : u.head?.all isBlank = true
  more : trimStart u ≠ []
  next : x ≠ []

theorem Divider.ofGap {word : String} (hword : word.toList.all Char.isLower = true) (gap w : Line)
    {x : Line} (hne : gap ≠ []) (hgap : gap.all isBlank = true) (hw : w ≠ [])
    (hstart : trimStart w = w) (hafter : after word w = some []) (hx : x ≠ []) (hnext : trimStart x = x) :
    Divider word (gap ++ (w ++ ' ' :: x)) x where
  letters := hword
  splits := by
    have htrim : trimStart (w ++ ' ' :: x) = w ++ ' ' :: x := by
      rw [trimStart_append_of_ne_nil (by rwa [hstart]), hstart]
    have hblank : afterBlank (' ' :: x) = some x := by
      rw [afterBlank, if_pos (by decide), hnext]
    rw [afterBlank_append hne hgap, htrim, Option.bind_some,
      after_append_of_blank hword (by rfl), hafter]
    exact hblank
  head := by
    cases gap with
    | nil => contradiction
    | cons b gap => exact (Bool.and_eq_true_iff.mp hgap).1
  more := by
    rw [trimStart_append_of_blank hgap, trimStart_append_of_ne_nil (by rwa [hstart]), hstart]
    exact List.append_ne_nil_of_left_ne_nil hw _
  next := hx

variable {word : String} {u x : Line}

theorem Divider.afterBlank_iff (hu : Divider word u x) (q : Line) :
    (∃ d p, afterBlank (q ++ u) = some (d :: p)) ↔ q.head?.all isBlank = true := by
  have hmore {cs : Line} (hcs : trimStart cs ≠ []) :
      ∃ d p, some (trimStart cs) = some (d :: p) := by
    obtain ⟨d, p, heq⟩ := List.exists_cons_of_ne_nil hcs
    exact ⟨d, p, by rw [heq]⟩
  cases q with
  | nil =>
    rw [List.nil_append, List.head?_nil, Option.all_none, eq_self_iff_true, iff_true]
    have hhead := hu.head
    have htrim := hu.more
    cases u with
    | nil => contradiction
    | cons b u =>
      rw [List.head?_cons, Option.all_some] at hhead
      rw [trimStart, List.dropWhile_cons_of_pos hhead] at htrim
      rw [afterBlank, if_pos hhead]
      exact hmore htrim
  | cons d q =>
    rw [List.cons_append, afterBlank, List.head?_cons, Option.all_some]
    split
    · rename_i hd
      rw [hd, eq_self_iff_true, iff_true]
      exact hmore (trimStart_append_ne_nil q hu.more)
    · rename_i hd
      simp [hd]

theorem Divider.startsWithWord_iff (hu : Divider word u x) {r : Line} (hne : r ≠ [])
    (hlast : r.getLast?.all (!isBlank ·) = true) :
    (∃ d q, ((afterBlank (r ++ u)).bind (after word)).bind afterBlank = some (d :: q)) ↔
      startsWithWord word r = true := by
  cases r with
  | nil => contradiction
  | cons c r =>
    rw [startsWithWord, List.cons_append, afterBlank, afterBlank]
    split
    · rename_i hc
      have hr : r ≠ [] := by
        rintro rfl
        rw [List.getLast?_singleton, Option.all_some, hc] at hlast
        contradiction
      have hlast' : r.getLast?.all (!isBlank ·) = true := by
        rwa [List.getLast?_cons_of_ne_nil hr] at hlast
      rw [trimStart_append_of_ne_nil (trimStart_ne_nil_of_last hr hlast'), Option.bind_some,
        after_append_of_blank hu.letters hu.head, Option.bind_some]
      cases after word (trimStart r) with
      | none => simp
      | some q => exact hu.afterBlank_iff q
    · simp

theorem splitAtWord_cons {rest : Line} (c : Char)
    (h : ¬∃ d q, ((afterBlank rest).bind (after word)).bind afterBlank = some (d :: q)) :
    splitAtWord word (c :: rest) =
      (splitAtWord word rest).map fun found => (c :: found.1, found.2) := by
  rw [splitAtWord]
  split
  · rename_i d q hfound
    exact absurd ⟨d, q, hfound⟩ h
  · rfl

/-- A part that does not hold the word is found as it stands; of another one only a beginning is. -/
theorem Divider.splitAtWord_append (hu : Divider word u x) {cs : Line} (hne : cs ≠ [])
    (hlast : cs.getLast?.all (!isBlank ·) = true) :
    if holdsWord word cs then
      ∃ p q, splitAtWord word (cs ++ u) = some (p, q) ∧ p.length < cs.length
    else splitAtWord word (cs ++ u) = some (cs, x) := by
  induction cs with
  | nil => contradiction
  | cons c cs ih =>
    -- A word is looked for from the second character on, so the divider is met at the last one.
    by_cases hcs : cs = []
    · subst hcs
      obtain ⟨d, q, rfl⟩ := List.exists_cons_of_ne_nil hu.next
      rw [if_neg (by simp [holdsWord, startsWithWord, afterBlank]), List.singleton_append,
        splitAtWord, hu.splits]
    · have hlast' : cs.getLast?.all (!isBlank ·) = true := by
        rwa [List.getLast?_cons_of_ne_nil hcs] at hlast
      have hword := hu.startsWithWord_iff hcs hlast'
      rw [holdsWord, List.cons_append]
      cases hstarts : startsWithWord word cs with
      | true =>
        obtain ⟨d, q, hfound⟩ := hword.mpr hstarts
        rw [splitAtWord, hfound]
        exact ⟨[c], d :: q, rfl, by simp [List.length_pos_iff.mpr hcs]⟩
      | false =>
        have hrest := ih hcs hlast'
        rw [splitAtWord_cons c fun hfound => by simp [hword.mp hfound] at hstarts, Bool.false_or]
        split
        · rename_i hholds
          rw [if_pos hholds] at hrest
          obtain ⟨p, q, hsplit, hlength⟩ := hrest
          exact ⟨c :: p, q, by rw [hsplit]; rfl, Nat.succ_lt_succ hlength⟩
        · rename_i hholds
          rw [if_neg hholds] at hrest
          rw [hrest]
          rfl

theorem Divider.splitAtWord_iff (hu : Divider word u x) {cs : Line} (hne : cs ≠ [])
    (hlast : cs.getLast?.all (!isBlank ·) = true) (q : Line) :
    splitAtWord word (cs ++ u) = some (cs, q) ↔ holdsWord word cs = false ∧ q = x := by
  have hsplit := hu.splitAtWord_append hne hlast
  split at hsplit
  · rename_i hholds
    obtain ⟨p, q', hfound, hlength⟩ := hsplit
    rw [hfound, hholds]
    simp only [Option.some.injEq, Prod.mk.injEq, Bool.true_eq_false, false_and, iff_false]
    rintro ⟨rfl, -⟩
    exact absurd hlength (Nat.lt_irrefl _)
  · rename_i hholds
    rw [Bool.not_eq_true] at hholds
    rw [hsplit, hholds]
    simp [eq_comm]

theorem endsInWord_iff {cs : Line} :
    endsInWord word cs = true ↔
      ∃ p b q, cs = p ++ b :: q ∧ isBlank b = true ∧ after word q = some [] := by
  induction cs with
  | nil => simp [endsInWord]
  | cons c cs ih =>
    rw [endsInWord, Bool.or_eq_true, Bool.and_eq_true, isWhole_iff, ih]
    constructor
    · rintro (⟨hblank, hafter⟩ | ⟨p, b, q, rfl, hblank, hafter⟩)
      · exact ⟨[], c, cs, rfl, hblank, hafter⟩
      · exact ⟨c :: p, b, q, rfl, hblank, hafter⟩
    · rintro ⟨p, b, q, heq, hblank, hafter⟩
      cases p with
      | nil =>
        cases heq
        exact Or.inl ⟨hblank, hafter⟩
      | cons d p =>
        cases heq
        exact Or.inr ⟨p, b, q, rfl, hblank, hafter⟩

theorem endsInWord_append (hword : word.toList.all Char.isLower = true) {s : Line}
    (hs : after word s = none) (a : Line) :
    endsInWord word (a ++ ' ' :: s) = endsInWord word s := by
  induction a with
  | nil => simp [endsInWord, hs, isWhole]
  | cons c a ih =>
    have hnot : isWhole (after word (a ++ ' ' :: s)) = false := by
      rw [after_append_of_blank hword (by rfl)]
      cases after word a <;> simp [isWhole]
    rw [List.cons_append, endsInWord, hnot, Bool.and_false, Bool.false_or, ih]

theorem length_of_after {cs rest : Line} (h : after word cs = some rest) :
    cs.length = word.toList.length + rest.length := by
  unfold after at h
  generalize word.toList = ws at h
  induction ws generalizing cs with
  | nil =>
    cases h
    simp
  | cons w ws ih =>
    cases cs with
    | nil => contradiction
    | cons c cs =>
      rw [afterChars] at h
      split at h
      · rw [List.length_cons, List.length_cons, ih h]
        omega
      · contradiction

theorem isSome_untilThen? {opening : String} {line cs : Line} (h : after opening line = some cs)
    (hhead : cs.head?.any isBlank = true) (hlength : 7 ≤ cs.length) :
    (untilThen? opening line).isSome = endsInWord "then" cs := by
  have hopens : (untilThen? opening line).isSome =
      (isWhole (after "then" (cs.drop (cs.length - 4))) &&
        (cs.take (cs.length - 4)).getLast?.any isBlank) := by
    have hthree : 3 ≤ (cs.take (cs.length - 4)).length := by
      rw [List.length_take]
      omega
    have hfirst : (cs.take (cs.length - 4)).head? = cs.head? := by
      rw [List.head?_take, if_neg (by omega)]
    simp only [untilThen?, h, Option.bind_eq_bind, Option.bind_some, hthree, hfirst, hhead,
      decide_true, Bool.and_true]
    split <;> simp_all
  rw [hopens, Bool.eq_iff_iff, Bool.and_eq_true, isWhole_iff, endsInWord_iff]
  constructor
  · rintro ⟨hthen, hblank⟩
    obtain ⟨b, hlast, hb⟩ := (Option.any_eq_true _ _).mp hblank
    obtain ⟨p, hp⟩ := List.getLast?_eq_some_iff.mp hlast
    refine ⟨p, b, _, ?_, hb, hthen⟩
    rw [← List.singleton_append, ← List.append_assoc, ← hp, List.take_append_drop]
  · rintro ⟨p, b, q, rfl, hb, hthen⟩
    have hq : q.length = 4 := length_of_after hthen
    have hcut : (p ++ [b] ++ q).length - 4 = (p ++ [b]).length := by
      rw [List.length_append, hq, Nat.add_sub_cancel]
    rw [List.append_cons, hcut, List.take_left, List.drop_left, List.getLast?_concat]
    exact ⟨hthen, hb⟩

/-- What the parts of such a line are: a condition that is not blank, and statements with no white
space around them. -/
structure Parts (c s : Line) (e : Option Line) : Prop where
  condition : trim c ≠ []
  statements : ∀ line ∈ s :: e.toList, (statement? line).isSome = true
  trimmed : ∀ line ∈ s :: e.toList, trim line = line

section

variable {c s : Line} {e : Option Line}

theorem mem_arms (s s' : Line) : s' ∈ s :: (some s').toList :=
  List.mem_cons_of_mem s List.mem_cons_self

theorem Parts.form (h : Parts c s e) {line : Line} (hline : line ∈ s :: e.toList) :
    ∃ item, Form line item := by
  obtain ⟨item, hitem⟩ := Option.isSome_iff_exists.mp (h.statements line hline)
  exact ⟨item, form_of_statement? hitem⟩

theorem Parts.ne_nil (h : Parts c s e) {line : Line} (hline : line ∈ s :: e.toList) : line ≠ [] := by
  rintro rfl
  exact absurd (h.statements [] hline) (by decide)

theorem Parts.trimStart_eq (h : Parts c s e) {line : Line} (hline : line ∈ s :: e.toList) :
    trimStart line = line := by
  rw [← h.trimmed line hline]
  exact trimStart_eq_self fun d => isBlank_of_head?_trim

theorem last_of_trim (cs : Line) : (trim cs).getLast?.all (!isBlank ·) = true := by
  cases hlast : (trim cs).getLast? with
  | none => rfl
  | some d => simp [isBlank_of_getLast?_trimEnd hlast]

theorem Parts.splitElse_iff (h : Parts c s e) :
    splitElse (arms s e) = (s, e) ↔ isDividedAtElse s e = true := by
  cases e with
  | none =>
    rw [arms, Option.elim_none, List.append_nil, splitElse, isDividedAtElse]
    cases splitAtWord "else" s <;> simp
  | some s' =>
    have hs' := mem_arms s s'
    have hdivider : Divider "else" (" Else ".toList ++ s') s' :=
      .ofGap (by decide) [' '] "Else".toList (by simp) (by decide) (by decide) (by decide)
        (by decide) (h.ne_nil hs') (h.trimStart_eq hs')
    have hlast : s.getLast?.all (!isBlank ·) = true := by
      rw [← h.trimmed s List.mem_cons_self]
      exact last_of_trim s
    have hsplit := hdivider.splitAtWord_iff (h.ne_nil List.mem_cons_self) hlast s'
    rw [arms, Option.elim_some, splitElse, isDividedAtElse, Bool.not_eq_true']
    cases hfound : splitAtWord "else" (s ++ (" Else ".toList ++ s')) with
    | none =>
      rw [hfound] at hsplit
      simpa using hsplit
    | some found =>
      rw [hfound] at hsplit
      simpa [Prod.ext_iff] using hsplit

theorem Parts.ifLine?_iff (h : Parts c s e) :
    ifLine? (oneLine c s e) = some (.ifLine (trim c) s e) ↔
      holdsWord "then" (trim c) = false ∧ splitElse (arms s e) = (s, e) := by
  have hs := h.ne_nil List.mem_cons_self
  have htail : trimStart (arms s e) = arms s e := by
    have hstart := h.trimStart_eq List.mem_cons_self
    rw [arms, trimStart_append_of_ne_nil (by rwa [hstart]), hstart]
  obtain ⟨trail, htrail, hend⟩ := exists_trail (trimStart c)
  have hstart : trimStart c ≠ [] := by
    intro hnil
    exact h.condition (by rw [trim, hnil]; rfl)
  have hrest : (after "if" (oneLine c s e)).bind afterBlank =
      some (trim c ++ (trail ++ [' '] ++ ("Then".toList ++ ' ' :: arms s e))) := by
    change some (trimStart (c ++ (" Then ".toList ++ arms s e))) = _
    rw [trimStart_append_of_ne_nil hstart, hend, ← trim, List.append_assoc, List.append_assoc]
    rfl
  have hdivider : Divider "then" (trail ++ [' '] ++ ("Then".toList ++ ' ' :: arms s e))
      (arms s e) :=
    .ofGap (by decide) _ _ (by simp) (by rw [List.all_append, htrail]; rfl) (by decide) (by decide)
      (by decide) (List.append_ne_nil_of_left_ne_nil hs _) htail
  have hsplit := hdivider.splitAtWord_append h.condition (last_of_trim c)
  obtain ⟨cs, hif, hblank⟩ := Option.bind_eq_some_iff.mp hrest
  simp only [ifLine?, hif, hblank, Option.bind_eq_bind, Option.bind_some]
  split at hsplit
  · rename_i hholds
    obtain ⟨p, q, hfound, hlength⟩ := hsplit
    rw [hfound, hholds]
    simp only [Bool.true_eq_false, false_and, iff_false]
    intro heq
    cases heq
    exact absurd hlength (Nat.lt_irrefl _)
  · rename_i hholds
    rw [Bool.not_eq_true] at hholds
    rw [hsplit, hholds]
    simp [Prod.ext_iff]

theorem Parts.isSome_untilThen? (h : Parts c s e) :
    (untilThen? "if" (oneLine c s e)).isSome = endsInWord "then" (e.getD s) := by
  have hline : ∃ a, after "if" (oneLine c s e) = some (a ++ ' ' :: e.getD s) ∧
      a.head?.any isBlank = true ∧ 6 ≤ a.length := by
    cases e with
    | none =>
      refine ⟨' ' :: (c ++ " Then".toList), ?_, rfl, by simp⟩
      change some (' ' :: (c ++ (" Then ".toList ++ (s ++ [])))) = _
      simp
    | some s' =>
      refine ⟨' ' :: (c ++ (" Then ".toList ++ (s ++ " Else".toList))), ?_, rfl, by simp; omega⟩
      change some (' ' :: (c ++ (" Then ".toList ++ (s ++ (" Else ".toList ++ s'))))) = _
      simp
  obtain ⟨a, hafter, hhead, hlength⟩ := hline
  have hmem : e.getD s ∈ s :: e.toList := by
    cases e <;> simp
  obtain ⟨item, hform⟩ := h.form hmem
  obtain ⟨word, hword, rest, hrest⟩ := word_of_form hform
  have hapart : statementWords.all (apart · "then") = true := by decide
  have hthen := after_apart hrest (List.all_eq_true.mp hapart word hword)
  rw [Source.isSome_untilThen? hafter, endsInWord_append (by decide) hthen]
  · cases a with
    | nil => contradiction
    | cons b a => exact hhead
  · rw [List.length_append, List.length_cons]
    omega

/-- A line falls into its parts exactly if the dividing words stand between them. -/
theorem Parts.shape_iff (h : Parts c s e) :
    shape (oneLine c s e) = .ifLine (trim c) s e ↔ isDivided c s e = true := by
  have hif : after "if" (oneLine c s e) =
      some (' ' :: (c ++ (" Then ".toList ++ arms s e))) := rfl
  have hopens := h.isSome_untilThen?
  have hline := h.ifLine?_iff
  rw [h.splitElse_iff] at hline
  rw [shape_of_word hif (by decide), isDivided, ← hopens]
  cases untilThen? "if" (oneLine c s e) with
  | some condition => simp
  | none =>
    rw [Option.isSome_none, Bool.not_false, Bool.and_true, Bool.and_eq_true, Bool.not_eq_true',
      ← hline]
    cases ifLine? (oneLine c s e) with
    | none => simp
    | some found => simp

theorem mem_overLines {line : Line} (h : line ∈ s :: e.toList) : line ∈ overLines c s e := by
  rcases List.mem_cons.mp h with rfl | h
  · exact List.mem_cons_of_mem _ List.mem_cons_self
  · rw [Option.mem_toList.mp h]
    exact List.mem_cons_of_mem _ (List.mem_cons_of_mem _ (by simp))

theorem condition?_congr {text text' : Line} (h : trim text = trim text') :
    condition? text = condition? text' := by
  simp only [condition?, h]

theorem buildBranch_congr {line line' condition condition' : Line} {k : Condition}
    (h : condition? condition = some k) (h' : condition? condition' = some k)
    (thenItems elseItems : List Item) :
    buildBranch line condition thenItems elseItems =
      buildBranch line' condition' thenItems elseItems := by
  simp only [buildBranch, h, h']

theorem opens_overLines (hc : trim c ≠ []) :
    untilThen? "if" ("If ".toList ++ (c ++ " Then".toList)) = some (' ' :: (c ++ [' '])) := by
  apply untilThen?_eq
  · change some (' ' :: (c ++ " Then".toList)) = _
    simp
  · have hne : c ≠ [] := by
      rintro rfl
      exact hc rfl
    have hpos := List.length_pos_iff.mpr hne
    simp only [List.length_cons, List.length_append, List.length_nil]
    omega
  · rfl
  · rw [← List.cons_append, List.getLast?_concat]
    rfl

theorem Parts.plain (h : Parts c s e) {line : Line} (hline : line ∈ s :: e.toList) :
    shape line = .plain ∧ header? line = none := by
  obtain ⟨item, hform⟩ := h.form hline
  exact plain_of_form hform

theorem Parts.alone (h : Parts c s e) {line : Line} (hline : line ∈ s :: e.toList) :
    standsAlone line = true :=
  standsAlone_of_shape (Or.inl (h.plain hline).1)

theorem divides_else :
    (isElse "Else".toList || (untilThen? "elseif" "Else".toList).isSome) = true := by
  decide

theorem closes_endIf : isEndIf "End If".toList = true := by
  decide

def Parts.further : {e : Option Line} → Parts c s e → FurtherArms
  | none, _ => .nil
  | some s', h => .cons "Else".toList divides_else (.single s' (h.alone (mem_arms s s')) .nil) .nil

/-- The lines of the conditional, with what each of them is for. -/
def Parts.piece (h : Parts c s e) : WellNested :=
  .conditional _ _ (opens_overLines h.condition) (.single s (h.alone List.mem_cons_self) .nil)
    h.further "End If".toList closes_endIf .nil

theorem Parts.piece_lines (h : Parts c s e) : h.piece.lines = overLines c s e := by
  cases e <;> rfl

theorem Parts.piece_items (h : Parts c s e) :
    h.piece.items = [buildBranch ("If ".toList ++ (c ++ " Then".toList)) (' ' :: (c ++ [' ']))
      [statement s] (e.toList.map statement)] := by
  have hs := lineItems_of_plain (h.plain List.mem_cons_self).1
  cases e with
  | none =>
    simp only [piece, further, WellNested.items, hs, List.append_nil, Option.toList_none,
      List.map_nil]
  | some s' =>
    have hs' := lineItems_of_plain (h.plain (mem_arms s s')).1
    have helse : isElse "Else".toList = true := by decide
    simp only [piece, further, WellNested.items, hs, hs', helse, if_true, List.append_nil,
      Option.toList_some, List.map_cons, List.map_nil]

theorem Parts.piece_headers (h : Parts c s e) : ∀ line ∈ h.piece.lines, header? line = none := by
  have hif : after "if" ("If ".toList ++ (c ++ " Then".toList)) =
      some (' ' :: (c ++ " Then".toList)) := rfl
  have hopening := header?_of_word hif (by decide)
  rw [h.piece_lines, overLines]
  refine List.forall_mem_cons.mpr ⟨hopening, List.forall_mem_cons.mpr
    ⟨(h.plain List.mem_cons_self).2, List.forall_mem_append.mpr ⟨?_, by decide⟩⟩⟩
  cases e with
  | none => simp
  | some s' =>
    exact List.forall_mem_cons.mpr
      ⟨by decide, List.forall_mem_singleton.mpr (h.plain (mem_arms s s')).2⟩

theorem Parts.procedures_eq (h : Parts c s e) {k : Condition} (hk : condition? c = some k)
    (hdivided : isDivided c s e = true) (before behind : List Line) :
    procedures (before ++ oneLine c s e :: behind) =
      procedures (before ++ (overLines c s e ++ behind)) := by
  have hshape := h.shape_iff.mpr hdivided
  have halone := standsAlone_of_shape (Or.inr ⟨_, _, _, hshape⟩)
  have hbetween : trim (' ' :: (c ++ [' '])) = trim c := by
    rw [← List.cons_append, trim_append_of_blank (by decide)]
    exact trim_blank_append (by decide : [' '].all isBlank = true) c
  have hitems : (WellNested.single _ halone .nil).items = h.piece.items := by
    rw [WellNested.items, WellNested.items, List.append_nil, lineItems, hshape, h.piece_items]
    exact congrArg (· :: []) (buildBranch_congr
      ((condition?_congr (trim_trim c)).trans hk) ((condition?_congr hbetween).trans hk) _ _)
  have hif : after "if" (oneLine c s e) =
      some (' ' :: (c ++ (" Then ".toList ++ arms s e))) := rfl
  have hheader : ∀ line ∈ (WellNested.single _ halone .nil).lines, header? line = none :=
    List.forall_mem_singleton.mpr (header?_of_word hif (by decide))
  have hswapped := swapped_append (WellNested.single _ halone .nil).lines h.piece.lines before behind
  rw [← h.piece_lines]
  exact hswapped.procedures_eq hitems hheader h.piece_headers

end

theorem trim_of_mem_logicalFrom {pending : Line} {raws : List Line} {line : Line}
    (h : line ∈ logicalFrom pending raws) : trim line = line := by
  induction raws generalizing pending with
  | nil =>
    rw [logicalFrom] at h
    split at h
    · contradiction
    · rw [List.mem_singleton.mp h, trim_trim]
  | cons raw more ih =>
    simp only [logicalFrom] at h
    split at h
    · exact ih h
    split at h
    · exact ih h
    · rcases List.mem_cons.mp h with rfl | h
      · exact trim_trim _
      · exact ih h

/-- A conditional on one line falls into its parts exactly if no word in them divides it elsewhere,
and then the procedures of a source are the same if it is written over several lines. -/
theorem one_line_eq_over_lines {source source' : String} {before behind : List Line} {c s : Line}
    {e : Option Line} {k : Condition} (hk : condition? c = some k)
    (hs : ∀ line ∈ s :: e.toList, (statement? line).isSome = true)
    (hsource : logicalLines source.toList = before ++ oneLine c s e :: behind)
    (hsource' : logicalLines source'.toList = before ++ (overLines c s e ++ behind)) :
    (shape (oneLine c s e) = .ifLine (trim c) s e ↔ isDivided c s e = true) ∧
      (isDivided c s e = true → recognize source = recognize source') := by
  have hparts : Parts c s e := by
    refine ⟨?_, hs, ?_⟩
    · intro hblank
      have hnone : condition? [] = none := by decide
      have hsame : condition? c = condition? [] := condition?_congr hblank
      rw [hsame, hnone] at hk
      contradiction
    · intro line hline
      have hmem : line ∈ logicalLines source'.toList := by
        rw [hsource']
        exact List.mem_append_right before (List.mem_append_left behind (mem_overLines hline))
      exact trim_of_mem_logicalFrom hmem
  refine ⟨hparts.shape_iff, fun hdivided => ?_⟩
  rw [recognize, recognize, hsource, hsource']
  exact hparts.procedures_eq hk hdivided before behind

/-- Strings that hold both words, with a quote instead of white space on one side of them. -/
def warnedOnOneLine : String :=
  "Sub cmdOk_Click()\nIf Me.Mode = \"then\" Then MsgBox \"Pay or else\" Else DoCmd.Close\nEnd Sub\n"

def warnedOverLines : String :=
  "Sub cmdOk_Click()\n  If Me.Mode = \"then\" Then ' pay\n    MsgBox \"Pay or else\"\n  Else\n" ++
    "    DoCmd.Close\n  End If\nEnd Sub\n"

theorem one_line_eq_over_lines_warned :
    condition? "Me.Mode = \"then\"".toList = some (.fieldEquals "Mode" "then") ∧
      isDivided "Me.Mode = \"then\"".toList "MsgBox \"Pay or else\"".toList
        (some "DoCmd.Close".toList) = true ∧
      recognize warnedOnOneLine = recognize warnedOverLines := by
  have hk : condition? "Me.Mode = \"then\"".toList = some (.fieldEquals "Mode" "then") := by
    decide +kernel
  have hdivided : isDivided "Me.Mode = \"then\"".toList "MsgBox \"Pay or else\"".toList
      (some "DoCmd.Close".toList) = true := by
    decide +kernel
  have hone : logicalLines warnedOnOneLine.toList = ["Sub cmdOk_Click()".toList] ++
      oneLine "Me.Mode = \"then\"".toList "MsgBox \"Pay or else\"".toList
        (some "DoCmd.Close".toList) :: ["End Sub".toList] := by
    decide +kernel
  have hover : logicalLines warnedOverLines.toList = ["Sub cmdOk_Click()".toList] ++
      (overLines "Me.Mode = \"then\"".toList "MsgBox \"Pay or else\"".toList
        (some "DoCmd.Close".toList) ++ ["End Sub".toList]) := by
    decide +kernel
  exact ⟨hk, hdivided, (one_line_eq_over_lines hk (by decide +kernel) hone hover).2 hdivided⟩

/-- The text of the message is taken apart at a word in it. -/
theorem one_line_divided_in_string :
    condition? "Me.x = 1".toList = some (.fieldEquals "x" "1") ∧
      statement? "MsgBox \"Save it now or else it is lost\"".toList =
        some (.ofAction (.showMessage "Save it now or else it is lost")) ∧
      recognize ("Sub a_Click()\nIf Me.x = 1 Then MsgBox \"Save it now or else it is lost\"\n" ++
          "End Sub\n") ≠
        recognize ("Sub a_Click()\nIf Me.x = 1 Then\nMsgBox \"Save it now or else it is lost\"\n" ++
          "End If\nEnd Sub\n") := by
  refine ⟨by decide +kernel, by decide +kernel, ?_⟩
  have hheader : header? "Sub a_Click()".toList = some "a_Click".toList := by decide +kernel
  have hdivided := recognize_wellNested
    ("Sub a_Click()\nIf Me.x = 1 Then MsgBox \"Save it now or else it is lost\"\n" ++ "End Sub\n")
    (.single "If Me.x = 1 Then MsgBox \"Save it now or else it is lost\"".toList (by decide +kernel)
      .nil) (some "End Sub".toList) (by decide +kernel) hheader (by decide)
  have hkept := recognize_wellNested
    ("Sub a_Click()\nIf Me.x = 1 Then\nMsgBox \"Save it now or else it is lost\"\n" ++
      "End If\nEnd Sub\n")
    (.conditional "If Me.x = 1 Then".toList " Me.x = 1 ".toList (by decide +kernel)
      (.single "MsgBox \"Save it now or else it is lost\"".toList (by decide +kernel) .nil) .nil
      "End If".toList (by decide) .nil)
    (some "End Sub".toList) (by decide +kernel) hheader (by decide)
  rw [hdivided, hkept]
  decide +kernel

end FormScript.Source
