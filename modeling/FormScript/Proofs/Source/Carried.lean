import FormScript.Proofs.Source.Statements
import FormScript.Proofs.Text.Trim

/-! Pieces of a line with a colon and more behind it. A piece that does not reach the colon is taken
off as if nothing followed, no piece ends there with the line, and a value is no literal any more
unless its string goes on behind the colon. -/
namespace FormScript.Source

open Text

/-- A piece is taken off the front of a line alike if a colon and more follow the line. -/
def Carries (t : Line) (piece : Line → Option Line) : Prop :=
  ∀ cs : Line, piece (cs ++ ':' :: t) = (piece cs).map (· ++ ':' :: t)

variable {t : Line}

theorem Carries.isWhole_eq {piece : Line → Option Line} (h : Carries t piece) (cs : Line) :
    isWhole (piece (cs ++ ':' :: t)) = false := by
  rw [h cs]
  cases piece cs with
  | none => rfl
  | some rest => simp [isWhole]

theorem Carries.bind {piece next : Line → Option Line} (h : Carries t piece)
    (hnext : Carries t next) : Carries t fun cs => (piece cs).bind next := by
  intro cs
  dsimp only
  rw [h cs]
  cases piece cs with
  | none => rfl
  | some rest => exact hnext rest

theorem carries_after {word : String} (h : word.toList.all (· != ':') = true) :
    Carries t (after word) := by
  intro cs
  apply afterChars_append
  intro w hw c hc hfold
  have hcolon : c = ':' := by simpa using hc.symm
  subst hcolon
  have hw' : w = ':' := hfold.symm
  simpa [hw'] using List.all_eq_true.mp h w hw

theorem carries_afterAny {words : List String}
    (h : words.all (fun word => word.toList.all (· != ':')) = true) :
    Carries t (afterAny words) := by
  intro cs
  induction words with
  | nil => rfl
  | cons word words ih =>
    rw [List.all_cons, Bool.and_eq_true] at h
    have hrest := ih h.2
    simp only [afterAny, List.findSome?_cons, carries_after h.1 cs] at hrest ⊢
    cases after word cs with
    | none => exact hrest
    | some rest => rfl

theorem dropWhile_colon {p : Char → Bool} (h : p ':' = false) (cs : Line) :
    (cs ++ ':' :: t).dropWhile p = cs.dropWhile p ++ ':' :: t := by
  induction cs with
  | nil => exact List.dropWhile_cons_of_neg (by simp [h])
  | cons c cs ih =>
    rw [List.cons_append, List.dropWhile_cons, List.dropWhile_cons]
    split
    · exact ih
    · rfl

theorem takeWhile_colon {p : Char → Bool} (h : p ':' = false) (cs : Line) :
    (cs ++ ':' :: t).takeWhile p = cs.takeWhile p := by
  induction cs with
  | nil => exact List.takeWhile_cons_of_neg (by simp [h])
  | cons c cs ih =>
    rw [List.cons_append, List.takeWhile_cons, List.takeWhile_cons]
    split
    · rw [ih]
    · rfl

theorem trimStart_colon (cs : Line) : trimStart (cs ++ ':' :: t) = trimStart cs ++ ':' :: t :=
  dropWhile_colon (by decide) cs

theorem carries_afterBlank : Carries t afterBlank := by
  intro cs
  cases cs with
  | nil => rfl
  | cons c cs =>
    rw [List.cons_append, afterBlank, afterBlank, trimStart_colon]
    split <;> rfl

theorem carries_afterEquals : Carries t afterEquals := by
  intro cs
  rw [afterEquals, trimStart_colon, carries_after (by decide), afterEquals]
  cases after "=" (trimStart cs) with
  | none => rfl
  | some rest => simp [trimStart_colon]

theorem optionally_colon {piece : Line → Option Line} (h : Carries t piece) (cs : Line) :
    optionally piece (cs ++ ':' :: t) = optionally piece cs ++ ':' :: t := by
  rw [optionally, h cs, optionally]
  cases piece cs <;> rfl

theorem carries_afterQuote : Carries t afterQuote := by
  intro cs
  have hquote : Carries t (after "\"") := carries_after (by decide)
  rw [afterQuote, trimStart_colon, optionally_colon (carries_after (by decide)), trimStart_colon,
    hquote, afterQuote]

theorem member?_colon (cs : Line) :
    member? (cs ++ ':' :: t) = (member? cs).map fun found => (found.1, found.2 ++ ':' :: t) := by
  have hstart : Carries t (afterAny ["me.", "me!"]) := carries_afterAny (by decide)
  have hopen : Carries t (after "[") := carries_after (by decide)
  have hclose : Carries t (after "]") := carries_after (by decide)
  have hword : isWord ':' = false := by decide
  rw [member?, hstart cs, member?]
  cases afterAny ["me.", "me!"] cs with
  | none => rfl
  | some rest =>
    simp only [Option.map_some, Option.bind_eq_bind, Option.bind_some, optionally_colon hopen,
      takeWhile_colon hword, dropWhile_colon hword, optionally_colon hclose]
    split <;> rfl

theorem atWordEnd_colon (cs : Line) : atWordEnd (cs ++ ':' :: t) = atWordEnd cs := by
  cases cs with
  | nil => rfl
  | cons c cs => rfl

/-- The text of a string literal from behind its opening quote, and what follows the first quote
that is not one of two. -/
def unquoted? : Line → Option (List Char × Line)
  | [] => none
  | '"' :: '"' :: rest => (unquoted? rest).map fun found => ('"' :: found.1, found.2)
  | '"' :: rest => some ([], rest)
  | c :: rest => (unquoted? rest).map fun found => (c :: found.1, found.2)

theorem quoted?_eq {tail : Line → Bool} (htail : ∀ rest, tail ('"' :: rest) = false) (cs : Line) :
    quoted? tail cs =
      (unquoted? cs).bind fun found => if tail found.2 then some found.1 else none := by
  fun_induction quoted? tail cs with
  | case1 => rfl
  | case2 rest text hrest ih =>
    rw [unquoted?]
    rw [hrest] at ih
    cases hfound : unquoted? rest with
    | none => simp [hfound] at ih
    | some found =>
      rw [hfound, Option.bind_some] at ih
      split at ih
      · rename_i hpass
        cases ih
        simp [hpass]
      · contradiction
  | case3 rest hrest htrue ih => simp [htail] at htrue
  | case4 rest hrest hfalse ih =>
    rw [unquoted?]
    rw [hrest] at ih
    cases hfound : unquoted? rest with
    | none => rfl
    | some found =>
      rw [hfound, Option.bind_some] at ih
      split at ih
      · contradiction
      · rename_i hpass
        simp [hpass]
  | case5 rest hrest hpass => simp [unquoted?, hpass]
  | case6 rest hrest hpass => simp [unquoted?, hpass]
  | case7 c rest hpair hquote ih =>
    rw [unquoted?, ih]
    · cases unquoted? rest with
      | none => rfl
      | some found =>
        simp only [Option.bind_some, Option.map_some]
        split <;> rfl
    · exact hpair
    · exact hquote

theorem unquoted?_append {cs rest u : Line} {text : List Char}
    (h : unquoted? cs = some (text, rest)) (hu : u.head? ≠ some '"') :
    unquoted? (cs ++ u) = some (text, rest ++ u) := by
  fun_induction unquoted? cs generalizing text rest with
  | case1 => contradiction
  | case2 more ih =>
    obtain ⟨found, hfound, heq⟩ := Option.map_eq_some_iff.mp h
    cases heq
    rw [List.cons_append, List.cons_append, unquoted?, ih hfound]
    rfl
  | case3 more hpair =>
    cases h
    rw [List.cons_append, unquoted?]
    intro others hcons
    cases more with
    | nil => exact hu (by rw [List.nil_append] at hcons; rw [hcons]; rfl)
    | cons d more => exact hpair more (by rw [List.cons_append] at hcons; cases hcons; rfl)
  | case4 c more hpair hquote ih =>
    obtain ⟨found, hfound, heq⟩ := Option.map_eq_some_iff.mp h
    cases heq
    rw [List.cons_append, unquoted?, ih hfound]
    · rfl
    · intro others hc hcons
      exact hquote hc
    · exact hquote

theorem trim_colon (cs : Line) : trim (cs ++ ':' :: t) = trimStart cs ++ ':' :: trimEnd t := by
  have hcolon : trimEnd (':' :: t) = ':' :: trimEnd t := trimEnd_cons (by decide) t
  rw [trim, trimStart_colon, trimEnd_append_of_ne_nil _ (by rw [hcolon]; exact List.cons_ne_nil _ _),
    hcolon]

theorem isNumber_colon (cs : Line) : isNumber (cs ++ ':' :: t) = false := by
  have hsign : Carries t (after "-") := carries_after (by decide)
  have hdigit : isDigit ':' = false := by decide
  rw [isNumber, optionally_colon hsign, dropWhile_colon hdigit]
  cases (optionally (after "-") cs).dropWhile isDigit with
  | nil => rfl
  | cons c rest =>
    by_cases hc : c = '.'
    · subst hc
      simp [hdigit]
    · simp only [List.cons_append]
      split
      · contradiction
      · rename_i heq
        exact absurd (List.cons.inj heq).1 hc
      · rfl

/-- No literal goes on behind a colon unless the colon is inside a string. -/
theorem literal?_colon {value : Line}
    (h : ∀ rest, after "\"" (trimStart value) = some rest → ∃ found, unquoted? rest = some found) :
    literal? (value ++ ':' :: t) = none := by
  have hquote : Carries (trimEnd t) (after "\"") := carries_after (by decide)
  have hword : Carries (trimEnd t) (afterAny ["true", "false", "null"]) :=
    carries_afterAny (by decide)
  have hstring : (after "\"" (trimStart value ++ ':' :: trimEnd t)).bind (quoted? (·.isEmpty)) =
      none := by
    rw [hquote]
    cases hrest : after "\"" (trimStart value) with
    | none => rfl
    | some rest =>
      obtain ⟨⟨text, behind⟩, hfound⟩ := h rest hrest
      have hcolon := unquoted?_append hfound (u := ':' :: trimEnd t) (by simp)
      rw [Option.map_some, Option.bind_some, quoted?_eq (fun _ => rfl), hcolon]
      simp
  simp only [literal?, trim_colon, hstring, isNumber_colon, hword.isWhole_eq, Bool.or_false,
    Bool.false_eq_true, if_false]

theorem eq_of_afterQuoteMark {cs rest : Line} (h : after "\"" cs = some rest) : cs = '"' :: rest := by
  cases cs with
  | nil => contradiction
  | cons c cs =>
    change (if foldCase c = '"' then some cs else none) = some rest at h
    split at h
    · rename_i hc
      cases h
      rw [eq_of_foldCase rfl hc]
    · contradiction

theorem exists_unquoted?_of_literal? {value rest : Line} {text : List Char}
    (h : literal? value = some text) (hrest : after "\"" (trimStart value) = some rest) :
    ∃ found, unquoted? rest = some found := by
  have htrim : trim value = '"' :: trimEnd rest := by
    rw [trim, eq_of_afterQuoteMark hrest, trimEnd_cons (by decide)]
  have hquote : after "\"" ('"' :: trimEnd rest) = some (trimEnd rest) := rfl
  have hnumber : isNumber ('"' :: trimEnd rest) = false := rfl
  have hword : afterAny ["true", "false", "null"] ('"' :: trimEnd rest) = none := rfl
  simp only [literal?, htrim, hquote, Option.bind_some, hnumber, hword] at h
  rw [quoted?_eq fun _ => rfl] at h
  obtain ⟨trail, htrail, hsplit⟩ := exists_trail rest
  cases hfound : unquoted? (trimEnd rest) with
  | none => simp [hfound, isWhole] at h
  | some found =>
    have hhead : trail.head? ≠ some '"' := by
      intro hhead
      have hblank := List.all_eq_true.mp htrail '"' (List.mem_of_head? hhead)
      exact absurd hblank (by decide)
    rw [hsplit]
    exact ⟨_, unquoted?_append hfound hhead⟩

theorem setValue?_colon {s : Line}
    (h : ∀ field value rest, assignment? s = some (field, value) →
      after "\"" (trimStart value) = some rest → ∃ found, unquoted? rest = some found) :
    setValue? (s ++ ':' :: t) = none := by
  have hvalue : Carries t (after ".value") := carries_after (by decide)
  have hequals : Carries t (after "=") := carries_after (by decide)
  cases hmember : member? s with
  | none => simp [setValue?, assignment?, member?_colon, hmember]
  | some found =>
    obtain ⟨field, behind⟩ := found
    cases hassigned : after "=" (trimStart (optionally (after ".value") behind)) with
    | none =>
      simp [setValue?, assignment?, member?_colon, hmember, optionally_colon hvalue,
        trimStart_colon, hequals _, hassigned]
    | some value =>
      have hliteral : literal? (value ++ ':' :: t) = none := by
        apply literal?_colon
        intro rest hrest
        apply h field value rest ?_ hrest
        cases value with
        | nil => contradiction
        | cons c value => simp [assignment?, hmember, hassigned]
      simp [setValue?, assignment?, member?_colon, hmember, optionally_colon hvalue,
        trimStart_colon, hequals _, hassigned, hliteral]

theorem quote_mem_of_after {word : String} {cs rest : Line} (hword : '"' ∉ word.toList)
    (h : after word cs = some rest) (hmem : '"' ∈ cs) : '"' ∈ rest := by
  unfold after at h
  generalize word.toList = ws at hword h
  induction ws generalizing cs with
  | nil =>
    cases h
    exact hmem
  | cons w ws ih =>
    rw [List.mem_cons, not_or] at hword
    cases cs with
    | nil => contradiction
    | cons c cs =>
      rw [afterChars] at h
      split at h
      · rename_i hc
        rcases List.mem_cons.mp hmem with rfl | hmem
        · exact absurd hc hword.1
        · exact ih hmem hword.2 h
      · contradiction

theorem mem_dropWhile {p : Char → Bool} {c : Char} (hc : p c = false) {cs : Line} (hmem : c ∈ cs) :
    c ∈ cs.dropWhile p := by
  rw [← List.takeWhile_append_dropWhile (p := p) (l := cs)] at hmem
  rcases List.mem_append.mp hmem with hfront | hback
  · have htrue := List.all_eq_true.mp List.all_takeWhile c hfront
    rw [hc] at htrue
    contradiction
  · exact hback

theorem quote_mem_of_afterEquals {cs rest : Line} (h : afterEquals cs = some rest)
    (hmem : '"' ∈ cs) : '"' ∈ rest := by
  obtain ⟨behind, hequals, rfl⟩ := Option.map_eq_some_iff.mp h
  have hbehind := quote_mem_of_after (by decide) hequals (mem_dropWhile (by decide) hmem)
  exact mem_dropWhile (by decide) hbehind

theorem quote_mem_of_optionally {word : String} (hword : '"' ∉ word.toList) {cs : Line}
    (hmem : '"' ∈ cs) : '"' ∈ optionally (after word) cs := by
  rw [optionally]
  cases h : after word cs with
  | none => exact hmem
  | some rest => exact quote_mem_of_after hword h hmem

theorem quote_mem_of_member? {cs rest : Line} {name : List Char} (h : member? cs = some (name, rest))
    (hmem : '"' ∈ cs) : '"' ∈ rest := by
  obtain ⟨behind, hstart, h⟩ := Option.bind_eq_some_iff.mp h
  obtain ⟨word, hword, hafter⟩ := List.exists_of_findSome?_eq_some hstart
  have hquote : ∀ word ∈ ["me.", "me!"], '"' ∉ word.toList := by decide
  have hbehind := quote_mem_of_after (hquote word hword) hafter hmem
  dsimp only at h
  split at h
  · contradiction
  · cases h
    exact quote_mem_of_optionally (by decide)
      (mem_dropWhile (by decide) (quote_mem_of_optionally (by decide) hbehind))

theorem mem_of_optionally {word : String} {c : Char} {cs : Line}
    (hmem : c ∈ optionally (after word) cs) : c ∈ cs := by
  rw [optionally] at hmem
  cases h : after word cs with
  | none =>
    rw [h] at hmem
    exact hmem
  | some rest =>
    rw [h] at hmem
    exact mem_of_afterChars h hmem

theorem mem_of_assignment? {cs value : Line} {field : List Char} {c : Char}
    (h : assignment? cs = some (field, value)) (hmem : c ∈ value) : c ∈ cs := by
  obtain ⟨⟨name, behind⟩, hmember, h⟩ := Option.bind_eq_some_iff.mp h
  obtain ⟨assigned, hequals, h⟩ := Option.bind_eq_some_iff.mp h
  have hbehind : c ∈ behind := by
    split at h
    · contradiction
    · cases h
      exact mem_of_optionally ((List.dropWhile_suffix _).subset (mem_of_afterChars hequals hmem))
  obtain ⟨started, hstart, hmember⟩ := Option.bind_eq_some_iff.mp hmember
  obtain ⟨word, -, hafter⟩ := List.exists_of_findSome?_eq_some hstart
  dsimp only at hmember
  split at hmember
  · contradiction
  · cases hmember
    exact mem_of_afterChars hafter
      (mem_of_optionally ((List.dropWhile_suffix _).subset (mem_of_optionally hbehind)))

theorem setValue?_colon_of_quote {s : Line} (h : '"' ∉ s) : setValue? (s ++ ':' :: t) = none := by
  apply setValue?_colon
  intro field value rest hassign hrest
  have hquote : '"' ∈ trimStart value := by
    rw [eq_of_afterQuoteMark hrest]
    exact List.mem_cons_self
  exact absurd (mem_of_assignment? hassign ((List.dropWhile_suffix _).subset hquote)) h

end FormScript.Source
