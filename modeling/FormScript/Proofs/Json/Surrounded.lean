import FormScript.Proofs.Json.Lexing
import FormScript.Proofs.Json.RoundTrip
import FormScript.Proofs.Text.Trim
import Mathlib.Data.List.Infix

/-! JSON among other text. What is taken for a fenced block may begin and end inside the strings of
the document. It then begins outside of all strings, since it begins behind a line feed, and ends in
a string that is open, so that it cannot be read, and the document is found by its brackets. -/
namespace FormScript.Json

open Text

/-- A text that is one array or object and nothing else. -/
structure IsDocument (d : List Char) (v : Json) : Prop where
  reads : readWithin maxDepth d = some v
  opens : d.head?.any isOpening = true
  closes : d.getLast?.any isClosing = true

/-- A character that neither opens nor closes anything. -/
def isProse (c : Char) : Bool :=
  !(isOpening c || isClosing c || c == '"' || c == '\x60')

theorem eq_of_isOpening {c : Char} (h : isOpening c = true) : c = '{' ∨ c = '[' := by
  simpa [isOpening] using h

theorem readWithin_eq_some {limit : Nat} {cs : List Char} {v : Json} :
    readWithin limit cs = some v ↔
      ∃ ts, lex cs = some ts ∧ State.run limit (.value []) ts = some (.done v []) := by
  rw [readWithin]
  constructor
  · intro h
    split at h
    · rename_i w hrun
      cases h
      exact Option.bind_eq_some_iff.mp hrun
    · contradiction
  · intro h
    rw [Option.bind_eq_some_iff.mpr h]

theorem run_done {limit : Nat} {v : Json} {ts : List Token} {state : State}
    (h : State.run limit (.done v []) ts = some state) : ts = [] ∧ state = .done v [] := by
  cases ts with
  | nil =>
    cases h
    exact ⟨rfl, rfl⟩
  | cons token rest =>
    have hstep : State.step limit (.done v []) token = none := by cases token <;> rfl
    rw [run_cons, hstep] at h
    contradiction

theorem run_append {limit : Nat} (state : State) (a b : List Token) :
    State.run limit state (a ++ b) = (State.run limit state a).bind (State.run limit · b) :=
  List.foldlM_append

theorem IsDocument.ne_nil {d : List Char} {v : Json} (hd : IsDocument d v) : d ≠ [] := by
  rintro rfl
  exact absurd hd.opens (by decide)

/-- Whatever stands behind a document, no other value comes of it. -/
theorem IsDocument.eq_of_append {d : List Char} {v : Json} (hd : IsDocument d v) {more : List Char}
    {w : Json} (h : readWithin maxDepth (d ++ more) = some w) : w = v := by
  obtain ⟨ts, hlex, hrun⟩ := readWithin_eq_some.mp hd.reads
  obtain ⟨all, hall, hrunAll⟩ := readWithin_eq_some.mp h
  have hlast : d.getLast?.all isClosing = true := by
    have hcloses := hd.closes
    cases hd : d.getLast? with
    | none => rfl
    | some c => rwa [hd] at hcloses
  rw [(lexes_of_lex hlex).lex_append hlast] at hall
  obtain ⟨rest, -, rfl⟩ := Option.map_eq_some_iff.mp hall
  rw [run_append, hrun, Option.bind_some] at hrunAll
  cases (run_done hrunAll).2
  rfl

theorem readWithin_of_head {limit : Nat} {c : Char} {cs : List Char} (hc : isProse c = true)
    (hspace : isSpace c = false) (hopens : ∃ b ∈ cs, isOpening b = true) :
    readWithin limit (c :: cs) = none := by
  have hquote : c ≠ '"' := by
    rintro rfl
    contradiction
  apply Option.eq_none_iff_forall_ne_some.mpr
  intro w hread
  obtain ⟨ts, hlex, hrun⟩ := readWithin_eq_some.mp hread
  cases hmark : punctuation? c with
  | some token =>
    rw [lex_punctuation hmark] at hlex
    obtain ⟨more, -, rfl⟩ := Option.map_eq_some_iff.mp hlex
    have hstep : State.step limit (.value []) token = none := by
      unfold punctuation? at hmark
      split at hmark
      all_goals cases hmark
      all_goals first | rfl | contradiction
    rw [run_cons, hstep] at hrun
    contradiction
  | none =>
    rw [lex_scalar hquote hspace hmark] at hlex
    obtain ⟨⟨found, after⟩, hscalar, hlex⟩ := Option.bind_eq_some_iff.mp hlex
    obtain ⟨more, hmore, rfl⟩ := Option.map_eq_some_iff.mp hlex
    obtain ⟨b, hb, hopening⟩ := hopens
    have hafter : b ∈ after := by
      obtain ⟨used, hused, hcs⟩ := isScalarReader_scalar.takes hscalar
      have hmem : b ∈ used ++ after := hcs ▸ List.mem_cons_of_mem c hb
      refine (List.mem_append.mp hmem).resolve_left fun hbad => ?_
      have hscalarChar := List.all_eq_true.mp hused b hbad
      rcases eq_of_isOpening hopening with rfl | rfl <;> contradiction
    have hnil : more = [] := (run_done hrun).1
    subst hnil
    have hblank := (lexes_of_lex hmore).isSpace_of_nil b hafter
    rcases eq_of_isOpening hopening with rfl | rfl <;> contradiction

theorem readEmbedded_eq {text : String} {v : Json}
    (hwhole : ∀ w, readWithin maxDepth (trim text.toList) = some w → w = v)
    (hfenced : ∀ inside w, fenced? (trim text.toList) = some inside →
      readWithin maxDepth inside = some w → w = v)
    (hbracketed : readWithin maxDepth (bracketed (trim text.toList)) = some v) :
    readEmbedded text = some v := by
  rw [readEmbedded]
  cases hw : readWithin maxDepth (trim text.toList) with
  | some w =>
    rw [hwhole w hw]
    rfl
  | none =>
    cases hf : (fenced? (trim text.toList)).bind (readWithin maxDepth) with
    | some w =>
      obtain ⟨inside, hinside, hread⟩ := Option.bind_eq_some_iff.mp hf
      rw [hfenced inside w hinside hread]
      rfl
    | none => exact hbracketed

theorem cut_eq {pattern cs before after : List Char} (h : cut pattern cs = some (before, after)) :
    cs = before ++ (pattern ++ after) := by
  induction cs generalizing before with
  | nil =>
    rw [cut] at h
    split at h
    · rename_i hempty
      cases h
      rw [List.isEmpty_iff.mp hempty]
      rfl
    · contradiction
  | cons c cs ih =>
    rw [cut] at h
    split at h
    · rename_i found hfound
      cases h
      exact (List.append_eq_of_isPrefixOf?_eq_some hfound).symm
    · obtain ⟨⟨first, last⟩, hrest, heq⟩ := Option.map_eq_some_iff.mp h
      cases heq
      rw [ih hrest]
      rfl

theorem cut_append {w : Char} {ws before : List Char} (h : w ∉ before) (after : List Char) :
    cut (w :: ws) (before ++ (w :: ws ++ after)) = some (before, after) := by
  induction before with
  | nil =>
    have hfound : (w :: ws).isPrefixOf? (w :: ws ++ after) = some after :=
      List.isPrefixOf?_eq_some_iff_append_eq.mpr rfl
    rw [List.nil_append, List.cons_append, cut, ← List.cons_append, hfound]
  | cons c before ih =>
    obtain ⟨hne, hnot⟩ := not_or.mp (mt List.mem_cons.mpr h)
    have hnone : (w :: ws).isPrefixOf? (c :: (before ++ (w :: ws ++ after))) = none := by
      rw [List.isPrefixOf?, if_neg (by simpa using hne)]
    rw [List.cons_append, cut, hnone, ih hnot]
    rfl

theorem bracketed_append {a d b : List Char} {v : Json} (hd : IsDocument d v)
    (ha : a.all (!isOpening ·) = true) (hb : b.all (!isClosing ·) = true) :
    bracketed (a ++ (d ++ b)) = d := by
  have hstart : (d ++ b).dropWhile (!isOpening ·) = d ++ b := by
    have hopens := hd.opens
    cases d with
    | nil => contradiction
    | cons o d =>
      rw [List.head?_cons, Option.any_some] at hopens
      exact List.dropWhile_cons_of_neg (by simp [hopens])
  have hend : d.reverse.dropWhile (!isClosing ·) = d.reverse := by
    have hcloses := hd.closes
    rw [← List.head?_reverse] at hcloses
    cases hrev : d.reverse with
    | nil => rfl
    | cons o rest =>
      rw [hrev, List.head?_cons, Option.any_some] at hcloses
      exact List.dropWhile_cons_of_neg (by simp [hcloses])
  rw [← List.all_reverse] at hb
  rw [bracketed, List.dropWhile_append_of_pos (List.all_eq_true.mp ha), hstart, List.reverse_append,
    List.dropWhile_append_of_pos (List.all_eq_true.mp hb), hend, List.reverse_reverse]

theorem walk_of_readWithin_trim {limit : Nat} {cs : List Char} {w : Json}
    (h : readWithin limit (trim cs) = some w) : Region.code.walk cs = some .code := by
  obtain ⟨ts, hlex, -⟩ := readWithin_eq_some.mp h
  obtain ⟨lead, hlead, hstart⟩ := exists_lead cs
  obtain ⟨trail, htrail, hend⟩ := exists_trail (trimStart cs)
  have hblank {blanks : List Char} (h : blanks.all isBlank = true) :
      Region.code.walk blanks = some .code := by
    apply Region.walk_code
    intro c hc
    have hc := List.all_eq_true.mp h c hc
    constructor
    · rintro rfl
      contradiction
    · rintro rfl
      contradiction
  have hmid : Region.code.walk (trim cs) = some .code := (lexes_of_lex hlex).walk_eq
  rw [hstart, hend, ← trim, Region.walk_append, hblank hlead, Option.bind_some, Region.walk_append,
    hmid, Option.bind_some, hblank htrail]

/-- A backtick inside a string of a document does not end a piece that can be read. -/
theorem readWithin_trim_of_backtick {limit : Nat} {block behind : List Char} {r : Region}
    (hwalk : Region.code.walk (block ++ '\x60' :: behind) = some r) :
    readWithin limit (trim block) = none := by
  apply Option.eq_none_iff_forall_ne_some.mpr
  intro w hread
  rw [Region.walk_append, walk_of_readWithin_trim hread] at hwalk
  contradiction

/-- A fenced block that begins behind a line feed of a text and ends at a backtick of it is no JSON,
unless there is a backtick outside of the strings. -/
theorem readWithin_fenced {limit : Nat} {cs inside : List Char} {r : Region}
    (hwalk : Region.code.walk cs = some r) (h : fenced? cs = some inside) :
    readWithin limit inside = none := by
  obtain ⟨⟨before, after⟩, hopen, h⟩ := Option.bind_eq_some_iff.mp h
  obtain ⟨⟨info, body⟩, hline, h⟩ := Option.bind_eq_some_iff.mp h
  obtain ⟨⟨block, behind⟩, hclose, h⟩ := Option.bind_eq_some_iff.mp h
  cases h
  rw [cut_eq hopen, cut_eq hline, cut_eq hclose, ← List.append_assoc "```".toList,
    ← List.append_assoc before, Region.walk_append, List.singleton_append] at hwalk
  obtain ⟨start, -, hwalk⟩ := Option.bind_eq_some_iff.mp hwalk
  obtain ⟨next, hnewline, hwalk⟩ := Option.bind_eq_some_iff.mp hwalk
  obtain ⟨-, rfl⟩ := Region.eq_code_of_newline hnewline
  exact readWithin_trim_of_backtick hwalk

theorem isProse_iff {c : Char} : isProse c = true ↔
    (isOpening c = false ∧ isClosing c = false) ∧ c ≠ '"' ∧ c ≠ '\x60' := by
  simp [isProse, and_assoc]

theorem walk_of_isProse {cs : List Char} (h : cs.all isProse = true) :
    Region.code.walk cs = some .code :=
  Region.walk_code fun c hc => (isProse_iff.mp (List.all_eq_true.mp h c hc)).2

theorem all_not_isOpening {cs : List Char} (h : cs.all isProse = true) :
    cs.all (!isOpening ·) = true := by
  refine List.all_eq_true.mpr fun c hc => ?_
  rw [(isProse_iff.mp (List.all_eq_true.mp h c hc)).1.1]
  rfl

theorem all_not_isClosing {cs : List Char} (h : cs.all isProse = true) :
    cs.all (!isClosing ·) = true := by
  refine List.all_eq_true.mpr fun c hc => ?_
  rw [(isProse_iff.mp (List.all_eq_true.mp h c hc)).1.2]
  rfl

theorem all_isProse_trimStart {p : List Char} (hp : p.all isProse = true) :
    (trimStart p).all isProse = true := by
  obtain ⟨lead, -, heq⟩ := exists_lead p
  rw [heq, List.all_append, Bool.and_eq_true] at hp
  exact hp.2

theorem all_isProse_trimEnd {s : List Char} (hs : s.all isProse = true) :
    (trimEnd s).all isProse = true := by
  obtain ⟨trail, -, heq⟩ := exists_trail s
  rw [heq, List.all_append, Bool.and_eq_true] at hs
  exact hs.1

theorem IsDocument.isBlank_head {d : List Char} {v : Json} (hd : IsDocument d v) :
    ∀ c, d.head? = some c → isBlank c = false := by
  intro c hc
  have hopens := hd.opens
  rw [hc, Option.any_some] at hopens
  rcases eq_of_isOpening hopens with rfl | rfl <;> decide

theorem IsDocument.isBlank_last {d : List Char} {v : Json} (hd : IsDocument d v) :
    ∀ c, d.getLast? = some c → isBlank c = false := by
  intro c hc
  have hcloses := hd.closes
  rw [hc, Option.any_some] at hcloses
  rcases eq_of_isClosing hcloses with rfl | rfl <;> decide

theorem IsDocument.walk_eq {d : List Char} {v : Json} (hd : IsDocument d v) :
    Region.code.walk d = some .code := by
  obtain ⟨ts, hlex, -⟩ := readWithin_eq_some.mp hd.reads
  exact (lexes_of_lex hlex).walk_eq

section

variable {d p s : List Char} {v : Json} (hd : IsDocument d v) (hp : p.all isProse = true)
  (hs : s.all isProse = true)

include hd hp in
theorem IsDocument.eq_of_whole (hhead : ∀ c, p.head? = some c → isBlank c = false) {w : Json}
    (h : readWithin maxDepth (p ++ (d ++ s)) = some w) : w = v := by
  cases p with
  | nil => exact hd.eq_of_append h
  | cons c p =>
    have hspace : isSpace c = false := by
      have hc := hhead c rfl
      cases hspace : isSpace c with
      | false => rfl
      | true =>
        simp only [isSpace, Bool.or_eq_true, beq_iff_eq] at hspace
        rcases hspace with ((rfl | rfl) | rfl) | rfl <;> contradiction
    have hopens : ∃ b ∈ p ++ (d ++ s), isOpening b = true := by
      obtain ⟨b, hb, hopening⟩ := (Option.any_eq_true _ _).mp hd.opens
      exact ⟨b, List.mem_append_right p (List.mem_append_left s (List.mem_of_head? hb)), hopening⟩
    have hprose : isProse c = true := List.all_eq_true.mp hp c List.mem_cons_self
    rw [List.cons_append, readWithin_of_head hprose hspace hopens] at h
    contradiction

include hd hp in
/-- The fenced block that is found is the whole document, unless it ends inside a string. -/
theorem IsDocument.eq_of_fenced {info inside : List Char} (hline : '\n' ∉ info)
    (h : fenced? (p ++ ("```".toList ++ (info ++ (['\n'] ++
      (d ++ ('\n' :: ("```".toList ++ s))))))) = some inside) {w : Json}
    (hread : readWithin maxDepth inside = some w) : w = v := by
  have hnot : '\x60' ∉ p := fun hmem => absurd (List.all_eq_true.mp hp _ hmem) (by decide)
  obtain ⟨⟨before, after⟩, hopen, h⟩ := Option.bind_eq_some_iff.mp h
  cases (cut_append hnot _).symm.trans hopen
  obtain ⟨⟨line, body⟩, hnewline, h⟩ := Option.bind_eq_some_iff.mp h
  cases (cut_append hline _).symm.trans hnewline
  obtain ⟨⟨block, behind⟩, hclose, h⟩ := Option.bind_eq_some_iff.mp h
  cases h
  rcases List.append_eq_append_iff.mp (cut_eq hclose) with ⟨more, rfl, hmore⟩ | ⟨more, hcut, hmore⟩
  · cases more with
    | nil => exact absurd (List.cons.inj hmore).1 (by decide)
    | cons first more =>
      obtain ⟨hfirst, hrest⟩ := List.cons.inj hmore
      subst hfirst
      cases more with
      | nil =>
        have htrim : trim d = d := by
          rw [trim, trimStart_eq_self hd.isBlank_head, trimEnd_eq_self hd.isBlank_last]
        rw [trim_append_of_blank (by decide), htrim, hd.reads] at hread
        cases hread
        rfl
      | cons c more =>
        obtain ⟨rfl, -⟩ := List.cons.inj hrest
        have hwalk := walk_of_readWithin_trim hread
        rw [Region.walk_append, hd.walk_eq] at hwalk
        contradiction
  · cases more with
    | nil => exact absurd (List.cons.inj hmore).1 (by decide)
    | cons c more =>
      obtain ⟨rfl, -⟩ := List.cons.inj hmore
      rw [readWithin_trim_of_backtick (hcut ▸ hd.walk_eq)] at hread
      contradiction

include hd hp hs

theorem IsDocument.readEmbedded_between {text : String} (htext : text.toList = p ++ (d ++ s)) :
    readEmbedded text = some v := by
  have htrim : trim text.toList = trimStart p ++ (d ++ trimEnd s) := by
    rw [htext, trim_around p hd.ne_nil hd.isBlank_head hd.isBlank_last]
  have hfront := all_isProse_trimStart hp
  have hback := all_isProse_trimEnd hs
  apply readEmbedded_eq
  · intro w hread
    rw [htrim] at hread
    exact hd.eq_of_whole hfront (fun c => isBlank_of_head?_trimStart) hread
  · intro inside w hinside hread
    rw [htrim] at hinside
    have hwalk : Region.code.walk (trimStart p ++ (d ++ trimEnd s)) = some .code := by
      rw [Region.walk_append, walk_of_isProse hfront, Option.bind_some, Region.walk_append,
        hd.walk_eq, Option.bind_some, walk_of_isProse hback]
    rw [readWithin_fenced hwalk hinside] at hread
    contradiction
  · rw [htrim, bracketed_append hd (all_not_isOpening hfront) (all_not_isClosing hback)]
    exact hd.reads

theorem IsDocument.readEmbedded_fence {text : String} {info : List Char}
    (hinfo : info.all isProse = true) (hline : '\n' ∉ info)
    (htext : text.toList = p ++ ("```".toList ++ (info ++ (['\n'] ++
      (d ++ ('\n' :: ("```".toList ++ s))))))) : readEmbedded text = some v := by
  have htrim : trim text.toList = trimStart p ++ ("```".toList ++ (info ++ (['\n'] ++
      (d ++ ('\n' :: ("```".toList ++ trimEnd s)))))) := by
    have hlast (cs : List Char) :
        ∀ c, (cs ++ "```".toList).getLast? = some c → isBlank c = false := by
      intro c hc
      rw [List.getLast?_append] at hc
      cases hc
      decide
    have hhead (cs : List Char) : ∀ c, ("```".toList ++ cs).head? = some c → isBlank c = false := by
      intro c hc
      cases hc
      decide
    have hne : ("```".toList ++ (info ++ (['\n'] ++ (d ++ ['\n'])))) ++ "```".toList ≠ [] :=
      List.append_ne_nil_of_left_ne_nil (List.cons_ne_nil _ _) _
    have haround := trim_around p hne (hhead _) (hlast _) s
    simpa [htext] using haround
  have hfront := all_isProse_trimStart hp
  have hback := all_isProse_trimEnd hs
  apply readEmbedded_eq
  · intro w hread
    obtain ⟨ts, hlex, -⟩ := readWithin_eq_some.mp hread
    have hwalk := (lexes_of_lex hlex).walk_eq
    rw [htrim, Region.walk_append, walk_of_isProse hfront] at hwalk
    contradiction
  · intro inside w hinside hread
    rw [htrim] at hinside
    exact hd.eq_of_fenced hfront hline hinside hread
  · have hopens :
        (trimStart p ++ ("```".toList ++ (info ++ ['\n']))).all (!isOpening ·) = true := by
      rw [List.all_append, List.all_append, List.all_append, all_not_isOpening hfront,
        all_not_isOpening hinfo]
      decide
    have hcloses : (['\n'] ++ ("```".toList ++ trimEnd s)).all (!isClosing ·) = true := by
      rw [List.all_append, List.all_append, all_not_isClosing hback]
      decide
    have hbracketed := bracketed_append hd hopens hcloses
    simp only [List.append_assoc, List.singleton_append] at hbracketed
    rw [htrim, List.singleton_append, hbracketed]
    exact hd.reads

end

theorem readEmbedded_surrounded {d p s info : String} {v : Json} (hread : read d = some v)
    (hopens : d.toList.head?.any isOpening = true)
    (hcloses : d.toList.getLast?.any isClosing = true) (hp : p.toList.all isProse = true)
    (hs : s.toList.all isProse = true) (hinfo : info.toList.all isProse = true)
    (hline : '\n' ∉ info.toList) :
    readEmbedded (p ++ d ++ s) = some v ∧
      readEmbedded (p ++ "```" ++ info ++ "\n" ++ d ++ "\n" ++ "```" ++ s) = some v := by
  have hd : IsDocument d.toList v := ⟨hread, hopens, hcloses⟩
  constructor
  · exact hd.readEmbedded_between hp hs (by simp)
  · exact hd.readEmbedded_fence hp hs hinfo hline (by simp)

theorem readEmbedded_surrounded_fences :
    let d := "[\n  \"a ```\",\n  null,\n  \"``` \\\" ]\"\n]"
    let v : Json := .arr [.str "a ```", .null, .str "``` \" ]"]
    read d = some v ∧ readEmbedded ("As asked:\n" ++ d ++ "\nThat is all.") = some v ∧
      readEmbedded ("As asked:\n" ++ "```" ++ "json" ++ "\n" ++ d ++ "\n" ++ "```" ++
        "\nThat is all.") = some v := by
  intro d v
  have hread : read d = some v := by
    have hpretty : d = pretty v := by decide
    rw [hpretty, read_pretty]
    rfl
  exact ⟨hread, readEmbedded_surrounded hread (by decide) (by decide) (by decide) (by decide)
    (by decide) (by decide)⟩

end FormScript.Json
