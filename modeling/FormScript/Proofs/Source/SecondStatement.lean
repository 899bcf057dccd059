import FormScript.Proofs.Source.Carried
import FormScript.Proofs.Source.WellNested

/-! A second statement on the line of a first one, with a colon between them. Most forms of a
statement end with the line, so that the line has none of them any more and is a gap as a whole.
Four do not, and with these what stands behind the colon is lost. -/
namespace FormScript.Source

open Text

variable {t : Line}

def hasArguments (line : Line) : Bool :=
  (((after "msgbox" line).bind afterQuote).bind unquoted?).any fun found =>
    (trimStart found.2).head? == some ','

theorem endsMessage_colon (cs : Line) :
    endsMessage (cs ++ ':' :: t) = ((trimStart cs).head? == some ',') := by
  rw [endsMessage, trimStart_colon]
  cases trimStart cs with
  | nil => cases t <;> rfl
  | cons c rest => cases rest <;> simp

theorem argument_colon {word : String} (hword : word.toList.all (· != ':') = true) {s cs : Line}
    (h : (after word s).bind afterQuote = some cs) :
    (after word (s ++ ':' :: t)).bind afterQuote = some (cs ++ ':' :: t) := by
  have hpiece := (carries_after (t := t) hword).bind carries_afterQuote s
  dsimp only at hpiece
  rw [hpiece, h, Option.map_some]

theorem message?_colon {s : Line} {text : List Char} (h : message? s = some text) :
    message? (s ++ ':' :: t) = if hasArguments s then some text else none := by
  have htail : ∀ rest, endsMessage ('"' :: rest) = false := by
    intro rest
    cases rest <;> rfl
  obtain ⟨cs, hcs, hquoted⟩ := Option.bind_eq_some_iff.mp h
  rw [quoted?_eq htail] at hquoted
  obtain ⟨⟨found, rest⟩, hfound, htext⟩ := Option.bind_eq_some_iff.mp hquoted
  dsimp only at htext
  split at htext
  · cases htext
    have hcolon := unquoted?_append hfound (u := ':' :: t) (by simp)
    rw [message?, argument_colon (by decide) hcs, Option.bind_some, quoted?_eq htail, hcolon,
      Option.bind_some, endsMessage_colon, hasArguments, hcs, Option.bind_some, hfound]
    rfl
  · contradiction

theorem openedForm?_colon {s : Line} {name : List Char} (h : openedForm? s = some name) :
    openedForm? (s ++ ':' :: t) = some name := by
  obtain ⟨cs, hcs, h⟩ := Option.bind_eq_some_iff.mp h
  dsimp only at h
  split at h
  · contradiction
  · rename_i hname
    cases h
    simp only [Bool.or_eq_true, List.isEmpty_iff, beq_iff_eq, not_or] at hname
    have hle : (cs.takeWhile (· != '"')).length ≤ cs.length := (List.takeWhile_prefix _).length_le
    have htake : (cs ++ ':' :: t).takeWhile (· != '"') = cs.takeWhile (· != '"') := by
      rw [List.takeWhile_append, if_neg hname.2]
    have hopen : ¬ ((cs.takeWhile (· != '"')).isEmpty ||
        (cs.takeWhile (· != '"')).length == (cs ++ ':' :: t).length) = true := by
      simp only [Bool.or_eq_true, List.isEmpty_iff, beq_iff_eq, not_or, List.length_append,
        List.length_cons]
      exact ⟨hname.1, by omega⟩
    rw [openedForm?, argument_colon (by decide) hcs]
    simp only [Option.bind_eq_bind, Option.bind_some, htake]
    rw [if_neg hopen]
    rfl

/-- Whatever the line, only these forms can go on behind a colon. -/
theorem statement?_colon_eq (s : Line) :
    statement? (s ++ ':' :: t) =
      if (after "docmd.save" s).any atWordEnd then some (.ofAction .saveRecord)
      else ((message? (s ++ ':' :: t)).map fun text =>
          .ofAction (.showMessage (String.ofList text))).or
        (((openedForm? (s ++ ':' :: t)).map fun name =>
            .ofAction (.openForm (String.ofList name))).or
          (if isClose s then some (.ofAction .closeForm)
            else (setValue? (s ++ ':' :: t)).map .ofAction)) := by
  have hafter {word : String} (hword : word.toList.all (· != ':') = true) : Carries t (after word) :=
    carries_after hword
  have hexit : isExit (s ++ ':' :: t) = false :=
    (((hafter (by decide)).bind carries_afterBlank).bind (carries_afterAny (by decide))).isWhole_eq s
  have hcancel : isCancel (s ++ ':' :: t) = false :=
    (((hafter (by decide)).bind carries_afterEquals).bind (hafter (by decide))).isWhole_eq s
  have hrequery : isRequery (s ++ ':' :: t) = false :=
    (carries_afterAny (by decide)).isWhole_eq s
  have hfocus : isFocus (s ++ ':' :: t) = false := by
    rw [isFocus, member?_colon]
    cases member? s with
    | none => rfl
    | some found => exact (hafter (by decide)).isWhole_eq found.2
  have hany (word : String) (hword : word.toList.all (· != ':') = true) :
      (after word (s ++ ':' :: t)).any atWordEnd = (after word s).any atWordEnd := by
    rw [hafter hword]
    cases after word s with
    | none => rfl
    | some rest => exact atWordEnd_colon rest
  have hsave : isSave (s ++ ':' :: t) = (after "docmd.save" s).any atWordEnd := by
    have hcommand : Carries t fun cs => ((after "runcommand" cs).bind afterBlank).bind
        (after "accmdsaverecord") :=
      ((hafter (by decide)).bind carries_afterBlank).bind (hafter (by decide))
    have hdirty : Carries t fun cs => ((after "me.dirty" cs).bind afterEquals).bind
        (after "false") :=
      ((hafter (by decide)).bind carries_afterEquals).bind (hafter (by decide))
    rw [isSave, optionally_colon (hafter (by decide)), hany _ (by decide),
      hcommand.isWhole_eq, hdirty.isWhole_eq, Bool.false_or, Bool.or_false]
  have hclose : isClose (s ++ ':' :: t) = isClose s := hany _ (by decide)
  have htruth (cs : Line) : (afterEquals (cs ++ ':' :: t)).bind truth? = none := by
    rw [carries_afterEquals]
    cases afterEquals cs with
    | none => rfl
    | some rest =>
      rw [Option.map_some, Option.bind_some, truth?, (hafter (by decide)).isWhole_eq,
        (hafter (by decide)).isWhole_eq]
      rfl
  have hproperty : property? (s ++ ':' :: t) = none := by
    rw [property?, member?_colon]
    cases member? s with
    | none => rfl
    | some found =>
      simp only [Option.map_some, Option.bind_eq_bind, Option.bind_some]
      rw [hafter (by decide), hafter (by decide)]
      cases after ".enabled" found.2 <;> cases after ".visible" found.2 <;> simp [htruth]
  simp only [statement?, hexit, hfocus, hcancel, hsave, hclose, hrequery, hproperty,
    Bool.false_eq_true, if_false]
  cases message? (s ++ ':' :: t) <;> cases openedForm? (s ++ ':' :: t) <;> rfl

/-- The statements that do not look at the end of their line: another form of saving, a message with
more arguments, and opening and closing a form. -/
def ignoresRest (line : Line) : Bool :=
  (after "docmd.save" line).any atWordEnd || hasArguments line || (openedForm? line).isSome ||
    isClose line

theorem message?_of_after {line : Line} (h : after "msgbox" line = none) : message? line = none := by
  rw [message?, h]
  rfl

theorem openedForm?_of_after {line : Line} (h : after "docmd.openform" line = none) :
    openedForm? line = none := by
  rw [openedForm?, h]
  rfl

def openWords : List String :=
  ["docmd.save", "msgbox", "docmd.openform", "docmd.close"]

theorem setValue?_of_after {line : Line} (h : after "me" line = none) : setValue? line = none := by
  have hmember : member? line = none := by
    refine Option.eq_none_iff_forall_ne_some.mpr fun found hfound => ?_
    obtain ⟨cs, hcs⟩ := me_of_member? hfound
    rw [h] at hcs
    contradiction
  rw [setValue?, assignment?, hmember]
  rfl

theorem after_colon_apart {word other : String} {s rest : Line} (h : after word s = some rest)
    (hapart : apart word other = true) (hother : other.toList.all (· != ':') = true) :
    after other (s ++ ':' :: t) = none := by
  rw [carries_after hother, after_apart h hapart]
  rfl

theorem statement?_colon_of_word {word : String} {s rest : Line} (h : after word s = some rest)
    (hapart : openWords.all (apart word) = true) (hvalue : setValue? (s ++ ':' :: t) = none) :
    statement? (s ++ ':' :: t) = none ∧ ignoresRest s = false := by
  have hword (other : String) (hother : other ∈ openWords) : apart word other = true :=
    List.all_eq_true.mp hapart other hother
  have hsave : after "docmd.save" s = none := after_apart h (hword _ (by decide))
  have hclose : isClose s = false := by
    rw [isClose, after_apart h (hword _ (by decide))]
    rfl
  have hmessage : message? (s ++ ':' :: t) = none :=
    message?_of_after (after_colon_apart h (hword _ (by decide)) (by decide))
  have hopened : openedForm? (s ++ ':' :: t) = none :=
    openedForm?_of_after (after_colon_apart h (hword _ (by decide)) (by decide))
  constructor
  · rw [statement?_colon_eq, hsave, hmessage, hopened, hclose, hvalue]
    rfl
  · rw [ignoresRest, hasArguments, hclose, hsave, after_apart h (hword "msgbox" (by decide)),
      openedForm?_of_after (after_apart h (hword _ (by decide)))]
    rfl

theorem quote_not_mem_dirty {s rest : Line} (h : after "me.dirty" s = some rest)
    (hrest : (afterEquals rest).bind (after "false") = some []) : '"' ∉ s := by
  intro hmem
  obtain ⟨behind, hequals, hfalse⟩ := Option.bind_eq_some_iff.mp hrest
  have hbehind := quote_mem_of_afterEquals hequals (quote_mem_of_after (by decide) h hmem)
  exact absurd (quote_mem_of_after (by decide) hfalse hbehind) List.not_mem_nil

theorem quote_not_mem_property {s : Line} {a : Action} (h : property? s = some a) : '"' ∉ s := by
  intro hmem
  obtain ⟨⟨control, cs⟩, hmember, h⟩ := Option.bind_eq_some_iff.mp h
  have hcs := quote_mem_of_member? hmember hmem
  have hset {rest : Line} {value : Bool} (hrest : '"' ∈ rest)
      (hvalue : (afterEquals rest).bind truth? = some value) : False := by
    obtain ⟨behind, hequals, htruth⟩ := Option.bind_eq_some_iff.mp hvalue
    have hbehind := quote_mem_of_afterEquals hequals hrest
    rw [truth?] at htruth
    split at htruth
    · rename_i hwhole
      exact absurd (quote_mem_of_after (by decide) (isWhole_iff.mp hwhole) hbehind)
        List.not_mem_nil
    split at htruth
    · rename_i hwhole
      exact absurd (quote_mem_of_after (by decide) (isWhole_iff.mp hwhole) hbehind)
        List.not_mem_nil
    · contradiction
  cases henabled : after ".enabled" cs with
  | some rest =>
    simp only [henabled] at h
    obtain ⟨value, hvalue, -⟩ := Option.bind_eq_some_iff.mp h
    exact hset (quote_mem_of_after (by decide) henabled hcs) hvalue
  | none =>
    cases hvisible : after ".visible" cs with
    | some rest =>
      simp only [henabled, hvisible] at h
      obtain ⟨value, hvalue, -⟩ := Option.bind_eq_some_iff.mp h
      exact hset (quote_mem_of_after (by decide) hvisible hcs) hvalue
    | none =>
      simp only [henabled, hvisible] at h
      contradiction

theorem statement?_colon {s : Line} {a : Action} (h : statement? s = some (.ofAction a)) :
    statement? (s ++ ':' :: t) = if ignoresRest s then some (.ofAction a) else none := by
  have hclosed {word : String} {rest : Line} (hafter : after word s = some rest)
      (hapart : openWords.all (apart word) = true) (hvalue : setValue? (s ++ ':' :: t) = none) :
      statement? (s ++ ':' :: t) = if ignoresRest s then some (.ofAction a) else none := by
    obtain ⟨hnone, hignores⟩ := statement?_colon_of_word hafter hapart hvalue
    rw [hnone, hignores]
    rfl
  have hvalue {word : String} {rest : Line} (hafter : after word s = some rest)
      (hapart : apart word "me" = true) : setValue? (s ++ ':' :: t) = none :=
    setValue?_of_after (after_colon_apart hafter hapart (by decide))
  have hform := form_of_statement? h
  generalize hitem : Item.ofAction a = item at hform
  cases hform with
  | exit | focus | cancel => cases hitem
  | save hsave =>
    cases hitem
    rcases word_of_isSave hsave with ⟨rest, hword⟩ | ⟨rest, hword⟩ | hword | ⟨rest, hword, hdirty⟩
    · exact hclosed hword (by decide) (hvalue hword (by decide))
    · exact hclosed hword (by decide) (hvalue hword (by decide))
    · rw [statement?_colon_eq, ignoresRest, hword]
      rfl
    · obtain ⟨cs, hme⟩ := exists_after_of_append "me" ".dirty" hword rfl
      exact hclosed hme (by decide) (setValue?_colon_of_quote (quote_not_mem_dirty hword hdirty))
  | message hmessage =>
    cases hitem
    obtain ⟨cs, hcs, -⟩ := Option.bind_eq_some_iff.mp hmessage
    obtain ⟨rest, hword, -⟩ := Option.bind_eq_some_iff.mp hcs
    have hsave : after "docmd.save" s = none := after_apart hword (by decide)
    have hclose : after "docmd.close" s = none := after_apart hword (by decide)
    have hopen : after "docmd.openform" s = none := after_apart hword (by decide)
    have hopened := openedForm?_of_after hopen
    have hopened' := openedForm?_of_after (after_colon_apart (t := t) hword (by decide) (by decide))
    rw [statement?_colon_eq, message?_colon hmessage, hopened', hvalue hword (by decide), ignoresRest,
      hopened, isClose, hsave, hclose]
    cases hasArguments s <;> rfl
  | opened hopened =>
    cases hitem
    obtain ⟨cs, hcs, -⟩ := Option.bind_eq_some_iff.mp hopened
    obtain ⟨rest, hword, -⟩ := Option.bind_eq_some_iff.mp hcs
    have hsave : after "docmd.save" s = none := after_apart hword (by decide)
    have hmessage := message?_of_after (after_colon_apart (t := t) hword (by decide) (by decide))
    rw [statement?_colon_eq, hmessage, openedForm?_colon hopened, hsave, ignoresRest, hopened]
    simp
  | close hclose =>
    cases hitem
    obtain ⟨rest, hword, -⟩ := (Option.any_eq_true _ _).mp hclose
    have hsave : after "docmd.save" s = none := after_apart hword (by decide)
    have hmessage := message?_of_after (after_colon_apart (t := t) hword (by decide) (by decide))
    have hopened := openedForm?_of_after (after_colon_apart (t := t) hword (by decide) (by decide))
    rw [statement?_colon_eq, hmessage, hopened, hsave, ignoresRest, hclose]
    simp
  | requery hrequery =>
    cases hitem
    obtain ⟨word, hmem, hword⟩ := List.exists_of_findSome?_eq_some (isWhole_iff.mp hrequery)
    have hquote : '"' ∉ s := by
      have hwords : ∀ word ∈ ["me.requery", "docmd.requery"], '"' ∉ word.toList := by decide
      exact fun hmem' => absurd (quote_mem_of_after (hwords word hmem) hword hmem') List.not_mem_nil
    have hapart : ∀ word ∈ ["me.requery", "docmd.requery"], openWords.all (apart word) = true := by
      decide
    exact hclosed hword (hapart word hmem) (setValue?_colon_of_quote hquote)
  | property hproperty =>
    cases hitem
    obtain ⟨found, hmember, -⟩ := Option.bind_eq_some_iff.mp hproperty
    obtain ⟨cs, hme⟩ := me_of_member? hmember
    exact hclosed hme (by decide) (setValue?_colon_of_quote (quote_not_mem_property hproperty))
  | value hset =>
    cases hitem
    obtain ⟨⟨field, value⟩, hassign, hliteral⟩ := Option.bind_eq_some_iff.mp hset
    obtain ⟨text, hliteral, -⟩ := Option.bind_eq_some_iff.mp hliteral
    obtain ⟨found, hmember, -⟩ := Option.bind_eq_some_iff.mp hassign
    obtain ⟨cs, hme⟩ := me_of_member? hmember
    refine hclosed hme (by decide) (setValue?_colon ?_)
    intro field' value' rest hassign' hrest
    rw [hassign] at hassign'
    cases hassign'
    exact exists_unquoted?_of_literal? hliteral hrest

theorem shape_colon {s : Line} {item : Item} (h : Form s item) : shape (s ++ ':' :: t) = .plain := by
  obtain ⟨word, hword, rest, hrest⟩ := word_of_form h
  have hcolon : statementWords.all fun word => word.toList.all (· != ':') := by decide
  have hboundary : statementWords.all fun word => ("if" :: boundaryWords).all (apart word) := by
    decide
  have hafter : after word (s ++ ':' :: t) = some (rest ++ ':' :: t) := by
    rw [carries_after (List.all_eq_true.mp hcolon word hword), hrest]
    rfl
  exact shape_of_statementWord hafter (List.all_eq_true.mp hboundary word hword)

def onOneLine (s t : Line) : Line :=
  s ++ (": ".toList ++ t)

theorem recognize_statement {source : String} {header line last : Line} {name : List Char}
    (hlines : logicalLines source.toList = [header, line, last])
    (hheader : header? header = some name) (hlast : isEndSub last = true)
    (hplain : shape line = .plain) :
    recognize source = [⟨String.ofList name, Identifier.trigger (String.ofList name),
      bodyIntents [statement line]⟩] := by
  have hrecognized := recognize_wellNested source
    (.single line (standsAlone_of_shape (Or.inl hplain)) .nil) (some last) hlines hheader hlast
  rwa [WellNested.items, lineItems_of_plain hplain] at hrecognized

/-- A procedure with one statement and another one behind a colon is recognized as if the second
were not there exactly if the first is of a form that ignores the rest of its line; if not, the
whole line is a gap. -/
theorem second_statement_lost_iff {source : String} {header s t last : Line} {name : List Char}
    {a : Action} (hlines : logicalLines source.toList = [header, onOneLine s t, last])
    (hheader : header? header = some name) (hlast : isEndSub last = true)
    (hs : statement? s = some (.ofAction a)) :
    ∃ p, recognize source = [p] ∧ (p.intents = [.act a none] ↔ ignoresRest s = true) ∧
      (ignoresRest s = false → p.intents =
        [.openGap (String.ofList (onOneLine s t)) "statement has no mechanical mapping"]) := by
  have hplain : shape (onOneLine s t) = .plain := shape_colon (form_of_statement? hs)
  have hread : statement? (onOneLine s t) = if ignoresRest s then some (.ofAction a) else none :=
    statement?_colon hs
  refine ⟨_, recognize_statement hlines hheader hlast hplain, ?_, ?_⟩
  · rw [statement, hread]
    cases ignoresRest s <;> simp [bodyIntents, Item.unrecognized, Item.ofGap, Item.ofAction,
      Item.toIntent, Intent.openGap]
  · intro hignores
    rw [statement, hread, hignores]
    rfl

/-- A colon in the text of the message, and a comment behind both statements. -/
def savedAndClosed : String :=
  "Private Sub cmdSave_Click()\n  MsgBox \"Saved: all\": DoCmd.Close ' both\nEnd Sub\n"

theorem second_statement_lost_iff_message :
    statement? "MsgBox \"Saved: all\"".toList = some (.ofAction (.showMessage "Saved: all")) ∧
      ∃ p, recognize savedAndClosed = [p] ∧
        (p.intents = [.act (.showMessage "Saved: all") none] ↔
          ignoresRest "MsgBox \"Saved: all\"".toList = true) ∧
        (ignoresRest "MsgBox \"Saved: all\"".toList = false → p.intents =
          [.openGap (String.ofList (onOneLine "MsgBox \"Saved: all\"".toList "DoCmd.Close".toList))
            "statement has no mechanical mapping"]) := by
  have hlines : logicalLines savedAndClosed.toList = ["Private Sub cmdSave_Click()".toList,
      onOneLine "MsgBox \"Saved: all\"".toList "DoCmd.Close".toList, "End Sub".toList] := by
    decide +kernel
  have hheader : header? "Private Sub cmdSave_Click()".toList = some "cmdSave_Click".toList := by
    decide +kernel
  have hs : statement? "MsgBox \"Saved: all\"".toList =
      some (.ofAction (.showMessage "Saved: all")) := by
    decide +kernel
  exact ⟨hs, second_statement_lost_iff hlines hheader (by decide) hs⟩

/-- The second statement, which closes the form, leaves no trace. -/
theorem second_statement_lost :
    statement? "DoCmd.OpenForm \"Orders\"".toList = some (.ofAction (.openForm "Orders")) ∧
      recognize "Sub cmdOpen_Click()\nDoCmd.OpenForm \"Orders\": DoCmd.Close\nEnd Sub\n" =
        recognize "Sub cmdOpen_Click()\nDoCmd.OpenForm \"Orders\"\nEnd Sub\n" := by
  refine ⟨by decide +kernel, ?_⟩
  have hheader : header? "Sub cmdOpen_Click()".toList = some "cmdOpen_Click".toList := by
    decide +kernel
  have hboth : logicalLines
      "Sub cmdOpen_Click()\nDoCmd.OpenForm \"Orders\": DoCmd.Close\nEnd Sub\n".toList =
      ["Sub cmdOpen_Click()".toList,
        onOneLine "DoCmd.OpenForm \"Orders\"".toList "DoCmd.Close".toList, "End Sub".toList] := by
    decide +kernel
  have hfirst : logicalLines "Sub cmdOpen_Click()\nDoCmd.OpenForm \"Orders\"\nEnd Sub\n".toList =
      ["Sub cmdOpen_Click()".toList, "DoCmd.OpenForm \"Orders\"".toList, "End Sub".toList] := by
    decide +kernel
  have hsame : statement (onOneLine "DoCmd.OpenForm \"Orders\"".toList "DoCmd.Close".toList) =
      statement "DoCmd.OpenForm \"Orders\"".toList := by
    decide +kernel
  rw [recognize_statement hboth hheader (by decide) (by decide +kernel),
    recognize_statement hfirst hheader (by decide) (by decide +kernel), hsame]

end FormScript.Source
