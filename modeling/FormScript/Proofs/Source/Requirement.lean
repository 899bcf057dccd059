import FormScript.Source.Block
import Mathlib.Data.List.Forall2

/-! When a conditional is the check of a required field. One message and something that stops the
event make it one, in whatever order; a second message, any other statement or a second arm makes
it a branch, and then nothing in the arms is lost. -/
namespace FormScript.Source

/-- A blank field, one message and a way out, and nothing else that means anything. -/
structure IsRequirement (condition : Line) (thenItems elseItems : List Item)
    (field message : String) : Prop where
  blank : condition? condition = some (.fieldBlank field)
  noElse : elseItems = []
  warns : ∃ before mark behind,
    thenItems = before ++ .intent (.act (.showMessage message) mark) :: behind ∧
      ∀ item ∈ before ++ behind, ∀ i, item ≠ .intent i
  stops : ∃ item ∈ thenItems, ∃ line, item = .exit line ∨ item = .cancel line

/-- What an item of an arm becomes there. -/
inductive Becomes : Item → Intent → Prop
  | intent (i : Intent) : Becomes (.intent i) i
  | exit (line : Line) (reason : String) :
    Becomes (.exit line) (.openGap (String.ofList line) reason)
  | focus (line : Line) (reason : String) :
    Becomes (.focus line) (.openGap (String.ofList line) reason)
  | cancel (line : Line) (reason : String) :
    Becomes (.cancel line) (.openGap (String.ofList line) reason)

theorem becomes_toIntent (item : Item) : Becomes item item.toIntent := by
  cases item with
  | intent i => exact .intent i
  | exit line => exact .exit line _
  | focus line => exact .focus line _
  | cancel line => exact .cancel line _

theorem forall₂_becomes (items : List Item) :
    List.Forall₂ Becomes items (items.map Item.toIntent) := by
  induction items with
  | nil => exact .nil
  | cons item rest ih => exact .cons (becomes_toIntent item) ih

theorem Item.intent?_eq_some {item : Item} {i : Intent} :
    item.intent? = some i ↔ item = .intent i := by
  cases item <;> simp [Item.intent?]

theorem Item.stops_iff {item : Item} :
    item.stops = true ↔ ∃ line, item = .exit line ∨ item = .cancel line := by
  cases item <;> simp [Item.stops]

theorem filterMap_intent?_eq_nil {items : List Item} :
    items.filterMap Item.intent? = [] ↔ ∀ item ∈ items, ∀ i, item ≠ .intent i := by
  rw [List.filterMap_eq_nil_iff]
  refine forall₂_congr fun item _ => ?_
  rw [Option.eq_none_iff_forall_ne_some]
  exact forall_congr' fun i => not_congr Item.intent?_eq_some

theorem filterMap_intent?_eq_singleton {items : List Item} {i : Intent} :
    items.filterMap Item.intent? = [i] ↔
      ∃ before behind, items = before ++ .intent i :: behind ∧
        ∀ item ∈ before ++ behind, ∀ j, item ≠ .intent j := by
  constructor
  · intro h
    obtain ⟨before, item, behind, rfl, hbefore, hitem, hbehind⟩ := List.filterMap_eq_cons_iff.mp h
    cases Item.intent?_eq_some.mp hitem
    refine ⟨before, behind, rfl, filterMap_intent?_eq_nil.mp ?_⟩
    rw [List.filterMap_append, List.filterMap_eq_nil_iff.mpr hbefore, hbehind]
    rfl
  · rintro ⟨before, behind, rfl, hothers⟩
    have hnil := filterMap_intent?_eq_nil.mpr hothers
    rw [List.filterMap_append, List.append_eq_nil_iff] at hnil
    have hfirst : (Item.intent i).intent? = some i := rfl
    rw [List.filterMap_append, List.filterMap_cons_some hfirst, hnil.1, hnil.2]
    rfl

theorem validation?_eq_some {c : Condition} {thenItems elseItems : List Item} {i : Intent} :
    validation? c thenItems elseItems = some i ↔
      ∃ field message mark, c = .fieldBlank field ∧ elseItems = [] ∧
        thenItems.filterMap Item.intent? = [.act (.showMessage message) mark] ∧
        thenItems.any Item.stops = true ∧ i = .act (.validateRequired field message) none := by
  constructor
  · intro h
    unfold validation? at h
    split at h
    · rename_i field message mark hintents
      split at h
      · rename_i hstops
        cases h
        exact ⟨field, message, mark, rfl, rfl, hintents, hstops, rfl⟩
      · contradiction
    · contradiction
  · rintro ⟨field, message, mark, rfl, rfl, hintents, hstops, rfl⟩
    unfold validation?
    rw [hintents]
    exact if_pos hstops

theorem isRequirement_iff {condition : Line} {thenItems elseItems : List Item}
    {field message : String} :
    IsRequirement condition thenItems elseItems field message ↔
      ∃ c, condition? condition = some c ∧ validation? c thenItems elseItems =
        some (.act (.validateRequired field message) none) := by
  constructor
  · rintro ⟨hblank, helse, ⟨before, mark, behind, hwarns⟩, item, hitem, hstops⟩
    refine ⟨_, hblank, validation?_eq_some.mpr ⟨field, message, mark, rfl, helse, ?_, ?_, rfl⟩⟩
    · exact filterMap_intent?_eq_singleton.mpr ⟨before, behind, hwarns⟩
    · exact List.any_eq_true.mpr ⟨item, hitem, Item.stops_iff.mpr hstops⟩
  · rintro ⟨c, hc, hvalid⟩
    obtain ⟨found, text, mark, rfl, helse, hintents, hstops, heq⟩ := validation?_eq_some.mp hvalid
    cases heq
    obtain ⟨before, behind, hwarns⟩ := filterMap_intent?_eq_singleton.mp hintents
    obtain ⟨item, hitem, hstop⟩ := List.any_eq_true.mp hstops
    exact ⟨hc, helse, ⟨before, mark, behind, hwarns⟩, item, hitem, Item.stops_iff.mp hstop⟩

/-- One pass over the items that remembers the message and whether something stops the event, and
gives up at the first item that has no place in a check. -/
def scan (message : Option String) (stopped : Bool) : List Item → Option String
  | [] => if stopped then message else none
  | .exit _ :: rest => scan message true rest
  | .cancel _ :: rest => scan message true rest
  | .focus _ :: rest => scan message stopped rest
  | .intent (.act (.showMessage text) _) :: rest =>
    match message with
    | none => scan (some text) stopped rest
    | some _ => none
  | .intent _ :: _ => none

def validationInOnePass : Condition → List Item → List Item → Option Intent
  | .fieldBlank field, thenItems, [] =>
    (scan none false thenItems).map fun message => .act (.validateRequired field message) none
  | _, _, _ => none

theorem scan_some_eq_some {message text : String} {stopped : Bool} {items : List Item} :
    scan (some message) stopped items = some text ↔
      items.filterMap Item.intent? = [] ∧ (stopped || items.any Item.stops) = true ∧
        message = text := by
  induction items generalizing stopped with
  | nil => simp [scan]
  | cons item rest ih =>
    cases item with
    | exit line => simp [scan, ih, List.filterMap_cons, Item.intent?, Item.stops]
    | cancel line => simp [scan, ih, List.filterMap_cons, Item.intent?, Item.stops]
    | focus line => simp [scan, ih, List.filterMap_cons, Item.intent?, Item.stops]
    | intent i =>
      have hnone : scan (some message) stopped (.intent i :: rest) = none := by
        cases i with
        | act a mark => cases a <;> rfl
        | gap g mark => rfl
        | branch c thenArm elseArm mapping mark => rfl
      simp [hnone, Item.intent?]

theorem scan_none_eq_some {text : String} {stopped : Bool} {items : List Item} :
    scan none stopped items = some text ↔
      ∃ mark, items.filterMap Item.intent? = [.act (.showMessage text) mark] ∧
        (stopped || items.any Item.stops) = true := by
  induction items generalizing stopped with
  | nil => simp [scan]
  | cons item rest ih =>
    cases item with
    | exit line => simp [scan, ih, List.filterMap_cons, Item.intent?, Item.stops]
    | cancel line => simp [scan, ih, List.filterMap_cons, Item.intent?, Item.stops]
    | focus line => simp [scan, ih, List.filterMap_cons, Item.intent?, Item.stops]
    | intent i =>
      cases i with
      | act a mark =>
        cases a with
        | showMessage message =>
          have hfirst : (Item.intent (.act (.showMessage message) mark)).intent? =
              some (.act (.showMessage message) mark) := rfl
          rw [scan, scan_some_eq_some, List.filterMap_cons_some hfirst]
          constructor
          · rintro ⟨hnil, hstops, rfl⟩
            exact ⟨mark, by rw [hnil], hstops⟩
          · rintro ⟨found, heq, hstops⟩
            obtain ⟨hmessage, hnil⟩ := List.cons.inj heq
            cases hmessage
            exact ⟨hnil, hstops, rfl⟩
        | _ => simp [scan, Item.intent?]
      | gap g mark => simp [scan, Item.intent?]
      | branch c thenArm elseArm mapping mark => simp [scan, Item.intent?]

theorem validationInOnePass_eq (c : Condition) (thenItems elseItems : List Item) :
    validationInOnePass c thenItems elseItems = validation? c thenItems elseItems := by
  ext i
  rw [validation?_eq_some]
  constructor
  · intro h
    unfold validationInOnePass at h
    split at h
    · obtain ⟨message, hscan, rfl⟩ := Option.map_eq_some_iff.mp h
      obtain ⟨mark, hintents, hstops⟩ := scan_none_eq_some.mp hscan
      exact ⟨_, message, mark, rfl, rfl, hintents, hstops, rfl⟩
    · contradiction
  · rintro ⟨field, message, mark, rfl, rfl, hintents, hstops, rfl⟩
    have hscan : scan none false thenItems = some message :=
      scan_none_eq_some.mpr ⟨mark, hintents, hstops⟩
    rw [validationInOnePass, hscan]
    rfl

/-- A conditional is the check of a required field exactly if it looks like one, as one pass over
its items finds out. Any other one with a known condition keeps all of its items. -/
theorem buildBranch_requirement (line condition : Line) (thenItems elseItems : List Item) :
    (∀ field message mark, buildBranch line condition thenItems elseItems =
        .intent (.act (.validateRequired field message) mark) ↔
      IsRequirement condition thenItems elseItems field message ∧ mark = none) ∧
    (∀ c, condition? condition = some c →
      validation? c thenItems elseItems = validationInOnePass c thenItems elseItems ∧
      ((∀ field message, ¬IsRequirement condition thenItems elseItems field message) →
        ∃ thenArm elseArm, buildBranch line condition thenItems elseItems =
            .intent (.branch c thenArm elseArm none none) ∧
          List.Forall₂ Becomes thenItems thenArm ∧ List.Forall₂ Becomes elseItems elseArm)) := by
  constructor
  · intro field message mark
    rw [isRequirement_iff, buildBranch]
    split
    · rename_i hc
      simp [hc, Item.ofGap, Intent.openGap]
    · rename_i c hc
      cases hvalid : validation? c thenItems elseItems with
      | none => simp [hc, hvalid]
      | some i =>
        obtain ⟨_, _, _, -, -, -, -, rfl⟩ := validation?_eq_some.mp hvalid
        simp [hc, hvalid, eq_comm]
  · intro c hc
    refine ⟨(validationInOnePass_eq c thenItems elseItems).symm, ?_⟩
    intro hnot
    have hvalid : validation? c thenItems elseItems = none := by
      apply Option.eq_none_iff_forall_ne_some.mpr
      intro i hvalid
      obtain ⟨field, message, _, -, -, -, -, rfl⟩ := validation?_eq_some.mp hvalid
      exact hnot field message (isRequirement_iff.mpr ⟨c, hc, hvalid⟩)
    refine ⟨_, _, ?_, forall₂_becomes thenItems, forall₂_becomes elseItems⟩
    simp only [buildBranch, hc, hvalid, Option.getD_none]

theorem buildBranch_requirement_twice :
    let line := "If Nz(Me.Code, \"\") = \"\" Then".toList
    let condition := " Nz(Me.Code, \"\") = \"\" ".toList
    let items := ["Cancel = True", "MsgBox \"Code?\"", "MsgBox \"Again\""].map
      fun text => statement text.toList
    condition? condition = some (.fieldBlank "Code") ∧
      buildBranch line condition (items.take 2) [] =
        .intent (.act (.validateRequired "Code" "Code?") none) ∧
      ∃ thenArm elseArm, buildBranch line condition items [] =
          .intent (.branch (.fieldBlank "Code") thenArm elseArm none none) ∧
        List.Forall₂ Becomes items thenArm ∧ List.Forall₂ Becomes [] elseArm := by
  intro line condition items
  have hc : condition? condition = some (.fieldBlank "Code") := by decide +kernel
  have honce : IsRequirement condition (items.take 2) [] "Code" "Code?" :=
    isRequirement_iff.mpr ⟨_, hc, by decide +kernel⟩
  have htwice : ∀ field message, ¬IsRequirement condition items [] field message := by
    intro field message h
    obtain ⟨c, hc', hvalid⟩ := isRequirement_iff.mp h
    cases hc.symm.trans hc'
    have hnone : validation? (.fieldBlank "Code") items [] = none := by decide +kernel
    rw [hnone] at hvalid
    contradiction
  exact ⟨hc, ((buildBranch_requirement line condition _ []).1 _ _ none).mpr ⟨honce, rfl⟩,
    ((buildBranch_requirement line condition items []).2 _ hc).2 htwice⟩

end FormScript.Source
