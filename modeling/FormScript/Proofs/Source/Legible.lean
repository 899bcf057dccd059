import FormScript.Proofs.Script.Emitted
import FormScript.Proofs.Source.Reading
import FormScript.Proofs.Source.Statements

/-! What recognition lets through. Whatever the source, names of procedures, fields and controls are
made of word characters, so that nothing in them ends a symbol or a line, and gaps carry neither ids
nor answers. Mapping keeps this: an id is a name and a number. -/
namespace FormScript

open Text Script

namespace Source

theorem isSymbolChar_of_isWord {c : Char} (h : isWord c = true) : isSymbolChar c = true := by
  have hmarks : marks.any isWord = false := by decide +kernel
  have hmark : c ∉ marks := by
    intro hmem
    exact List.any_eq_false.mp hmarks c hmem h
  simp [isSymbolChar, isBlank_of_isWord h, hmark]

def IsWordName (name : List Char) : Prop :=
  ∀ c ∈ name, isWord c = true

theorem IsWordName.isPlainName {name : List Char} (h : IsWordName name) :
    isPlainName (String.ofList name) = true := by
  rw [Script.isPlainName, String.toList_ofList]
  refine List.all_eq_true.mpr fun c hc => ?_
  have hsymbol := isSymbolChar_of_isWord (h c hc)
  rw [isSymbolChar, Bool.and_eq_true] at hsymbol
  exact hsymbol.2

theorem IsWordName.hasNoNewline {name : List Char} (h : IsWordName name) :
    hasNoNewline (String.ofList name) = true := by
  rw [FormScript.hasNoNewline, String.toList_ofList]
  refine List.all_eq_true.mpr fun c hc => ?_
  have hblank := isBlank_of_isWord (h c hc)
  simp only [bne_iff_ne, ne_eq]
  rintro rfl
  contradiction

theorem isWordName_takeWhile (cs : List Char) : IsWordName (cs.takeWhile isWord) :=
  List.all_eq_true.mp (List.all_takeWhile)

theorem isWordName_of_member? {cs rest : Line} {name : List Char}
    (h : member? cs = some (name, rest)) : IsWordName name := by
  rw [member?] at h
  obtain ⟨behind, -, h⟩ := Option.bind_eq_some_iff.mp h
  dsimp only at h
  split at h
  · contradiction
  · cases h
    exact isWordName_takeWhile _

theorem isWord_of_foldCase {c : Char} (h : (foldCase c).isLower = true) : isWord c = true := by
  have hlong : isWord (Char.ofNat 0x17F) = true ∧ isWord (Char.ofNat 0x212A) = true := by
    decide +kernel
  have hletters : ∀ n < 128, (Char.ofNat n).toLower.isLower = true →
      isWord (Char.ofNat n) = true := by
    decide +kernel
  unfold foldCase at h
  rw [← Char.ofNat_toNat c]
  split at h
  · rename_i hcode
    rw [hcode]
    exact hlong.1
  split at h
  · rename_i hcode
    rw [hcode]
    exact hlong.2
  · apply hletters c.toNat ?_ (by rwa [Char.ofNat_toNat])
    unfold Char.toLower at h
    split at h
    · rename_i hupper
      have hle : c.toNat ≤ 90 := UInt32.le_iff_toNat_le.mp hupper.2
      omega
    · have hlast : c.val ≤ 122 := of_decide_eq_true (Bool.and_eq_true_iff.mp h).2
      have hle : c.toNat ≤ 122 := UInt32.le_iff_toNat_le.mp hlast
      omega

theorem isWordName_of_header? {line : Line} {name : List Char} (h : header? line = some name) :
    IsWordName name := by
  rw [header?] at h
  obtain ⟨behind, -, h⟩ := Option.bind_eq_some_iff.mp h
  split at h
  · contradiction
  · rename_i c rest
    split at h
    · rename_i hc
      cases h
      refine List.forall_mem_cons.mpr ⟨?_, isWordName_takeWhile rest⟩
      rcases Bool.or_eq_true_iff.mp hc with hletter | hunderscore
      · exact isWord_of_foldCase hletter
      · rw [beq_iff_eq.mp hunderscore]
        decide
    · contradiction

def AreLegible (items : List Item) : Prop :=
  ∀ item ∈ items, item.toIntent.isLegible = true

theorem isLegible_property? {line : Line} {a : Action} (h : property? line = some a) :
    a.isLegible = true := by
  rw [property?] at h
  obtain ⟨⟨control, behind⟩, hmember, h⟩ := Option.bind_eq_some_iff.mp h
  have hplain := (isWordName_of_member? hmember).isPlainName
  dsimp only at h
  split at h
  · obtain ⟨value, -, h⟩ := Option.bind_eq_some_iff.mp h
    cases h
    exact hplain
  · obtain ⟨value, -, h⟩ := Option.bind_eq_some_iff.mp h
    cases h
    exact hplain
  · contradiction

theorem isWordName_of_assignment? {line value : Line} {field : List Char}
    (h : assignment? line = some (field, value)) : IsWordName field := by
  rw [assignment?] at h
  obtain ⟨⟨name, behind⟩, hmember, h⟩ := Option.bind_eq_some_iff.mp h
  obtain ⟨text, -, h⟩ := Option.bind_eq_some_iff.mp h
  split at h
  · contradiction
  · cases h
    exact isWordName_of_member? hmember

theorem isLegible_setValue? {line : Line} {a : Action} (h : setValue? line = some a) :
    a.isLegible = true := by
  rw [setValue?] at h
  obtain ⟨⟨field, value⟩, hassign, h⟩ := Option.bind_eq_some_iff.mp h
  obtain ⟨text, -, h⟩ := Option.bind_eq_some_iff.mp h
  cases h
  exact (isWordName_of_assignment? hassign).isPlainName

theorem isLegible_statement (line : Line) : (statement line).toIntent.isLegible = true := by
  unfold statement statement?
  repeat' split
  all_goals try rfl
  · rename_i a ha
    exact isLegible_property? ha
  · cases ha : setValue? line with
    | none => rfl
    | some a => exact isLegible_setValue? ha

theorem isLegible_condition? {text : Line} {c : Condition} (h : condition? text = some c) :
    c.isLegible = true := by
  have hnull {cs : Line} {field : List Char} (hfield : nullTest? cs = some field) :
      IsWordName field := by
    rw [nullTest?] at hfield
    obtain ⟨behind, -, hfield⟩ := Option.bind_eq_some_iff.mp hfield
    obtain ⟨⟨name, rest⟩, hmember, hfield⟩ := Option.bind_eq_some_iff.mp hfield
    dsimp only at hfield
    split at hfield
    · cases hfield
      exact isWordName_of_member? hmember
    · contradiction
  have hempty {cs : Line} {field : List Char} (hfield : emptyTest? cs = some field) :
      IsWordName field := by
    rw [emptyTest?] at hfield
    obtain ⟨behind, -, hfield⟩ := Option.bind_eq_some_iff.mp hfield
    obtain ⟨⟨name, rest⟩, hmember, hfield⟩ := Option.bind_eq_some_iff.mp hfield
    obtain ⟨more, -, hfield⟩ := Option.bind_eq_some_iff.mp hfield
    split at hfield
    · cases hfield
      exact isWordName_of_member? hmember
    · contradiction
  unfold condition? at h
  dsimp only at h
  split at h
  · rename_i field hfield
    cases h
    rcases Option.or_eq_some_iff.mp hfield with htest | ⟨-, htest⟩
    · exact (hnull htest).isPlainName
    · exact (hempty htest).isPlainName
  split at h
  · cases h
    rfl
  split at h
  · cases h
    rfl
  · rw [comparison?] at h
    obtain ⟨⟨field, value⟩, hassign, h⟩ := Option.bind_eq_some_iff.mp h
    obtain ⟨text, -, h⟩ := Option.bind_eq_some_iff.mp h
    have hplain := (isWordName_of_assignment? hassign).isPlainName
    split at h
    · cases h
      exact hplain
    · cases h
      exact hplain

theorem areLegible_map_toIntent {items : List Item} (h : AreLegible items) :
    areLegible (items.map Item.toIntent) = true := by
  induction items with
  | nil => rfl
  | cons item rest ih =>
    obtain ⟨hitem, hrest⟩ := List.forall_mem_cons.mp h
    rw [List.map_cons, areLegible, hitem, ih hrest]
    rfl

theorem isLegible_buildBranch {line condition : Line} {thenItems elseItems : List Item}
    (hthen : AreLegible thenItems) (helse : AreLegible elseItems) :
    (buildBranch line condition thenItems elseItems).toIntent.isLegible = true := by
  unfold buildBranch
  split
  · rfl
  · rename_i c hc
    have hlegible := isLegible_condition? hc
    cases hvalid : validation? c thenItems elseItems with
    | none =>
      rw [Option.getD_none, Item.toIntent, Intent.isLegible, hlegible,
        areLegible_map_toIntent hthen, areLegible_map_toIntent helse]
      rfl
    | some i =>
      unfold validation? at hvalid
      split at hvalid
      · split at hvalid
        · cases hvalid
          exact hlegible
        · contradiction
      · contradiction

theorem Reads.areLegible {lines after : List Line} {items : List Item}
    (h : Reads lines items after) : AreLegible items := by
  have hnone : AreLegible [] := fun item hitem => absurd hitem (by simp)
  induction h with
  | nil => exact hnone
  | stop => exact hnone
  | declaration _ _ ih => exact ih
  | plain _ _ ih => exact List.forall_mem_cons.mpr ⟨isLegible_statement _, ih⟩
  | @ifLine line condition thenPart elsePart rest after items _ _ ih =>
    refine List.forall_mem_cons.mpr ⟨isLegible_buildBranch ?_ ?_, ih⟩
    · exact List.forall_mem_singleton.mpr (isLegible_statement thenPart)
    · intro item hitem
      obtain ⟨part, -, rfl⟩ := List.mem_map.mp hitem
      exact isLegible_statement part
  | oneArm _ _ _ _ ihthen ih =>
    exact List.forall_mem_cons.mpr ⟨isLegible_buildBranch ihthen hnone, ih⟩
  | twoArms _ _ _ _ _ _ ihthen ihelse ih =>
    exact List.forall_mem_cons.mpr ⟨isLegible_buildBranch ihthen ihelse, ih⟩
  | lost _ _ _ _ _ ih => exact List.forall_mem_cons.mpr ⟨rfl, ih⟩
  | lostElse _ _ _ _ _ _ _ _ ih => exact List.forall_mem_cons.mpr ⟨rfl, ih⟩

theorem areLegible_body (lines : List Line) : AreLegible (body lines).val.1 := by
  have hblock := (reads_block lines).areLegible
  rw [body_eq]
  rcases hfound : (block lines).val with ⟨items, _ | ⟨last, rest⟩⟩
  · rwa [hfound] at hblock
  · have hle : rest.length + 1 ≤ lines.length := by
      simpa [hfound] using (block lines).property
    rw [hfound] at hblock
    dsimp only at hblock ⊢
    by_cases hend : shape last = .endSub
    · rw [if_pos hend]
      exact hblock
    · rw [if_neg hend]
      exact List.forall_mem_append.mpr
        ⟨hblock, List.forall_mem_cons.mpr ⟨rfl, areLegible_body rest⟩⟩
termination_by lines.length
decreasing_by omega

theorem areLegible_bodyIntents {items : List Item} (h : AreLegible items) :
    areLegible (bodyIntents items) = true := by
  induction items using bodyIntents.induct with
  | case1 => rfl
  | case2 line => rfl
  | case3 item rest hexit ih =>
    obtain ⟨hitem, hrest⟩ := List.forall_mem_cons.mp h
    rw [bodyIntents.eq_3 item rest hexit, areLegible, hitem, ih hrest]
    rfl

theorem isLegible_procedures (lines : List Line) :
    ∀ p ∈ procedures lines, p.isLegible = true ∧ hasNoNewline p.name = true := by
  match lines with
  | [] =>
    rw [procedures]
    simp
  | line :: rest =>
    cases hheader : header? line with
    | none =>
      rw [procedures_outside hheader]
      exact isLegible_procedures rest
    | some chars =>
      have hname := isWordName_of_header? hheader
      have hintents := areLegible_bodyIntents (areLegible_body rest)
      have hafter := (body rest).property
      rw [procedures_header hheader]
      refine List.forall_mem_cons.mpr ⟨⟨?_, hname.hasNoNewline⟩, isLegible_procedures _⟩
      rw [Procedure.isLegible, hname.isPlainName, hintents]
      rfl
termination_by lines.length
decreasing_by
  all_goals simp only [List.length_cons]; omega

end Source

open Intent

theorem hasNoNewline_gapId {procedure : String} (h : hasNoNewline procedure = true) (position : Nat) :
    hasNoNewline (gapId procedure position) = true := by
  have hdigits : (Nat.toDigits 10 position).all (· != '\n') = true := by
    refine List.all_eq_true.mpr fun c hc => ?_
    have hdigit : c.isDigit = true := Nat.isDigit_of_mem_toDigits (by decide) (by decide) hc
    simp only [bne_iff_ne, ne_eq]
    rintro rfl
    contradiction
  rw [hasNoNewline] at h
  simp only [hasNoNewline, gapId, String.toList_append, String.toList_ofList, List.all_append, h,
    hdigits]
  rfl

mutual

theorem Intent.isLegible_classify {procedure : String} (hname : hasNoNewline procedure = true)
    (position : Nat) {i : Intent} (h : i.isLegible = true) :
    (i.classify procedure position).isLegible = true := by
  match i with
  | act a m => exact h
  | gap g m =>
    rw [Intent.isLegible, Gap.isLegible, Bool.and_eq_true] at h
    rw [Intent.classify, Intent.isLegible, Gap.isLegible, h.2, Option.all_some,
      hasNoNewline_gapId hname]
    rfl
  | branch c thenArm elseArm mapping m =>
    rw [Intent.isLegible, Bool.and_eq_true, Bool.and_eq_true] at h
    rw [Intent.classify, Intent.isLegible, h.1.1, areLegible_classifyAll hname _ h.1.2,
      areLegible_classifyAll hname _ h.2]
    rfl

theorem areLegible_classifyAll {procedure : String} (hname : hasNoNewline procedure = true)
    (position : Nat) {is : List Intent} (h : areLegible is = true) :
    areLegible (classifyAll procedure position is) = true := by
  match is with
  | [] => rfl
  | i :: rest =>
    rw [areLegible, Bool.and_eq_true] at h
    rw [classifyAll, areLegible, Intent.isLegible_classify hname _ h.1,
      areLegible_classifyAll hname _ h.2]
    rfl

end

/-- Whatever the source, nothing in what is recognized can be taken for something else. -/
theorem isLegible_classify_recognize (source : String) :
    (Mapped.classify (Source.recognize source)).isLegible = true := by
  refine List.all_eq_true.mpr fun p hp => ?_
  obtain ⟨q, hq, rfl⟩ := List.mem_map.mp hp
  obtain ⟨hlegible, hname⟩ := Source.isLegible_procedures _ q hq
  rw [Procedure.isLegible, Bool.and_eq_true] at hlegible
  rw [Procedure.isLegible, Procedure.classify, hlegible.1, areLegible_classifyAll hname 0 hlegible.2]
  rfl

end FormScript
