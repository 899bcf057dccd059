import FormScript.Proofs.Mapped.Tally

/-! The numbers of gaps. Classification gives the gaps of a procedure the ids `name:0`, `name:1` and
so on in the order of the source, and lists them in that order. An id says which procedure and which
gap it stands for, whatever the name is made of, since no digit is a colon. -/
namespace FormScript

theorem append_cons_inj_of_not_mem {mark : α} {a b x y : List α} (hx : mark ∉ x) (hy : mark ∉ y)
    (h : a ++ mark :: x = b ++ mark :: y) : a = b ∧ x = y := by
  rcases List.append_eq_append_iff.mp h with ⟨c, rfl, hc⟩ | ⟨c, rfl, hc⟩
  · cases c with
    | nil => simpa using hc
    | cons d c =>
      rw [List.cons_append, List.cons.injEq] at hc
      exact absurd (hc.2 ▸ List.mem_append_right c List.mem_cons_self) hx
  · cases c with
    | nil => simpa using hc.symm
    | cons d c =>
      rw [List.cons_append, List.cons.injEq] at hc
      exact absurd (hc.2 ▸ List.mem_append_right c List.mem_cons_self) hy

theorem colon_not_mem_toDigits (n : Nat) : ':' ∉ Nat.toDigits 10 n := by
  intro h
  have hdigit : ':'.isDigit = true := Nat.isDigit_of_mem_toDigits (by decide) (by decide) h
  exact absurd hdigit (by decide)

theorem toList_gapId (procedure : String) (position : Nat) :
    (gapId procedure position).toList = procedure.toList ++ ':' :: Nat.toDigits 10 position := by
  simp [gapId]

/-- An id belongs to one place in procedures of one name. -/
theorem gapId_inj {p q : String} {i j : Nat} : gapId p i = gapId q j ↔ p = q ∧ i = j := by
  constructor
  · intro h
    have hlists := congrArg String.toList h
    rw [toList_gapId, toList_gapId] at hlists
    obtain ⟨hname, hdigits⟩ := append_cons_inj_of_not_mem (colon_not_mem_toDigits i)
      (colon_not_mem_toDigits j) hlists
    refine ⟨String.toList_inj.mp hname, ?_⟩
    calc
      i = Nat.ofDigitChars 10 (Nat.toDigits 10 i) 0 := Nat.ofDigitChars_ten_toDigits.symm
      _ = Nat.ofDigitChars 10 (Nat.toDigits 10 j) 0 := by rw [hdigits]
      _ = j := Nat.ofDigitChars_ten_toDigits
  · rintro ⟨rfl, rfl⟩
    rfl

namespace Procedure

/-- The gaps of a procedure are numbered by their places. -/
def IsNumbered (p : Procedure) : Prop :=
  p.gaps.map Gap.id = (List.range p.gaps.length).map fun k => some (gapId p.name k)

theorem isNumbered_classify (p : Procedure) : p.classify.IsNumbered := by
  rw [IsNumbered, gaps, classify, Intent.gapsOf_classifyAll]
  apply List.ext_getElem
  · simp
  · intro k _ _
    simp [Gap.numberedFrom, Gap.numbered]

namespace IsNumbered

variable {p q : Procedure}

theorem id_eq (h : p.IsNumbered) {k : Nat} {g : Gap} (hg : p.gaps[k]? = some g) :
    g.id = some (gapId p.name k) := by
  obtain ⟨hlt, rfl⟩ := List.getElem?_eq_some_iff.mp hg
  have hk := congrArg (·[k]?) h
  simpa [hlt] using hk

theorem entries_eq (h : p.IsNumbered) :
    p.entries = p.gaps.mapIdx fun k g => ⟨p.name, gapId p.name k, g.line, g.reason⟩ := by
  apply List.ext_getElem
  · simp [entries]
  · intro k hk _
    have hlt : k < p.gaps.length := by simpa [entries] using hk
    have hid := h.id_eq (List.getElem?_eq_getElem hlt)
    simp [entries, GapEntry.ofGap, hid]

theorem id_eq_iff (hp : p.IsNumbered) (hq : q.IsNumbered) {i j : Nat} {g g' : Gap}
    (hg : p.gaps[i]? = some g) (hg' : q.gaps[j]? = some g') :
    g.id = g'.id ↔ p.name = q.name ∧ i = j := by
  rw [hp.id_eq hg, hq.id_eq hg', Option.some.injEq, gapId_inj]

theorem nodup_ids (h : p.IsNumbered) : (p.gaps.map Gap.id).Nodup := by
  rw [IsNumbered] at h
  rw [h]
  apply List.Pairwise.map _ _ List.nodup_range
  intro i j hne heq
  exact hne (gapId_inj.mp (Option.some.inj heq)).2

end IsNumbered

end Procedure

namespace Mapped

theorem isNumbered_of_classify (ps : List Procedure) :
    ∀ p ∈ (classify ps).procedures, p.IsNumbered := by
  intro p hp
  obtain ⟨q, -, rfl⟩ := List.mem_map.mp hp
  exact q.isNumbered_classify

theorem gaps_of_numbered {ps : List Procedure} (h : ∀ p ∈ ps, p.IsNumbered) :
    ps.flatMap Procedure.entries =
      ps.flatMap fun p => p.gaps.mapIdx fun k g => ⟨p.name, gapId p.name k, g.line, g.reason⟩ := by
  rw [List.flatMap, List.flatMap]
  congr 1
  apply List.map_congr_left
  intro p hp
  exact (h p hp).entries_eq

theorem nodup_ids_of_numbered {ps : List Procedure} (h : ∀ p ∈ ps, p.IsNumbered)
    (hnames : (ps.map Procedure.name).Nodup) :
    ((ps.flatMap Procedure.gaps).map Gap.id).Nodup := by
  rw [List.map_flatMap]
  refine List.pairwise_flatMap.mpr ⟨fun p hp => (h p hp).nodup_ids, ?_⟩
  refine (List.pairwise_map.mp hnames).imp_of_mem ?_
  intro p q hp hq hne x hx y hy heq
  obtain ⟨g, hg, rfl⟩ := List.mem_map.mp hx
  obtain ⟨g', hg', rfl⟩ := List.mem_map.mp hy
  obtain ⟨i, hi⟩ := List.getElem?_of_mem hg
  obtain ⟨j, hj⟩ := List.getElem?_of_mem hg'
  exact hne (((h p hp).id_eq_iff (h q hq) hi hj).mp heq).1

theorem countP_leaves (m : Mapped) :
    m.nodes.countP (·.role ≠ .branch) = m.count .action + m.count .gap := by
  unfold count
  induction m.nodes with
  | nil => rfl
  | cons i rest ih =>
    rw [List.countP_cons, ih, List.map_cons, List.count_cons, List.count_cons]
    cases i.role <;> simp <;> omega

end Mapped

/-- Classification numbers each gap once, in the order of the source, and lists and counts what it
has numbered. -/
theorem classify_numbers_gaps (ps : List Procedure) :
    (Mapped.classify ps).procedures.map Procedure.name = ps.map Procedure.name ∧
    (∀ p ∈ (Mapped.classify ps).procedures,
      p.gaps.map Gap.id = (List.range p.gaps.length).map fun k => some (gapId p.name k)) ∧
    (Mapped.classify ps).gaps = (Mapped.classify ps).procedures.flatMap (fun p =>
      p.gaps.mapIdx fun k g => ⟨p.name, gapId p.name k, g.line, g.reason⟩) ∧
    (Mapped.classify ps).stats.gap = (Mapped.classify ps).gaps.length ∧
    (Mapped.classify ps).stats.total = (Mapped.classify ps).nodes.countP (·.role ≠ .branch) ∧
    (Mapped.classify ps).stats.mechanical + (Mapped.classify ps).stats.gap =
      (Mapped.classify ps).stats.total ∧
    (∀ p ∈ (Mapped.classify ps).procedures, ∀ q ∈ (Mapped.classify ps).procedures,
      ∀ (i j : Nat) (g g' : Gap), p.gaps[i]? = some g → q.gaps[j]? = some g' →
        (g.id = g'.id ↔ p.name = q.name ∧ i = j)) ∧
    ((ps.map Procedure.name).Nodup → ((Mapped.classify ps).gapNodes.map Gap.id).Nodup) := by
  have hsummed := Mapped.isSummed_classify ps
  have hnumbered := Mapped.isNumbered_of_classify ps
  have hnames : (Mapped.classify ps).procedures.map Procedure.name = ps.map Procedure.name := by
    simp [Mapped.classify, Mapped.ofProcedures, Procedure.classify]
  refine ⟨hnames, hnumbered, ?_, ?_, ?_, hsummed.mechanical_add_gap, ?_, ?_⟩
  · rw [hsummed.gaps, Mapped.gaps_of_numbered hnumbered]
  · rw [hsummed.gaps, hsummed.stats]
    simp [Mapped.statsOf, List.length_flatMap, Procedure.entries]
  · rw [Mapped.countP_leaves, hsummed.stats_eq]
  · intro p hp q hq i j g g' hg hg'
    exact (hnumbered p hp).id_eq_iff (hnumbered q hq) hg hg'
  · intro hnodup
    rw [← hnames] at hnodup
    exact Mapped.nodup_ids_of_numbered hnumbered hnodup

def nameLikeId : List Procedure :=
  [⟨"a", "", [.branch .newRecord [.openGap "x" "", .openGap "y" ""] [.openGap "z" ""] none none]⟩,
    ⟨"a:1", "", [.openGap "x" ""]⟩]

theorem classify_numbers_gaps_nameLikeId :
    (nameLikeId.map Procedure.name).Nodup ∧
      ((Mapped.classify nameLikeId).gapNodes.map Gap.id).Nodup ∧
      (Mapped.classify nameLikeId).gaps.map GapEntry.id = ["a:0", "a:1", "a:2", "a:1:0"] := by
  obtain ⟨-, -, hgaps, -, -, -, -, hnodup⟩ := classify_numbers_gaps nameLikeId
  have hnames : (nameLikeId.map Procedure.name).Nodup := by decide
  refine ⟨hnames, hnodup hnames, ?_⟩
  rw [hgaps]
  decide

end FormScript
