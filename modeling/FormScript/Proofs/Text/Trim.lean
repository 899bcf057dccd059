import FormScript.Text.Blank

/-! What trimming takes off: white space before the first other character and behind the last. -/
namespace FormScript.Text

theorem trimStart_append_of_blank {lead : List Char} (h : lead.all isBlank = true) (cs : List Char) :
    trimStart (lead ++ cs) = trimStart cs :=
  List.dropWhile_append_of_pos (List.all_eq_true.mp h)

theorem trimEnd_append_of_blank {trail : List Char} (h : trail.all isBlank = true)
    (cs : List Char) : trimEnd (cs ++ trail) = trimEnd cs := by
  have hblank : ∀ c ∈ trail.reverse, isBlank c = true := by simpa using h
  rw [trimEnd, List.reverse_append, List.dropWhile_append_of_pos hblank, trimEnd]

theorem trimEnd_append_of_ne_nil (cs : List Char) {u : List Char} (h : trimEnd u ≠ []) :
    trimEnd (cs ++ u) = cs ++ trimEnd u := by
  have hne : u.reverse.dropWhile isBlank ≠ [] := by
    intro hnil
    exact h (by rw [trimEnd, hnil]; rfl)
  rw [trimEnd, List.reverse_append, List.dropWhile_append,
    if_neg (by rwa [List.isEmpty_iff]), List.reverse_append, List.reverse_reverse]
  rfl

theorem trimEnd_cons {c : Char} (h : isBlank c = false) (cs : List Char) :
    trimEnd (c :: cs) = c :: trimEnd cs := by
  rw [trimEnd, List.reverse_cons, List.dropWhile_append]
  split
  · rename_i hempty
    rw [List.dropWhile_cons_of_neg (by simp [h]), trimEnd, List.isEmpty_iff.mp hempty]
    rfl
  · rw [List.reverse_append]
    rfl

theorem trimStart_append_of_ne_nil {cs : List Char} (h : trimStart cs ≠ []) (u : List Char) :
    trimStart (cs ++ u) = trimStart cs ++ u := by
  rw [trimStart, List.dropWhile_append, if_neg (by rwa [List.isEmpty_iff])]
  rfl

theorem exists_lead (cs : List Char) :
    ∃ lead, lead.all isBlank = true ∧ cs = lead ++ trimStart cs :=
  ⟨cs.takeWhile isBlank, List.all_takeWhile, List.takeWhile_append_dropWhile.symm⟩

theorem exists_trail (cs : List Char) :
    ∃ trail, trail.all isBlank = true ∧ cs = trimEnd cs ++ trail := by
  refine ⟨(cs.reverse.takeWhile isBlank).reverse, ?_, ?_⟩
  · rw [List.all_reverse]
    exact List.all_takeWhile
  · rw [trimEnd, ← List.reverse_append, List.takeWhile_append_dropWhile, List.reverse_reverse]

theorem isBlank_of_head?_trimStart {cs : List Char} {c : Char} (h : (trimStart cs).head? = some c) :
    isBlank c = false := by
  induction cs with
  | nil => contradiction
  | cons d cs ih =>
    rw [trimStart, List.dropWhile_cons] at h
    split at h
    · exact ih h
    · rename_i hd
      cases h
      simpa using hd

theorem isBlank_of_getLast?_trimEnd {cs : List Char} {c : Char}
    (h : (trimEnd cs).getLast? = some c) : isBlank c = false := by
  rw [trimEnd, List.getLast?_reverse] at h
  exact isBlank_of_head?_trimStart h

theorem isBlank_of_head?_trim {cs : List Char} {c : Char} (h : (trim cs).head? = some c) :
    isBlank c = false := by
  obtain ⟨trail, -, hend⟩ := exists_trail (trimStart cs)
  have hhead : (trimStart cs).head? = some c := by
    rw [hend, List.head?_append]
    exact Option.or_eq_some_iff.mpr (Or.inl h)
  exact isBlank_of_head?_trimStart hhead

theorem trimStart_eq_self {cs : List Char} (h : ∀ c, cs.head? = some c → isBlank c = false) :
    trimStart cs = cs := by
  cases cs with
  | nil => rfl
  | cons c cs => exact List.dropWhile_cons_of_neg (by simp [h c rfl])

theorem trimEnd_eq_self {cs : List Char} (h : ∀ c, cs.getLast? = some c → isBlank c = false) :
    trimEnd cs = cs := by
  have hrev : trimStart cs.reverse = cs.reverse := by
    apply trimStart_eq_self
    intro c hc
    exact h c (by rwa [List.head?_reverse] at hc)
  rw [trimEnd, ← trimStart, hrev, List.reverse_reverse]

theorem trimStart_append_of_head (cs : List Char) {u : List Char}
    (h : ∀ c, u.head? = some c → isBlank c = false) : trimStart (cs ++ u) = trimStart cs ++ u := by
  by_cases hnil : trimStart cs = []
  · obtain ⟨lead, hlead, heq⟩ := exists_lead cs
    rw [hnil, List.append_nil] at heq
    rw [heq, trimStart_append_of_blank hlead, trimStart_eq_self h, ← heq, hnil, List.nil_append]
  · exact trimStart_append_of_ne_nil hnil u

theorem trimEnd_append_of_last {u : List Char}
    (h : ∀ c, u.getLast? = some c → isBlank c = false) (cs : List Char) :
    trimEnd (u ++ cs) = u ++ trimEnd cs := by
  by_cases hnil : trimEnd cs = []
  · obtain ⟨trail, htrail, heq⟩ := exists_trail cs
    rw [hnil, List.nil_append] at heq
    rw [heq, trimEnd_append_of_blank htrail, trimEnd_eq_self h, ← heq, hnil, List.append_nil]
  · exact trimEnd_append_of_ne_nil u hnil

theorem trim_around (p : List Char) {u : List Char} (hne : u ≠ [])
    (hhead : ∀ c, u.head? = some c → isBlank c = false)
    (hlast : ∀ c, u.getLast? = some c → isBlank c = false) (s : List Char) :
    trim (p ++ (u ++ s)) = trimStart p ++ (u ++ trimEnd s) := by
  have hstart : ∀ c, (u ++ s).head? = some c → isBlank c = false := by
    intro c hc
    rw [List.head?_append, List.head?_eq_some_head hne, Option.some_or] at hc
    exact hhead c (by rw [List.head?_eq_some_head hne, hc])
  have hend : ∀ c, (trimStart p ++ u).getLast? = some c → isBlank c = false := by
    intro c hc
    rw [List.getLast?_append, List.getLast?_eq_some_getLast hne, Option.some_or] at hc
    exact hlast c (by rw [List.getLast?_eq_some_getLast hne, hc])
  rw [trim, trimStart_append_of_head p hstart, ← List.append_assoc, trimEnd_append_of_last hend,
    List.append_assoc]

theorem trim_trim (cs : List Char) : trim (trim cs) = trim cs := by
  have hstart : trimStart (trim cs) = trim cs := trimStart_eq_self fun c => isBlank_of_head?_trim
  rw [trim, hstart]
  exact trimEnd_eq_self fun c => isBlank_of_getLast?_trimEnd

theorem trim_append_of_blank {trail : List Char} (h : trail.all isBlank = true) (cs : List Char) :
    trim (cs ++ trail) = trim cs := by
  by_cases hnil : trimStart cs = []
  · obtain ⟨lead, hlead, heq⟩ := exists_lead cs
    rw [hnil, List.append_nil] at heq
    subst heq
    have htrail := trimStart_append_of_blank h []
    rw [List.append_nil] at htrail
    rw [trim, trimStart_append_of_blank hlead, htrail, trim, hnil]
    rfl
  · rw [trim, trimStart_append_of_ne_nil hnil, trimEnd_append_of_blank h, trim]

theorem trim_blank_append {lead : List Char} (h : lead.all isBlank = true) (cs : List Char) :
    trim (lead ++ cs) = trim cs := by
  rw [trim, trimStart_append_of_blank h, trim]

theorem trimStart_append_ne_nil (cs : List Char) {u : List Char} (hu : trimStart u ≠ []) :
    trimStart (cs ++ u) ≠ [] := by
  by_cases hcs : trimStart cs = []
  · obtain ⟨lead, hlead, heq⟩ := exists_lead cs
    rw [hcs, List.append_nil] at heq
    rwa [heq, trimStart_append_of_blank hlead]
  · rw [trimStart_append_of_ne_nil hcs]
    exact List.append_ne_nil_of_left_ne_nil hcs u

theorem trimStart_ne_nil_of_last {cs : List Char} (hne : cs ≠ [])
    (hlast : cs.getLast?.all (!isBlank ·) = true) : trimStart cs ≠ [] := by
  obtain ⟨d, front, rfl⟩ : ∃ d front, cs = front ++ [d] :=
    ⟨_, _, (List.dropLast_concat_getLast hne).symm⟩
  rw [List.getLast?_concat, Option.all_some, Bool.not_eq_true'] at hlast
  apply trimStart_append_ne_nil
  rw [trimStart, List.dropWhile_cons_of_neg (by simp [hlast])]
  exact List.cons_ne_nil d []

theorem trim_eq_trimStart {cs : List Char} (hlast : cs.getLast?.all (!isBlank ·) = true) :
    trim cs = trimStart cs := by
  apply trimEnd_eq_self
  intro c hc
  obtain ⟨lead, -, heq⟩ := exists_lead cs
  rw [heq, List.getLast?_append, hc, Option.some_or, Option.all_some, Bool.not_eq_true'] at hlast
  exact hlast

/-- Between the first character and the last, white space is kept. -/
theorem trim_append_space {p r : List Char} (hp : trimStart p ≠ [])
    (hr : r.head?.any (!isBlank ·) = true) :
    trim (p ++ ' ' :: r) = trimStart p ++ ' ' :: trim r ∧ trim r ≠ [] := by
  cases r with
  | nil => contradiction
  | cons c r =>
    rw [List.head?_cons, Option.any_some, Bool.not_eq_true'] at hr
    have hstart : trimStart (c :: r) = c :: r := List.dropWhile_cons_of_neg (by simp [hr])
    have hne : trimEnd (c :: r) ≠ [] := by
      rw [trimEnd_cons hr]
      exact List.cons_ne_nil _ _
    have hend : trimEnd (' ' :: c :: r) = ' ' :: trimEnd (c :: r) :=
      trimEnd_append_of_ne_nil [' '] hne
    rw [trim, trim, hstart, trimStart_append_of_ne_nil hp,
      trimEnd_append_of_ne_nil _ (by simp [hend]), hend]
    exact ⟨rfl, hne⟩

end FormScript.Text
