import FormScript.Cli.Disk
import FormScript.Proofs.Run.Replay
import Mathlib.Data.List.Basic

/-! What writing changes on a disk: the content of one place, to which the path leads from then on.
Directories that are made on the way have no content, and none is lost. -/
namespace FormScript.Cli

namespace Disk

variable {disk disk' : Disk} {place : Place} {bytes : ByteArray}

theorem content?_put_self : (disk.put place bytes).content? place = some bytes := by
  have hnone : (disk.files.filter (·.1 != place)).lookup place = none := by
    rw [List.lookup_eq_none_iff]
    intro entry hentry
    have hne : entry.1 ≠ place := by simpa using (List.mem_filter.mp hentry).2
    exact bne_iff_ne.mpr hne.symm
  rw [content?, put, List.lookup_append, hnone, Option.none_or, List.lookup_cons_self]

theorem content?_put_of_ne {other : Place} (h : other ≠ place) :
    (disk.put place bytes).content? other = disk.content? other := by
  have hrest : (disk.files.filter (·.1 != place)).lookup other = disk.files.lookup other := by
    induction disk.files with
    | nil => rfl
    | cons entry files ih =>
      obtain ⟨p, content⟩ := entry
      by_cases hp : p = place
      · subst hp
        simp [ih, List.lookup_cons, beq_eq_false_iff_ne.mpr h]
      · simp [hp, List.lookup_cons, ih]
  have hother : (other == place) = false := beq_eq_false_iff_ne.mpr h
  rw [content?, put, List.lookup_append, hrest, content?]
  simp [List.lookup_cons, hother]

theorem isDirectory_put {directory : Place} (h : disk.isDirectory directory = true) :
    (disk.put place bytes).isDirectory directory = true := by
  simp only [isDirectory, Bool.or_eq_true] at h ⊢
  rcases h with (h | h) | h
  · exact Or.inl (Or.inl h)
  · refine Or.inl (Or.inr ?_)
    obtain ⟨⟨p, content⟩, hmem, hbelow⟩ := List.any_eq_true.mp h
    refine List.any_eq_true.mpr ?_
    by_cases hp : p = place
    · subst hp
      exact ⟨(p, bytes), by simp [put], hbelow⟩
    · exact ⟨(p, content), by simp [put, hmem, hp], hbelow⟩
  · exact Or.inr h

theorem entry_put {directory : Place} (hplace : disk.isDirectory place = false)
    (h : disk.entry? directory = some .directory) :
    Disk.entry? (disk.put place bytes) directory = some .directory := by
  unfold entry? at h ⊢
  split at h
  · cases h
  · rename_i hcontent
    split at h
    · rename_i hdirectory
      have hne : directory ≠ place := by
        rintro rfl
        rw [hdirectory] at hplace
        contradiction
      rw [content?_put_of_ne hne, hcontent, isDirectory_put hdirectory]
      rfl
    · contradiction

theorem enter_put {here directory : Place} {name : String} (hplace : disk.isDirectory place = false)
    (h : disk.enter here name = .ok directory) :
    (disk.put place bytes).enter here name = .ok directory := by
  unfold enter at h ⊢
  by_cases hhere : name = "."
  · rwa [if_pos hhere] at h ⊢
  rw [if_neg hhere] at h ⊢
  by_cases habove : name = ".."
  · rwa [if_pos habove] at h ⊢
  rw [if_neg habove] at h ⊢
  by_cases hlong : maxNameSize < name.utf8ByteSize
  · rw [if_pos hlong] at h
    contradiction
  rw [if_neg hlong] at h ⊢
  split at h
  · rename_i hentry
    rw [entry_put hplace hentry]
    exact h
  · contradiction
  · contradiction

theorem descend_put {here directory : Place} {names : List String}
    (hplace : disk.isDirectory place = false) (h : disk.descend here names = .ok directory) :
    (disk.put place bytes).descend here names = .ok directory := by
  induction names generalizing here with
  | nil => exact h
  | cons name names ih =>
    obtain ⟨next, hnext, h⟩ := exists_of_bind_ok h
    rw [descend, enter_put hplace hnext]
    exact ih h

def locate (disk : Disk) (path : String) : Except FileError Place := do
  let directory ← disk.directoryOf path
  let last := (Path.names path).getLast?.getD "."
  if Path.endsInSlash path then disk.enter directory last else disk.child directory last

theorem read_eq (disk : Disk) (path : String) : disk.read path = (do
    match disk.entry? (← disk.locate path) with
    | some (.file content) => .ok content
    | some .directory => .error .isADirectory
    | none => .error .notFound) := by
  rw [read, locate, bind_assoc]
  congr 1
  funext directory
  dsimp only
  split <;> rfl

theorem locate_put {path : String} (hplace : disk.isDirectory place = false)
    (h : disk.locate path = .ok place) : (disk.put place bytes).locate path = .ok place := by
  obtain ⟨directory, hdirectory, h⟩ := exists_of_bind_ok h
  have hstays : (disk.put place bytes).directoryOf path = .ok directory := by
    unfold directoryOf at hdirectory ⊢
    by_cases hlong : maxPathSize < path.utf8ByteSize
    · rw [if_pos hlong] at hdirectory
      contradiction
    · rw [if_neg hlong] at hdirectory ⊢
      exact descend_put hplace hdirectory
  rw [locate, hstays]
  change (if Path.endsInSlash path = true then _ else _) = _
  dsimp only at h
  split at h
  · rename_i hslash
    rw [if_pos hslash]
    exact enter_put hplace h
  · rename_i hslash
    rw [if_neg hslash]
    unfold child at h ⊢
    by_cases hdots : Path.isDots ((Path.names path).getLast?.getD ".") = true
    · rw [if_pos hdots] at h ⊢
      exact enter_put hplace h
    · rwa [if_neg hdots] at h ⊢

theorem of_enter {directory : Place} {name : String} (hname : Path.isDots name = false)
    (h : disk.enter directory name = .ok place) : place = directory ++ [name] := by
  simp only [Path.isDots, Bool.or_eq_false_iff, beq_eq_false_iff_ne] at hname
  unfold enter at h
  rw [if_neg hname.1, if_neg hname.2] at h
  split at h
  · contradiction
  split at h
  · cases h
    rfl
  · contradiction
  · contradiction

theorem of_descend {directory : Place} {names : List String}
    (hnames : ∀ name ∈ names, Path.isDots name = false)
    (h : disk.descend directory names = .ok place) : place = directory ++ names := by
  induction names generalizing directory with
  | nil =>
    cases h
    simp
  | cons name names ih =>
    obtain ⟨hname, hnames⟩ := List.forall_mem_cons.mp hnames
    obtain ⟨next, hnext, h⟩ := exists_of_bind_ok h
    rw [ih hnames h, of_enter hname hnext, List.append_assoc, List.singleton_append]

/-- Without dots in it, a path leads nowhere but to where its names say. -/
theorem of_locate {path : String} (hnames : ∀ name ∈ Path.names path, Path.isDots name = false)
    (h : disk.locate path = .ok place) : place = Path.start path ++ Path.names path := by
  obtain ⟨directory, hdirectory, h⟩ := exists_of_bind_ok h
  unfold directoryOf at hdirectory
  split at hdirectory
  · contradiction
  dsimp only at h
  rcases List.eq_nil_or_concat' (Path.names path) with hnil | ⟨before, last, hlast⟩
  · rw [hnil] at hdirectory h ⊢
    cases hdirectory
    have hplace : place = Path.start path := by
      split at h <;> cases h <;> rfl
    rw [hplace, List.append_nil]
  · rw [hlast] at hnames hdirectory h ⊢
    obtain ⟨hbefore, hname⟩ := List.forall_mem_append.mp hnames
    have hplain : Path.isDots last = false := hname last List.mem_cons_self
    rw [List.dropLast_concat] at hdirectory
    rw [List.getLast?_concat, Option.getD_some] at h
    have hplace : place = directory ++ [last] := by
      split at h
      · exact of_enter hplain h
      · rw [child, if_neg (by simp [hplain])] at h
        split at h
        · contradiction
        · cases h
          rfl
    rw [hplace, of_descend hbefore hdirectory, List.append_assoc]

theorem of_create {path : String} (h : disk.create path bytes = .ok disk') :
    ∃ place, disk.locate path = .ok place ∧ disk.isDirectory place = false ∧
      disk' = disk.put place bytes := by
  obtain ⟨directory, hdirectory, h⟩ := exists_of_bind_ok h
  dsimp only at h
  split at h
  · contradiction
  · rename_i hlast
    obtain ⟨place, hchild, h⟩ := exists_of_bind_ok h
    split at h
    · contradiction
    · rename_i hplace
      cases h
      refine ⟨place, ?_, by simpa using hplace, rfl⟩
      rw [locate, hdirectory]
      change (if Path.endsInSlash path = true then _ else _) = _
      split
      · rename_i hslash
        have hdots : Path.isDots ((Path.names path).getLast?.getD ".") = true := by
          simpa [hslash] using hlast
        rw [child, if_pos hdots] at hchild
        exact hchild
      · exact hchild

theorem exists_create {path : String} (h : disk.create path bytes = .ok disk')
    (other : ByteArray) : ∃ written, disk.create path other = .ok written := by
  obtain ⟨directory, hdirectory, h⟩ := exists_of_bind_ok h
  dsimp only at h
  split at h
  · contradiction
  · rename_i hlast
    obtain ⟨place, hchild, h⟩ := exists_of_bind_ok h
    split at h
    · contradiction
    · rename_i hplace
      refine ⟨disk.put place other, ?_⟩
      simp only [create, hdirectory, hchild, bind, Except.bind]
      rw [if_neg hlast, if_neg hplace]

theorem exists_write {path : String} (h : disk.write path bytes = .ok disk') (other : ByteArray) :
    ∃ written, disk.write path other = .ok written := by
  obtain ⟨mid, hmid, h⟩ := exists_of_bind_ok h
  rw [write, hmid]
  exact exists_create h other

theorem files_make {parents : List String} {name : String}
    (h : disk.make place parents name = .ok disk') : disk'.files = disk.files := by
  obtain ⟨directory, -, h⟩ := exists_of_bind_ok h
  split at h
  · contradiction
  · obtain ⟨made, -, h⟩ := exists_of_bind_ok h
    split at h
    · contradiction
    · cases h
      rfl

theorem files_ensure {parents : List String} {name : String}
    (h : disk.ensure place parents name = .ok disk') : disk'.files = disk.files := by
  unfold ensure at h
  split at h
  · cases hdescend : (disk.descend place (parents ++ [name])).toOption with
    | none =>
      rw [hdescend] at h
      contradiction
    | some directory =>
      rw [hdescend] at h
      cases h
      rfl
  · exact files_make h

theorem files_ensureAll {names : List String} (h : disk.ensureAll place names = .ok disk') :
    disk'.files = disk.files := by
  induction names generalizing disk' with
  | nil =>
    cases h
    rfl
  | cons name parents ih =>
    unfold ensureAll at h
    split at h
    · obtain ⟨mid, hmid, h⟩ := exists_of_bind_ok h
      rw [files_ensure h, ih hmid]
    · exact files_ensure h

/-- From one disk to the other the content that a path leads to has been written, and no other. -/
def Wrote (before after : Disk) (path : String) (bytes : ByteArray) : Prop :=
  ∃ place, after.locate path = .ok place ∧ after.content? place = some bytes ∧
    ∀ other, other ≠ place → after.content? other = before.content? other

theorem wrote_of_write {path : String} (h : disk.write path bytes = .ok disk') :
    disk.Wrote disk' path bytes := by
  obtain ⟨mid, hmid, h⟩ := exists_of_bind_ok h
  obtain ⟨place, hlocate, hplace, rfl⟩ := of_create h
  refine ⟨place, locate_put hplace hlocate, content?_put_self, ?_⟩
  intro other hother
  rw [content?_put_of_ne hother, content?, files_ensureAll hmid, content?]

theorem Wrote.read {path : String} (h : disk.Wrote disk' path bytes) :
    disk'.read path = .ok bytes := by
  obtain ⟨place, hlocate, hcontent, -⟩ := h
  have hentry : disk'.entry? place = some (.file bytes) := by
    unfold entry?
    rw [hcontent]
  simp only [read_eq, hlocate, bind, Except.bind, hentry]

end Disk

end FormScript.Cli
