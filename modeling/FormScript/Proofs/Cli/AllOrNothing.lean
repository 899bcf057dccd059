import FormScript.Cli.Program
import FormScript.Proofs.Cli.Files
import FormScript.Proofs.Run.StoredStatus
import FormScript.Proofs.Store.Nesting

/-! What the program does to files. It writes one when a run completes, and then the record that the
run leaves; in every other case all files stay as they are. -/
namespace FormScript

theorem ModuleData.source_merge (d : ModuleData) (output : StepOutput) :
    (d.merge output).source = d.source := by
  cases output with
  | resolved m changed => cases changed <;> rfl
  | _ => rfl

theorem source_of_runPipeline {d : ModuleData} {ctx : Context} {config : Config} {run : RunResult}
    {prompts : List String} (h : runPipeline d ctx config = .ok (run, prompts)) :
    run.data.source = d.source := by
  have hfollows := (follows_of_runPipeline h).2
  refine hfollows.keeps (P := fun e => e.source = d.source) ?_ rfl
  intro e output _ he
  exact (e.source_merge output).trans he

/-- A record after a completed run: with the data of the run, one version on and under its status. -/
def ModuleRecord.after (r : ModuleRecord) (run : RunResult) : ModuleRecord :=
  { r with data := run.data, version := r.version + 1, status := some run.moduleStatus }

theorem ModuleRecord.apply?_of_complete {r : ModuleRecord} {ctx : Context} {config : Config}
    {run : RunResult} {prompts : List String}
    (hrun : runPipeline r.data ctx config = .ok (run, prompts)) (hstatus : run.status = .complete) :
    r.apply? run =
      if r.version.toNat + 1 < UInt32.size then some (r.after run) else none := by
  have hcomplete : run.isComplete = true := by
    rw [RunResult.isComplete, hstatus]
    rfl
  have hsource : run.data.source.or r.data.source = run.data.source := by
    rw [source_of_runPipeline hrun, Option.or_self]
  unfold ModuleRecord.apply?
  rw [if_pos hcomplete, hsource, after]

namespace Cli

/-- The record that a run starts from: one that was kept, under a new name if one is given and
reduced to its source if a fresh start is asked for, or a new one around a source. -/
inductive StartsFrom (disk : Disk) (o : RunOptions) (input : String) : ModuleRecord → Prop
  | kept {bytes : ByteArray} {r : ModuleRecord} (hjson : Path.isJson input = true)
    (hread : disk.read input = .ok bytes) (hload : Store.load bytes = .ok r) :
    StartsFrom disk o input { r with
      name := o.name.getD r.name
      data := if o.fresh then { source := r.data.source } else r.data }
  | new {bytes : ByteArray} {source : String} (hjson : Path.isJson input = false)
    (hread : disk.read input = .ok bytes) (hsource : String.fromUTF8? bytes = some source) :
    StartsFrom disk o input
      { name := o.name.getD ((Path.stem? input).getD "module"), data := { source := some source } }

theorem read_of_readFile {disk : Disk} {path : String} {bytes : ByteArray}
    (h : readFile disk path = .ok bytes) : disk.read path = .ok bytes := by
  unfold readFile at h
  split at h
  · rename_i hread
    cases h
    exact hread
  · contradiction

theorem of_loadRecord {disk : Disk} {path : String} {r : ModuleRecord}
    (h : loadRecord disk path = .ok r) :
    ∃ bytes, disk.read path = .ok bytes ∧ Store.load bytes = .ok r := by
  obtain ⟨bytes, hread, h⟩ := exists_of_bind_ok h
  refine ⟨bytes, read_of_readFile hread, ?_⟩
  split at h
  · rename_i hload
    cases h
    exact hload
  · contradiction

theorem of_loadSource {disk : Disk} {path source : String} (h : loadSource disk path = .ok source) :
    ∃ bytes, disk.read path = .ok bytes ∧ String.fromUTF8? bytes = some source := by
  obtain ⟨bytes, hread, h⟩ := exists_of_bind_ok h
  refine ⟨bytes, read_of_readFile hread, ?_⟩
  split at h
  · rename_i hsource
    cases h
    exact hsource
  · contradiction

theorem startsFrom_of_loadInput {disk : Disk} {o : RunOptions} {input : String} {r : ModuleRecord}
    (h : loadInput disk o input = .ok r) : StartsFrom disk o input r := by
  unfold loadInput at h
  dsimp only at h
  split at h
  · rename_i hjson
    obtain ⟨stored, hstored, h⟩ := exists_of_bind_ok h
    obtain ⟨bytes, hread, hload⟩ := of_loadRecord hstored
    have hr : r = { stored with
        name := o.name.getD stored.name
        data := if o.fresh then { source := stored.data.source } else stored.data } := by
      cases h
      cases o.name <;> cases o.fresh <;> rfl
    rw [hr]
    exact .kept hjson hread hload
  · rename_i hjson
    obtain ⟨source, hsource, h⟩ := exists_of_bind_ok h
    obtain ⟨bytes, hread, htext⟩ := of_loadSource hsource
    have hr : r = .new (o.name.getD ((Path.stem? input).getD "module")) source := by
      cases h
      cases o.fresh <;> rfl
    rw [hr]
    exact .new (by simpa using hjson) hread htext

theorem readFile_of_read {disk : Disk} {path : String} {bytes : ByteArray}
    (h : disk.read path = .ok bytes) : readFile disk path = .ok bytes := by
  rw [readFile, h]

theorem loadInput_of_startsFrom {disk : Disk} {o : RunOptions} {input : String} {r : ModuleRecord}
    (h : StartsFrom disk o input r) : loadInput disk o input = .ok r := by
  cases h with
  | @kept bytes stored hjson hread hload =>
    have hstored : loadRecord disk input = .ok stored := by
      simp only [loadRecord, readFile_of_read hread, bind, Except.bind, hload]
    rw [loadInput, hjson, hstored]
    cases o.name <;> cases o.fresh <;> rfl
  | @new bytes source hjson hread hsource =>
    have htext : loadSource disk input = .ok source := by
      simp only [loadSource, readFile_of_read hread, bind, Except.bind, hsource]
    rw [loadInput, hjson, htext]
    cases o.fresh <;> rfl

def Invocation.context (inv : Invocation) (o : RunOptions) (moduleName : String)
    (answers : Answers) : Context where
  moduleName := moduleName
  agent := (inv.agentVariable.or o.agentCommand).map fun c => ⟨c, inv.respond c⟩
  answers := answers
  now := inv.now

/-- A run from this record completes with this result, and the version of the record can count it. -/
structure Succeeds (inv : Invocation) (disk : Disk) (o : RunOptions) (input : String)
    (r : ModuleRecord) (result : RunResult) : Prop where
  starts : StartsFrom disk o input r
  runs : ∃ answers prompts, loadAnswers disk o.answers = .ok answers ∧
    runPipeline r.data (inv.context o r.name answers) (keepLast o.strategies) = .ok (result, prompts)
  complete : result.status = .complete
  counted : r.version.toNat + 1 < UInt32.size

theorem run_eq {inv : Invocation} {disk : Disk} {o : RunOptions} {input : String} {r : ModuleRecord}
    {answers : Answers} (hr : loadInput disk o input = .ok r)
    (hanswers : loadAnswers disk o.answers = .ok answers) :
    run inv disk o input =
      match runPipeline r.data (inv.context o r.name answers) (keepLast o.strategies) with
      | .error e => .failure disk [] ("Bad request: " ++ e.message)
      | .ok (result, prompts) => finish disk o input r result prompts := by
  rw [run, hr, hanswers]
  rfl

theorem finish_complete (disk : Disk) (o : RunOptions) (input : String) {r : ModuleRecord}
    {ctx : Context} {config : Config} {result : RunResult} {prompts : List String}
    (hrun : runPipeline r.data ctx config = .ok (result, prompts))
    (hstatus : result.status = .complete) (hversion : r.version.toNat + 1 < UInt32.size) :
    let path := outputPath o input r.name
    finish disk o input r result prompts =
      match disk.write path (Store.save (r.after result)).toUTF8 with
      | .ok disk => { exit := 0, out := completedReport result (r.after result) path, disk, prompts }
      | .error e => .failure disk prompts ("Error writing " ++ path ++ ": " ++ e.message) := by
  have hcomplete : result.isComplete = true := by
    rw [RunResult.isComplete, hstatus]
    rfl
  have herror : result.error = none := by
    have hsome := (follows_of_runPipeline hrun).2.error_isSome_iff
    rw [hstatus] at hsome
    simpa using hsome
  have happly := ModuleRecord.apply?_of_complete hrun hstatus
  rw [if_pos hversion] at happly
  simp only [finish, happly, hcomplete, herror]
  rfl

theorem finish_cases (disk : Disk) (o : RunOptions) (input : String) {r : ModuleRecord}
    {ctx : Context} {config : Config} {result : RunResult} {prompts : List String}
    (hrun : runPipeline r.data ctx config = .ok (result, prompts)) :
    let ending := finish disk o input r result prompts
    ending.exit ≠ 0 ∧ ending.disk = disk ∨
    ending.exit = 0 ∧ result.status = .complete ∧ r.version.toNat + 1 < UInt32.size ∧
      disk.write (outputPath o input r.name) (Store.save (r.after result)).toUTF8 =
        .ok ending.disk := by
  dsimp only
  by_cases hstatus : result.status = .complete
  · by_cases hversion : r.version.toNat + 1 < UInt32.size
    · rw [finish_complete disk o input hrun hstatus hversion]
      split
      · rename_i disk' hwrite
        exact Or.inr ⟨rfl, hstatus, hversion, hwrite⟩
      · exact Or.inl ⟨Nat.one_ne_zero, rfl⟩
    · have happly := ModuleRecord.apply?_of_complete hrun hstatus
      rw [if_neg hversion] at happly
      simp [finish, happly]
  · have hfailed : result.isComplete = false := by
      simp [RunResult.isComplete, hstatus]
    have happly : r.apply? result = some { r with status := some result.moduleStatus } := by
      unfold ModuleRecord.apply?
      rw [hfailed]
      rfl
    simp [finish, happly, hfailed, Ending.failure]

/-- Whatever goes wrong, and wherever, the disk is left as it was. -/
theorem run_cases (inv : Invocation) (disk : Disk) (o : RunOptions) (input : String) :
    (run inv disk o input).exit ≠ 0 ∧ (run inv disk o input).disk = disk ∨
    (run inv disk o input).exit = 0 ∧ ∃ r result, Succeeds inv disk o input r result ∧
      disk.write (outputPath o input r.name) (Store.save (r.after result)).toUTF8 =
        .ok (run inv disk o input).disk := by
  cases hr : loadInput disk o input with
  | error message =>
    have hfails : run inv disk o input = .failure disk [] message := by
      rw [run, hr]
      rfl
    rw [hfails]
    exact Or.inl ⟨Nat.one_ne_zero, rfl⟩
  | ok r =>
    cases hanswers : loadAnswers disk o.answers with
    | error message =>
      have hfails : run inv disk o input = .failure disk [] message := by
        rw [run, hr, hanswers]
        rfl
      rw [hfails]
      exact Or.inl ⟨Nat.one_ne_zero, rfl⟩
    | ok answers =>
      rw [run_eq hr hanswers]
      split
      · exact Or.inl ⟨Nat.one_ne_zero, rfl⟩
      · rename_i result prompts hrun
        refine (finish_cases disk o input hrun).imp id ?_
        rintro ⟨hexit, hstatus, hversion, hwrite⟩
        exact ⟨hexit, r, result,
          ⟨startsFrom_of_loadInput hr, ⟨answers, prompts, hanswers, hrun⟩, hstatus, hversion⟩, hwrite⟩

theorem Succeeds.exit {inv : Invocation} {disk written : Disk} {o : RunOptions} {input : String}
    {r : ModuleRecord} {result : RunResult} (h : Succeeds inv disk o input r result)
    (hwrite : disk.write (outputPath o input r.name) (Store.save (r.after result)).toUTF8 =
      .ok written) : (run inv disk o input).exit = 0 := by
  obtain ⟨answers, prompts, hanswers, hrun⟩ := h.runs
  rw [run_eq (loadInput_of_startsFrom h.starts) hanswers, hrun]
  dsimp only
  rw [finish_complete disk o input hrun h.complete h.counted, hwrite]

theorem disk_status (disk : Disk) (path : String) : (status disk path).disk = disk := by
  unfold status
  split <;> rfl

theorem disk_listStrategies (disk : Disk) (step : Option String) :
    (listStrategies disk step).disk = disk := by
  unfold listStrategies
  split
  · rfl
  · split <;> rfl

theorem perform_run {inv : Invocation} {disk : Disk} {o : RunOptions} {input : String}
    (h : command? inv.args = some (.run o input)) : perform inv disk = run inv disk o input := by
  rw [perform, h]

theorem disk_perform {inv : Invocation} {disk : Disk}
    (h : ∀ o input, command? inv.args ≠ some (.run o input)) : (perform inv disk).disk = disk := by
  unfold perform
  split
  · rfl
  · rfl
  · rename_i o input hcommand
    exact absurd hcommand (h o input)
  · exact disk_status disk _
  · exact disk_listStrategies disk _

/-- The file that a record is said to be written to: the one asked for, the input if that is a
record, or one of the name of the module in a directory of its own. -/
def keptPath (o : RunOptions) (input name : String) : String :=
  o.out.getD (if Path.isJson input then input else ".pipeline/" ++ name ++ ".json")

theorem outputPath_eq (o : RunOptions) (input name : String) :
    outputPath o input name =
      if o.out = none ∧ Path.isJson input = false ∧ Path.isAbsolute name = true then name ++ ".json"
      else keptPath o input name := by
  have habsolute : Path.isAbsolute (name ++ ".json") = Path.isAbsolute name := by
    rw [Path.isAbsolute, Path.isAbsolute, String.toList_append]
    cases name.toList <;> rfl
  unfold outputPath keptPath
  cases o.out with
  | some path => simp
  | none =>
    cases Path.isJson input with
    | true => simp
    | false =>
      simp only [Path.join, habsolute]
      cases Path.isAbsolute name with
      | true => simp
      | false => simp [String.append_assoc]

end Cli

open Cli

/-- The program writes exactly one file if it is asked for a run and that completes, and none
otherwise. What is written is the record that the run started from, with the data of the run in it,
one version on and under the status of the run. It is written where it is said to be, unless a name
that starts from the root is given to a source and no path is. Only the disk can refuse it. -/
theorem run_writes_all_or_nothing (inv : Invocation) (disk : Disk) :
    let ending := perform inv disk
    ((∀ o input, command? inv.args = some (.run o input) → ending.exit ≠ 0) →
      ending.disk.content? = disk.content?) ∧
    ∀ o input, command? inv.args = some (.run o input) →
      (ending.exit = 0 → ∃ r result, Succeeds inv disk o input r result ∧
        disk.Wrote ending.disk
          (if o.out = none ∧ Path.isJson input = false ∧ Path.isAbsolute r.name = true
            then r.name ++ ".json" else keptPath o input r.name)
          (Store.save (r.after result)).toUTF8) ∧
      ∀ r result written, Succeeds inv disk o input r result →
        disk.write (outputPath o input r.name) (Store.save (r.after result)).toUTF8 = .ok written →
        ending.exit = 0 := by
  intro ending
  constructor
  · intro hnot
    by_cases hrun : ∃ o input, command? inv.args = some (.run o input)
    · obtain ⟨o, input, hcommand⟩ := hrun
      have hending : ending = run inv disk o input := perform_run hcommand
      have hexit := hnot o input hcommand
      rw [hending] at hexit ⊢
      rcases run_cases inv disk o input with ⟨-, hdisk⟩ | ⟨hzero, -⟩
      · rw [hdisk]
      · exact absurd hzero hexit
    · have hdisk : ending.disk = disk :=
        disk_perform fun o input hcommand => hrun ⟨o, input, hcommand⟩
      rw [hdisk]
  · intro o input hcommand
    have hending : ending = run inv disk o input := perform_run hcommand
    rw [hending]
    constructor
    · intro hexit
      rcases run_cases inv disk o input with ⟨hnonzero, -⟩ | ⟨-, r, result, hsucceeds, hwrite⟩
      · exact absurd hexit hnonzero
      · rw [outputPath_eq] at hwrite
        exact ⟨r, result, hsucceeds, Disk.wrote_of_write hwrite⟩
    · intro r result written hsucceeds hwrite
      exact hsucceeds.exit hwrite

namespace Cli

theorem exit_offline (inv : Invocation) {disk disk' : Disk} {o : RunOptions}
    {input name source : String} {bytes : ByteArray} (hname : o.name = some name)
    (hanswers : o.answers = none) (hoffline : o.strategies = offline)
    (hjson : Path.isJson input = false) (hread : disk.read input = .ok source.toUTF8)
    (hwrite : disk.write (outputPath o input name) bytes = .ok disk') :
    (run inv disk o input).exit = 0 := by
  have hstarts : StartsFrom disk o input (.new name source) := by
    have htext : String.fromUTF8? source.toUTF8 = some source := dif_pos source.isValidUTF8
    have hnew := StartsFrom.new (o := o) hjson hread htext
    rw [hname] at hnew
    exact hnew
  obtain ⟨result, prompts, r, hrun, hstatus, -⟩ :=
    exists_offline name source (inv.context o name [])
  have hruns : ∃ answers prompts, loadAnswers disk o.answers = .ok answers ∧
      runPipeline (ModuleRecord.new name source).data (inv.context o name answers)
        (keepLast o.strategies) = .ok (result, prompts) := by
    refine ⟨[], prompts, ?_, ?_⟩
    · rw [hanswers]
      rfl
    · rw [hoffline]
      exact hrun
  have hcounted : (0 : UInt32).toNat + 1 < UInt32.size := by decide
  obtain ⟨written, hwritten⟩ := Disk.exists_write hwrite
    (Store.save ((ModuleRecord.new name source).after result)).toUTF8
  exact Succeeds.exit ⟨hstarts, hruns, hstatus, hcounted⟩ hwritten

def closingDisk : Disk :=
  { files := [(["f.bas"], "Sub a_Click()\nDoCmd.Close\nEnd Sub\n".toUTF8)] }

def closingRun (name : String) : Invocation where
  args := ["run", "--strategy", "extract=mock", "--strategy", "gap-questions=skip", "--strategy",
    "resolve-gaps=auto", "--strategy", "generate=mechanical", "--name", name, "f.bas"]
  agentVariable := none
  respond := fun _ _ _ => .killed
  now := (ordersContext []).now

def closingOptions (name : String) : RunOptions :=
  { name := some name, strategies := offline, input := some "f.bas" }

theorem eq_ok_of_toOption {x : Except ε α} {a : α} (h : x.toOption = some a) : x = .ok a := by
  cases x with
  | error e => contradiction
  | ok b =>
    cases h
    rfl

theorem exit_closing {name : String}
    (hcommand : command? (closingRun name).args = some (.run (closingOptions name) "f.bas"))
    (hwrite : (closingDisk.write (outputPath (closingOptions name) "f.bas" name)
      .empty).toOption.isSome = true) :
    (perform (closingRun name) closingDisk).exit = 0 := by
  have hread : (closingDisk.read "f.bas").toOption =
      some "Sub a_Click()\nDoCmd.Close\nEnd Sub\n".toUTF8 := by
    decide +kernel
  obtain ⟨disk', hdisk'⟩ := Option.isSome_iff_exists.mp hwrite
  rw [perform_run hcommand]
  exact exit_offline _ rfl rfl rfl (by decide +kernel) (eq_ok_of_toOption hread)
    (eq_ok_of_toOption hdisk')

theorem name_of_startsFrom {disk : Disk} {o : RunOptions} {input name : String} {r : ModuleRecord}
    (h : StartsFrom disk o input r) (hname : o.name = some name) : r.name = name := by
  cases h with
  | kept hjson hread hload => exact congrArg (Option.getD · _) hname
  | new hjson hread hsource => exact congrArg (Option.getD · _) hname

end Cli

theorem run_writes_all_or_nothing_closing :
    let ending := perform (closingRun "Form_Orders") closingDisk
    ending.exit = 0 ∧ ∃ text, ending.disk.read ".pipeline/Form_Orders.json" = .ok text := by
  have hcommand : command? (closingRun "Form_Orders").args =
      some (.run (closingOptions "Form_Orders") "f.bas") := by
    decide +kernel
  have hexit : (perform (closingRun "Form_Orders") closingDisk).exit = 0 :=
    exit_closing hcommand (by decide +kernel)
  obtain ⟨r, result, hsucceeds, hwrote⟩ :=
    ((run_writes_all_or_nothing (closingRun "Form_Orders") closingDisk).2 _ _ hcommand).1 hexit
  rw [name_of_startsFrom hsucceeds.starts rfl] at hwrote
  have hpath : (if (closingOptions "Form_Orders").out = none ∧ Path.isJson "f.bas" = false ∧
      Path.isAbsolute "Form_Orders" = true then "Form_Orders" ++ ".json"
      else keptPath (closingOptions "Form_Orders") "f.bas" "Form_Orders") =
        ".pipeline/Form_Orders.json" := by
    decide +kernel
  rw [hpath] at hwrote
  exact ⟨hexit, _, hwrote.read⟩

/-- A name from the root takes the record out of the directory for records. -/
theorem absolute_name_written_elsewhere :
    let ending := perform (closingRun "/tmp/Form_Orders") closingDisk
    ending.exit = 0 ∧ (∃ text, closingDisk.Wrote ending.disk "/tmp/Form_Orders.json" text) ∧
      ∀ text, ¬ closingDisk.Wrote ending.disk
        (keptPath (closingOptions "/tmp/Form_Orders") "f.bas" "/tmp/Form_Orders") text := by
  have hcommand : command? (closingRun "/tmp/Form_Orders").args =
      some (.run (closingOptions "/tmp/Form_Orders") "f.bas") := by
    decide +kernel
  have hexit : (perform (closingRun "/tmp/Form_Orders") closingDisk).exit = 0 :=
    exit_closing hcommand (by decide +kernel)
  have hpath : outputPath (closingOptions "/tmp/Form_Orders") "f.bas" "/tmp/Form_Orders" =
      "/tmp/Form_Orders.json" := by
    decide +kernel
  have hkept : keptPath (closingOptions "/tmp/Form_Orders") "f.bas" "/tmp/Form_Orders" =
      ".pipeline//tmp/Form_Orders.json" := by
    decide +kernel
  rw [perform_run hcommand] at hexit ⊢
  rcases run_cases (closingRun "/tmp/Form_Orders") closingDisk (closingOptions "/tmp/Form_Orders")
    "f.bas" with ⟨hnonzero, -⟩ | ⟨-, r, result, hsucceeds, hwrite⟩
  · exact absurd hexit hnonzero
  rw [name_of_startsFrom hsucceeds.starts rfl, hpath] at hwrite
  have hwrote := Disk.wrote_of_write hwrite
  refine ⟨hexit, ⟨_, hwrote⟩, ?_⟩
  rintro text ⟨said, hsaid, hthere, -⟩
  obtain ⟨place, hplace, -, hothers⟩ := hwrote
  rw [hkept] at hsaid
  have hsaid' : said = [".pipeline", "tmp", "Form_Orders.json"] :=
    (Disk.of_locate (by decide +kernel) hsaid).trans (by decide +kernel)
  have hplace' : place = ["/", "tmp", "Form_Orders.json"] :=
    (Disk.of_locate (by decide +kernel) hplace).trans (by decide +kernel)
  have hnone : closingDisk.content? [".pipeline", "tmp", "Form_Orders.json"] = none := by
    decide +kernel
  have hsame := hothers said (by rw [hsaid', hplace']; decide)
  rw [hthere, hsaid', hnone] at hsame
  cases hsame

end FormScript
