import FormScript.Cli.Program
import Std.Time.DateTime

/-! The command line program. It reads the files that the arguments name, does what they ask for,
and writes what came of it. It starts no other programs, so every agent is out of reach. -/
namespace FormScript

/-- The paths that may be read or written, as far as the arguments tell. -/
def Cli.Command.paths : Cli.Command → List String
  | .run o input => [input, ".pipeline"] ++ o.answers.toList ++ o.out.toList
  | .status path => [path]
  | _ => []

def entryAt (path : String) : IO (Option Cli.Entry) := do
  try
    if ← (← IO.FS.realPath path).isDir then return some .directory
    else return some (.file (← IO.FS.readBinFile path))
  catch _ => return none

def look (disk : Cli.Disk) (path : String) : IO Cli.Disk :=
  let names := Cli.Path.names path
  (List.range (names.length + 1)).foldlM (fun disk n => do
    let place := Cli.Path.start path ++ names.take n
    match ← entryAt (Cli.Path.ofPlace place) with
    | some (.file bytes) => return disk.put (Cli.Path.place (Cli.Path.ofPlace place)) bytes
    | some .directory =>
      return { disk with
        directories := disk.directories ++ [Cli.Path.place (Cli.Path.ofPlace place)] }
    | none => return disk) disk

def writeDisk (before after : Cli.Disk) : IO Unit :=
  after.files.forM fun (place, bytes) => do
    if (before.content? place).all (· != bytes) then
      unless place.length = 1 do IO.FS.createDirAll (Cli.Path.ofPlace place.dropLast)
      IO.FS.writeBinFile (Cli.Path.ofPlace place) bytes

def currentTime : IO Timestamp := do
  let now ← Std.Time.Timestamp.now
  match Timestamp.ofNanos? now.toNanosecondsSinceUnixEpoch.val with
  | some t => return t
  | none => throw (IO.userError "the clock shows no time that can be kept")

def runHere (args : List String) : IO Cli.Ending := do
  let paths := (Cli.command? args).elim [] Cli.Command.paths
  let disk ← paths.foldlM look { files := [] }
  let ending := Cli.perform
    { args
      agentVariable := ← IO.getEnv "PIPELINE_AGENT_CMD"
      respond := fun _ _ _ => .notStarted "starting programs is not supported"
      now := ← currentTime } disk
  writeDisk disk ending.disk
  return ending

end FormScript

def main (args : List String) : IO UInt32 := do
  let ending ← FormScript.runHere args
  IO.print ending.out
  IO.eprint ending.err
  return UInt32.ofNat ending.exit
