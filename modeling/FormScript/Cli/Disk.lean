import FormScript.Cli.Path

/-! Files and directories on a disk. A path is followed name by name: all names but the last must
be those of directories that are there, also where a later name leads back out of them. -/
namespace FormScript.Cli

structure Disk where
  files : List (Place × ByteArray)
  /-- Directories that were made; those with a file somewhere below them need not be listed. -/
  directories : List Place := []

inductive FileError where
  | notFound
  | alreadyExists
  | notADirectory
  | isADirectory
  | nameTooLong
  deriving DecidableEq, Repr

def FileError.message : FileError → String
  | notFound => "No such file or directory (os error 2)"
  | alreadyExists => "File exists (os error 17)"
  | notADirectory => "Not a directory (os error 20)"
  | isADirectory => "Is a directory (os error 21)"
  | nameTooLong => "File name too long (os error 36)"

inductive Entry where
  | file (content : ByteArray)
  | directory

def maxNameSize : Nat := 255

def maxPathSize : Nat := 4095

namespace Disk

def content? (disk : Disk) (place : Place) : Option ByteArray :=
  disk.files.lookup place

/-- The root, the working directory and those above it are always there. -/
def isDirectory (disk : Disk) (place : Place) : Bool :=
  place == ["/"] || place.all (· == "..") ||
    disk.files.any (fun (p, _) => place.isPrefixOf p && place != p) ||
    disk.directories.any place.isPrefixOf

def entry? (disk : Disk) (place : Place) : Option Entry :=
  match disk.content? place with
  | some bytes => some (.file bytes)
  | none => if disk.isDirectory place then some .directory else none

def enter (disk : Disk) (place : Place) (name : String) : Except FileError Place :=
  if name = "." then .ok place
  else if name = ".." then .ok (Path.above place)
  else if maxNameSize < name.utf8ByteSize then .error .nameTooLong
  else match disk.entry? (place ++ [name]) with
    | some .directory => .ok (place ++ [name])
    | some (.file _) => .error .notADirectory
    | none => .error .notFound

def descend (disk : Disk) (place : Place) : List String → Except FileError Place
  | [] => .ok place
  | name :: rest => do disk.descend (← disk.enter place name) rest

/-- The place that a name stands for in a directory, whether anything is there or not. -/
def child (disk : Disk) (place : Place) (name : String) : Except FileError Place :=
  if Path.isDots name then disk.enter place name
  else if maxNameSize < name.utf8ByteSize then .error .nameTooLong
  else .ok (place ++ [name])

def directoryOf (disk : Disk) (path : String) : Except FileError Place :=
  if maxPathSize < path.utf8ByteSize then .error .nameTooLong
  else disk.descend (Path.start path) (Path.names path).dropLast

def read (disk : Disk) (path : String) : Except FileError ByteArray := do
  let directory ← disk.directoryOf path
  let last := (Path.names path).getLast?.getD "."
  let place ← if Path.endsInSlash path then disk.enter directory last
    else disk.child directory last
  match disk.entry? place with
  | some (.file bytes) => .ok bytes
  | some .directory => .error .isADirectory
  | none => .error .notFound

def make (disk : Disk) (place : Place) (parents : List String) (name : String) :
    Except FileError Disk := do
  let directory ← disk.descend place parents
  if Path.isDots name then .error .alreadyExists
  else
    let place ← disk.child directory name
    if (disk.entry? place).isSome then .error .alreadyExists
    else .ok { disk with directories := disk.directories ++ [place] }

def ensure (disk : Disk) (place : Place) (parents : List String) (name : String) :
    Except FileError Disk :=
  match disk.make place parents name with
  | .error .alreadyExists =>
    (disk.descend place (parents ++ [name])).toOption.elim (.error .alreadyExists) fun _ => .ok disk
  | result => result

/-- Makes a directory and, where it cannot be made because of them, the missing ones on the way to
it. The names are given from the last to the first. -/
def ensureAll (disk : Disk) (place : Place) : List String → Except FileError Disk
  | [] => .ok disk
  | name :: parents =>
    match disk.ensure place parents.reverse name with
    | .error .notFound => do
      (← disk.ensureAll place parents).ensure place parents.reverse name
    | result => result

def put (disk : Disk) (place : Place) (bytes : ByteArray) : Disk :=
  { disk with files := disk.files.filter (·.1 != place) ++ [(place, bytes)] }

def create (disk : Disk) (path : String) (bytes : ByteArray) : Except FileError Disk := do
  let directory ← disk.directoryOf path
  let last := (Path.names path).getLast?.getD "."
  if Path.endsInSlash path && !Path.isDots last then .error .isADirectory
  else
    let place ← disk.child directory last
    if disk.isDirectory place then .error .isADirectory
    else .ok (disk.put place bytes)

def write (disk : Disk) (path : String) (bytes : ByteArray) : Except FileError Disk := do
  (← disk.ensureAll (Path.start path) (Path.parts path).dropLast.reverse).create path bytes

end Disk

end FormScript.Cli
