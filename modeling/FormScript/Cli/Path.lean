/-! Paths of files, as they are written and as the places that they lead to. -/
namespace FormScript.Cli

/-- The names on the way from the working directory, or from the root, which then comes first as a
slash. Two points stand for a directory above the working directory. -/
abbrev Place := List String

namespace Path

def isAbsolute (path : String) : Bool :=
  path.toList.head? = some '/'

def endsInSlash (path : String) : Bool :=
  path.toList.getLast? = some '/'

def names (path : String) : List String :=
  ((path.toList.splitOnP (· == '/')).map String.ofList).filter (!·.isEmpty)

def isDots (name : String) : Bool :=
  name == "." || name == ".."

/-- The names of a path but for those that stay where they are. -/
def parts (path : String) : List String :=
  (names path).filter (· != ".")

def start (path : String) : Place :=
  if isAbsolute path then ["/"] else []

def above (place : Place) : Place :=
  if place = ["/"] then place
  else if place.getLast?.any (· != "..") then place.dropLast
  else place ++ [".."]

def enter (place : Place) (name : String) : Place :=
  if name = ".." then above place else place ++ [name]

def place (path : String) : Place :=
  (parts path).foldl enter (start path)

def ofPlace : Place → String
  | "/" :: names => "/" ++ "/".intercalate names
  | names => "/".intercalate names

def fileName? (path : String) : Option String :=
  (parts path).getLast?.filter (· != "..")

/-- A file name without its extension, and the extension. A point in front of a name does not start
an extension. -/
def splitName (name : String) : String × Option String :=
  let reversed := name.toList.reverse
  let extension := (reversed.takeWhile (· != '.')).reverse
  let stem := ((reversed.dropWhile (· != '.')).drop 1).reverse
  if stem.isEmpty then (name, none) else (String.ofList stem, some (String.ofList extension))

def stem? (path : String) : Option String :=
  (fileName? path).map fun name => (splitName name).1

def isJson (path : String) : Bool :=
  ((fileName? path).bind fun name => (splitName name).2).any fun extension =>
    extension.toList.map Char.toLower == "json".toList

/-- A path inside a directory, unless it starts from the root. -/
def join (directory path : String) : String :=
  if isAbsolute path then path else directory ++ "/" ++ path

end Path

end FormScript.Cli
