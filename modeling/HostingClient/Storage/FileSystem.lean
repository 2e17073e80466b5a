import HostingClient.Text.Utf8

/-! # A file system

Directories and files by path, on a device that may refuse some steps. A file is replaced as a whole: the new
content goes to a temporary file, which is then renamed over the old one. If a step fails, the temporary file is
removed and the old file is untouched. -/

namespace HostingClient

/-- The names from the root to a file or directory. -/
abbrev Path := List String

/-- What stands at a path. -/
inductive FileNode where
  | directory
  | file (content : List UInt8)
deriving DecidableEq, Repr, Inhabited

/-- A step that a device can refuse. -/
inductive DeviceStep where
  | read
  | createDirectory
  | createTemporary
  | write
  | sync
  | rename
deriving DecidableEq, Repr, Inhabited

/-- Directories and files. The root is always there. -/
structure FileSystem where
  nodes : List (Path × FileNode)
  /-- Where paths start that do not start at the root. -/
  workingDirectory : Path
  /-- The steps that the device refuses. -/
  refuses : DeviceStep → Bool

/-- Why a file cannot be read. -/
inductive ReadFault where
  | missing
  /-- The device refuses, or what stands there is not a file of text. -/
  | other
deriving DecidableEq, Repr

namespace FileSystem

/-- The text of a name under a directory. -/
def join (directory name : String) : String :=
  if directory = "" then name
  else if directory.toList.getLast? = some '/' then directory ++ name
  else directory ++ "/" ++ name

/-- One name of a path put to those before it. Two dots take the name before them away, as it is written: whether there
is a directory of that name is not looked up, so paths with two dots behind a name are meant only where it exists. -/
def addName (path : Path) (name : String) : Path :=
  if name = "" ∨ name = "." then path else if name = ".." then path.dropLast else path ++ [name]

/-- Puts a character before a name and those after it; a slash starts a new name. -/
def putBefore (c : Char) (split : List Char × List (List Char)) : List Char × List (List Char) :=
  if c = '/' then ([], split.1 :: split.2) else (c :: split.1, split.2)

/-- The names between slashes. -/
def names (text : List Char) : List String :=
  let (first, later) := text.foldr putBefore ([], [])
  (first :: later).map String.ofList

/-- The path that a text stands for. -/
def resolve (fs : FileSystem) (text : String) : Path :=
  let start : Path := match text.toList with
    | '/' :: _ => []
    | _ => fs.workingDirectory
  (names text.toList).foldl addName start

/-- What stands at a path. -/
def node? (fs : FileSystem) (path : Path) : Option FileNode :=
  if path = [] then some .directory else fs.nodes.lookup path

/-- Whether a file stands where a path needs a directory. -/
def isBarred (fs : FileSystem) (path : Path) : Bool :=
  fs.nodes.any fun e => e.2 ≠ .directory && e.1.isPrefixOf path && e.1 != path

/-- The file system without what stands at a path. -/
def drop (fs : FileSystem) (path : Path) : FileSystem := { fs with nodes := fs.nodes.filter fun e => e.1 != path }

/-- The file system with something at a path, in place of what stood there. -/
def put (fs : FileSystem) (path : Path) (n : FileNode) : FileSystem :=
  { fs with nodes := (path, n) :: (fs.drop path).nodes }

/-- The names in a directory. -/
def list (fs : FileSystem) (directory : Path) : List String :=
  fs.nodes.filterMap fun e => if e.1 ≠ [] ∧ e.1.dropLast = directory then e.1.getLast? else none

/-- The bytes of a file. -/
def readBytes (fs : FileSystem) (path : Path) : Except ReadFault (List UInt8) :=
  if fs.refuses .read || fs.isBarred path then .error .other
  else match fs.node? path with
    | none => .error .missing
    | some .directory => .error .other
    | some (.file content) => .ok content

/-- The text of a file. -/
def readText (fs : FileSystem) (path : Path) : Except ReadFault (List Char) := do
  let content ← fs.readBytes path
  match Text.Utf8.decode? content with
  | some s => .ok s
  | none => .error .other

/-- The paths of the directories down to a path. -/
def steps (path : Path) : List Path := (List.range path.length).map fun n => path.take (n + 1)

/-- Makes a directory and those above it, as far as they are missing. -/
def makeDirectories (fs : FileSystem) (path : Path) : Option FileSystem :=
  let missing := (steps path).filter fun p => (fs.node? p).isNone
  if (steps path).any fun p => (fs.node? p).any (· ≠ .directory) then none
  else if fs.refuses .createDirectory && !missing.isEmpty then none
  else some (missing.foldl (fun fs p => fs.put p .directory) fs)

/-- A name that no file has: it is longer than all of them. -/
def freshName (taken : List String) : String :=
  let longest := (taken.map String.length).foldl max 0
  String.ofList ('.' :: List.replicate longest 't')

/-- Makes an empty temporary file in a directory. -/
def createTemporary (fs : FileSystem) (directory : Path) : Option (Path × FileSystem) :=
  if fs.refuses .createTemporary || fs.isBarred directory || fs.node? directory ≠ some .directory then none
  else
    let path := directory ++ [freshName (fs.list directory)]
    some (path, fs.put path (.file []))

/-- Writes the content of a file. -/
def write (fs : FileSystem) (path : Path) (content : List UInt8) : Option FileSystem :=
  if fs.refuses .write then none else some (fs.put path (.file content))

/-- Makes sure that what was written is on the device. -/
def sync (fs : FileSystem) : Option FileSystem := if fs.refuses .sync then none else some fs

/-- Renames a file, in place of the file that has the new name. -/
def rename (fs : FileSystem) (source target : Path) : Option FileSystem :=
  if fs.refuses .rename || fs.node? target = some .directory then none
  else match fs.node? source with
    | some n => some ((fs.drop source).put target n)
    | none => none

/-- Gives a file a new content. -/
def replaceFile (fs : FileSystem) (path : Path) (content : List UInt8) : Except Unit Unit × FileSystem :=
  match fs.createTemporary path.dropLast with
  | none => (.error (), fs)
  | some (temporary, fs) =>
    match fs.write temporary content with
    | none => (.error (), fs.drop temporary)
    | some fs =>
      match fs.sync with
      | none => (.error (), fs.drop temporary)
      | some fs =>
        match fs.rename temporary path with
        | none => (.error (), fs.drop temporary)
        | some fs => (.ok (), fs)

end FileSystem

end HostingClient
