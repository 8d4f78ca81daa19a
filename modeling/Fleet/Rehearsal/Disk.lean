import Fleet.Data.Fields
import Fleet.Host

/-!
# Disks in memory

Folders and files as a rehearsal needs them: paths are followed name by name, and what cannot be
done fails for the reason a real disk would give. For the disk a path ends at its first zero
character, though its text may go on.
-/

namespace Fleet.Rehearsal

/-- What stands at a place of a disk. -/
inductive DiskNode where
  /-- A folder with what stands in it, by name. -/
  | folder (entries : List (String × DiskNode))
  | file (content : String)

/-- Why a path leads nowhere. -/
inductive DiskError where
  | missing
  | notFolder
  | nameTooLong
  /-- A file stands where a folder is to be created. -/
  | occupied
  | invalid
  deriving DecidableEq, Repr

/-- The printed text of a reason. -/
def DiskError.text : DiskError → String
  | missing => "No such file or directory"
  | notFolder => "Not a directory"
  | nameTooLong => "File name too long"
  | occupied => "File exists"
  | invalid => "Invalid argument"

/-- A place on a disk: the names that lead there from the root. -/
abbrev Place := List String

namespace DiskNode

/-- What stands in a folder; nothing stands in a file. -/
def entries : DiskNode → List (String × DiskNode)
  | folder entries => entries
  | file _ => []

/-- What stands at a place, seen from a node. -/
def find? (node : DiskNode) : Place → Option DiskNode
  | [] => some node
  | name :: rest =>
    match node.entries.lookup name with
    | some next => next.find? rest
    | none => none

/-- Put something at a place, seen from a node. Folders that are missing on the way are made. -/
def put (new node : DiskNode) : Place → DiskNode
  | [] => new
  | name :: rest =>
    let next := (node.entries.lookup name).getD (folder [])
    folder ((name, put new next rest) :: node.entries.filter (·.1 ≠ name))

mutual

/-- The paths of everything in a node whose own path is `path`; a folder ends in a slash. -/
def paths (path : String) : DiskNode → List String
  | folder entries => (path ++ "/") :: pathsOfAll (path ++ "/") entries
  | file _ => [path]

/-- The paths of everything in a folder, given what comes before the names of its entries. -/
def pathsOfAll (before : String) : List (String × DiskNode) → List String
  | [] => []
  | (name, node) :: rest => paths (before ++ name) node ++ pathsOfAll before rest

end

end DiskNode

/-- A disk. -/
structure Disk where
  /-- Where paths start that do not start at the root. -/
  working : Place
  root : DiskNode

namespace Disk

/-- The longest name of a file or folder, in bytes. -/
def longestName : Nat := 255

/-- The longest path, in bytes. -/
def longestPath : Nat := 4095

/-- The most folders that are created for one path. -/
def mostNewFolders : Nat := 1000

/-- A disk with a working folder of the given name and a folder for temporary files. -/
def withWorking (name : String) : Disk where
  working := [name]
  root := .folder [(name, .folder []), ("tmp", .folder [])]

/-- What stands at a place. -/
def node? (disk : Disk) (place : Place) : Option DiskNode :=
  disk.root.find? place

/-- Put something at a place. -/
def put (disk : Disk) (place : Place) (node : DiskNode) : Disk :=
  { disk with root := node.put disk.root place }

/-- The names of a path. -/
def namesOf (path : String) : List String :=
  path.splitOn "/"

/-- Where a path starts. -/
def startOf (disk : Disk) (path : String) : Place :=
  if isAbsolutePath path then [] else disk.working

/-- Follow names from a place. The place reached need not have anything on it. -/
def follow (disk : Disk) (place : Place) : List String → Except DiskError Place
  | [] => .ok place
  | name :: rest =>
    match disk.node? place with
    | none => .error .missing
    | some (.file _) => .error .notFolder
    | some (.folder _) =>
      if name.isEmpty || name = "." then disk.follow place rest
      else if name = ".." then disk.follow place.dropLast rest
      else if name.utf8ByteSize > longestName then .error .nameTooLong
      else disk.follow (place ++ [name]) rest

/-- The place a path leads to. -/
def locate (disk : Disk) (path : String) : Except DiskError Place :=
  let path := untilZero path
  if path.isEmpty then .error .missing
  else if path.utf8ByteSize > longestPath then .error .nameTooLong
  else disk.follow (disk.startOf path) (namesOf path)

/-- What a path leads to. -/
def at? (disk : Disk) (path : String) : Except DiskError DiskNode := do
  match disk.node? (← disk.locate path) with
  | some node => return node
  | none => throw .missing

/-- Whether a path leads to a folder. A path that leads nowhere does not; one that is too long to
be followed is an error. -/
def isFolder? (disk : Disk) (path : String) : Except DiskError Bool :=
  match disk.at? path with
  | .ok (.folder _) => .ok true
  | .error .nameTooLong => .error .nameTooLong
  | _ => .ok false

/-- Whether a path can be followed to a folder. -/
def isFolder (disk : Disk) (path : String) : Bool :=
  match disk.isFolder? path with
  | .ok answer => answer
  | .error _ => false

/-- The content of the file a path leads to. -/
def content? (disk : Disk) (path : String) : Option String :=
  match disk.at? path with
  | .ok (.file content) => some content
  | _ => none

/-- Go through names from a place as long as they lead to folders: the place reached and the names
that are left. A file on the way is an error; one at its end is left. -/
def passFolders (disk : Disk) (place : Place) : List String → Except DiskError (Place × List String)
  | [] => .ok (place, [])
  | name :: rest =>
    if name = "." then disk.passFolders place rest
    else if name = ".." then disk.passFolders place.dropLast rest
    else
      match disk.node? (place ++ [name]) with
      | some (.folder _) => disk.passFolders (place ++ [name]) rest
      | some (.file _) => if rest.isEmpty then .ok (place, [name]) else .error .notFolder
      | none => .ok (place, name :: rest)

/-- Go through names from a place and create the folders that are missing, as far as that can be
done. Names behind a zero character do not count. -/
def createFrom (disk : Disk) (place : Place) : List String → Except DiskError Unit × Disk
  | [] => (.ok (), disk)
  | text :: rest =>
    let name := untilZero text
    let createRest (disk : Disk) (place : Place) :=
      if name = text then disk.createFrom place rest else (.ok (), disk)
    if name.isEmpty || name = "." then createRest disk place
    else if name = ".." then createRest disk place.dropLast
    else if name.utf8ByteSize > longestName then (.error .nameTooLong, disk)
    else
      let next := place ++ [name]
      match disk.node? next with
      | some (.folder _) => createRest disk next
      | some (.file _) => (.error .occupied, disk)
      | none => createRest (disk.put next (.folder [])) next

/-- Create the folders of a path that leads nowhere yet. -/
def createMissing (disk : Disk) (path : String) : Except DiskError Unit × Disk :=
  if (untilZero path).isEmpty then (.error .missing, disk)
  else
    match disk.passFolders (disk.startOf path) ((namesOf path).filter (!·.isEmpty)) with
    | .error error => (.error error, disk)
    | .ok (place, missing) =>
      if missing.countP (fun name => name ≠ "." && name ≠ "..") > mostNewFolders then
        (.error .nameTooLong, disk)
      else disk.createFrom place missing

/-- Create a folder and those it lies in. -/
def createFolders (disk : Disk) (path : String) : Except DiskError Unit × Disk :=
  if path.isEmpty then (.error .invalid, disk)
  else
    match disk.at? path with
    | .ok (.folder _) => (.ok (), disk)
    | .ok (.file _) => (.error .notFolder, disk)
    | .error .nameTooLong => (.error .nameTooLong, disk)
    | .error _ => disk.createMissing path

/-- Make a file, or replace the content of one. -/
def write (disk : Disk) (path data : String) : Except DiskError Disk := do
  if (untilZero path).endsWith "/" then throw .invalid
  let place ← disk.locate path
  match disk.node? place with
  | some (.folder _) => throw .invalid
  | _ => return disk.put place (.file data)

/-- Everything in the working folder by its path from there; a folder ends in a slash. -/
def listing (disk : Disk) : List String :=
  let entries := ((disk.node? disk.working).map DiskNode.entries).getD []
  (DiskNode.pathsOfAll "" entries).mergeSort fun a b => !(b < a)

end Disk

/-- A machine in memory. -/
structure Machine where
  disk : Disk
  /-- Whether log lines are kept. -/
  logging : Bool := true
  /-- The log lines, the latest first. -/
  entries : List LogEntry := []
  /-- What was printed, the latest first. -/
  printed : List String := []

namespace Machine

/-- Do what is asked of the host. Time stands still. -/
def answer : (question : HostRequest) → StateM Machine (host.Answer question)
  | .log entry =>
    modify fun machine =>
      if machine.logging then { machine with entries := entry :: machine.entries } else machine
  | .print text => modify fun machine => { machine with printed := text :: machine.printed }
  | .clock => return 0
  | .createFolders path =>
    modifyGet fun machine =>
      let (result, disk) := machine.disk.createFolders path
      (result.mapError DiskError.text, { machine with disk })
  | .isFolder path => return (← get).disk.isFolder path
  | .write path data =>
    modifyGet fun machine =>
      match machine.disk.write path data with
      | .ok disk => (.written, { machine with disk })
      | .error _ => (.notOpened, machine)
  | .absolute path => do
    if isAbsolutePath path then return path
    else return joinPath ("/".intercalate (← get).disk.working) path

/-- Hold a conversation with the machine. -/
def play {α : Type} (session : Hosted α) : StateM Machine α :=
  session.run answer

/-- The log lines since the last call, oldest first. -/
def takeEntries : StateM Machine (List LogEntry) :=
  modifyGet fun machine => (machine.entries.reverse, { machine with entries := [] })

/-- What was printed, line by line. -/
def lines (machine : Machine) : List String :=
  ((String.join machine.printed.reverse).splitOn "\n").filter (!·.isEmpty)

end Machine

end Fleet.Rehearsal
