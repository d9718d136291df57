import ScriptSplit.Host

/-!
# Disks

A disk is a tree of directories and files, kept as a table from locations to entries. Paths are resolved from
the root or from the working directory, one name at a time: `.` stays, `..` goes up, and every name but the
last must be a directory's.

There are no links, neither symbolic nor hard. Paths are texts, so no name is invalid UTF-8. Every file may be
read and every directory searched, and the working directory is always known.
-/
namespace ScriptSplit

abbrev Location := List Text

inductive Entry where
  | file (content : ByteArray)
  | directory

/-- What stops a write: the bytes that are in its file by then, unless it could not even be opened. -/
structure Fault where
  kept? : Option Nat
  error : FileError

def Fault.left? (fault? : Option Fault) (content : ByteArray) : Option ByteArray :=
  match fault? with
  | none => some content
  | some fault => fault.kept?.map (content.extract 0)

structure Disk where
  entries : List (Location × Entry) := []
  workingDirectory : Location := []
  /-- The error that meets a change at a location, where the system allows none. -/
  denied? : Location → Option FileError := fun _ => none
  /-- What the writes to come meet, in their order. Those after the last one listed meet nothing. -/
  faults : List (Option Fault) := []

namespace Disk

def entry? (disk : Disk) (location : Location) : Option Entry :=
  if location.isEmpty then some .directory else disk.entries.lookup location

def put (disk : Disk) (location : Location) (entry : Entry) : Disk :=
  { disk with entries := disk.entries.filter (·.1 ≠ location) ++ [(location, entry)] }

def longestName : Nat := 255

def longestPath : Nat := 4095

def names (path : Text) : Except FileError (List Text) :=
  if path.elem '\x00' then .error .nulInName
  else if path.isEmpty then .error .notFound
  else if longestPath < path.size then .error .nameTooLong
  else .ok ((path.splitOn '/').filter fun name => !name.isEmpty)

def child (disk : Disk) (here : Location) (name : Text) : Except FileError (Location × Option Entry) :=
  if name = ['.'] then .ok (here, some .directory)
  else if name = ['.', '.'] then .ok (here.dropLast, some .directory)
  else if longestName < name.size then .error .nameTooLong
  else .ok (here ++ [name], disk.entry? (here ++ [name]))

def walk (disk : Disk) (here : Location) : List Text → Except FileError Location
  | [] => .ok here
  | name :: rest => do
    match ← disk.child here name with
    | (there, some .directory) => disk.walk there rest
    | (_, some (.file _)) => .error .notDirectory
    | (_, none) => .error .notFound

def locate (disk : Disk) (path : Text) : Except FileError (Location × Option Text) := do
  let names ← names path
  let start := if Path.isAbsolute path then [] else disk.workingDirectory
  return (← disk.walk start names.dropLast, names.getLast?)

def endsInSlash (path : Text) : Bool := path.getLast? == some '/'

def find (disk : Disk) (path : Text) : Except FileError (Location × Entry) := do
  let (here, name) ← disk.locate path
  match name with
  | none => return (here, .directory)
  | some name =>
    match ← disk.child here name with
    | (_, none) => .error .notFound
    | (there, some .directory) => return (there, .directory)
    | (there, some (.file content)) =>
      if endsInSlash path then .error .notDirectory else return (there, .file content)

def read (disk : Disk) (path : Text) : Except FileError ByteArray := do
  match ← disk.find path with
  | (_, .file content) => return content
  | (_, .directory) => .error .isDirectory

def permit (disk : Disk) (location : Location) : Except FileError Location :=
  (disk.denied? location).elim (.ok location) .error

def target (disk : Disk) (path : Text) : Except FileError Location := do
  match ← disk.locate path with
  | (_, none) => .error .isDirectory
  | (here, some name) =>
    if endsInSlash path then .error .isDirectory
    else
      match ← disk.child here name with
      | (_, some .directory) => .error .isDirectory
      | (there, _) => disk.permit there

def fault? (disk : Disk) : Option Fault := disk.faults.head?.join

/-- Opens a file, which makes or empties it, and writes a content into it, until something stops this. -/
def write (disk : Disk) (path : Text) (content : ByteArray) : Except FileError Unit × Disk :=
  let next := { disk with faults := disk.faults.tail }
  match disk.target path with
  | .error error => (.error error, next)
  | .ok location =>
    (disk.fault?.elim (.ok ⟨⟩) fun fault => .error fault.error,
      (Fault.left? disk.fault? content).elim next fun left => next.put location (.file left))

def makeDirectory (disk : Disk) (path : Text) : Except FileError Disk := do
  match ← disk.locate path with
  | (_, none) => .error .alreadyExists
  | (here, some name) =>
    match ← disk.child here name with
    | (_, some _) => .error .alreadyExists
    | (there, none) => (disk.permit there).map (disk.put · .directory)

def isDirectory (disk : Disk) (path : Text) : Bool :=
  match disk.find path with
  | .ok (_, .directory) => true
  | _ => false

def regularFiles (disk : Disk) (path : Text) : List Text :=
  match disk.find path with
  | .ok (here, .directory) => disk.entries.filterMap fun
    | (location, .file _) => if location.dropLast = here then location.getLast? else none
    | (_, .directory) => none
  | _ => []

end Disk

abbrev OnDisk := StateM Disk

namespace OnDisk

def change (operation : Disk → Except FileError Disk) : OnDisk (Except FileError PUnit) := do
  match operation (← get) with
  | .ok disk =>
    set disk
    return .ok ⟨⟩
  | .error error => return .error error

instance : Host OnDisk where
  read path := return (← get).read path
  write path content := modifyGet (·.write path content)
  makeDirectory path := change (·.makeDirectory path)
  isDirectory path := return (← get).isDirectory path
  regularFiles path := return (← get).regularFiles path
  workingDirectory := return '/' :: List.intercalate ['/'] (← get).workingDirectory
  note _ := pure ⟨⟩

end OnDisk
end ScriptSplit
