import ScriptSplit.Text.Basic

/-!
# Hosts

A host is where a split runs: it has files, which are named by paths, and it takes diagnostics. Its working
directory is always known. Everything that reads or writes is written for any host. Paths are joined and taken
apart as texts: nothing is normalised and no file is looked at.
-/
namespace ScriptSplit.Path

def isAbsolute (path : Text) : Bool := path.head? == some '/'

def join (base path : Text) : Text :=
  if isAbsolute path || base.isEmpty then path
  else if base.getLast? == some '/' then base ++ path
  else base ++ '/' :: path

def isIdle (piece : Text) : Bool := piece.isEmpty || piece == ['.']

/-- The length of the start of a path that is no piece of its own: a leading slash, or a leading dot that
stands alone. -/
def headLength : Text → Nat
  | '/' :: _ => 1
  | ['.'] => 1
  | '.' :: '/' :: _ => 1
  | _ => 0

def piecesFromEnd (path : Text) : List Text :=
  ((path.drop (headLength path)).splitOn '/').reverse.dropWhile isIdle

def parent? (path : Text) : Option Text :=
  match piecesFromEnd path with
  | _ :: pieces =>
    some (path.take (headLength path) ++ List.intercalate ['/'] (pieces.dropWhile isIdle).reverse)
  | [] => if path.head? == some '.' then some [] else none

def fileName? (path : Text) : Option Text :=
  (piecesFromEnd path).head?.bind fun name => if name == ['.', '.'] then none else some name

def extension? (path : Text) : Option Text :=
  (fileName? path).bind fun name =>
    match (name.reverse.dropWhile (· ≠ '.')).drop 1 with
    | [] => none
    | _ :: _ => some (name.reverse.takeWhile (· ≠ '.')).reverse

end ScriptSplit.Path

/-! ## Diagnostics -/

namespace ScriptSplit.Log

inductive Level where
  | debug
  | info
  | warn
  deriving DecidableEq, Repr

namespace Level

def rank : Level → Nat
  | debug => 0
  | info => 1
  | warn => 2

def word : Level → Text
  | debug => "DEBUG"
  | info => "INFO"
  | warn => "WARN"

end Level

structure Entry where
  level : Level
  message : Text
  fields : List (Text × Text) := []
  deriving DecidableEq, Repr

def Entry.line (entry : Entry) : Text :=
  entry.level.word ++ ' ' :: entry.message ++ entry.fields.flatMap fun (key, value) => ' ' :: key ++ '=' :: value

def atLeast (level : Level) (entries : List Entry) : List Entry :=
  entries.filter fun entry => level.rank ≤ entry.level.rank

end ScriptSplit.Log

/-! ## Hosts -/

namespace ScriptSplit

inductive FileError where
  | notFound
  | alreadyExists
  | notDirectory
  | isDirectory
  | nameTooLong
  | notUtf8
  | nulInName
  | other (wording : Text) (code : Nat)
  deriving DecidableEq, Repr

namespace FileError

def system (wording : Text) (code : Nat) : Text := wording ++ " (os error " ++ Text.numeral code ++ [')']

def message : FileError → Text
  | notFound => system "No such file or directory" 2
  | alreadyExists => system "File exists" 17
  | notDirectory => system "Not a directory" 20
  | isDirectory => system "Is a directory" 21
  | nameTooLong => system "File name too long" 36
  | notUtf8 => "stream did not contain valid UTF-8"
  | nulInName => "file name contained an unexpected NUL byte"
  | other wording code => system wording code

def ofCode (code : Nat) (wording : Text) : FileError :=
  match code with
  | 2 => notFound
  | 17 => alreadyExists
  | 20 => notDirectory
  | 21 => isDirectory
  | 36 => nameTooLong
  | code => other wording code

end FileError

class Host (m : Type → Type) where
  read : Text → m (Except FileError ByteArray)
  write : Text → ByteArray → m (Except FileError PUnit)
  makeDirectory : Text → m (Except FileError PUnit)
  isDirectory : Text → m Bool
  regularFiles : Text → m (List Text)
  workingDirectory : m Text
  note : Log.Entry → m PUnit

namespace Text

def bytes (text : Text) : ByteArray := (String.ofList text).toUTF8

def ofBytes? (bytes : ByteArray) : Option Text := (String.fromUTF8? bytes).map String.toList

def size (text : Text) : Nat := text.bytes.size

end Text

namespace Host

variable {m : Type → Type} [Monad m] [Host m]

def notes : List Log.Entry → m PUnit
  | [] => pure ⟨⟩
  | entry :: rest => do
    note entry
    notes rest

def readText (path : Text) : m (Except FileError Text) := do
  match ← read path with
  | .error error => return .error error
  | .ok bytes => return (Text.ofBytes? bytes).elim (.error .notUtf8) .ok

def acceptExisting (path : Text) (error : FileError) : m (Except FileError PUnit) := do
  if ← isDirectory (m := m) path then return .ok ⟨⟩ else return .error error

def makeDirectoriesWithin (fuel : Nat) (path : Text) : m (Except FileError PUnit) :=
  match fuel with
  | 0 => return .ok ⟨⟩
  | fuel + 1 =>
    if path.isEmpty then return .ok ⟨⟩
    else do
      match ← makeDirectory path with
      | .ok _ => return .ok ⟨⟩
      | .error .notFound =>
        match Path.parent? path with
        | none => return .error .notFound
        | some parent =>
          match ← makeDirectoriesWithin fuel parent with
          | .error error => return .error error
          | .ok _ =>
            match ← makeDirectory path with
            | .ok _ => return .ok ⟨⟩
            | .error error => acceptExisting path error
      | .error error => acceptExisting path error

def makeDirectories (path : Text) : m (Except FileError PUnit) :=
  makeDirectoriesWithin (path.length + 1) path

abbrev Noting (m : Type → Type) := StateT (List Log.Entry) m

instance : Host (Noting m) where
  read path := StateT.lift (read path)
  write path content := StateT.lift (write path content)
  makeDirectory path := StateT.lift (makeDirectory path)
  isDirectory path := StateT.lift (isDirectory path)
  regularFiles path := StateT.lift (regularFiles path)
  workingDirectory := StateT.lift workingDirectory
  note entry := modify (· ++ [entry])

end Host
end ScriptSplit
