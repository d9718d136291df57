import ScriptSplit.Command.Run

namespace ScriptSplit

abbrev Machine := ReaderT Log.Level IO

namespace Machine

/-- A system's number for an error. Some come with a minus sign, as a word. -/
def errorNumber (code : UInt32) : Nat := (if code < 0x80000000 then code else 0 - code).toNat

def fileError : IO.Error → FileError
  | .alreadyExists _ code details | .invalidArgument _ code details | .permissionDenied _ code details
  | .resourceExhausted _ code details | .inappropriateType _ code details | .noSuchThing _ code details
  | .interrupted _ code details | .noFileOrDirectory _ code details | .otherError code details
  | .resourceBusy code details | .resourceVanished code details | .unsupportedOperation code details
  | .hardwareFault code details | .unsatisfiedConstraints code details | .illegalOperation code details
  | .protocolError code details | .timeExpired code details => .ofCode (errorNumber code) details
  | .unexpectedEof => .other "unexpected end of file" 0
  | .userError message => .other message 0

def attempt {α : Type} (path : Text) (operation : String → IO α) : Machine (Except FileError α) := do
  if path.elem '\x00' then return .error .nulInName
  else
    match ← (operation (String.ofList path)).toBaseIO with
    | .ok value => return .ok value
    | .error error => return .error (fileError error)

def filesIn (path : String) : IO (List Text) := do
  let entries ← ((← IO.currentDir) / path).readDir
  let files ← entries.toList.filterM fun entry => do
    return (← entry.path.symlinkMetadata).type == .file
  return files.map fun entry => entry.fileName.toList

instance : Host Machine where
  read path := attempt path fun path => IO.FS.readBinFile path
  write path content := attempt path fun path => IO.FS.writeBinFile path content
  makeDirectory path := attempt path fun path => IO.FS.createDir path
  isDirectory path := do
    let found ← attempt path fun path => do return ← ((← IO.currentDir) / path).isDir
    return found.toOption.getD false
  regularFiles path := do
    let found ← attempt path filesIn
    return found.toOption.getD []
  workingDirectory := do
    return (← IO.currentDir).toString.toList
  note entry := do
    if (← read).rank ≤ entry.level.rank then IO.eprintln (String.ofList entry.line)

def say (text : Text) : IO PUnit := do
  let output ← IO.getStdout
  output.putStr (String.ofList text)
  output.flush

partial def readLine (input : IO.FS.Stream) (line : ByteArray) : IO (Option ByteArray) := do
  let next ← input.read 1
  if next.isEmpty then return if line.isEmpty then none else some line
  else if next.toList = [10] then return some line
  else readLine input (line ++ next)

partial def converse (session : Session) (stage : Session.Stage) : Machine Command.Result := do
  match stage with
  | .closed => return { exitCode := 0 }
  | _ =>
    match ← readLine (← IO.getStdin) .empty with
    | none => next none
    | some line =>
      match Text.ofBytes? line with
      | none => return .ofSession ([], some .notUtf8)
      | some line => next (some line)
where
  next (answer : Option Text) : Machine Command.Result := do
    let (text, stage) ← session.reply stage answer
    say text
    converse session stage

def runCommand (invocation : Command.Invocation) (colour : Bool) : Machine Command.Result := do
  match invocation.task with
  | .interactive outputDir =>
    let session : Session := { baseDir := invocation.baseDir, outputDir, colour }
    let (text, stage) := session.greeting
    say text
    converse session stage
  | _ => Command.runTask invocation colour .empty

def start (arguments : List String) : IO UInt32 := do
  match Command.Invocation.parse? (arguments.map String.toList) with
  | none =>
    IO.eprintln "usage: refucktor [interactive | list FILE | split FILE --dest LABEL --assign LABEL=INDICES]"
    return 2
  | some invocation =>
    let terminal ← (← IO.getStdout).isTty
    let colour := terminal && !invocation.noColour && (← IO.getEnv "NO_COLOR").isNone
    let result ← (runCommand invocation colour).run invocation.level
    say result.output
    IO.eprint (String.ofList result.errors)
    return UInt32.ofNat result.exitCode

end Machine
end ScriptSplit

def main (arguments : List String) : IO UInt32 := ScriptSplit.Machine.start arguments
