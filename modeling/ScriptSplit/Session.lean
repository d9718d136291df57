import ScriptSplit.Report
import ScriptSplit.Split
import ScriptSplit.Text.Basic

namespace ScriptSplit

inductive Style where
  | bold
  | red
  | green
  | yellow
  | cyan
  | boldRed
  | boldGreen
  deriving DecidableEq, Repr

namespace Style

def parameters : Style → Text
  | bold => "1"
  | red => "31"
  | green => "32"
  | yellow => "33"
  | cyan => "36"
  | boldRed => "1;31"
  | boldGreen => "1;32"

def opening (style : Style) : Text := "\x1b[" ++ style.parameters ++ ['m']

def reset : Text := "\x1b[0m"

def renew (style : Style) (behind : Text) : Text → Text
  | [] => []
  | c :: rest =>
    let behind := (c :: behind).take reset.length
    c :: (if behind = reset.reverse then style.opening else []) ++ style.renew behind rest

def paint (style : Style) (colour : Bool) (text : Text) : Text :=
  if colour then style.opening ++ style.renew [] text ++ reset else text

end Style

/-! ## Sessions -/

structure Session where
  baseDir : Text := "."
  outputDir : Option Text := none
  colour : Bool := false
  deriving DecidableEq, Repr

namespace Session

inductive Stage where
  | menu
  | source
  | destinations (config : Config) (outline : Outline)
  | selection (config : Config) (outline : Outline) (label : Text) (later : List Text)
  | closed
  deriving DecidableEq, Repr

def menu (session : Session) : Text :=
  Text.line (Style.bold.paint session.colour "Ready for Refucktor") ++
  Text.line "1. Split js file into multiple files" ++ Text.line "X. Exit" ++ "Enter your choice: "

def farewell (session : Session) : Text := Text.line (Style.boldGreen.paint session.colour "Refucked!")

def remark (session : Session) (text : Text) : Text := Text.line (Style.yellow.paint session.colour text)

def destinationQuestion : Text := "Destination file: "

def destinationHeading : Text :=
  Text.line [] ++ Text.line "Enter destination files (one per line, empty line to finish):" ++
  Text.line ("The first file you enter will be the DEFAULT file. Any function/class not assigned to another " ++
    "file will go there.")

def found (session : Session) (outline : Outline) : Text :=
  Text.line [] ++
  Text.line ("Found " ++ Style.bold.paint session.colour (Text.numeral outline.stats.movable) ++
    " functions/classes:") ++
  outline.movableList

def selectionHeading (session : Session) (default : Text) : Text :=
  Text.line [] ++ Text.line "Assign functions/classes to destination files:" ++
  Text.line ("Any function/class not assigned to another file will go to the default file: " ++
    Style.cyan.paint session.colour default ++ ['.'])

def selectionQuestion (label : Text) : Text :=
  Text.line [] ++ "Which functions/classes should be moved to '" ++ label ++
    "'? Enter numbers (e.g., 2, 4, 7) or press Enter to skip: "

def complaint (session : Session) (error : SplitError) : Text :=
  Text.line (Style.boldRed.paint session.colour "Error:" ++ ' ' :: error.message) ++ error.hint

def greeting (session : Session) : Text × Stage := (session.menu, .menu)

def backToMenu (session : Session) (text : Text) : Text × Stage := (text ++ session.menu, .menu)

def close (session : Session) : Text × Stage := (session.farewell, .closed)

def configFor (session : Session) (source : Text) : Config :=
  { source, baseDir := session.baseDir, outputDir := session.outputDir }

variable {m : Type → Type} [Monad m] [Host m]

def replyMenu (session : Session) (answer : Option Text) : Text × Stage :=
  match answer with
  | none | some ['x'] | some ['X'] => session.close
  | some ['1'] =>
    (Text.line "Splitting js file into multiple files" ++ "Enter the source JavaScript file path: ", .source)
  | some _ => session.backToMenu (session.remark "Invalid choice")

def replySource (session : Session) (source : Text) : m (Text × Stage) := do
  if source.isEmpty then return session.backToMenu (session.remark "No source file given")
  else
    let config := session.configFor source
    match ← scanFile config.sourcePath with
    | .error error => return session.backToMenu (session.complaint error)
    | .ok outline =>
      if outline.elements.isEmpty then
        return session.backToMenu (session.remark "No code elements found in the file")
      else
        return (session.found outline ++ destinationHeading ++ destinationQuestion, .destinations config outline)

def generate (session : Session) (config : Config) (outline : Outline) : m (Text × Stage) := do
  let result ← Split.runWith config outline
  let told := match result with
    | .ok report => report.summary
    | .error error => session.complaint error
  return session.backToMenu (Text.line [] ++ Text.line "Generating output files..." ++ told)

def nextSelection (session : Session) (config : Config) (outline : Outline) : List Text → m (Text × Stage)
  | [] => session.generate config outline
  | label :: later => return (selectionQuestion label, .selection config outline label later)

def replyDestination (session : Session) (config : Config) (outline : Outline) (label : Text) :
    m (Text × Stage) := do
  if label.isEmpty then
    match config.destinations with
    | [] => return session.backToMenu (session.remark "No destination files specified")
    | default :: _ =>
      let (text, stage) ← session.nextSelection config outline (Assignment.others config.destinations)
      return (session.selectionHeading default ++ text, stage)
  else
    let config := { config with destinations := config.destinations ++ [label] }
    return (destinationQuestion, .destinations config outline)

def reply (session : Session) (stage : Stage) (answer : Option Text) : m (Text × Stage) :=
  let line := (answer.getD []).trim
  match stage with
  | .menu => return session.replyMenu (answer.map Text.trim)
  | .source => session.replySource line
  | .destinations config outline => session.replyDestination config outline line
  | .selection config outline label later =>
    session.nextSelection (if line.isEmpty then config else config.select label line) outline later
  | .closed => return ([], .closed)

end Session
end ScriptSplit

/-! ## Scripted sessions -/

namespace ScriptSplit.Session

variable {m : Type → Type} [Monad m] [Host m]

def byteLines : List UInt8 → List (List UInt8)
  | [] => []
  | byte :: rest =>
    if byte = 10 then [] :: byteLines rest
    else match byteLines rest with
      | [] => [[byte]]
      | line :: later => (byte :: line) :: later

def answers (script : ByteArray) : List (Option Text) :=
  (byteLines script.toList).map fun line => Text.ofBytes? ⟨line.toArray⟩

def Stage.remaining : Stage → Nat
  | .menu => 1
  | .source => 2
  | .destinations config _ => (Assignment.others config.destinations).length + 2
  | .selection _ _ _ later => later.length + 2
  | .closed => 0

def drain (session : Session) (stage : Stage) : Nat → m Text
  | 0 => return []
  | count + 1 => do
    let (text, stage) ← session.reply stage none
    return text ++ (← session.drain stage count)

def follow (session : Session) (stage : Stage) : List (Option Text) → m (Text × Option FileError)
  | [] => do
    let text ← session.drain stage stage.remaining
    return (text, none)
  | answer :: rest =>
    match stage, answer with
    | .closed, _ => return ([], none)
    | _, none => return ([], some .notUtf8)
    | stage, some line => do
      let (text, stage) ← session.reply stage (some line)
      let (later, error?) ← session.follow stage rest
      return (text ++ later, error?)

def run (session : Session) (script : ByteArray) : m (Text × Option FileError) := do
  let (text, stage) := session.greeting
  let (later, error?) ← session.follow stage (answers script)
  return (text ++ later, error?)

end ScriptSplit.Session
