import ScriptSplit.Command.Arguments
import ScriptSplit.Plan
import ScriptSplit.Session
import ScriptSplit.Split

namespace ScriptSplit.Command

structure Failure where
  hint : Text := []
  message : Text
  causes : List Text := []
  deriving DecidableEq, Repr

namespace Failure

def ofSplitError (error : SplitError) : Failure := ⟨error.hint, error.message, error.causes⟩

def indented (indent : Nat) (text : Text) : Text :=
  text.flatMap fun c => if c = '\n' then '\n' :: List.replicate indent ' ' else [c]

def inFive (n : Nat) : Text := (Text.numeral n).leftpad 5 ' '

def causeHeading : Text := "\n\nCaused by:"

def numberedCause (cause : Text) (number : Nat) : Text := '\n' :: inFive number ++ ": " ++ indented 7 cause

def causeList : List Text → Text
  | [] => []
  | [cause] => causeHeading ++ "\n    " ++ indented 4 cause
  | causes => causeHeading ++ causes.zipIdx.flatMap fun (cause, number) => numberedCause cause number

def text (failure : Failure) : Text :=
  failure.hint ++ Text.line ("Error: " ++ failure.message ++ causeList failure.causes)

end Failure

/-! ## Running commands -/

def assignment? (entry : Text) : Except Failure (Text × Text) :=
  match entry.cut "=" with
  | some (label, indices) => .ok (label.trim, indices.trim)
  | none => .error { message := "invalid --assign '" ++ entry ++ "', expected LABEL=INDICES" }

def configOfOptions (baseDir : Text) (request : SplitRequest) : Except Failure Config :=
  match request.source with
  | none => .error { message := "a source file is required without --plan" }
  | some source =>
    if request.destinations.isEmpty then .error { message := "at least one --dest is required" }
    else do
      let selections ← request.assignments.mapM assignment?
      return { source, baseDir, destinations := request.destinations, selections }

/-- The configuration that a plan describes. Its paths start where the plan is; a script that is named beside
it starts at the base directory, and there at the working directory. -/
def configOfPlan (baseDir workingDirectory planPath : Text) (source : Option Text) (plan : Plan) : Config :=
  let plan := match source with
    | none => plan
    | some source => { plan with source := Path.join workingDirectory (Path.join baseDir source) }
  match Path.parent? planPath with
  | some (c :: rest) => plan.config (c :: rest)
  | _ => plan.config baseDir

variable {m : Type → Type} [Monad m] [Host m]

def configFor (baseDir : Text) (request : SplitRequest) : m (Except Failure Config) := do
  match request.plan with
  | none => return configOfOptions baseDir request
  | some plan =>
    let path := Path.join baseDir plan
    match ← Plan.load path with
    | .error error =>
      return .error {
        message := "failed to load plan " ++ path
        causes := error.message :: error.causes }
    | .ok plan => return .ok (configOfPlan baseDir (← Host.workingDirectory) path request.source plan)

def override (request : SplitRequest) (config : Config) : Config :=
  { config with outputDir := request.outputDir <|> config.outputDir, dryRun := request.dryRun }

def runList (baseDir file : Text) (format : OutputFormat) : m (Except Failure Text) := do
  match ← scanFile (Path.join baseDir file) with
  | .error error => return .error (.ofSplitError error)
  | .ok outline => return .ok (Text.line (outline.show format))

def lineStyle? (line : Text) : Option Style :=
  if "Error".toList.isPrefixOf line then some .red
  else if "Warning".toList.isPrefixOf line || "Element".toList.isPrefixOf line then some .yellow
  else if "Created".toList.isPrefixOf line then some .green
  else none

def shownSummary (colour : Bool) (report : Report) : Text :=
  (report.summary.bareLines.flatMap fun line =>
    Text.line ((lineStyle? line).elim line (·.paint colour line))) ++
  (if report.isClean && !report.files.isEmpty then Text.line (Style.boldGreen.paint colour "Refucked!") else [])

def runSplit (baseDir : Text) (colour : Bool) (request : SplitRequest) : m (Except Failure Text) := do
  match ← configFor baseDir request with
  | .error failure => return .error failure
  | .ok config =>
    match ← Split.run (override request config) with
    | .error error => return .error (.ofSplitError error)
    | .ok report =>
      if request.format = .summary then return .ok (shownSummary colour report)
      else return .ok (Text.line (report.show request.format))

def versionLine : Text := Text.line "refucktor 0.1.0"

structure Result where
  exitCode : Nat
  output : Text := []
  errors : Text := []
  deriving DecidableEq, Repr

namespace Result

def ofTask : Except Failure Text → Result
  | .ok output => { exitCode := 0, output }
  | .error failure => { exitCode := 1, errors := failure.text }

def ofSession : Text × Option FileError → Result
  | (output, none) => { exitCode := 0, output }
  | (output, some error) => { exitCode := 1, output, errors := Failure.text { message := error.message } }

end Result

def runTask (invocation : Invocation) (colour : Bool) (input : ByteArray) : m Result :=
  match invocation.task with
  | .version => return { exitCode := 0, output := versionLine }
  | .interactive outputDir => do
    let session : Session := { baseDir := invocation.baseDir, outputDir, colour }
    return .ofSession (← session.run input)
  | .list file format => return .ofTask (← runList invocation.baseDir file format)
  | .split request => return .ofTask (← runSplit invocation.baseDir colour request)

def Invocation.level (invocation : Invocation) : Log.Level := if invocation.verbose then .debug else .warn

def run (words : List Text) (input : ByteArray) : m Result :=
  match Invocation.parse? words with
  | none => return { exitCode := 2 }
  | some invocation => do
    let (result, entries) ← (runTask (m := Host.Noting m) invocation false input).run []
    let shown := (Log.atLeast invocation.level entries).flatMap fun entry => Text.line entry.line
    return { result with errors := shown ++ result.errors }

end ScriptSplit.Command
