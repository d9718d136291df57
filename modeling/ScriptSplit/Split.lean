import ScriptSplit.Assignment
import ScriptSplit.Config
import ScriptSplit.Report

namespace ScriptSplit

inductive SplitError where
  | sourceNotFound (path : Text) (nearby : List Text)
  | noElements (path : Text)
  | io (error : FileError)
  | config (error : ConfigError)
  deriving DecidableEq, Repr

namespace SplitError

def message : SplitError → Text
  | sourceNotFound path _ => "File '" ++ path ++ "' not found"
  | noElements path => "No code elements found in '" ++ path ++ ['\'']
  | io error => "IO error: " ++ error.message
  | config error => "Config error: " ++ error.message

def causes : SplitError → List Text
  | sourceNotFound _ _ | noElements _ => []
  | io error => [error.message]
  | config error => error.message :: error.causes

def hint : SplitError → Text
  | sourceNotFound _ (path :: paths) =>
    Text.line "JavaScript files next to it:" ++ (path :: paths).flatMap fun path => Text.line ("  - " ++ path)
  | _ => []

end SplitError

variable {m : Type → Type} [Monad m] [Host m]

def nearbyScripts (path : Text) : m (List Text) := do
  let dir := match Path.parent? path with
    | some (c :: rest) => c :: rest
    | _ => ['.']
  let scripts := (← Host.regularFiles dir).filter fun name => Path.extension? name == some "js".toList
  return (scripts.mergeSort Text.precedes).map (Path.join dir)

def scanFile (path : Text) : m (Except SplitError Outline) := do
  match ← Host.readText path with
  | .error .notFound => return .error (.sourceNotFound path (← nearbyScripts path))
  | .error error => return .error (.io error)
  | .ok source =>
    Host.notes (Scanner.log {} source.lines)
    return .ok (Outline.ofSource path source)

namespace Split

inductive Outcome where
  | empty (label : Text)
  | written (file : WrittenFile)
  | failed (failure : WriteFailure)
  deriving DecidableEq, Repr

namespace Outcome

def file? : Outcome → Option WrittenFile
  | written file => some file
  | _ => none

def warning? : Outcome → Option Warning
  | empty label => some (.emptyDestination label)
  | _ => none

def failure? : Outcome → Option WriteFailure
  | failed failure => some failure
  | _ => none

end Outcome

def plannedFile (config : Config) (group : Group) (content : Text) : WrittenFile :=
  { label := group.label
    path := config.filePath group.label
    bytes := content.size
    elementCount := group.elements.length
    written := !config.dryRun }

def settle (config : Config) (group : Group) : m Outcome := do
  match group.text? with
  | none =>
    Host.note ⟨.warn, "no content assigned", [("destination", group.label)]⟩
    return .empty group.label
  | some content =>
    let file := plannedFile config group content
    if config.dryRun then return .written file
    else
      match ← Host.write file.path content.bytes with
      | .ok _ =>
        Host.note ⟨.info, "created", [("destination", group.label), ("path", file.path)]⟩
        return .written file
      | .error error =>
        Host.note ⟨.warn, "error writing destination",
          [("destination", group.label), ("error", error.message)]⟩
        return .failed ⟨group.label, file.path, error.message⟩

def settleAll (config : Config) : List Group → m (List Outcome)
  | [] => return []
  | group :: rest => do
    let outcome ← settle config group
    return outcome :: (← settleAll config rest)

def prepare (config : Config) : m PUnit := do
  if !config.dryRun then
    match ← Host.makeDirectories config.outputPath with
    | .ok _ => return ⟨⟩
    | .error error =>
      Host.note ⟨.warn, "could not create output directory",
        [("dir", config.outputPath), ("error", error.message)]⟩

def report (config : Config) (outline : Outline) (assignment : Assignment) (outcomes : List Outcome) : Report :=
  { source := outline.path
    defaultDestination := config.defaultDestination?.getD []
    stats := outline.stats
    files := outcomes.filterMap Outcome.file?
    warnings := assignment.warnings ++ outcomes.filterMap Outcome.warning?
    issues := assignment.issues
    failures := outcomes.filterMap Outcome.failure? }

def runWith (config : Config) (outline : Outline) : m (Except SplitError Report) := do
  match config.invalid? with
  | some error => return .error (.config error)
  | none =>
    if outline.elements.isEmpty then return .error (.noElements outline.path)
    else
      let selections := config.parsedSelections
      Host.notes (Assignment.log outline.elements config.destinations selections)
      let assignment := assign outline.elements config.destinations selections
      prepare config
      let outcomes ← settleAll config assignment.groups
      return .ok (report config outline assignment outcomes)

def run (config : Config) : m (Except SplitError Report) := do
  match config.invalid? with
  | some error => return .error (.config error)
  | none =>
    match ← scanFile config.sourcePath with
    | .error error => return .error error
    | .ok outline => runWith config outline

end Split
end ScriptSplit
