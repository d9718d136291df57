import ScriptSplit.Assignment
import ScriptSplit.Host

namespace ScriptSplit

inductive ConfigError where
  | io (error : FileError)
  | toml
  | json
  | yaml
  | unsupportedPlan (extension : Text)
  | noDestinations
  | emptyLabel
  deriving DecidableEq, Repr

namespace ConfigError

def malformed : Text := "malformed plan"

def message : ConfigError → Text
  | io error => "IO error: " ++ error.message
  | toml => "Failed to parse TOML plan: " ++ malformed
  | json => "Failed to parse JSON plan: " ++ malformed
  | yaml => "Failed to parse YAML plan: " ++ malformed
  | unsupportedPlan extension => "Unsupported plan file extension: " ++ extension
  | noDestinations => "No destination files specified"
  | emptyLabel => "Destination label must not be empty"

def causes : ConfigError → List Text
  | io error => [error.message]
  | toml | json | yaml => [malformed]
  | unsupportedPlan _ | noDestinations | emptyLabel => []

end ConfigError

structure Config where
  source : Text := []
  baseDir : Text := "."
  outputDir : Option Text := none
  destinations : List Text := []
  selections : List (Text × Text) := []
  dryRun : Bool := false
  deriving DecidableEq, Repr

namespace Config

def invalid? (config : Config) : Option ConfigError :=
  if config.destinations.isEmpty then some .noDestinations
  else if config.destinations.any fun label => label.trim.isEmpty then some .emptyLabel
  else none

def defaultDestination? (config : Config) : Option Text := config.destinations.head?

def sourcePath (config : Config) : Text := Path.join config.baseDir config.source

def outputPath (config : Config) : Text :=
  match config.outputDir with
  | some dir => Path.join config.baseDir dir
  | none => config.baseDir

def filePath (config : Config) (label : Text) : Text := Path.join config.outputPath label

def select (config : Config) (label raw : Text) : Config :=
  { config with selections := config.selections ++ [(label, raw)] }

def parsedSelections (config : Config) : Selections := Selections.parse config.selections

end Config

/-! ## Plans -/

structure PlanEntry where
  label : Text
  select : Text := []
  deriving DecidableEq, Repr

structure Plan where
  source : Text
  outputDir : Option Text := none
  default : Text
  entries : List PlanEntry := []
  deriving DecidableEq, Repr

def Plan.entriesKey : List Text := ["destination", "destinations"]

def Plan.config (plan : Plan) (baseDir : Text) : Config :=
  { source := plan.source
    baseDir
    outputDir := plan.outputDir
    destinations := plan.default :: plan.entries.map PlanEntry.label
    selections := (plan.entries.filter fun entry => !entry.select.trim.isEmpty).map
      fun entry => (entry.label, entry.select) }

end ScriptSplit
